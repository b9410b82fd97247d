import Longhand.Proofs.Checked

/-!
Texts without leading zeros are ordered by length and then as words (`Checked.order`). This is the
order of the numerals they spell, for operands of any type (`Checked.compare_eq`).
-/

namespace Longhand

theorem Digit.toChar_lt_iff (d e : Digit) : d.toChar < e.toChar ↔ d.val < e.val := by
  revert d e; decide

/-- Digit strings of one length are ordered as words are. -/
theorem Digits.map_toChar_lt_iff {xs ys : List Digit} (h : xs.length = ys.length) :
    xs.map Digit.toChar < ys.map Digit.toChar ↔ Digits.order xs ys = .lt := by
  induction xs generalizing ys with
  | nil =>
    have hy : ys = [] := List.eq_nil_of_length_eq_zero h.symm
    subst hy
    exact ⟨fun hlt => absurd hlt (List.lt_irrefl _), fun hlt => by cases hlt⟩
  | cons x xs ih =>
    match ys, h with
    | y :: ys, h =>
      have heq : x.toChar = y.toChar ↔ x.val = y.val :=
        ⟨fun hc => congrArg Fin.val (Digit.toChar_injective hc),
          fun hv => congrArg Digit.toChar (Fin.ext hv)⟩
      rw [List.map_cons, List.map_cons, List.cons_lt_cons_iff, Digit.toChar_lt_iff, heq,
        ih (Nat.succ.inj h), Digits.order, Ordering.then_eq_lt, Nat.compare_eq_lt,
        Nat.compare_eq_eq]

namespace Checked

/-- The order of two texts without leading zeros: the longer one is the larger, and texts of one
length are compared as words. -/
def order (a b : String) : Ordering :=
  if a.length ≠ b.length then if a.length < b.length then .lt else .gt
  else if a = b then .eq
  else if a < b then .lt
  else .gt

/-- Which operand denotes the larger number. -/
def compare (a b : Value) : Except Error Ordering := do
  return order (← operand a) (← operand b)

theorem order_text (a b : Numeral) : order a.text b.text = a.compare b := by
  rw [order, Numeral.length_text, Numeral.length_text, Numeral.compare]
  by_cases hlen : a.length = b.length
  · have hlt : a.text < b.text ↔ Digits.order a.digits b.digits = .lt := by
      rw [String.lt_iff, Numeral.text, Numeral.text, Digits.toList_text, Digits.toList_text]
      exact Digits.map_toChar_lt_iff hlen
    have heq : a.text = b.text ↔ Digits.order a.digits b.digits = .eq := by
      rw [Digits.order_eq hlen, Nat.compare_eq_eq]
      exact ⟨fun h => congrArg Numeral.value (Numeral.text_injective h),
        fun h => congrArg Numeral.text (Numeral.ext_value h)⟩
    rw [if_neg (not_not_intro hlen), hlen, Nat.compare_eq_eq.2 rfl]
    simp only [hlt, heq]
    cases Digits.order a.digits b.digits <;> rfl
  · rw [if_pos hlen]
    rcases Nat.lt_or_gt_of_ne hlen with h | h
    · rw [if_pos h, Nat.compare_eq_lt.2 h]
      rfl
    · rw [if_neg (Nat.lt_asymm h), Nat.compare_eq_gt.2 h]
      rfl

/-- The checks of a comparison fail on its operands or not at all. -/
theorem compare_eq (a b : Value) : compare a b = Arithmetic.compare a b := by
  have h : ∀ a b : Numeral,
      (.ok (order a.text b.text) : Except Error Ordering) = .ok (a.compare b) := by
    intro a b
    rw [order_text]
  exact operands_eq (f := fun a b => .ok (order a b)) h a b

/-- A comparison of numerals reads them as they are. -/
theorem compare_text (a b : Numeral) : compare (.str a.text) (.str b.text) = .ok (a.compare b) := by
  rw [compare, operand_text, operand_text]
  exact congrArg Except.ok (order_text a b)

end Checked

end Longhand
