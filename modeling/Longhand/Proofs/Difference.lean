import Longhand.Proofs.Checked

/-!
Subtraction is exact and fails for a larger subtrahend only (`subtract_exact`). A subtraction of
texts that makes every check comes to the difference of numerals for operands of any type
(`Checked.subtract_eq`), so no check of a column or a borrow ever fails in it.
-/

namespace Longhand

namespace Checked

/-- Subtracts characters given least significant digit first; an exhausted subtrahend counts as
zeros. Gives the borrow that is left over and the finished columns, which are kept in `acc`. -/
def subtractColumns (s : DigitStrategy) :
    List Char → List Char → Bool → List Char → Except Error (Bool × List Char)
  | [], _, borrow, acc => .ok (borrow, acc)
  | x :: xs, ys, borrow, acc => do
    let y := ys.headD '0'
    let c ← subtractColumn s (.str (.singleton x)) (.str (.singleton y)) (.int borrow.toNat)
    subtractColumns s xs ys.tail c.carry (c.digit.toChar :: acc)

/-- The difference of two texts without leading zeros. It is refused for a longer subtrahend
before the first column and for a borrow left over after the last one. -/
def difference (s : DigitStrategy) (a b : String) : Except Error String :=
  if a.length < b.length then .error (.engine (.negativeResult a b))
  else do
    let (borrow, digits) ← subtractColumns s a.toList.reverse b.toList.reverse false []
    if borrow then .error (.engine (.negativeResult a b))
    else return DigitText.strip (String.ofList digits)

def subtract (settings : Settings) (a b : Value) : Except Error String := do
  difference settings.digits (← operand a) (← operand b)

/-- On digits every column passes its checks, and the columns are those of the digits, one for each
digit of the minuend. -/
theorem subtractColumns_digits (s : DigitStrategy) (xs ys : List Digit) (borrow : Bool)
    (acc : List Digit) :
    ∃ left digits,
      subtractColumns s (xs.map Digit.toChar) (ys.map Digit.toChar) borrow (acc.map Digit.toChar)
        = .ok (left, digits.map Digit.toChar) ∧
      digits.length = acc.length + xs.length ∧
      Digits.subtractFrom s xs ys borrow acc = if left then none else some digits := by
  induction xs generalizing ys borrow acc with
  | nil => exact ⟨borrow, acc, rfl, rfl, by rw [Digits.subtractFrom]⟩
  | cons x xs ih =>
    obtain ⟨left, digits, hrun, hlen, hdigits⟩ :=
      ih ys.tail (s.subtract x (ys.headD .zero) borrow).carry
        ((s.subtract x (ys.headD .zero) borrow).digit :: acc)
    refine ⟨left, digits, ?_, ?_, ?_⟩
    · rw [List.map_cons, subtractColumns, Digits.headD_map_toChar, ← List.map_tail,
        subtractColumn_digits]
      exact hrun
    · rw [hlen, List.length_cons, List.length_cons]
      omega
    · cases ys <;> exact hdigits

theorem difference_text (s : DigitStrategy) (a b : Numeral) :
    difference s a.text b.text = (a.subtract s b).map Numeral.text := by
  rw [difference, Numeral.subtract, Numeral.subtract?, Numeral.length_text, Numeral.length_text]
  split
  · rfl
  · obtain ⟨left, digits, hrun, hlen, hdigits⟩ :=
      subtractColumns_digits s a.digits.reverse b.digits.reverse false []
    rw [List.map_reverse, List.map_reverse, ← Digits.toList_text, ← Digits.toList_text,
      List.map_nil] at hrun
    have hne : digits ≠ [] := by
      have hpos := List.length_pos_iff.2 a.normal.1
      rw [List.length_reverse] at hlen
      rintro rfl
      simp only [List.length_nil] at hlen
      omega
    simp only [Numeral.text, hrun, hdigits]
    cases left with
    | true => rfl
    | false => exact congrArg Except.ok (DigitText.strip_text hne)

/-- The checks of a subtraction fail on its operands or not at all. -/
theorem subtract_eq (settings : Settings) (a b : Value) :
    subtract settings a b = (Arithmetic.subtract settings a b).map Numeral.text := by
  rw [subtract, operands_eq (difference_text settings.digits), Arithmetic.subtract, map_bind]

/-- A subtraction of numerals reads them as they are. -/
theorem subtract_text (settings : Settings) (a b : Numeral) :
    subtract settings (.str a.text) (.str b.text)
      = (a.subtract settings.digits b).map Numeral.text := by
  rw [subtract, operand_text, operand_text]
  exact difference_text settings.digits a b

end Checked

namespace Numeral

theorem subtract_eq (s : DigitStrategy) (a b : Numeral) :
    a.subtract s b = if b.value ≤ a.value then .ok (ofNat (a.value - b.value))
      else .error (.engine (.negativeResult a.text b.text)) := by
  split
  · rename_i h
    rw [subtract, subtract?_of_le s h]
  · rename_i h
    rw [subtract, subtract?_eq_none_iff.2 (Nat.lt_of_not_le h)]

variable {s : DigitStrategy} {a b : Numeral}

/-- A subtraction is refused exactly if the subtrahend is the larger number. -/
theorem fails_subtract_iff :
    Fails (a.subtract s b) .negativeResult
      ("Cannot subtract " ++ b.text ++ " from smaller number " ++ a.text) ↔ a.value < b.value := by
  rw [subtract_eq]
  split
  · rename_i hle
    refine iff_of_false (fun h => ?_) (Nat.not_lt_of_le hle)
    obtain ⟨e, herror, -⟩ := h
    cases herror
  · rename_i hlt
    exact iff_of_true (fails_engine (.negativeResult a.text b.text)) (Nat.lt_of_not_le hlt)

/-- Nothing is left exactly if both numbers are equal. -/
theorem subtract_text_eq_zero_iff : (a.subtract s b).map text = .ok "0" ↔ a.value = b.value := by
  rw [subtract_eq]
  split
  · rename_i hle
    rw [Except.map, Except.ok.injEq, text_eq_zero_iff, ← ofNat_zero]
    constructor
    · intro h
      have hvalue := congrArg value h
      rw [value_ofNat, value_ofNat] at hvalue
      omega
    · intro h
      rw [h, Nat.sub_self]
  · rename_i hlt
    exact iff_of_false (fun h => by cases h) (fun h => hlt (Nat.le_of_eq h.symm))

end Numeral

namespace Arithmetic

open DigitText (IsValid value strip)

/-- The difference of two digit strings is the decimal text of the difference of their numbers. If
the second number is larger the subtraction fails, and the failure names both operands without
their leading zeros. With every check made in every call and every column the outcome is the
same. -/
theorem subtract_exact (settings : Settings) {a b : String} (ha : IsValid a) (hb : IsValid b) :
    (value b ≤ value a →
      (Arithmetic.subtract settings (.str a) (.str b)).map Numeral.text
        = .ok (Nat.repr (value a - value b))) ∧
    (value a < value b →
      Fails (Arithmetic.subtract settings (.str a) (.str b)) .negativeResult
        ("Cannot subtract " ++ strip b ++ " from smaller number " ++ strip a)) ∧
    Checked.subtract settings (.str a) (.str b)
      = (Arithmetic.subtract settings (.str a) (.str b)).map Numeral.text := by
  obtain ⟨m, hm, hma, hmt⟩ := ha.exists_numeral
  obtain ⟨n, hn, hnb, hnt⟩ := hb.exists_numeral
  have hrun : Arithmetic.subtract settings (.str a) (.str b) = m.subtract settings.digits n := by
    rw [Arithmetic.subtract, Arithmetic.operands, hm, hn]
    rfl
  refine ⟨fun h => ?_, fun h => ?_, Checked.subtract_eq settings _ _⟩
  · rw [← hma, ← hnb] at h ⊢
    rw [hrun, Numeral.subtract_eq, if_pos h, Except.map, Numeral.text_eq_repr, Numeral.value_ofNat]
  · rw [← hma, ← hnb] at h
    rw [hrun, Numeral.subtract_eq, if_neg (Nat.not_le_of_lt h), ← hmt, ← hnt]
    exact fails_engine (.negativeResult m.text n.text)

/-- The borrow runs through every zero, and the difference is shorter than the minuend. -/
theorem subtract_exact_borrows :
    IsValid "01000" ∧ IsValid "1" ∧ value "1" ≤ value "01000" ∧
    (Arithmetic.subtract { digits := .counting } (.str "01000") (.str "1")).map Numeral.text
      = .ok "999" ∧
    Fails (Arithmetic.subtract { digits := .counting } (.str "1") (.str "01000")) .negativeResult
      "Cannot subtract 1000 from smaller number 1" :=
  ⟨by decide, by decide, by decide,
    (subtract_exact _ (by decide) (by decide)).1 (by decide),
    (subtract_exact _ (by decide) (by decide)).2.1 (by decide)⟩

end Arithmetic

end Longhand
