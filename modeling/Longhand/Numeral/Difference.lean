import Longhand.Numeral.Basic

/-!
Column subtraction from the right. It succeeds exactly when the subtrahend is not the larger
number (`Numeral.subtract?_eq_none_iff`), and then denotes the difference
(`Numeral.value_subtract?`).
-/

namespace Longhand

namespace Digits

/-- Subtracts digit strings given least significant digit first, the second not longer than the
first. The finished columns are kept in `acc`; a borrow left over at the end is a failure. -/
def subtractFrom (s : DigitStrategy) :
    List Digit → List Digit → Bool → List Digit → Option (List Digit)
  | [], _, borrow, acc => if borrow then none else some acc
  | x :: xs, [], borrow, acc =>
    let c := s.subtract x .zero borrow
    subtractFrom s xs [] c.carry (c.digit :: acc)
  | x :: xs, y :: ys, borrow, acc =>
    let c := s.subtract x y borrow
    subtractFrom s xs ys c.carry (c.digit :: acc)

private theorem column_value (s : DigitStrategy) (x y : Digit) (c : Bool) (m n v : Nat)
    (acc : List Digit) :
    (v + (n + (s.subtract x y c).carry.toNat) * tenPow ((s.subtract x y c).digit :: acc).length
      = m * tenPow ((s.subtract x y c).digit :: acc).length
        + value ((s.subtract x y c).digit :: acc)) ↔
    v + (y.val + 10 * n + c.toNat) * tenPow acc.length
      = (x.val + 10 * m) * tenPow acc.length + value acc := by
  have h := DigitStrategy.subtract_value s x y c
  rw [value_cons, List.length_cons, tenPow_succ, ← Nat.mul_assoc, ← Nat.mul_assoc]
  have h2 : ((s.subtract x y c).digit.val + y.val + c.toNat) * tenPow acc.length
      = (x.val + 10 * (s.subtract x y c).carry.toNat) * tenPow acc.length := by rw [h]
  simp only [Nat.add_mul, Nat.mul_comm 10] at h2 ⊢
  simp only [Nat.mul_right_comm _ 10, Nat.mul_assoc] at h2 ⊢
  omega

theorem value_subtractFrom {s : DigitStrategy} {xs ys : List Digit} {c : Bool}
    {acc r : List Digit} (hlen : ys.length ≤ xs.length)
    (h : subtractFrom s xs ys c acc = some r) :
    value r + (valueRev ys + c.toNat) * tenPow acc.length
      = valueRev xs * tenPow acc.length + value acc := by
  fun_induction subtractFrom s xs ys c acc with
  | case1 ys acc => simp at h
  | case2 ys borrow acc hb =>
    have : ys = [] := List.eq_nil_of_length_eq_zero (by simpa using hlen)
    subst this
    simp_all [valueRev]
  | case3 x xs c acc col ih =>
    exact (column_value s x .zero c (valueRev xs) 0 _ acc).1 (ih (by simp) h)
  | case4 x xs y ys c acc col ih =>
    exact (column_value s x y c (valueRev xs) (valueRev ys) _ acc).1 (ih (by simpa using hlen) h)

theorem lt_of_subtractFrom_eq_none {s : DigitStrategy} {xs ys : List Digit} {c : Bool}
    {acc : List Digit} (h : subtractFrom s xs ys c acc = none) :
    valueRev xs < valueRev ys + c.toNat := by
  fun_induction subtractFrom s xs ys c acc with
  | case1 ys acc => simp [valueRev]
  | case2 ys borrow acc hb => simp at h
  | case3 x xs c acc col ih =>
    have := ih h
    have hc : _ = _ := DigitStrategy.subtract_value s x .zero c
    have hd := (s.subtract x .zero c).digit.isLt
    simp only [valueRev, col, Digit.val_zero] at this hc ⊢
    omega
  | case4 x xs y ys c acc col ih =>
    have := ih h
    have hc : _ = _ := DigitStrategy.subtract_value s x y c
    have hd := (s.subtract x y c).digit.isLt
    simp only [valueRev, col] at this ⊢
    omega

end Digits

namespace Numeral

/-- The difference of two numerals; none if the second is the larger. A longer subtrahend is
refused before any column is computed. -/
def subtract? (s : DigitStrategy) (a b : Numeral) : Option Numeral :=
  if a.length < b.length then none
  else (Digits.subtractFrom s a.digits.reverse b.digits.reverse false []).map ofDigits

theorem value_subtract? {s : DigitStrategy} {a b d : Numeral} (h : a.subtract? s b = some d) :
    d.value + b.value = a.value := by
  unfold subtract? at h
  split at h
  · cases h
  · rename_i hlen
    obtain ⟨r, hr, rfl⟩ := Option.map_eq_some_iff.1 h
    have := Digits.value_subtractFrom (by simpa [length] using hlen) hr
    rw [value_ofDigits]
    simpa [Digits.valueRev_reverse, value] using this

theorem subtract?_eq_none_iff {s : DigitStrategy} {a b : Numeral} :
    a.subtract? s b = none ↔ a.value < b.value := by
  constructor
  · intro h
    unfold subtract? at h
    split at h
    · exact value_lt_of_length_lt ‹_›
    · have := Digits.lt_of_subtractFrom_eq_none (Option.map_eq_none_iff.1 h)
      simpa [Digits.valueRev_reverse, value] using this
  · intro h
    cases hs : a.subtract? s b with
    | none => rfl
    | some d => have := value_subtract? hs; omega

end Numeral

end Longhand
