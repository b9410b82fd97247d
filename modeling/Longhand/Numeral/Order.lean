import Longhand.Numeral.Basic

/-!
The order of numerals: fewer digits first, then digit by digit. It is the order of the values
(`Numeral.compare_eq`).
-/

namespace Longhand

namespace Digits

/-- Compares two digit strings of one length by their first difference. -/
def order : List Digit → List Digit → Ordering
  | x :: xs, y :: ys => (compare x.val y.val).then (order xs ys)
  | _, _ => .eq

theorem order_eq {xs ys : List Digit} (h : xs.length = ys.length) :
    order xs ys = compare (value xs) (value ys) := by
  induction xs generalizing ys with
  | nil =>
    have : ys = [] := List.eq_nil_of_length_eq_zero h.symm
    subst this
    rfl
  | cons x xs ih =>
    match ys, h with
    | y :: ys, h =>
      have hl : xs.length = ys.length := by simpa using h
      have hx := value_lt xs
      have hy := value_lt ys
      rw [hl] at hx
      rw [order, ih hl, value_cons, value_cons, hl]
      rcases Nat.lt_trichotomy x.val y.val with hlt | heq | hgt
      · have h1 : (x.val + 1) * tenPow ys.length ≤ y.val * tenPow ys.length :=
          Nat.mul_le_mul_right _ hlt
        rw [Nat.add_mul] at h1
        have h2 : x.val * tenPow ys.length + value xs
            < y.val * tenPow ys.length + value ys := by omega
        rw [Nat.compare_eq_lt.2 hlt, Nat.compare_eq_lt.2 h2]
        rfl
      · rw [heq, Nat.compare_eq_eq.2 rfl]
        simp [Nat.compare_eq_ite_lt]
      · have h1 : (y.val + 1) * tenPow ys.length ≤ x.val * tenPow ys.length :=
          Nat.mul_le_mul_right _ hgt
        rw [Nat.add_mul] at h1
        have h2 : y.val * tenPow ys.length + value ys
            < x.val * tenPow ys.length + value xs := by omega
        rw [Nat.compare_eq_gt.2 hgt, Nat.compare_eq_gt.2 h2]
        rfl

end Digits

namespace Numeral

/-- Which of two numerals is the larger; without leading zeros the longer one is. -/
protected def compare (a b : Numeral) : Ordering :=
  (Ord.compare a.length b.length).then (Digits.order a.digits b.digits)

theorem compare_eq (a b : Numeral) : a.compare b = Ord.compare a.value b.value := by
  rw [Numeral.compare]
  rcases Nat.lt_trichotomy a.length b.length with h | h | h
  · rw [Nat.compare_eq_lt.2 h, Nat.compare_eq_lt.2 (value_lt_of_length_lt h)]
    rfl
  · rw [h, Nat.compare_eq_eq.2 rfl]
    exact Digits.order_eq h
  · rw [Nat.compare_eq_gt.2 h, Nat.compare_eq_gt.2 (value_lt_of_length_lt h)]
    rfl

end Numeral

end Longhand
