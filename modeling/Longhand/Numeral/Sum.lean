import Longhand.Numeral.Basic

/-!
Column addition from the right. The sum needs no stripping: it is normal because its operands
are (`isNormal_addFrom`), and it denotes the sum of the values (`Numeral.value_add`).
-/

namespace Longhand

namespace Digits

/-- Adds two digit strings given least significant digit first. An exhausted operand counts as
zeros, the finished columns are kept in `acc`, and a last carry becomes one more digit. -/
def addFrom (s : DigitStrategy) : List Digit → List Digit → Bool → List Digit → List Digit
  | [], [], carry, acc => if carry then .one :: acc else acc
  | x :: xs, [], carry, acc =>
    let c := s.add x .zero carry
    addFrom s xs [] c.carry (c.digit :: acc)
  | [], y :: ys, carry, acc =>
    let c := s.add .zero y carry
    addFrom s [] ys c.carry (c.digit :: acc)
  | x :: xs, y :: ys, carry, acc =>
    let c := s.add x y carry
    addFrom s xs ys c.carry (c.digit :: acc)

theorem value_addFrom (s : DigitStrategy) (xs ys : List Digit) (c : Bool) (acc : List Digit) :
    value (addFrom s xs ys c acc)
      = (valueRev xs + valueRev ys + c.toNat) * tenPow acc.length + value acc := by
  have column : ∀ (x y : Digit) (c : Bool) (m n : Nat) (acc : List Digit),
      (m + n + (s.add x y c).carry.toNat) * tenPow ((s.add x y c).digit :: acc).length
        + value ((s.add x y c).digit :: acc)
      = (x.val + 10 * m + (y.val + 10 * n) + c.toNat) * tenPow acc.length + value acc := by
    intro x y c m n acc
    have h := DigitStrategy.add_value s x y c
    rw [value_cons, List.length_cons, tenPow_succ,
      ← Nat.mul_assoc, ← Nat.add_assoc, ← Nat.add_mul]
    congr 2
    omega
  fun_induction addFrom s xs ys c acc with
  | case1 acc => simp [valueRev, value_cons]
  | case2 acc c hc => simp [hc, valueRev]
  | case3 x xs c acc col ih => rw [ih]; exact column x .zero c _ 0 acc
  | case4 y ys c acc col ih => rw [ih]; exact column .zero y c 0 _ acc
  | case5 x xs y ys c acc col ih => rw [ih]; exact column x y c _ _ acc

theorem length_addFrom (s : DigitStrategy) (xs ys : List Digit) (c : Bool) (acc : List Digit) :
    acc.length + max xs.length ys.length ≤ (addFrom s xs ys c acc).length ∧
    (addFrom s xs ys c acc).length ≤ acc.length + max xs.length ys.length + 1 := by
  fun_induction addFrom s xs ys c acc <;> simp_all <;> omega

/-- A sum one digit longer than its operands starts with the last carry. -/
theorem pow_le_addFrom (s : DigitStrategy) (xs ys : List Digit) (c : Bool) (acc : List Digit)
    (h : (addFrom s xs ys c acc).length = acc.length + max xs.length ys.length + 1) :
    tenPow (acc.length + max xs.length ys.length) ≤ value (addFrom s xs ys c acc) := by
  fun_induction addFrom s xs ys c acc with
  | case1 acc => simp [value_cons]
  | case2 acc c hc => simp at h
  | case3 x xs c acc col ih =>
    have := ih (by simp_all; omega)
    simpa [Nat.add_assoc, Nat.add_comm 1] using this
  | case4 y ys c acc col ih =>
    have := ih (by simp_all; omega)
    simpa [Nat.add_assoc, Nat.add_comm 1] using this
  | case5 x xs y ys c acc col ih =>
    have e : acc.length + max (x :: xs).length (y :: ys).length
        = (col.digit :: acc).length + max xs.length ys.length := by simp; omega
    rw [e] at h ⊢
    exact ih h

theorem isNormal_addFrom (s : DigitStrategy) {xs ys : List Digit} (hx : IsNormal xs)
    (hy : IsNormal ys) : IsNormal (addFrom s xs.reverse ys.reverse false []) := by
  have hlen := length_addFrom s xs.reverse ys.reverse false []
  have hval := value_addFrom s xs.reverse ys.reverse false []
  have htop := pow_le_addFrom s xs.reverse ys.reverse false []
  simp only [List.length_reverse, List.length_nil, valueRev_reverse, tenPow_zero, Nat.mul_one,
    value_nil, Nat.add_zero, Nat.zero_add, Bool.toNat_false] at hlen hval htop
  generalize addFrom s xs.reverse ys.reverse false [] = r at *
  have hxl := List.length_pos_iff.2 hx.1
  by_cases h1 : 1 < r.length
  · apply isNormal_of_pow_le h1
    by_cases hl : r.length = max xs.length ys.length + 1
    · rw [hl]; exact htop hl
    · have hr : r.length = max xs.length ys.length := by omega
      rcases Nat.le_total ys.length xs.length with hle | hle
      · have e : r.length = xs.length := by omega
        have := pow_le_value hx (by omega)
        rw [e]; omega
      · have e : r.length = ys.length := by omega
        have := pow_le_value hy (by omega)
        rw [e]; omega
  · exact ⟨List.length_pos_iff.1 (by omega), fun _ => by omega⟩

end Digits

namespace Numeral

/-- The sum of two numerals, column by column. -/
def add (s : DigitStrategy) (a b : Numeral) : Numeral :=
  ⟨Digits.addFrom s a.digits.reverse b.digits.reverse false [],
    Digits.isNormal_addFrom s a.normal b.normal⟩

@[simp] theorem value_add (s : DigitStrategy) (a b : Numeral) :
    (a.add s b).value = a.value + b.value := by
  show Digits.value (Digits.addFrom s _ _ false []) = Digits.value _ + Digits.value _
  simp [Digits.value_addFrom, Digits.valueRev_reverse]

end Numeral

end Longhand
