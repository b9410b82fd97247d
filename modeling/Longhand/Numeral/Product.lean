import Longhand.Numeral.Sum

/-!
Multiplication in columns: the ten multiples of one factor are built by repeated addition, and
one shifted row is added for each digit of the other factor. The result denotes the product of
the values (`Numeral.value_multiply`).
-/

namespace Longhand

namespace Numeral

/-- The multiples `0 * a`, `1 * a`, up to `n * a`, each the one before plus `a`. -/
def multiples (s : DigitStrategy) (a : Numeral) (n : Nat) : List Numeral :=
  go n zero
where
  go : Nat → Numeral → List Numeral
  | 0, m => [m]
  | n + 1, m => m :: go n (m.add s a)

/-- Appends `n` zeros; zero stays zero. -/
def shift (a : Numeral) (n : Nat) : Numeral := ofDigits (a.digits ++ List.replicate n .zero)

/-- Adds one row to the running total: the multiple for a digit, shifted to its column. A row of
zeros is skipped. -/
def addRow (s : DigitStrategy) (table : List Numeral) (total : Numeral) (column : Digit × Nat) :
    Numeral :=
  let row := table.getD column.1.val zero
  if row = zero then total else total.add s (row.shift column.2)

/-- The product of two numerals, one row for each digit of the second, from the right. -/
def multiply (s : DigitStrategy) (a b : Numeral) : Numeral :=
  if a = zero ∨ b = zero then zero
  else b.digits.reverse.zipIdx.foldl (addRow s (multiples s a 9)) zero

theorem value_replicate_zero (n : Nat) : Digits.value (List.replicate n .zero) = 0 := by
  induction n with
  | zero => rfl
  | succ n ih => rw [List.replicate_succ, Digits.value_cons, ih]; simp

@[simp] theorem value_shift (a : Numeral) (n : Nat) : (a.shift n).value = a.value * tenPow n := by
  rw [shift, value_ofDigits, Digits.value_append, value_replicate_zero, List.length_replicate]
  rfl

theorem value_multiples_go (s : DigitStrategy) (a m : Numeral) {k n : Nat} (h : k ≤ n) :
    ((multiples.go s a n m).getD k zero).value = m.value + k * a.value := by
  induction n generalizing m k with
  | zero =>
    have : k = 0 := Nat.le_zero.1 h
    subst this
    simp [multiples.go]
  | succ n ih =>
    cases k with
    | zero => simp [multiples.go]
    | succ k =>
      rw [multiples.go, List.getD_cons_succ, ih (m.add s a) (Nat.le_of_succ_le_succ h), value_add,
        Nat.succ_mul]
      omega

/-- A row adds the multiple for its digit, in its column. -/
theorem value_addRow (s : DigitStrategy) (a total : Numeral) (d : Digit) (n : Nat) :
    (addRow s (multiples s a 9) total (d, n)).value
      = total.value + d.val * a.value * tenPow n := by
  have h : ((multiples s a 9).getD d.val zero).value = d.val * a.value := by
    rw [multiples, value_multiples_go s a zero (by omega)]
    simp
  simp only [addRow]
  split
  · rename_i h0
    rw [h0, value_zero] at h
    rw [← h]
    simp
  · rw [value_add, value_shift, h]

theorem value_foldl_addRow (s : DigitStrategy) (a total : Numeral) (ds : List Digit) (n : Nat) :
    ((ds.zipIdx n).foldl (addRow s (multiples s a 9)) total).value
      = total.value + a.value * Digits.valueRev ds * tenPow n := by
  induction ds generalizing total n with
  | nil => simp [Digits.valueRev]
  | cons d ds ih =>
    rw [List.zipIdx_cons, List.foldl_cons, ih, value_addRow, tenPow_succ, Digits.valueRev]
    simp only [Nat.mul_add, Nat.add_mul, Nat.add_assoc, Nat.mul_assoc, Nat.mul_left_comm]

@[simp] theorem value_multiply (s : DigitStrategy) (a b : Numeral) :
    (a.multiply s b).value = a.value * b.value := by
  unfold multiply
  split
  · rename_i h
    rcases h with h | h <;> simp [h]
  · rw [value_foldl_addRow, Digits.valueRev_reverse, value_zero, Nat.zero_add, tenPow_zero,
      Nat.mul_one]
    rfl

end Numeral

end Longhand
