/-!
Powers of ten, by which the places of a decimal are weighed.
-/

namespace Longhand

/-- The weight of the place before `n` others. -/
def tenPow (n : Nat) : Nat := Nat.pow 10 n

@[simp] theorem tenPow_zero : tenPow 0 = 1 := rfl

theorem tenPow_succ (n : Nat) : tenPow (n + 1) = 10 * tenPow n := Nat.mul_comm _ _

theorem tenPow_add (m n : Nat) : tenPow (m + n) = tenPow m * tenPow n := by
  induction n with
  | zero => simp
  | succ n ih => rw [← Nat.add_assoc, tenPow_succ, tenPow_succ, ih, Nat.mul_left_comm]

theorem tenPow_pos (n : Nat) : 0 < tenPow n := by
  induction n with
  | zero => exact Nat.one_pos
  | succ n ih => rw [tenPow_succ]; omega

theorem tenPow_le {m n : Nat} (h : m ≤ n) : tenPow m ≤ tenPow n := by
  obtain ⟨k, rfl⟩ := Nat.exists_eq_add_of_le h
  rw [tenPow_add]
  exact Nat.le_mul_of_pos_right _ (tenPow_pos k)

end Longhand
