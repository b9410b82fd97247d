import Longhand.Numeral.Basic

/-!
Numerals of natural numbers: `Numeral.ofNat n` is the one numeral that denotes `n`.
-/

namespace Longhand

namespace Digits

/-- Puts the decimal digits of a number before `acc`. -/
def decimal (n : Nat) (acc : List Digit) : List Digit :=
  if h : n < 10 then ⟨n, h⟩ :: acc
  else decimal (n / 10) (⟨n % 10, Nat.mod_lt _ (by decide)⟩ :: acc)
termination_by n

theorem value_decimal (n : Nat) (acc : List Digit) :
    value (decimal n acc) = n * tenPow acc.length + value acc := by
  fun_induction decimal n acc with
  | case1 n acc h => rw [value_cons]
  | case2 n acc h ih =>
    rw [ih, value_cons, List.length_cons, tenPow_succ,
      ← Nat.mul_assoc, ← Nat.add_assoc, ← Nat.add_mul]
    congr 2
    simp only []
    omega

theorem head_decimal {n : Nat} (acc : List Digit) (h : 0 < n) :
    (decimal n acc).head? ≠ some .zero := by
  fun_induction decimal n acc with
  | case1 n acc hn =>
    intro h0
    have h1 := congrArg Fin.val (Option.some.inj h0)
    simp only [Digit.val_zero] at h1
    omega
  | case2 n acc hn ih => exact ih (by omega)

theorem isNormal_decimal (n : Nat) : IsNormal (decimal n []) := by
  have hne : decimal n [] ≠ [] := by
    suffices h : ∀ acc, decimal n acc ≠ [] from h []
    intro acc
    fun_induction decimal n acc with
    | case1 => simp
    | case2 n acc h ih => exact ih
  refine ⟨hne, fun h0 => ?_⟩
  rcases Nat.eq_zero_or_pos n with h | h
  · subst h; simp [decimal]
  · exact absurd h0 (head_decimal [] h)

end Digits

namespace Numeral

def ofNat (n : Nat) : Numeral := ⟨Digits.decimal n [], Digits.isNormal_decimal n⟩

@[simp] theorem value_ofNat (n : Nat) : (ofNat n).value = n := by
  simp [ofNat, value, Digits.value_decimal]

theorem ofNat_zero : ofNat 0 = zero := ext_value (by simp)

@[simp] theorem ofNat_value (a : Numeral) : ofNat a.value = a := ext_value (by simp)

end Numeral

end Longhand
