import Longhand.Decimal.Power
import Longhand.Digit

/-!
Decimal numerals of any length, most significant digit first. A `Numeral` has no leading zeros
(zero itself is the one digit 0), so equal values have equal digits (`Numeral.ext_value`).
-/

namespace Longhand

/-- Drops leading copies of `zero`, but always leaves the last item. -/
def stripLeading {α : Type} [DecidableEq α] (zero : α) : List α → List α
  | [] => []
  | [x] => [x]
  | x :: y :: rest => if x = zero then stripLeading zero (y :: rest) else x :: y :: rest

namespace Digits

/-- The number a digit string denotes, most significant digit first. -/
def value (ds : List Digit) : Nat := ds.foldl (fun n d => 10 * n + d.val) 0

/-- The number a digit string denotes, least significant digit first. -/
def valueRev : List Digit → Nat
  | [] => 0
  | d :: rest => d.val + 10 * valueRev rest

def text (ds : List Digit) : String := String.ofList (ds.map Digit.toChar)

/-- No leading zero, except in the one-digit string 0. -/
def IsNormal (ds : List Digit) : Prop := ds ≠ [] ∧ (ds.head? = some .zero → ds.length = 1)

instance (ds : List Digit) : Decidable (IsNormal ds) := inferInstanceAs (Decidable (_ ∧ _))

theorem foldl_value (ds : List Digit) (n : Nat) :
    ds.foldl (fun n d => 10 * n + d.val) n = n * tenPow ds.length + value ds := by
  induction ds generalizing n with
  | nil => simp [value]
  | cons d ds ih =>
    simp only [value, List.foldl_cons, List.length_cons]
    rw [ih (10 * n + d.val), ih (10 * 0 + d.val), tenPow_succ, Nat.add_mul,
      Nat.mul_left_comm n 10, Nat.mul_assoc 10 n]
    simp only [Nat.mul_zero, Nat.zero_add]
    omega

@[simp] theorem value_nil : value [] = 0 := rfl

theorem value_cons (d : Digit) (ds : List Digit) :
    value (d :: ds) = d.val * tenPow ds.length + value ds := by
  have := foldl_value ds (10 * 0 + d.val)
  simpa [value] using this

theorem value_append (xs ys : List Digit) :
    value (xs ++ ys) = value xs * tenPow ys.length + value ys := by
  rw [value, List.foldl_append, foldl_value]
  rfl

theorem value_singleton (d : Digit) : value [d] = d.val := by simp [value_cons]

theorem value_append_singleton (xs : List Digit) (d : Digit) :
    value (xs ++ [d]) = 10 * value xs + d.val := by
  rw [value_append, value_singleton, List.length_singleton, tenPow_succ, tenPow_zero]; omega

theorem valueRev_reverse (ds : List Digit) : valueRev ds.reverse = value ds := by
  suffices h : ∀ xs : List Digit, valueRev xs = value xs.reverse by
    simpa using h ds.reverse
  intro xs
  induction xs with
  | nil => rfl
  | cons d xs ih => rw [List.reverse_cons, value_append_singleton, valueRev, ih]; omega

theorem value_lt (ds : List Digit) : value ds < tenPow ds.length := by
  induction ds with
  | nil => simp
  | cons d ds ih =>
    rw [value_cons, List.length_cons, tenPow_succ]
    have h1 : d.val * tenPow ds.length ≤ 9 * tenPow ds.length := Nat.mul_le_mul_right _ (by omega)
    omega

theorem value_stripLeading (ds : List Digit) : value (stripLeading Digit.zero ds) = value ds := by
  fun_induction stripLeading Digit.zero ds with
  | case1 => rfl
  | case2 => rfl
  | case3 y rest ih => rw [ih, value_cons Digit.zero]; simp
  | case4 => rfl

theorem isNormal_stripLeading {ds : List Digit} (h : ds ≠ []) :
    IsNormal (stripLeading Digit.zero ds) := by
  fun_induction stripLeading Digit.zero ds with
  | case1 => exact absurd rfl h
  | case2 d => exact ⟨by simp, fun _ => rfl⟩
  | case3 y rest ih => exact ih (by simp)
  | case4 d y rest hd => exact ⟨by simp, fun h0 => absurd (Option.some.inj h0) hd⟩

/-- A normal string of `n + 2` digits denotes at least `tenPow (n + 1)`. -/
theorem pow_le_value {ds : List Digit} (h : IsNormal ds) (hlen : 1 < ds.length) :
    tenPow (ds.length - 1) ≤ value ds := by
  match ds, h with
  | d :: rest, h =>
    have hd : d ≠ .zero := fun h0 => by
      have := h.2 (by simp [h0])
      omega
    have hpos : 1 ≤ d.val := by
      rcases Nat.eq_zero_or_pos d.val with h0 | h0
      · exact absurd (Fin.ext h0) hd
      · exact h0
    rw [value_cons]
    simp only [List.length_cons, Nat.add_sub_cancel]
    have : 1 * tenPow rest.length ≤ d.val * tenPow rest.length := Nat.mul_le_mul_right _ hpos
    omega

theorem isNormal_of_pow_le {ds : List Digit} (hlen : 1 < ds.length)
    (h : tenPow (ds.length - 1) ≤ value ds) : IsNormal ds := by
  match ds with
  | d :: rest =>
    refine ⟨by simp, fun h0 => ?_⟩
    have hd : d = .zero := Option.some.inj h0
    subst hd
    rw [value_cons] at h
    simp only [List.length_cons, Nat.add_sub_cancel] at h
    have := value_lt rest
    simp at h
    omega

/-- Digit strings of one length are equal when their values are. -/
theorem eq_of_value_eq {xs ys : List Digit} (hlen : xs.length = ys.length)
    (h : value xs = value ys) : xs = ys := by
  induction xs generalizing ys with
  | nil => exact (List.eq_nil_of_length_eq_zero hlen.symm).symm
  | cons x xs ih =>
    match ys, hlen with
    | y :: ys, hlen =>
      have hl : xs.length = ys.length := by simpa using hlen
      rw [value_cons, value_cons, hl] at h
      have hx := value_lt xs
      have hy := value_lt ys
      rw [hl] at hx
      have hxy : x.val = y.val := by
        rcases Nat.lt_trichotomy x.val y.val with hlt | heq | hgt
        · have : (x.val + 1) * tenPow ys.length ≤ y.val * tenPow ys.length :=
            Nat.mul_le_mul_right _ hlt
          rw [Nat.add_mul] at this
          omega
        · exact heq
        · have : (y.val + 1) * tenPow ys.length ≤ x.val * tenPow ys.length :=
            Nat.mul_le_mul_right _ hgt
          rw [Nat.add_mul] at this
          omega
      rw [hxy] at h
      rw [Fin.ext hxy, ih hl (by omega)]

theorem length_eq_of_value_eq {xs ys : List Digit} (hx : IsNormal xs) (hy : IsNormal ys)
    (h : value xs = value ys) : xs.length = ys.length := by
  have key : ∀ {xs ys : List Digit}, IsNormal xs → IsNormal ys → value xs = value ys →
      ¬ xs.length < ys.length := by
    intro xs ys hx hy h hlt
    have hpos := List.length_pos_iff.2 hx.1
    have h1 := pow_le_value hy (by omega)
    have h2 := value_lt xs
    have : tenPow xs.length ≤ tenPow (ys.length - 1) := tenPow_le (by omega)
    omega
  have h1 := key hx hy h
  have h2 := key hy hx h.symm
  omega

end Digits

/-- A decimal numeral without leading zeros. -/
structure Numeral where
  digits : List Digit
  normal : Digits.IsNormal digits
deriving DecidableEq

namespace Numeral

def value (a : Numeral) : Nat := Digits.value a.digits

def length (a : Numeral) : Nat := a.digits.length

def zero : Numeral := ⟨[.zero], by decide⟩

instance : Inhabited Numeral := ⟨zero⟩

/-- The numeral of a digit string: its leading zeros are dropped, and no digits at all mean zero. -/
def ofDigits (ds : List Digit) : Numeral :=
  if h : ds = [] then zero else ⟨stripLeading Digit.zero ds, Digits.isNormal_stripLeading h⟩

def text (a : Numeral) : String := Digits.text a.digits

/-- Equal values have equal digits: the normal form is unique. -/
theorem ext_value {a b : Numeral} (h : a.value = b.value) : a = b := by
  obtain ⟨xs, hx⟩ := a
  obtain ⟨ys, hy⟩ := b
  have : xs = ys := Digits.eq_of_value_eq (Digits.length_eq_of_value_eq hx hy h) h
  subst this
  rfl

@[simp] theorem value_zero : zero.value = 0 := by simp [value, zero, Digits.value_singleton]

@[simp] theorem value_ofDigits (ds : List Digit) : (ofDigits ds).value = Digits.value ds := by
  unfold ofDigits
  split
  · rename_i h; simp [h]
  · exact Digits.value_stripLeading ds

theorem value_pos {a : Numeral} (h : a ≠ zero) : 0 < a.value := by
  rcases Nat.eq_zero_or_pos a.value with h0 | h0
  · exact absurd (ext_value (by simpa using h0)) h
  · exact h0

/-- Without leading zeros a longer numeral is a larger one. -/
theorem value_lt_of_length_lt {a b : Numeral} (h : a.length < b.length) : a.value < b.value := by
  have h1 := Digits.value_lt a.digits
  have h0 := List.length_pos_iff.2 a.normal.1
  have h2 := Digits.pow_le_value b.normal (by simp only [length] at h; omega)
  have : tenPow a.digits.length ≤ tenPow (b.digits.length - 1) :=
    tenPow_le (by simp only [length] at h; omega)
  simp only [value]
  omega

end Numeral

end Longhand
