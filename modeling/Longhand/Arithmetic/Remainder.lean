import Longhand.Arithmetic.Settings
import Longhand.Numeral.Conversion
import Longhand.Numeral.Difference
import Longhand.Numeral.Order
import Longhand.Traced

/-!
Two ways to a remainder. Repeated subtraction counts its steps, warns once and may be capped;
long division brings the dividend's digits down one by one. Both loops end because a subtraction
of a positive divisor lowers the value. Long division always succeeds, with the remainder of the
values (`Numeral.shiftRemainder_eq`), and each of its steps with the next digit of the quotient
(`Numeral.reduce_eq`).
-/

namespace Longhand

namespace Numeral

theorem value_lt_of_subtract? {s : DigitStrategy} {a b d : Numeral} (hb : b ≠ zero)
    (h : a.subtract? s b = some d) : d.value < a.value := by
  have h1 := value_subtract? h
  have h2 := value_pos hb
  omega

theorem subtract?_of_le (s : DigitStrategy) {a b : Numeral} (h : b.value ≤ a.value) :
    a.subtract? s b = some (ofNat (a.value - b.value)) := by
  cases hd : a.subtract? s b with
  | none =>
    have := subtract?_eq_none_iff.1 hd
    omega
  | some d =>
    have := value_subtract? hd
    exact congrArg some (ext_value (by rw [value_ofNat]; omega))

/-- The difference, or the failure that names both numerals. -/
def subtract (s : DigitStrategy) (a b : Numeral) : Except Error Numeral :=
  match a.subtract? s b with
  | some d => .ok d
  | none => .error (.engine (.negativeResult a.text b.text))

/-- Brings down one more digit. -/
def push (a : Numeral) (d : Digit) : Numeral := ofDigits (a.digits ++ [d])

@[simp] theorem value_push (a : Numeral) (d : Digit) : (a.push d).value = 10 * a.value + d.val := by
  rw [push, value_ofDigits, Digits.value_append_singleton]
  rfl

/-- Takes the divisor away as long as it fits, and counts on from `count` how often it did. -/
def reduce (s : DigitStrategy) (b : Numeral) (hb : b ≠ zero) (r : Numeral) (count : Nat) :
    Except Error (Numeral × Nat) :=
  if r.compare b = .lt then .ok (r, count)
  else
    match _hd : r.subtract? s b with
    | some d => reduce s b hb d (count + 1)
    | none => .error (.engine (.negativeResult r.text b.text))
termination_by r.value
decreasing_by exact value_lt_of_subtract? hb ‹_›

/-- What is left is the remainder, and the divisor is taken away as often as it goes into `r`. -/
theorem reduce_eq (s : DigitStrategy) (b : Numeral) (hb : b ≠ zero) (r : Numeral) (count : Nat) :
    reduce s b hb r count = .ok (ofNat (r.value % b.value), count + r.value / b.value) := by
  fun_induction reduce s b hb r count with
  | case1 r count h =>
    rw [compare_eq, Nat.compare_eq_lt] at h
    rw [Nat.mod_eq_of_lt h, Nat.div_eq_of_lt h, ofNat_value, Nat.add_zero]
  | case2 r count h d hd ih =>
    have hv := value_subtract? hd
    rw [ih, ← hv, Nat.add_mod_right, Nat.add_div_right _ (value_pos hb), Nat.add_right_comm,
      Nat.add_assoc]
  | case3 r count h hd =>
    have := subtract?_eq_none_iff.1 hd
    rw [compare_eq, Nat.compare_eq_lt] at h
    exact absurd this h

/-- One step of long division: a digit comes down and the divisor is taken away. How often that
is done is a digit of the quotient, which is not kept. -/
def divideStep (s : DigitStrategy) (b : Numeral) (hb : b ≠ zero) (r : Numeral) (d : Digit) :
    Except Error Numeral :=
  (reduce s b hb (r.push d) 0).map Prod.fst

theorem divideStep_eq (s : DigitStrategy) (b : Numeral) (hb : b ≠ zero) (r : Numeral) (d : Digit) :
    divideStep s b hb r d = .ok (ofNat ((10 * r.value + d.val) % b.value)) := by
  rw [divideStep, reduce_eq, value_push]
  rfl

/-- After some digits the remainder is that of the number they denote. -/
theorem foldlM_divideStep (s : DigitStrategy) (b : Numeral) (hb : b ≠ zero) (ds : List Digit)
    (n : Nat) :
    ds.foldlM (divideStep s b hb) (ofNat (n % b.value))
      = .ok (ofNat ((n * tenPow ds.length + Digits.value ds) % b.value)) := by
  induction ds generalizing n with
  | nil => rw [List.foldlM_nil, List.length_nil, tenPow_zero, Nat.mul_one]; rfl
  | cons d ds ih =>
    have hstep : (10 * (n % b.value) + d.val) % b.value = (10 * n + d.val) % b.value := by
      rw [Nat.add_mod, Nat.mul_mod, Nat.mod_mod, ← Nat.mul_mod, ← Nat.add_mod]
    have hvalue : (10 * n + d.val) * tenPow ds.length + Digits.value ds
        = n * tenPow (d :: ds).length + Digits.value (d :: ds) := by
      rw [Digits.value_cons, List.length_cons, tenPow_succ, Nat.add_mul, Nat.mul_comm 10 n,
        Nat.mul_assoc, Nat.add_assoc]
    rw [List.foldlM_cons, divideStep_eq, value_ofNat, hstep, ← hvalue]
    exact ih (10 * n + d.val)

/-- The remainder by long division. -/
def shiftRemainder (s : DigitStrategy) (a b : Numeral) (hb : b ≠ zero) : Except Error Numeral :=
  a.digits.foldlM (divideStep s b hb) zero

theorem shiftRemainder_eq (s : DigitStrategy) (a b : Numeral) (hb : b ≠ zero) :
    shiftRemainder s a b hb = .ok (ofNat (a.value % b.value)) := by
  have h := foldlM_divideStep s b hb a.digits 0
  rw [Nat.zero_mod, Nat.zero_mul, Nat.zero_add, ofNat_zero] at h
  exact h

/-- Takes the divisor away until it no longer fits or nothing is left. `count` subtractions have
succeeded so far, and `dividend` digits are named in a warning. -/
def repeatedRemainder (settings : Settings) (dividend : Nat) (b : Numeral) (hb : b ≠ zero)
    (current : Numeral) (count : Nat) : Traced Numeral :=
  match _hd : current.subtract? settings.digits b with
  | none => ⟨.ok current, [.remainderFinished count]⟩
  | some d =>
    match settings.cap.filter (· ≤ count) with
    | some cap => .fail (.engine (.precondition (.iterations cap)))
    | none =>
      let count := count + 1
      if d = zero then ⟨.ok zero, [.remainderFinished count]⟩
      else if count = settings.warnAt then
        (repeatedRemainder settings dividend b hb d count).after
          (.remainderSlow count dividend b.length)
      else repeatedRemainder settings dividend b hb d count
termination_by current.value
decreasing_by all_goals exact value_lt_of_subtract? hb ‹_›

/-- The remainder by the chosen strategy; a zero divisor is refused before anything is logged. -/
def modulo (settings : Settings) (a b : Numeral) : Traced Numeral :=
  if hb : b = zero then .fail (.engine (.divisionByZero a.text))
  else
    Traced.after (.remainderStarted settings.remainder.name a.length b.length)
      (match settings.remainder with
      | .shiftSubtract => .ofExcept (shiftRemainder settings.digits a b hb)
      | .repeatedSubtraction => repeatedRemainder settings a.length b hb a 0)

end Numeral

end Longhand
