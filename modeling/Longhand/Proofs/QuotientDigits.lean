import Longhand.Proofs.Conversion
import Longhand.Proofs.LongDivision

/-!
Long division, digit by digit. Between digits what is left is the remainder of the digits brought
down so far (`Numeral.remainderAfter`), and how often the divisor is taken away after a digit is
the digit of the quotient at that place (`Numeral.quotient_digits`). That there are at most nine
subtractions rests on the remainder being below the divisor before the digit comes down.
-/

namespace Longhand

namespace Digits

/-- The leading digits denote what is left of the number without the places after them. -/
theorem value_take (ds : List Digit) (k : Nat) :
    value (ds.take k) = value ds / tenPow (ds.length - k) := by
  have hrest : (ds.drop k).length = ds.length - k := List.length_drop
  have hvalue : value ds = value (ds.take k) * tenPow (ds.length - k) + value (ds.drop k) := by
    rw [← hrest, ← value_append, List.take_append_drop]
  have hlt := value_lt (ds.drop k)
  rw [hrest] at hlt
  rw [hvalue, Nat.mul_comm, Nat.mul_add_div (tenPow_pos _), Nat.div_eq_of_lt hlt, Nat.add_zero]

theorem value_take_succ (ds : List Digit) {k : Nat} (hk : k < ds.length) :
    value (ds.take (k + 1)) = 10 * value (ds.take k) + ds[k].val := by
  rw [List.take_succ_eq_append_getElem hk, value_append_singleton]

/-- A digit is read off the number by the weight of its place. -/
theorem val_getElem (ds : List Digit) {k : Nat} (hk : k < ds.length) :
    ds[k].val = value ds / tenPow (ds.length - (k + 1)) % 10 := by
  rw [← value_take ds (k + 1), value_take_succ ds hk, Nat.mul_add_mod, Nat.mod_eq_of_lt ds[k].isLt]

theorem value_leftpad (n : Nat) (ds : List Digit) : value (ds.leftpad n .zero) = value ds := by
  rw [List.leftpad, value_append, Numeral.value_replicate_zero, Nat.zero_mul, Nat.zero_add]

theorem map_toChar_leftpad (n : Nat) (ds : List Digit) :
    (ds.leftpad n .zero).map Digit.toChar = (ds.map Digit.toChar).leftpad n '0' := by
  rw [List.leftpad, List.map_append, List.map_replicate, Digit.toChar_zero, List.leftpad,
    List.length_map]

end Digits

namespace Checked

/-- Fewer rounds than subtractions leave the loop unfinished. -/
theorem reduce_of_rounds_le (settings : Settings) {b : Numeral} (hb : b ≠ .zero) {rounds : Nat}
    (r : Numeral) (h : rounds ≤ r.value / b.value) :
    reduce settings b.text rounds r.text = none := by
  induction rounds generalizing r with
  | zero => rfl
  | succ rounds ih =>
    have hpos := Numeral.value_pos hb
    have hle : b.value ≤ r.value := Nat.le_of_not_lt fun hlt => by
      rw [Nat.div_eq_of_lt hlt] at h
      exact Nat.not_succ_le_zero rounds h
    rw [reduce_of_le settings hle]
    refine ih _ ?_
    rw [Nat.div_eq_sub_div hpos hle] at h
    rw [Numeral.value_ofNat]
    exact Nat.le_of_succ_le_succ h

/-- The loop is left after as many rounds as the divisor goes into the number, and the comparison
that ends it. -/
theorem reduce_eq (settings : Settings) {b : Numeral} (hb : b ≠ .zero) (rounds : Nat)
    (r : Numeral) :
    reduce settings b.text rounds r.text
      = if r.value / b.value < rounds then
          some (.ok (Numeral.ofNat (r.value % b.value)).text)
        else none := by
  split
  · rename_i h
    exact reduce_text settings hb r h
  · rename_i h
    exact reduce_of_rounds_le settings hb r (Nat.le_of_not_lt h)

end Checked

namespace Numeral

/-- What is left of the first digits of a number by division. -/
def remainderAfter (a b : Numeral) (k : Nat) : Numeral :=
  ofNat (Digits.value (a.digits.take k) % b.value)

variable (a : Numeral) {b : Numeral}

theorem value_remainderAfter (b : Numeral) (k : Nat) :
    (remainderAfter a b k).value = Digits.value (a.digits.take k) % b.value := value_ofNat _

/-- What is brought down next leaves the remainder of one more digit. -/
theorem mod_push_remainderAfter (b : Numeral) {k : Nat} (hk : k < a.digits.length) :
    ((remainderAfter a b k).push a.digits[k]).value % b.value
      = Digits.value (a.digits.take (k + 1)) % b.value := by
  rw [value_push, value_remainderAfter, Digits.value_take_succ a.digits hk, Nat.add_mod,
    Nat.mul_mod, Nat.mod_mod, ← Nat.mul_mod, ← Nat.add_mod]

/-- A remainder below the divisor lets it be taken away nine times at most after a digit. -/
theorem push_div_le_nine {r : Numeral} (hr : r.value < b.value) (d : Digit) :
    (r.push d).value / b.value ≤ 9 := by
  have hten : (r.push d).value < b.value * 10 := by
    rw [value_push]
    omega
  exact Nat.le_of_lt_succ (Nat.div_lt_of_lt_mul hten)

/-- The quotient of some digits and one more ends with what the remainder of the former gives. -/
theorem div_take_mod_ten (hb : b ≠ zero) {k : Nat} (hk : k < a.digits.length) :
    Digits.value (a.digits.take (k + 1)) / b.value % 10
      = ((remainderAfter a b k).push a.digits[k]).value / b.value := by
  have hpos := value_pos hb
  have hr : (remainderAfter a b k).value < b.value := by
    rw [value_remainderAfter]
    exact Nat.mod_lt _ hpos
  have hnine := push_div_le_nine hr a.digits[k]
  have hsplit : Digits.value (a.digits.take (k + 1))
      = b.value * (10 * (Digits.value (a.digits.take k) / b.value))
        + ((remainderAfter a b k).push a.digits[k]).value := by
    rw [Digits.value_take_succ a.digits hk, value_push, value_remainderAfter, Nat.mul_left_comm,
      ← Nat.add_assoc, ← Nat.mul_add, Nat.div_add_mod]
  rw [hsplit, Nat.mul_add_div hpos, Nat.mul_add_mod, Nat.mod_eq_of_lt (Nat.lt_succ_of_le hnine)]

/-- The digits of the quotient, with leading zeros up to the length of the dividend. -/
def quotientDigits (a b : Numeral) : List Digit :=
  (ofNat (a.value / b.value)).digits.leftpad a.length .zero

theorem length_quotientDigits (b : Numeral) : (quotientDigits a b).length = a.length := by
  have hpos : 0 < a.length := List.length_pos_iff.2 a.normal.1
  have hle : (ofNat (a.value / b.value)).length ≤ a.length := by
    rw [length_le_iff hpos, value_ofNat]
    exact Nat.lt_of_le_of_lt (Nat.div_le_self _ _) (Digits.value_lt a.digits)
  rw [quotientDigits, List.length_leftpad]
  exact Nat.max_eq_left hle

/-- The divisor is taken away after a digit as often as the digit of the quotient says. -/
theorem val_quotientDigits (hb : b ≠ zero) {k : Nat} (hk : k < a.digits.length)
    (hlt : k < (quotientDigits a b).length) :
    (quotientDigits a b)[k].val = ((remainderAfter a b k).push a.digits[k]).value / b.value := by
  have hvalue : Digits.value (quotientDigits a b) = Digits.value a.digits / b.value := by
    rw [quotientDigits, Digits.value_leftpad]
    exact value_ofNat _
  rw [← div_take_mod_ten a hb hk, Digits.val_getElem, length_quotientDigits, hvalue,
    Digits.value_take, Nat.div_div_eq_div_mul, Nat.mul_comm, ← Nat.div_div_eq_div_mul]
  rfl

/-- The quotient as it is written, with leading zeros up to the length of the dividend. -/
theorem getElem?_leftpad_repr (hb : b ≠ zero) {k : Nat} (hk : k < a.digits.length) :
    ((Nat.repr (a.value / b.value)).toList.leftpad a.length '0')[k]?
      = some (Nat.digitChar (((remainderAfter a b k).push a.digits[k]).value / b.value)) := by
  have htext : (Nat.repr (a.value / b.value)).toList.leftpad a.length '0'
      = (quotientDigits a b).map Digit.toChar := by
    rw [quotientDigits, Digits.map_toChar_leftpad, ← text_ofNat, text, Digits.toList_text]
  have hlt : k < (quotientDigits a b).length := by rwa [length_quotientDigits]
  rw [htext, List.getElem?_map, List.getElem?_eq_getElem hlt, ← val_quotientDigits a hb hk hlt,
    ← Digit.toChar_eq_digitChar]
  rfl

/-- What long division keeps: after some digits, that is the remainder of the number they denote. -/
theorem foldlM_take (settings : Settings) (hb : b ≠ zero) (k : Nat) :
    (a.digits.take k).foldlM (divideStep settings.digits b hb) zero
      = .ok (remainderAfter a b k) := by
  have h := foldlM_divideStep settings.digits b hb (a.digits.take k) 0
  rw [Nat.zero_mod, Nat.zero_mul, Nat.zero_add, ofNat_zero] at h
  exact h

/-- Long division of `a` by `b`, digit by digit. After the first `k` digits what is left is the
numeral of their number modulo `b`, also with every call made on texts. After the next digit the
divisor is taken away as often as it goes into the remainder with this digit appended: at most nine
times, and as often as the digit of the quotient at that place says, if the quotient is written
with as many digits as the dividend. No subtraction fails on the way: with every call made on texts,
the loop is left after exactly so many rounds, by the comparison that follows them. -/
theorem quotient_digits (settings : Settings) (a : Numeral) {b : Numeral} (hb : b ≠ zero) :
    (∀ k ≤ a.length,
      (remainderAfter a b k).value = Digits.value (a.digits.take k) % b.value ∧
      (a.digits.take k).foldlM (divideStep settings.digits b hb) zero
        = .ok (remainderAfter a b k) ∧
      ∀ rounds, 9 < rounds →
        Checked.divide settings rounds b.text (a.text.toList.take k) "0"
          = some (.ok (remainderAfter a b k).text)) ∧
    ∀ (k : Nat) (hk : k < a.digits.length), ∃ times,
      times = (10 * (remainderAfter a b k).value + a.digits[k].val) / b.value ∧
      times ≤ 9 ∧
      ((Nat.repr (a.value / b.value)).toList.leftpad a.length '0')[k]?
        = some (Nat.digitChar times) ∧
      reduce settings.digits b hb ((remainderAfter a b k).push a.digits[k]) 0
        = .ok (remainderAfter a b (k + 1), times) ∧
      ∀ rounds,
        Checked.reduce settings b.text rounds
            (DigitText.strip ((remainderAfter a b k).text.push a.digits[k].toChar))
          = if times < rounds then some (.ok (remainderAfter a b (k + 1)).text) else none := by
  have hpos := value_pos hb
  constructor
  · intro k _
    refine ⟨value_remainderAfter a b k, foldlM_take a settings hb k, fun rounds hrounds => ?_⟩
    have hdivide := Checked.divide_text settings hb hrounds (a.digits.take k) zero
      (by rwa [value_zero])
    rwa [foldlM_take a settings hb k, text_zero, List.map_take, ← Digits.toList_text] at hdivide
  · intro k hk
    have hless : (remainderAfter a b k).value < b.value := by
      rw [value_remainderAfter]
      exact Nat.mod_lt _ hpos
    refine ⟨_, congrArg (· / b.value) (value_push _ a.digits[k]), push_div_le_nine hless _,
      getElem?_leftpad_repr a hb hk, ?_, fun rounds => ?_⟩
    · rw [reduce_eq, Nat.zero_add, mod_push_remainderAfter a b hk]
      rfl
    · rw [Checked.strip_push, Checked.reduce_eq settings hb, mod_push_remainderAfter a b hk]
      rfl

/-- Of 1005 by 25: the third digit leaves nothing, after four subtractions by counting. -/
theorem quotient_digits_inner :
    (⟨[2, 5], by decide⟩ : Numeral) ≠ zero ∧
    ∃ times, times = 4 ∧
      reduce .counting ⟨[2, 5], by decide⟩ (by decide) ⟨[1, 0, 0], by decide⟩ 0
        = .ok (zero, times) ∧
      ((Nat.repr 40).toList.leftpad 4 '0')[2]? = some (Nat.digitChar times) ∧
      Checked.reduce { digits := .counting } "25" 5 "100" = some (.ok "0") ∧
      Checked.reduce { digits := .counting } "25" 4 "100" = none := by
  have hb : (⟨[2, 5], by decide⟩ : Numeral) ≠ zero := by decide
  have hten : remainderAfter ⟨[1, 0, 0, 5], by decide⟩ ⟨[2, 5], by decide⟩ 2
      = ⟨[1, 0], by decide⟩ := ext_value ((value_remainderAfter _ _ 2).trans (by decide))
  have hzero : remainderAfter ⟨[1, 0, 0, 5], by decide⟩ ⟨[2, 5], by decide⟩ (2 + 1) = zero :=
    ext_value ((value_remainderAfter _ _ 3).trans (by decide))
  obtain ⟨times, htimes, -, hdigit, hreduce, hchecked⟩ :=
    (quotient_digits { digits := .counting } ⟨[1, 0, 0, 5], by decide⟩ hb).2 2 (by decide)
  rw [hten] at htimes
  rw [hten, hzero] at hreduce
  simp only [hten, hzero] at hchecked
  have hfour : times = 4 := htimes.trans (by decide)
  subst hfour
  exact ⟨hb, 4, rfl, hreduce, hdigit, hchecked 5, hchecked 4⟩

end Numeral

end Longhand
