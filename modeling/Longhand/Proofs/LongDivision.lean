import Longhand.Arithmetic.Remainder
import Longhand.Proofs.Difference
import Longhand.Proofs.Order

/-!
Long division of texts, in which every comparison and every subtraction reads its operands anew
and every loop is cut off after some rounds. With ten rounds for each digit that is brought down,
nine subtractions and the comparison that ends them, it comes to the long division of numerals
(`Checked.divide_text`).
-/

namespace Longhand

namespace Checked

/-- Takes the divisor away as long as it fits; none if the rounds do not suffice. -/
def reduce (settings : Settings) (b : String) : Nat → String → Option (Except Error String)
  | 0, _ => none
  | rounds + 1, r =>
    match compare (.str r) (.str b) with
    | .error e => some (.error e)
    | .ok .lt => some (.ok r)
    | .ok _ =>
      match subtract settings (.str r) (.str b) with
      | .error e => some (.error e)
      | .ok d => reduce settings b rounds d

/-- Brings the digits of the dividend down one by one, with a number of rounds for each. -/
def divide (settings : Settings) (rounds : Nat) (b : String) :
    List Char → String → Option (Except Error String)
  | [], r => some (.ok r)
  | d :: ds, r =>
    match reduce settings b rounds (DigitText.strip (r.push d)) with
    | some (.ok r) => divide settings rounds b ds r
    | stopped => stopped

/-- A smaller number than the divisor is left as it is. -/
theorem reduce_of_lt (settings : Settings) {b r : Numeral} (h : r.value < b.value) (rounds : Nat) :
    reduce settings b.text (rounds + 1) r.text = some (.ok r.text) := by
  rw [reduce, compare_text, Numeral.compare_eq, Nat.compare_eq_lt.2 h]

/-- From every other number the divisor is taken away; the comparison makes the subtraction
succeed. -/
theorem reduce_of_le (settings : Settings) {b r : Numeral} (h : b.value ≤ r.value) (rounds : Nat) :
    reduce settings b.text (rounds + 1) r.text
      = reduce settings b.text rounds (Numeral.ofNat (r.value - b.value)).text := by
  have hdiff : subtract settings (.str r.text) (.str b.text)
      = .ok (Numeral.ofNat (r.value - b.value)).text := by
    rw [subtract_text, Numeral.subtract_eq, if_pos h]
    rfl
  rw [reduce, compare_text, Numeral.compare_eq]
  cases hc : Ord.compare r.value b.value with
  | lt => exact absurd (Nat.compare_eq_lt.1 hc) (Nat.not_lt_of_le h)
  | eq => simp only [hdiff]
  | gt => simp only [hdiff]

theorem reduce_text (settings : Settings) {b : Numeral} (hb : b ≠ .zero) {rounds : Nat}
    (r : Numeral) (h : r.value / b.value < rounds) :
    reduce settings b.text rounds r.text
      = some (.ok (Numeral.ofNat (r.value % b.value)).text) := by
  induction rounds generalizing r with
  | zero => exact absurd h (Nat.not_lt_zero _)
  | succ rounds ih =>
    rcases Nat.lt_or_ge r.value b.value with hlt | hle
    · rw [reduce_of_lt settings hlt, Nat.mod_eq_of_lt hlt, Numeral.ofNat_value]
    · have hrest : (Numeral.ofNat (r.value - b.value)).value / b.value < rounds := by
        rw [Nat.div_eq_sub_div (Numeral.value_pos hb) hle] at h
        rw [Numeral.value_ofNat]
        omega
      rw [reduce_of_le settings hle, ih _ hrest, Numeral.value_ofNat, ← Nat.mod_eq_sub_mod hle]

/-- However few the rounds and whatever the divisor, no subtraction ends in a failure. -/
theorem reduce_ne_error (settings : Settings) (b : Numeral) (rounds : Nat) (r : Numeral)
    (e : Error) : reduce settings b.text rounds r.text ≠ some (.error e) := by
  induction rounds generalizing r with
  | zero => nofun
  | succ rounds ih =>
    rcases Nat.lt_or_ge r.value b.value with hlt | hle
    · rw [reduce_of_lt settings hlt]
      nofun
    · rw [reduce_of_le settings hle]
      exact ih _

theorem strip_push (r : Numeral) (d : Digit) :
    DigitText.strip (r.text.push d.toChar) = (r.push d).text := by
  have htext : r.text.push d.toChar = Digits.text (r.digits ++ [d]) := by
    apply String.toList_inj.1
    rw [String.toList_push, Numeral.text, Digits.toList_text, Digits.toList_text, List.map_append,
      List.map_singleton]
  rw [htext, DigitText.strip_text (List.append_ne_nil_of_right_ne_nil _ (List.cons_ne_nil d []))]
  rfl

/-- Between digits the remainder is below the divisor, so that ten rounds bring the next digit to
an end. -/
theorem divide_text (settings : Settings) {b : Numeral} (hb : b ≠ .zero) {rounds : Nat}
    (hrounds : 9 < rounds) (ds : List Digit) (r : Numeral) (hr : r.value < b.value) :
    divide settings rounds b.text (ds.map Digit.toChar) r.text
      = some ((ds.foldlM (Numeral.divideStep settings.digits b hb) r).map Numeral.text) := by
  induction ds generalizing r with
  | nil => rfl
  | cons d ds ih =>
    have hpos := Numeral.value_pos hb
    have hfit : (r.push d).value / b.value < rounds := by
      have hten : (r.push d).value < b.value * 10 := by
        rw [Numeral.value_push]
        omega
      exact Nat.lt_of_lt_of_le (Nat.div_lt_of_lt_mul hten) hrounds
    rw [List.map_cons, divide, strip_push, reduce_text settings hb _ hfit, List.foldlM_cons,
      Numeral.divideStep_eq, Numeral.value_push]
    exact ih _ (by rw [Numeral.value_ofNat]; exact Nat.mod_lt _ hpos)

end Checked

end Longhand
