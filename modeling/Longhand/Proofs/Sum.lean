import Longhand.Proofs.Checked

/-!
Addition is exact and never fails (`Arithmetic.add_exact`). A sum of texts in which every column
makes its checks comes to the sum of numerals, for operands of any type (`Checked.add_eq`): the
checks fail on the operands or not at all.
-/

namespace Longhand

namespace Checked

/-- Adds characters given least significant digit first; an exhausted text counts as zeros. Gives
the carry that is left over and the finished columns, which are kept in `acc`. -/
def addColumns (s : DigitStrategy) :
    List Char → List Char → Bool → List Char → Except Error (Bool × List Char)
  | [], [], carry, acc => .ok (carry, acc)
  | x :: xs, ys, carry, acc => do
    let y := ys.headD '0'
    let c ← addColumn s (.str (.singleton x)) (.str (.singleton y)) (.int carry.toNat)
    addColumns s xs ys.tail c.carry (c.digit.toChar :: acc)
  | [], y :: ys, carry, acc => do
    let c ← addColumn s (.str (.singleton '0')) (.str (.singleton y)) (.int carry.toNat)
    addColumns s [] ys c.carry (c.digit.toChar :: acc)
termination_by xs ys => xs.length + ys.length

/-- The sum of two texts without leading zeros. A last carry becomes one more digit. -/
def sum (s : DigitStrategy) (a b : String) : Except Error String := do
  let (carry, digits) ← addColumns s a.toList.reverse b.toList.reverse false []
  return String.ofList (if carry then '1' :: digits else digits)

def add (settings : Settings) (a b : Value) : Except Error String := do
  sum settings.digits (← operand a) (← operand b)

/-- On digits every column passes its checks, and the columns are those of the digits. -/
theorem addColumns_digits (s : DigitStrategy) (xs ys : List Digit) (carry : Bool)
    (acc : List Digit) :
    ∃ left digits,
      addColumns s (xs.map Digit.toChar) (ys.map Digit.toChar) carry (acc.map Digit.toChar)
        = .ok (left, digits.map Digit.toChar) ∧
      Digits.addFrom s xs ys carry acc = if left then .one :: digits else digits := by
  fun_induction Digits.addFrom s xs ys carry acc with
  | case1 acc => exact ⟨true, acc, by rw [List.map_nil, addColumns], rfl⟩
  | case2 carry acc hc =>
    have hc := eq_false_of_ne_true hc
    exact ⟨false, acc, by rw [List.map_nil, addColumns, hc], rfl⟩
  | case3 x xs carry acc c ih =>
    obtain ⟨left, digits, hrun, hdigits⟩ := ih
    refine ⟨left, digits, ?_, hdigits⟩
    rw [List.map_cons, addColumns, Digits.headD_map_toChar, addColumn_digits]
    exact hrun
  | case4 y ys carry acc c ih =>
    obtain ⟨left, digits, hrun, hdigits⟩ := ih
    refine ⟨left, digits, ?_, hdigits⟩
    rw [List.map_cons, List.map_nil, addColumns, ← Digit.toChar_zero, addColumn_digits]
    exact hrun
  | case5 x xs y ys carry acc c ih =>
    obtain ⟨left, digits, hrun, hdigits⟩ := ih
    refine ⟨left, digits, ?_, hdigits⟩
    rw [List.map_cons, addColumns, Digits.headD_map_toChar, addColumn_digits]
    exact hrun

theorem sum_text (s : DigitStrategy) (a b : Numeral) :
    sum s a.text b.text = .ok (a.add s b).text := by
  obtain ⟨carry, digits, hrun, hdigits⟩ :=
    addColumns_digits s a.digits.reverse b.digits.reverse false []
  rw [List.map_reverse, List.map_reverse, ← Digits.toList_text, ← Digits.toList_text,
    List.map_nil] at hrun
  rw [sum, Numeral.add]
  simp only [Numeral.text, hrun, hdigits]
  cases carry <;> rfl

/-- The checks of an addition fail on its operands or not at all. -/
theorem add_eq (settings : Settings) (a b : Value) :
    add settings a b = (Arithmetic.add settings a b).map Numeral.text := by
  rw [add, operands_eq (sum_text settings.digits), Arithmetic.add, map_bind]
  rfl

/-- Digit strings are added as the numerals of their digits are. -/
theorem add_digits (settings : Settings) {xs ys : List Digit} (hx : xs ≠ []) (hy : ys ≠ []) :
    add settings (.str (Digits.text xs)) (.str (Digits.text ys))
      = .ok ((Numeral.ofDigits xs).add settings.digits (Numeral.ofDigits ys)).text := by
  rw [add, operand_eq, operand_eq, Numeral.ofValue_text hx, Numeral.ofValue_text hy]
  exact sum_text settings.digits _ _

/-- An addition of numerals reads them as they are. -/
theorem add_text (settings : Settings) (a b : Numeral) :
    add settings (.str a.text) (.str b.text) = .ok (a.add settings.digits b).text := by
  rw [add, operand_text, operand_text]
  exact sum_text settings.digits a b

end Checked

namespace Numeral

theorem add_eq (s : DigitStrategy) (a b : Numeral) : a.add s b = ofNat (a.value + b.value) :=
  ext_value (by rw [value_add, value_ofNat])

end Numeral

namespace Arithmetic

open DigitText (IsValid value)

/-- The sum of two digit strings is the decimal text of the sum of their numbers. Nothing fails on
the way, also with every check made in every column. -/
theorem add_exact (settings : Settings) {a b : String} (ha : IsValid a) (hb : IsValid b) :
    (Arithmetic.add settings (.str a) (.str b)).map Numeral.text
      = .ok (Nat.repr (value a + value b)) ∧
    Checked.add settings (.str a) (.str b) = .ok (Nat.repr (value a + value b)) := by
  obtain ⟨m, hm, hma, -⟩ := ha.exists_numeral
  obtain ⟨n, hn, hnb, -⟩ := hb.exists_numeral
  have hrun : (Arithmetic.add settings (.str a) (.str b)).map Numeral.text
      = .ok (Nat.repr (value a + value b)) := by
    rw [Arithmetic.add, Arithmetic.operands, hm, hn, ← hma, ← hnb,
      ← Numeral.value_add settings.digits, ← Numeral.text_eq_repr]
    rfl
  exact ⟨hrun, (Checked.add_eq settings _ _).trans hrun⟩

/-- The carry runs past the longer operand and becomes a digit of its own. -/
theorem add_exact_carries :
    IsValid "00999" ∧ IsValid "01" ∧
    (Arithmetic.add { digits := .counting } (.str "00999") (.str "01")).map Numeral.text
      = .ok "1000" ∧
    Checked.add { digits := .counting } (.str "00999") (.str "01") = .ok "1000" :=
  ⟨by decide, by decide, add_exact _ (by decide) (by decide)⟩

end Arithmetic

end Longhand
