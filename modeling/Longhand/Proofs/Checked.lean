import Longhand.Arithmetic.Operation
import Longhand.Proofs.DigitString
import Longhand.Proofs.Outcome

/-!
Arithmetic on plain texts with every check made. A call reads its operands whoever makes it, a
column reads both digits and its flag, and each unit that is counted reads the digits it changes.
Columns of digits fail no check (`Checked.addColumn_digits`, `Checked.subtractColumn_digits`), and
reading is the same as for numerals (`Checked.operand_eq`).
-/

namespace Longhand

namespace Digit

@[simp] theorem ofValue_text (d : Digit) : ofValue (.str d.text) = .ok d := by
  simp [ofValue, ofValue?, text, singleChar?]

theorem increment_text {d e : Digit} (h : d.succ? = some e) : increment (.str d.text) = .ok e := by
  rw [increment, ofValue_text]
  simp only [bind, Except.bind, h]
  rfl

theorem decrement_text {d e : Digit} (h : d.pred? = some e) : decrement (.str d.text) = .ok e := by
  rw [decrement, ofValue_text]
  simp only [bind, Except.bind, h]
  rfl

/-- A digit that can be counted down is the lower one and one unit more. -/
theorem val_of_decrement {d e : Digit} (h : decrement (.str d.text) = .ok e) :
    e.val + 1 = d.val := by
  by_cases hd : 0 < d.val
  · have hp : d.pred? = some ⟨d.val - 1, by omega⟩ := if_pos hd
    rw [decrement_text hp] at h
    cases h
    exact Nat.sub_add_cancel hd
  · rw [decrement, ofValue_text] at h
    simp only [bind, Except.bind, pred?, if_neg hd] at h
    cases h

theorem exists_decrement {d : Digit} (h : d ≠ .zero) : ∃ e, decrement (.str d.text) = .ok e := by
  have hd : 0 < d.val := Nat.pos_of_ne_zero fun h0 => h (Fin.ext h0)
  exact ⟨_, decrement_text (if_pos hd)⟩

end Digit

theorem flagOfValue_toNat (name : String) (c : Bool) :
    flagOfValue name (.int c.toNat) = .ok c := by
  cases c <;> rfl

namespace Arithmetic

theorem operands_of_ofValue {a b : Value} {m n : Numeral} (ha : Numeral.ofValue a = .ok m)
    (hb : Numeral.ofValue b = .ok n) : operands a b = .ok (m, n) := by
  rw [operands, ha, hb]
  rfl

end Arithmetic

namespace Checked

/-- One unit more: nine wraps to zero and sets the carry, every other digit is read. -/
def up (c : Column) : Except Error Column :=
  if c.digit = .nine then .ok ⟨true, .zero⟩
  else do return ⟨c.carry, ← Digit.increment (.str c.digit.text)⟩

/-- One unit less: zero wraps to nine and sets the borrow, every other digit is read. -/
def down (c : Column) : Except Error Column :=
  if c.digit = .zero then .ok ⟨true, .nine⟩
  else do return ⟨c.carry, ← Digit.decrement (.str c.digit.text)⟩

/-- Makes a step for every unit of a digit, which is read each time it is counted down. -/
def count (step : Column → Except Error Column) (counter : Digit) (c : Column) :
    Except Error Column :=
  if counter = .zero then .ok c
  else
    match _h : Digit.decrement (.str counter.text) with
    | .ok rest => do count step rest (← step c)
    | .error e => .error e
termination_by counter.val
decreasing_by
  have := Digit.val_of_decrement _h
  omega

/-- Adds one column by counting. -/
def addCounting (x y : Digit) (carry : Bool) : Except Error Column := do
  let moved ← count up x ⟨false, y⟩
  if carry then up moved else return moved

/-- Subtracts one column by counting. -/
def subtractCounting (x y : Digit) (borrow : Bool) : Except Error Column := do
  let left ← count down y ⟨false, x⟩
  if borrow then down left else return left

/-- Adds one column; digits and carry are read first. -/
def addColumn (s : DigitStrategy) (x y carry : Value) : Except Error Column := do
  let x ← Digit.ofValue x
  let y ← Digit.ofValue y
  let c ← flagOfValue "carry_in" carry
  match s with
  | .table => return DigitStrategy.addTable x y c
  | .counting => addCounting x y c

/-- Subtracts one column; digits and borrow are read first. -/
def subtractColumn (s : DigitStrategy) (x y borrow : Value) : Except Error Column := do
  let x ← Digit.ofValue x
  let y ← Digit.ofValue y
  let c ← flagOfValue "borrow_in" borrow
  match s with
  | .table => return DigitStrategy.subtractTable x y c
  | .counting => subtractCounting x y c

theorem up_eq (c : Column) : up c = .ok c.up := by
  rw [up, Column.up]
  split
  · rename_i h
    rw [h]
    rfl
  · rename_i h
    have hd : c.digit.val + 1 < 10 := by
      have := mt Fin.ext h
      have := c.digit.isLt
      simp only [Digit.nine] at *
      omega
    have hs : c.digit.succ? = some ⟨c.digit.val + 1, hd⟩ := dif_pos hd
    rw [Digit.increment_text hs, hs]
    rfl

theorem down_eq (c : Column) : down c = .ok c.down := by
  rw [down, Column.down]
  split
  · rename_i h
    rw [h]
    rfl
  · rename_i h
    have hd : 0 < c.digit.val := Nat.pos_of_ne_zero fun h0 => h (Fin.ext h0)
    have hp : c.digit.pred? = some ⟨c.digit.val - 1, by omega⟩ := if_pos hd
    rw [Digit.decrement_text hp, hp]
    rfl

theorem repeat_shift {α : Type} (f : α → α) (n : Nat) (a : α) :
    Nat.repeat f n (f a) = Nat.repeat f (n + 1) a := by
  induction n with
  | zero => rfl
  | succ n ih => exact congrArg f ih

/-- A step that never fails is made as often as the digit has units. -/
theorem count_eq {step : Column → Except Error Column} {f : Column → Column}
    (h : ∀ c, step c = .ok (f c)) (counter : Digit) (c : Column) :
    count step counter c = .ok (Nat.repeat f counter.val c) := by
  fun_induction count step counter c with
  | case1 c => rfl
  | case2 counter c hz rest hrest ih =>
    rw [h, ← Digit.val_of_decrement hrest, ← repeat_shift]
    exact ih (f c)
  | case3 counter c hz e he =>
    obtain ⟨d, hd⟩ := Digit.exists_decrement hz
    rw [hd] at he
    cases he

theorem addCounting_eq (x y : Digit) (c : Bool) :
    addCounting x y c = .ok (DigitStrategy.addCounting x y c) := by
  rw [addCounting, count_eq up_eq, DigitStrategy.addCounting]
  cases c with
  | false => rfl
  | true => exact up_eq _

theorem subtractCounting_eq (x y : Digit) (c : Bool) :
    subtractCounting x y c = .ok (DigitStrategy.subtractCounting x y c) := by
  rw [subtractCounting, count_eq down_eq, DigitStrategy.subtractCounting]
  cases c with
  | false => rfl
  | true => exact down_eq _

/-- The checks of counting never fail, so a sum column fails only on what it reads. -/
theorem addColumn_eq (s : DigitStrategy) (x y carry : Value) :
    addColumn s x y carry = s.addValues x y carry := by
  cases s with
  | table => rfl
  | counting =>
    rw [addColumn, DigitStrategy.addValues]
    simp only [addCounting_eq]
    rfl

/-- The checks of counting never fail, so a difference column fails only on what it reads. -/
theorem subtractColumn_eq (s : DigitStrategy) (x y borrow : Value) :
    subtractColumn s x y borrow = s.subtractValues x y borrow := by
  cases s with
  | table => rfl
  | counting =>
    rw [subtractColumn, DigitStrategy.subtractValues]
    simp only [subtractCounting_eq]
    rfl

/-- A sum column of two digits and a carry passes its checks. -/
theorem addColumn_digits (s : DigitStrategy) (x y : Digit) (c : Bool) :
    addColumn s (.str (.singleton x.toChar)) (.str (.singleton y.toChar)) (.int c.toNat)
      = .ok (s.add x y c) := by
  show addColumn s (.str x.text) (.str y.text) (.int c.toNat) = _
  rw [addColumn_eq, DigitStrategy.addValues, Digit.ofValue_text, Digit.ofValue_text,
    flagOfValue_toNat]
  rfl

/-- A difference column of two digits and a borrow passes its checks. -/
theorem subtractColumn_digits (s : DigitStrategy) (x y : Digit) (c : Bool) :
    subtractColumn s (.str (.singleton x.toChar)) (.str (.singleton y.toChar)) (.int c.toNat)
      = .ok (s.subtract x y c) := by
  show subtractColumn s (.str x.text) (.str y.text) (.int c.toNat) = _
  rw [subtractColumn_eq, DigitStrategy.subtractValues, Digit.ofValue_text, Digit.ofValue_text,
    flagOfValue_toNat]
  rfl

/-! Operands -/

/-- Reads an operand as a text without leading zeros. -/
def operand (v : Value) : Except Error String := do
  return DigitText.strip (Digits.text (← Digits.ofValue v))

theorem operand_eq (v : Value) : operand v = (Numeral.ofValue v).map Numeral.text := by
  rw [operand, Numeral.ofValue]
  cases h : Digits.ofValue v with
  | error e => rfl
  | ok ds => exact congrArg Except.ok (DigitText.strip_text (Digits.ne_nil_of_ofValue h))

/-- A numeral is read as it is written. -/
theorem operand_text (n : Numeral) : operand (.str n.text) = .ok n.text := by
  rw [operand_eq, Numeral.ofValue_numeral]
  rfl

/-- Operations that agree on numerals agree on operands of any type. -/
theorem operands_eq {β : Type} {f : String → String → Except Error β}
    {g : Numeral → Numeral → Except Error β} (h : ∀ a b : Numeral, f a.text b.text = g a b)
    (a b : Value) :
    (do f (← operand a) (← operand b)) = (do
      let (a, b) ← Arithmetic.operands a b
      g a b) := by
  rw [operand_eq, operand_eq, Arithmetic.operands]
  cases Numeral.ofValue a with
  | error e => rfl
  | ok x =>
    cases Numeral.ofValue b with
    | error e => rfl
    | ok y => exact h x y

end Checked

end Longhand
