/-!
Single decimal digits. Two step functions add or subtract one column with an incoming flag:
one looks the answer up by value, the other counts one unit at a time. They agree on every
column (`DigitStrategy.add_eq_table`, `DigitStrategy.subtract_eq_table`), and the column
equations `add_value` and `subtract_value` say what a column means.
-/

namespace Longhand

/-- A decimal digit by its value. -/
abbrev Digit := Fin 10

namespace Digit

def zero : Digit := ⟨0, by decide⟩

def one : Digit := ⟨1, by decide⟩

def nine : Digit := ⟨9, by decide⟩

@[simp] theorem val_zero : zero.val = 0 := rfl

@[simp] theorem val_one : one.val = 1 := rfl

def toChar (d : Digit) : Char := Char.ofNat (48 + d.val)

/-- Reads one of the ten ASCII digits; no other character is a digit. -/
def ofChar? (c : Char) : Option Digit :=
  if h : 48 ≤ c.toNat ∧ c.toNat < 58 then some ⟨c.toNat - 48, by omega⟩ else none

@[simp] theorem ofChar?_toChar (d : Digit) : ofChar? d.toChar = some d := by
  revert d; decide

theorem toChar_of_ofChar? {c : Char} {d : Digit} (h : ofChar? c = some d) : d.toChar = c := by
  unfold ofChar? at h
  split at h
  · rename_i hc
    cases h
    simp only [toChar]
    rw [Nat.add_sub_cancel' hc.1]
    exact Char.ofNat_toNat c
  · cases h

/-- The next digit; nine has none. -/
def succ? (d : Digit) : Option Digit :=
  if h : d.val + 1 < 10 then some ⟨d.val + 1, h⟩ else none

/-- The digit before; zero has none. -/
def pred? (d : Digit) : Option Digit :=
  if 0 < d.val then some ⟨d.val - 1, by omega⟩ else none

end Digit

/-- The outcome of one column: the outgoing carry or borrow, and the digit that stays. -/
structure Column where
  carry : Bool
  digit : Digit
deriving DecidableEq, Repr

namespace Column

/-- One unit more: nine wraps to zero and sets the carry. -/
def up (s : Column) : Column :=
  match s.digit.succ? with
  | some d => ⟨s.carry, d⟩
  | none => ⟨true, .zero⟩

/-- One unit less: zero wraps to nine and sets the borrow. -/
def down (s : Column) : Column :=
  match s.digit.pred? with
  | some d => ⟨s.carry, d⟩
  | none => ⟨true, .nine⟩

end Column

inductive DigitStrategy where
  | table
  | counting
deriving DecidableEq, Repr, Inhabited

namespace DigitStrategy

/-- The sum of a column by value. -/
def addTable (x y : Digit) (carry : Bool) : Column :=
  let total := x.val + y.val + carry.toNat
  if 9 < total then ⟨true, Fin.ofNat 10 (total - 10)⟩ else ⟨false, Fin.ofNat 10 total⟩

/-- The sum of a column by moving the units of the first digit to the second, then the carry. -/
def addCounting (x y : Digit) (carry : Bool) : Column :=
  let moved := Nat.repeat Column.up x.val ⟨false, y⟩
  if carry then moved.up else moved

/-- The difference of a column by value. -/
def subtractTable (x y : Digit) (borrow : Bool) : Column :=
  let taken := y.val + borrow.toNat
  if x.val < taken then ⟨true, Fin.ofNat 10 (10 + x.val - taken)⟩
  else ⟨false, Fin.ofNat 10 (x.val - taken)⟩

/-- The difference of a column by taking the units of the second digit away, then the borrow. -/
def subtractCounting (x y : Digit) (borrow : Bool) : Column :=
  let left := Nat.repeat Column.down y.val ⟨false, x⟩
  if borrow then left.down else left

def add : DigitStrategy → Digit → Digit → Bool → Column
  | .table => addTable
  | .counting => addCounting

def subtract : DigitStrategy → Digit → Digit → Bool → Column
  | .table => subtractTable
  | .counting => subtractCounting

theorem addCounting_eq_addTable (x y : Digit) (c : Bool) :
    addCounting x y c = addTable x y c := by
  revert x y c; decide +kernel

theorem subtractCounting_eq_subtractTable (x y : Digit) (c : Bool) :
    subtractCounting x y c = subtractTable x y c := by
  revert x y c; decide +kernel

theorem add_eq_table (s : DigitStrategy) : s.add = table.add := by
  cases s with
  | table => rfl
  | counting => funext x y c; exact addCounting_eq_addTable x y c

theorem subtract_eq_table (s : DigitStrategy) : s.subtract = table.subtract := by
  cases s with
  | table => rfl
  | counting => funext x y c; exact subtractCounting_eq_subtractTable x y c

/-- A column keeps the sum of its digits and its incoming carry. -/
theorem add_value (s : DigitStrategy) (x y : Digit) (c : Bool) :
    10 * (s.add x y c).carry.toNat + (s.add x y c).digit.val = x.val + y.val + c.toNat := by
  rw [add_eq_table]
  revert x y c; decide +kernel

/-- A column keeps the minuend: what is left, what was taken, less ten for a borrow. -/
theorem subtract_value (s : DigitStrategy) (x y : Digit) (c : Bool) :
    (s.subtract x y c).digit.val + y.val + c.toNat
      = x.val + 10 * (s.subtract x y c).carry.toNat := by
  rw [subtract_eq_table]
  revert x y c; decide +kernel

end DigitStrategy

end Longhand
