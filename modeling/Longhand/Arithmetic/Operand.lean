import Longhand.Numeral.Conversion
import Longhand.Value.Shown

/-!
Reading operands. Digits, flags and digit strings come as values of any type and are checked here;
what passes is typed, so the operations need no checks of their own.
-/

namespace Longhand

/-- The single character of a text. -/
def singleChar? : List Char → Option Char
  | [c] => some c
  | _ => none

namespace Digit

/-- The digit that a value spells: a text of exactly one of the ten digits. -/
def ofValue? : Value → Option Digit
  | .str s => (singleChar? s.toList).bind ofChar?
  | _ => none

def ofValue (v : Value) : Except Error Digit :=
  match ofValue? v with
  | some d => .ok d
  | none => do throw (.engine (.malformed (.notDigit (← v.shown))))

def text (d : Digit) : String := String.singleton d.toChar

def increment (v : Value) : Except Error Digit := do
  match (← ofValue v).succ? with
  | some d => return d
  | none => throw (.engine (.precondition .incrementNine))

def decrement (v : Value) : Except Error Digit := do
  match (← ofValue v).pred? with
  | some d => return d
  | none => throw (.engine (.precondition .decrementZero))

end Digit

/-- Reads a carry or borrow: the integers 0 and 1 only, no truth values and no fractions. -/
def flagOfValue (name : String) : Value → Except Error Bool
  | .int 0 => .ok false
  | .int 1 => .ok true
  | v => do throw (.engine (.precondition (.flag name (← v.shown))))

namespace DigitStrategy

/-- Adds one column. The digits are read before the carry. -/
def addValues (s : DigitStrategy) (x y carry : Value) : Except Error Column := do
  let x ← Digit.ofValue x
  let y ← Digit.ofValue y
  return s.add x y (← flagOfValue "carry_in" carry)

/-- Subtracts one column. The digits are read before the borrow. -/
def subtractValues (s : DigitStrategy) (x y borrow : Value) : Except Error Column := do
  let x ← Digit.ofValue x
  let y ← Digit.ofValue y
  return s.subtract x y (← flagOfValue "borrow_in" borrow)

end DigitStrategy

namespace Digits

/-- Reads digits from a position on; the first other character is reported with its position. -/
def ofChars (position : Nat) : List Char → Except Error (List Digit)
  | [] => .ok []
  | c :: cs =>
    match Digit.ofChar? c with
    | some d => do return d :: (← ofChars (position + 1) cs)
    | none =>
      .error (.engine (.malformed (.character (Quoted.string (String.singleton c)) position)))

/-- Reads a digit string: a text of one or more of the ten digits. Leading zeros are kept. -/
def ofValue : Value → Except Error (List Digit)
  | .str s =>
    if s.toList = [] then .error (.engine (.malformed .empty)) else ofChars 0 s.toList
  | v => .error (.engine (.malformed (.notText v.typeName)))

/-- The number that a digit string denotes, within the conversion limit; leading zeros count
towards its length. -/
def toNat (v : Value) : Except Error Nat := do
  let ds ← ofValue v
  if ds.length ≤ digitLimit then return value ds
  else throw (.engine (.malformed (.unreadable (.reading ds.length))))

end Digits

namespace Numeral

/-- Reads a digit string and drops its leading zeros. -/
def ofValue (v : Value) : Except Error Numeral := do
  return ofDigits (← Digits.ofValue v)

/-- The numeral of a natural number within the conversion limit. Truth values are no numbers
here. -/
def ofInteger : Value → Except Error Numeral
  | .int n =>
    if n < 0 then do throw (.engine (.malformed (.negative (← intText n))))
    else if n.toNat < tenPow digitLimit then .ok (ofNat n.toNat)
    else .error (.engine (.malformed (.unprintable .printing)))
  | v => .error (.engine (.malformed (.notNatural v.typeName)))

end Numeral

/-! Views of a text as a digit string that may still be empty. -/

namespace DigitText

def dropLast (s : String) : Except Error String :=
  if s.toList = [] then .error (.engine (.malformed .emptyInit))
  else .ok (String.ofList s.toList.dropLast)

/-- The last character, which must be a digit. -/
def last (s : String) : Except Error Digit :=
  match s.toList.getLast? with
  | none => .error (.engine (.malformed .emptyLast))
  | some c =>
    match Digit.ofChar? c with
    | some d => .ok d
    | none => .error (.engine (.malformed (.lastNotDigit (Quoted.string (String.singleton c)))))

/-- The text without its leading zeros, of which the last character always stays. -/
def strip (s : String) : String := String.ofList (stripLeading '0' s.toList)

/-- Whether a text is not empty and has no leading zero, or is the text of zero. -/
def isNormal (s : String) : Bool :=
  match s.toList with
  | [] => false
  | c :: rest => c ≠ '0' || rest.isEmpty

end DigitText

end Longhand
