import Longhand.Decimal.Shortest
import Longhand.Error

/-!
Reading the fields of a record from named values. A field that cannot be read is a list of
problems; reading two fields lists the problems of both, the first field's first (`Read.both`).
Which values a field takes for its type, and what it reports of the others, is the documented
behaviour of the checks that records declare, and is assumed of whatever performs them.
-/

namespace Longhand

/-- Named values, from which a record is built. Names that a record does not know are ignored. -/
abbrev Fields := List (String × Value)

/-- A field that was read, or all that is wrong with it. -/
abbrev Read (α : Type) := Except (List Problem) α

namespace Read

variable {α β : Type}

def both (a : Read α) (b : Read β) : Read (α × β) :=
  match a, b with
  | .ok x, .ok y => .ok (x, y)
  | .ok _, .error ps => .error ps
  | .error ps, .ok _ => .error ps
  | .error ps, .error qs => .error (ps ++ qs)

def problem (name : String) (defect : Defect) : Read α :=
  .error [⟨[.field name], defect⟩]

def under (steps : List Place) : Read α → Read α
  | .ok a => .ok a
  | .error ps => .error (ps.map fun p => { p with place := steps ++ p.place })

def required (fields : Fields) (name : String) (read : Value → Read α) : Read α :=
  match Value.lookup fields name with
  | some v => read v
  | none => problem name .missing

def optional (fields : Fields) (name : String) (default : α) (read : Value → Read α) : Read α :=
  match Value.lookup fields name with
  | some v => read v
  | none => .ok default

/-- The items of a list or tuple; no other value is taken for a tuple. -/
def items (name : String) : Value → Read (List Value)
  | .list vs => .ok vs
  | .tuple vs => .ok vs
  | _ => problem name .notTuple

/-- A value that is text: a string, or bytes that hold one. -/
def text (name : String) : Value → Read String
  | .str s => .ok s
  | .bytes bs =>
    match String.fromUTF8? ⟨bs.toArray⟩ with
    | some s => .ok s
    | none => problem name .notUnicode
  | _ => problem name .notString

/-- Text, or nothing for the null value. -/
def text? (name : String) : Value → Read (Option String)
  | .null => .ok none
  | v => (text name v).map some

def trueWords : List String := ["1", "t", "y", "on", "true", "yes"]

def falseWords : List String := ["0", "f", "n", "off", "false", "no"]

/-- A truth value by its word, whatever the case. -/
def wordBool (name : String) (s : String) : Read Bool :=
  let word := s.toLower
  if trueWords.contains word then .ok true
  else if falseWords.contains word then .ok false
  else problem name .unreadableBool

/-- A truth value by its number. Only zero and one are one; other integers of 64 bits are
unreadable, and larger ones have the wrong type. -/
def numberBool (name : String) (n : Int) : Read Bool :=
  if n = 0 then .ok false
  else if n = 1 then .ok true
  else if -0x8000000000000000 ≤ n ∧ n < 0x8000000000000000 then problem name .unreadableBool
  else problem name .notBool

/-- The integer that a floating-point number is. The least integer of 64 bits is left out. -/
def wholeNumber? (x : Float) : Option Int := do
  let (num, den) ← exactRatio? x
  let n := num.fdiv den
  if n * den = num ∧ n ≠ -0x8000000000000000 then some n else none

/-- A truth value, also given as a number or a word. Fractions have the wrong type. -/
def bool (name : String) : Value → Read Bool
  | .bool b => .ok b
  | .str s => wordBool name s
  | .bytes bs =>
    match String.fromUTF8? ⟨bs.toArray⟩ with
    | some s => wordBool name s
    | none => problem name .unreadableBool
  | .int n => numberBool name n
  | .float x =>
    match wholeNumber? x with
    | some n => numberBool name n
    | none => problem name .notBool
  | _ => problem name .notBool

def record (kind : RecordKind) : Read α → Except Error α
  | .ok a => .ok a
  | .error ps => .error (.record kind ps)

end Read

/-- The failure of a change to a field: records never change. -/
def frozenField (kind : RecordKind) (name : String) : Error :=
  .record kind [⟨[.field name], .frozen⟩]

end Longhand
