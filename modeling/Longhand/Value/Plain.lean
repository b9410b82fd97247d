import Longhand.Decimal.Shortest
import Longhand.Error
import Longhand.Text.Encoding

/-!
The plain data of a value: nothing but null, truth values, numbers, texts, lists and mappings.
Tuples become lists and records mappings of their fields, bytes become the text that they spell,
and complex numbers their text. Types and other objects have no plain data.
-/

namespace Longhand

/-- A complex number as plain text, without exponents: the imaginary part alone if the real part
is zero. -/
def complexData (re im : Float) : String :=
  let part (x : Float) : String := if x.isNaN then "NaN" else Shortest.text .positional x
  let imaginary := part im ++ "j"
  if re == 0 then imaginary
  else part re ++ (if im ≥ 0 then "+" else "") ++ imaginary

def bytesData (bs : List UInt8) : Except Error String := do
  let spoilt (fault : Encoding.Fault) (run : List UInt8) : Except Error (List Char) :=
    .error (.notPlain (.notText (String.ofList (Quoted.hex 2 (run.headD 0).toNat)) fault.start))
  return String.ofList (← Encoding.utf8.decode spoilt (bs.length + 1) 0 bs)

namespace Value

/-- The type of a value as it is shown, with the module that defines it. -/
def shownType (v : Value) : String :=
  let name := match v with
    | .object c _ => (Class.defined c).qualifiedName
    | .generic (.builtin _) _ | .generic (.union true) _ => "types." ++ v.typeName
    | .any | .variable _ | .generic _ _ => "typing." ++ v.typeName
    | v => v.typeName
  "<class '" ++ name ++ "'>"

/-- The plain data of a value. Numbers that are not finite become null. -/
def plain : Value → Except Error Value
  | .null => .ok .null
  | .bool b => .ok (.bool b)
  | .int n => .ok (.int n)
  | .float x => .ok (if x.isFinite then .float x else .null)
  | .complex re im => .ok (.str (complexData re im))
  | .str s => .ok (.str s)
  | .bytes bs => return .str (← bytesData bs)
  | .list vs | .tuple vs => return .list (← plainAll vs)
  | .dict entries | .record _ entries => return .dict (← plainEntries entries)
  | v => .error (.notPlain (.unknownType v.shownType))
where
  plainAll : List Value → Except Error (List Value)
  | [] => .ok []
  | v :: vs => do return (← v.plain) :: (← plainAll vs)
  plainEntries : List (String × Value) → Except Error (List (String × Value))
  | [] => .ok []
  | (k, v) :: rest => do return (k, ← v.plain) :: (← plainEntries rest)

end Value

end Longhand
