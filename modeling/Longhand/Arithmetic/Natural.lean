import Longhand.Arithmetic.Operation
import Longhand.Contract.Catalog
import Longhand.Result

/-!
The operations on natural numbers given as integers or as texts. Texts are checked against the
contract for digit strings. Sums and products always exist; a difference or remainder comes as a
`Result`, which reports that there is none, and any other failure escapes.
-/

namespace Longhand

namespace Natural

/-- Reads a natural number: an integer, or a digit string that keeps its contract. -/
def parse : Value → Except Error Numeral
  | .int n => Numeral.ofInteger (.int n)
  | v =>
    match Contract.digitSequence.check v with
    | .ok () => Numeral.ofValue v
    | .error (.contract violation) => do
      throw (.engine (.malformed (.rejected (← v.shown) violation)))
    | .error e => .error e

def operands (a b : Value) : Except Error (Numeral × Numeral) := do
  let a ← parse a
  let b ← parse b
  return (a, b)

def add (settings : Settings) (a b : Value) : Except Error Numeral := do
  let (a, b) ← operands a b
  return a.add settings.digits b

def multiply (settings : Settings) (a b : Value) : Except Error Numeral := do
  let (a, b) ← operands a b
  return a.multiply settings.digits b

/-- Turns what an operation came to into a result: its value, or the report that there is none.
The result is checked against its contract. -/
def report (op : Operation) (a b : Numeral) (computed : Traced Numeral) : Traced Result :=
  match computed.outcome with
  | .ok n => checked (.success op n) computed.log
  | .error (.engine cause) =>
    if cause.fault.refines .domain then
      checked (.failure op cause.fault cause.message)
        (computed.log ++ [.rejected op.name a.text b.text cause.fault.code])
    else ⟨.error (.engine cause), computed.log⟩
  | .error e => ⟨.error e, computed.log⟩
where
  /-- A result that keeps its contract. -/
  checked (r : Result) (log : List Event) : Traced Result :=
    ⟨(Contract.naturalResult.check r.toContract).map fun _ => r, log⟩

/-- The difference of two natural numbers, or the report that it is negative. -/
def subtract (settings : Settings) (a b : Value) : Traced Result := do
  let (a, b) ← operands a b
  report .subtract a b (.ofExcept (a.subtract settings.digits b))

/-- The remainder of two natural numbers, or the report that the divisor is zero. -/
def modulo (settings : Settings) (a b : Value) : Traced Result := do
  let (a, b) ← operands a b
  report .modulo a b (a.modulo settings b)

end Natural

end Longhand
