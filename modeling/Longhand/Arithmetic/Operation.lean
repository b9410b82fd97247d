import Longhand.Arithmetic.Operand
import Longhand.Arithmetic.Remainder
import Longhand.Numeral.Product

/-!
The operations on operands of any type. Both operands are read, the first one first, before
anything is computed or logged.
-/

namespace Longhand

namespace Arithmetic

def operands (a b : Value) : Except Error (Numeral × Numeral) := do
  let a ← Numeral.ofValue a
  let b ← Numeral.ofValue b
  return (a, b)

/-- Which operand denotes the larger number. -/
def compare (a b : Value) : Except Error Ordering := do
  let (a, b) ← operands a b
  return a.compare b

def add (settings : Settings) (a b : Value) : Except Error Numeral := do
  let (a, b) ← operands a b
  return a.add settings.digits b

/-- The difference of two operands; a larger subtrahend is refused. -/
def subtract (settings : Settings) (a b : Value) : Except Error Numeral := do
  let (a, b) ← operands a b
  a.subtract settings.digits b

def multiply (settings : Settings) (a b : Value) : Except Error Numeral := do
  let (a, b) ← operands a b
  return a.multiply settings.digits b

/-- The remainder of two operands; a zero divisor is refused. -/
def modulo (settings : Settings) (a b : Value) : Traced Numeral := do
  let (a, b) ← operands a b
  Numeral.modulo settings a b

end Arithmetic

end Longhand
