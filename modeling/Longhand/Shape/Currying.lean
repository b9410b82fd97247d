import Longhand.Shape.Basic
import Longhand.Traced

/-!
Currying of parameter lists: into the choice of all two-stage calls, or into a chain of calls with
one argument each.
-/

namespace Longhand

/-- The parameter types that a value stands for: those of a plain shape, or its items. -/
def Value.parameters : Value → Except Error (List Value)
  | .record .shape [("params", .tuple params), ("result", _)] => .ok params
  | v => v.sequence

/-- A fully curried call: a chain, or the plain call if there is nothing to curry. -/
inductive Curried where
  | plain (shape : Shape)
  | chain (chain : Chain)
deriving Inhabited

namespace Curried

def params : Curried → List Value
  | .plain s => s.params
  | .chain c => c.params

def arity : Curried → Nat
  | .plain s => s.arity
  | .chain c => c.arity

def render : Curried → Except Error String
  | .plain s => s.render
  | .chain c => c.render

def toValue : Curried → Value
  | .plain s => s.toValue
  | .chain c => c.toValue

end Curried

/-- One two-stage call for each partition of the parameters. -/
def partialCurry (params : List Value) (result : Value) : Traced Overloads :=
  let signatures := (Partition.splits params).map (Signature.ofPartition · result)
  have nonempty : signatures ≠ [] := by
    simp [signatures, ← List.length_pos_iff, Partition.length_splits]
  Traced.after (.partiallyCurried params.length signatures.length) (pure ⟨signatures, nonempty⟩)

/-- One stage for each parameter. -/
def fullCurry (params : List Value) (result : Value) : Traced Curried :=
  match params with
  | [] => pure (.plain ⟨[], result⟩)
  | p :: rest =>
    Traced.after (.fullyCurried (rest.length + 1)) (pure (.chain ⟨p, rest, result⟩))

end Longhand
