/-!
The kinds of failure that the program reports by code. The kinds form a tree (`Fault.parent`);
a stored result may name the registered ones only, and any other code reads as the root kind
(`Fault.ofCode`).
-/

namespace Longhand

/-- A coded kind of failure. -/
inductive Fault where
  /-- The root of all kinds. -/
  | engine
  /-- An operand is not a digit string. -/
  | malformedInput
  /-- The result is not a natural number. -/
  | domain
  | negativeResult
  | divisionByZero
  /-- An internal limit or invariant does not hold. -/
  | precondition
  /-- Call arguments fit no stage of a shape. -/
  | signatureMismatch
  /-- A function cannot be curried. -/
  | unsupportedSignature
deriving DecidableEq, Repr, Inhabited

inductive FaultFamily where
  | invalidValue | invalidType | zeroDivision | arithmetic
deriving DecidableEq, Repr, Inhabited

namespace Fault

/-- The code of a kind, as results store it. -/
def code : Fault → String
  | .engine => "symbolic_engine_error"
  | .malformedInput => "malformed_input"
  | .domain => "domain_error"
  | .negativeResult => "negative_result"
  | .divisionByZero => "division_by_zero"
  | .precondition => "precondition_violation"
  | .signatureMismatch => "signature_mismatch"
  | .unsupportedSignature => "unsupported_signature"

/-- The kinds, the root first. -/
def all : List Fault :=
  [.engine, .malformedInput, .domain, .negativeResult, .divisionByZero, .precondition,
    .signatureMismatch, .unsupportedSignature]

def parent : Fault → Option Fault
  | .engine => none
  | .negativeResult | .divisionByZero => some .domain
  | _ => some .engine

/-- Whether a kind is another kind or refines it. The tree has three levels. -/
def refines (f g : Fault) : Bool :=
  f = g || f.parent = some g || (f.parent.bind parent) = some g

def families : Fault → List FaultFamily
  | .malformedInput | .unsupportedSignature => [.invalidValue]
  | .divisionByZero => [.zeroDivision, .arithmetic]
  | .signatureMismatch => [.invalidType]
  | _ => []

def registered : List Fault :=
  [.engine, .malformedInput, .domain, .negativeResult, .divisionByZero, .precondition]

def ofCode? (code : String) : Option Fault := registered.find? fun f => f.code == code

/-- The kind that a stored code stands for; an unknown code stands for the root kind. -/
def ofCode (code : String) : Fault := (ofCode? code).getD .engine

theorem ofCode?_code {f : Fault} (h : f ∈ registered) : ofCode? f.code = some f := by
  revert f; decide

end Fault

end Longhand
