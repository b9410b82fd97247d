import Longhand.Shape.Currying

/-!
Functions bound to a curried shape. A call checks its arguments and either gives the function for
the next stage, or hands the collected arguments to the bound function, or refuses them; the bound
function is called in the second case only. Which values belong to a class is up to the class, and
the test for it may fail; so it comes from outside, and its failure ends the call.
-/

namespace Longhand

/-- The test for the members of classes. -/
abbrev MemberTest := Class → Value → Except Error Bool

/-- The classes whose members may stand for those of a class, in the order in which they are tested.
Integers pass for floating-point numbers, and both for complex ones. -/
def Class.promoted : Class → List Class
  | .float => [.int, .float]
  | .complex => [.int, .float, .complex]
  | c => [c]

section

variable (belongs : MemberTest)

/-- Whether an argument may stand for a parameter. A type that cannot be tested takes everything. -/
def accepts (param arg : Value) : Except Error Bool :=
  match param with
  | .type c => c.promoted.anyM fun d => belongs d arg
  | _ => .ok true

/-- Whether arguments fit parameters, one for one. The first that does not ends the test. -/
def fits (params args : List Value) : Except Error Bool :=
  if params.length = args.length then
    (params.zip args).allM fun pair => accepts belongs pair.1 pair.2
  else .ok false

end

/-- The types of arguments, as they are named when refused. -/
def describe (args : List Value) : String := bracketed "(" ")" (args.map Value.typeName)

/-- A function bound to a shape, after some of its stages. -/
inductive Bound where
  /-- The function itself. -/
  | direct
  | choice (shape : Overloads)
  | second (signature : Signature) (first : List Value)
  /-- Waits for the argument of `param`; the arguments before it are collected. -/
  | stage (collected : List Value) (param : Value) (rest : List Value)

/-- What a call leads to: a further function, or a call of the bound function. -/
inductive Step where
  | further (next : Bound)
  | invoke (args : List Value)

namespace Bound

/-- Binds to a choice of two-stage calls. If all take no arguments there is nothing to bind. -/
def ofOverloads (shape : Overloads) : Bound :=
  if shape.signatures.all fun s => s.arity = 0 then .direct else .choice shape

def ofParams : List Value → Bound
  | [] => .direct
  | p :: rest => .stage [] p rest

/-- What comes after the stages with the arguments so far. -/
def after (collected : List Value) : List Value → Step
  | [] => .invoke collected
  | p :: rest => .further (.stage collected p rest)

section

variable (belongs : MemberTest)

/-- The first signature of a choice whose first stage takes the arguments. -/
def select (shape : Overloads) (args : List Value) : Except Error (Option Signature) :=
  (shape.ofArity args.length).findM? fun s => fits belongs s.first args

/-- Calls a bound function. A stage of a chain takes exactly one argument. -/
def call : Bound → List Value → Except Error Step
  | .direct, args => .ok (.invoke args)
  | .choice shape, args => do
    match ← select belongs shape args with
    | some s => return .further (.second s args)
    | none => throw (.engine (.mismatch (.noOverload (← shape.render) (describe args))))
  | .second s first, args => do
    if ← fits belongs s.second args then return .invoke (first ++ args)
    else throw (.engine (.mismatch (.secondStage (← s.render) (describe args))))
  | .stage collected param rest, [arg] => do
    if ← accepts belongs param arg then return after (collected ++ [arg]) rest
    else throw (.engine (.mismatch (.argument collected.length (← param.label) arg.typeName)))
  | .stage _ _ _, _ => .error .badCall

end

end Bound

end Longhand
