import Longhand.Shape.Binding

/-!
Functions with annotated parameters, and the shapes that they are called by. What annotations
resolve to comes from outside, since the texts among them are evaluated by the language itself
(`Resolver`). If one of them has no meaning, each stands for itself (`Function.hints`). Only
functions whose parameters are all positional without defaults have a shape.
-/

namespace Longhand

structure Parameter where
  name : String
  kind : ParameterKind := .positional
  hasDefault : Bool := false
deriving Repr, Inhabited

namespace Parameter

/-- Whether arguments reach a parameter by its place. -/
def isPositional (p : Parameter) : Bool := p.kind = .positionalOnly || p.kind = .positional

/-- Why a parameter cannot be curried, if it cannot. Its kind counts before its default. -/
def obstacle (p : Parameter) : Option Unsupported :=
  if !p.isPositional then some (.kind p.kind)
  else if p.hasDefault then some .default
  else none

/-- Fails for a parameter that cannot be curried. -/
def check (p : Parameter) : Except Error Unit :=
  match p.obstacle with
  | some why => .error (.engine (.unsupported (Quoted.string p.name) why))
  | none => .ok ()

end Parameter

/-- Types by the names of parameters, and that of the result by the name "return". -/
abbrev Hints := List (String × Value)

/-- A function with its parameters in order, whose annotations are there for its types. One that
marks a missing annotation counts as missing. -/
structure Function where
  params : List Parameter
  annotations : Hints := []
deriving Inhabited

inductive Unresolved where
  /-- A name in them is unknown, or a type error occurs. -/
  | meaningless
  | failed (why : Error)
deriving Inhabited

/-- What the annotations of a function resolve to, all together. -/
abbrev Resolver := Function → Except Unresolved Hints

namespace Resolver

/-- What annotations resolve to has their names. -/
def KeepsNames (resolve : Resolver) : Prop :=
  ∀ f hints, resolve f = .ok hints →
    ∀ name, (hints.lookup name).isSome = (f.annotations.lookup name).isSome

/-- An annotation that is a text is read as an expression. If it spells none and only classes come
before it, the resolution ends with a failure that says so. Texts that are empty or have a null
character in them fail in other ways. -/
def RefusesUnspelled (resolve : Resolver) (spells : String → Prop) : Prop :=
  ∀ f before name s rest, f.annotations = before ++ (name, .str s) :: rest →
    (∀ a ∈ before, ∃ c, a.2 = .type c) → s ≠ "" → '\x00' ∉ s.toList → ¬spells s →
    resolve f = .error (.failed (.notExpression (Quoted.string s)))

end Resolver

namespace Function

section

variable (resolve : Resolver) (f : Function)

/-- The types that the annotations resolve to. There are none if one of them has no meaning. -/
def hints : Except Error Hints :=
  match resolve f with
  | .ok hints => .ok hints
  | .error .meaningless => .ok []
  | .error (.failed why) => .error why

/-- The type under a name: its hint, or its annotation as it stands, or else any type. -/
def typeOf (hints : Hints) (name : String) : Value :=
  ((hints.lookup name).or (f.annotations.lookup name)).getD .any

/-- The shape that a function is called by. -/
def shape : Except Error Shape := do
  let hints ← f.hints resolve
  let params ← f.params.mapM fun p => do
    p.check
    return f.typeOf hints p.name
  return ⟨params, f.typeOf hints "return"⟩

/-- A function bound to a curried form of its shape: to the choice of two-stage calls, or to one
stage for each parameter. -/
def curry (inTwo : Bool) : Traced Bound := do
  let s ← f.shape resolve
  if inTwo then return Bound.ofOverloads (← partialCurry s.params s.result)
  else return Bound.ofParams (← fullCurry s.params s.result).params

end

end Function

end Longhand
