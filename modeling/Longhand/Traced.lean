import Longhand.Error

/-!
Computations that fail or return, together with the records they log on the way. A failure keeps
the records made before it.
-/

namespace Longhand

/-- The weight of a record. -/
inductive Level where
  | debug | warning
deriving DecidableEq, Repr, Inhabited

/-- What is logged. Lengths count digits of normal operands. -/
inductive Event where
  /-- A remainder is about to be computed by the named strategy. -/
  | remainderStarted (strategy : String) (dividend divisor : Nat)
  /-- Repeated subtraction has reached the warning threshold. -/
  | remainderSlow (subtractions dividend divisor : Nat)
  | remainderFinished (subtractions : Nat)
  /-- An operation had no natural result. -/
  | rejected (operation left right code : String)
  | partiallyCurried (parameters overloads : Nat)
  | fullyCurried (parameters : Nat)
deriving DecidableEq, Repr, Inhabited

namespace Event

def level : Event → Level
  | .remainderSlow _ _ _ => .warning
  | _ => .debug

def text : Event → String
  | .remainderStarted s a b => s!"modulo: strategy={s} dividend={a} digits divisor={b} digits"
  | .remainderSlow n a b =>
    s!"modulo by repeated subtraction passed {n} iterations (dividend={a} digits, divisor={b} "
      ++ "digits); consider ModuloStrategy.SHIFT_SUBTRACT"
  | .remainderFinished n => s!"modulo by repeated subtraction finished after {n} iterations"
  | .rejected op a b code => s!"{op}({a}, {b}) rejected: {code}"
  | .partiallyCurried n m => s!"partial_curry: {n} params -> {m} overloads"
  | .fullyCurried n => s!"full_curry: {n} params"

end Event

/-- An outcome with the log of the way to it. -/
structure Traced (α : Type) where
  outcome : Except Error α
  log : List Event

namespace Traced

variable {α β : Type}

instance : Inhabited (Traced α) := ⟨⟨.error default, []⟩⟩

protected def pure (a : α) : Traced α := ⟨.ok a, []⟩

def fail (e : Error) : Traced α := ⟨.error e, []⟩

def ofExcept (outcome : Except Error α) : Traced α := ⟨outcome, []⟩

def after (event : Event) (t : Traced α) : Traced α := ⟨t.outcome, event :: t.log⟩

/-- Continues after a success; the records of both parts follow each other. -/
protected def bind (t : Traced α) (f : α → Traced β) : Traced β :=
  match t.outcome with
  | .ok a => ⟨(f a).outcome, t.log ++ (f a).log⟩
  | .error e => ⟨.error e, t.log⟩

instance : Monad Traced where
  pure := Traced.pure
  bind := Traced.bind

instance : MonadLift (Except Error) Traced := ⟨ofExcept⟩

end Traced

end Longhand
