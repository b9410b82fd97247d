import Longhand.Annotation.Sequence

/-!
The arguments of calls: how they reach parameters, and what they are taken as.
-/

namespace Longhand

namespace Annotation

variable [Home]

/-- The arguments of a call: those in order, and those with names. -/
structure Call where
  args : List Entity
  named : List (String × Entity) := []
deriving Inhabited

namespace Call

/-- The arguments for parameters in order, of which so many are needed. A parameter without a name
is reached by its place only, and one whose name begins with a star by its name only. -/
def bind (c : Call) (params : List String) (needed : Nat) : Answer (List (Option Entity)) := do
  let byPlace := params.takeWhile fun p => p.toList.head? ≠ some '*'
  let names := params.map fun p => String.ofList (p.toList.dropWhile (· = '*'))
  if byPlace.length < c.args.length then meaningless
  else if !c.named.all fun (name, _) =>
      !name.isEmpty && (names.drop c.args.length).contains name then meaningless
  else
    let given := c.args.map some ++ (names.drop c.args.length).map fun name => c.named.lookup name
    if (given.take needed).all Option.isSome then return given else meaningless

/-- The arguments of a call that takes them by place only: at least and at most so many. -/
def plain (c : Call) (least most : Nat) : Answer (List Entity) :=
  if c.named.isEmpty && least ≤ c.args.length && c.args.length ≤ most then .ok c.args
  else meaningless

/-- The only argument of a call. -/
def single (c : Call) : Answer Entity :=
  match c.args, c.named with
  | [v], [] => .ok v
  | _, _ => meaningless

end Call

namespace Entity

def toIndex (v : Entity) : Answer Int :=
  match v.index? with
  | some n => .ok n
  | none => meaningless

def toSize (v : Entity) : Answer Int := do
  let n ← v.toIndex
  if sizeLimit ≤ n ∨ n < -sizeLimit then
    fail .overflow "Python int too large to convert to C ssize_t"
  else return n

/-- A size where it is given. -/
def toSizeOr (default : Int) : Option Entity → Answer Int
  | none => .ok default
  | some v => v.toSize

/-- The part of a row between two bounds, which count from the end if they are negative: where it
begins and ends. -/
def span (length : Nat) (start stop : Option Entity) : Answer (Nat × Nat) := do
  let bound (default : Int) (v : Option Entity) : Answer Int := do
    match v with
    | none | some .null => return default
    | some v => v.toIndex
  let place (n : Int) : Int := if n < 0 then max (n + length) 0 else n
  let lower := place (← bound 0 start)
  let upper := min (place (← bound length stop)) length
  return (lower.toNat, upper.toNat)

/-- The entity without a value, if it is not given. -/
def orNull (v : Option Entity) : Entity := v.getD .null

end Entity

end Annotation

end Longhand
