import Longhand.Annotation.Parametrized
import Longhand.Annotation.Template

/-!
Operators on entities: arithmetic, rows put together and repeated, templates, sets and mappings,
choices of types, signs and comparisons.
-/

namespace Longhand

namespace Annotation

variable [Home]

namespace Entity

def repeated {α : Type} (items : List α) (n : Int) : Answer (List α) :=
  if sizeLimit ≤ n ∨ n < -sizeLimit then
    fail .overflow "cannot fit 'int' into an index-sized integer"
  else if 5000000 < items.length * n.toNat then fail .memory ""
  else .ok (List.replicate n.toNat items).flatten

def repeatedBy (v : Entity) (n : Int) : Answer Entity :=
  match v with
  | .str s => do return .str (String.ofList (← repeated s.toList n))
  | .bytes bs => do return .bytes (← repeated bs n)
  | .list vs => do return .list (← repeated vs n)
  | .tuple vs => do return .tuple (← repeated vs n)
  | _ => meaningless

def combineMembers (op : Operator) (xs ys : List Entity) : Option (List Entity) :=
  let without (xs ys : List Entity) := xs.filter fun v => !ys.any v.same
  match op with
  | .alternative => some (xs ++ without ys xs)
  | .both => some (xs.filter fun v => ys.any v.same)
  | .subtract => some (without xs ys)
  | .exclusive => some (without xs ys ++ without ys xs)
  | _ => none

/-- The members of a set, or of the keys or entries of a mapping. -/
def members? : Entity → Option (List Entity)
  | .set _ vs => some vs
  | .view kind vs => if kind = "dict_values" then none else some vs
  | _ => none

def combineTruths : Operator → Bool → Bool → Option Bool
  | .alternative, a, b => some (a || b)
  | .both, a, b => some (a && b)
  | .exclusive, a, b => some (a != b)
  | _, _, _ => none

/-- An operation on two numbers, or a row and a number. -/
def combineNumbers (op : Operator) (v w : Entity) : Answer Entity :=
  match op, v.index?, w.index?, Number.ofEntity? v, Number.ofEntity? w with
  | op, _, _, some a, some b => do return (← Number.combine op a b).toEntity
  | .multiply, _, some n, none, _ => v.repeatedBy n
  | .multiply, some n, _, _, none => w.repeatedBy n
  | _, _, _, _, _ => meaningless

def combine (op : Operator) (v w : Entity) : Answer Entity :=
  match op, v, w with
  | .add, .str s, .str t => .ok (.str (s ++ t))
  | .add, .bytes b, .bytes c => .ok (.bytes (b ++ c))
  | .add, .list xs, .list ys => .ok (.list (xs ++ ys))
  | .add, .tuple xs, .tuple ys => .ok (.tuple (xs ++ ys))
  | .remainder, .str s, w => do
    return .str (String.ofList (← Directive.format false s.toList w))
  | .remainder, .bytes bs, w => do
    let cs ← Directive.format true (Directive.charsOf bs) w
    return .bytes (cs.map fun c => c.toNat.toUInt8)
  | .alternative, .dict es, .dict fs =>
    .ok (.dict (fs.foldl (fun es (k, v) => put es k v) es))
  | op, .bool a, .bool b =>
    match combineTruths op a b with
    | some r => .ok (.bool r)
    | none => combineNumbers op (.bool a) (.bool b)
  | op, v, w =>
    match v.members?, w.members? with
    | some xs, some ys =>
      match combineMembers op xs ys with
      | some items =>
        setOf (match v with
          | .set isFrozen _ => isFrozen
          | _ => false) items
      | none => meaningless
    | _, _ =>
      match combineNumbers op v w with
      | .error .meaningless => if op = .alternative then alternative v w else meaningless
      | r => r

def signed (op : Sign) (v : Entity) : Answer Entity :=
  match op, Number.ofEntity? v with
  | .not, _ => .ok (.bool !v.holds)
  | op, some n => do return (← Number.signed op n).toEntity
  | _, none => meaningless

def compare (op : Comparison) (v w : Entity) : Answer Bool :=
  match op with
  | .equal => .ok (v.same w)
  | .different => .ok !(v.same w)
  | .within => w.contains v
  | .outside => do return !(← w.contains v)
  | .same => .ok (v.identical w)
  | .distinct => .ok !(v.identical w)
  | op =>
    match v.members?, w.members? with
    | some xs, some ys => do
      return (← (Entity.set false xs).standing (.set false ys)).holds op
    | _, _ => do return (← v.standing w).holds op

end Entity

end Annotation

end Longhand
