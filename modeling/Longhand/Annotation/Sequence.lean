import Longhand.Annotation.Likeness
import Longhand.Annotation.Shown
import Longhand.Text.Search

/-!
Entities that have items: how long they are, which items they give, and what stands at an index or
in a slice.
-/

namespace Longhand

namespace Annotation

variable [Home]

/-- The least size that no sequence has. -/
def sizeLimit : Int := (signBound : Int)

/-- How many integers of a range are looked at. -/
def rangeReach : Nat := 100000

/-- The integers of a range, as far as they are looked at. -/
def rangeItems (start stop step : Int) : List Entity × Option Failure :=
  let n := rangeLength start stop step
  ((List.range (min n rangeReach)).map fun (i : Nat) => .int (start + i * step),
    if n ≤ rangeReach then none else some .meaningless)

/-- The slots of the smallest table for so many members of a set. -/
def slotsFor (count : Nat) : Nat :=
  if count ≤ 4 then 8 else if count ≤ 18 then 32 else if count ≤ 76 then 128 else 4096

namespace Entity

/-- An integer that can be an index. -/
def index? : Entity → Option Int
  | .int n => some n
  | .bool b => some b.toNat
  | _ => none

/-- The members of a set in the order in which they are given: integers by their slots. -/
def arranged (items : List Entity) : List Entity :=
  match items.mapM index? with
  | some ns =>
    let slots : Int := slotsFor ns.length
    ((ns.zip items).mergeSort fun a b => a.1.emod slots ≤ b.1.emod slots).map Prod.snd
  | none => items

/-- A set of some items. All of them must be hashable. -/
def setOf (isFrozen : Bool) (items : List Entity) : Answer Entity :=
  if items.all isHashable then .ok (.set isFrozen (arranged (distinct items))) else meaningless

def ofChar (c : Char) : Entity := .str (String.singleton c)

/-- The items of an entity, and the failure after the last, if it has items. -/
def items : Entity → Answer (List Entity × Option Failure)
  | .str s => .ok (s.toList.map ofChar, none)
  | .bytes bs => .ok (bs.map fun b => .int b.toNat, none)
  | .list vs | .tuple vs | .set _ vs | .view _ vs => .ok (vs, none)
  | .dict entries => .ok (entries.map Prod.fst, none)
  | .range a b c => .ok (rangeItems a b c)
  | .iterator _ vs ending => .ok (vs, ending)
  | .generic c args _ => .ok ([.generic c args true], none)
  | .applied word args =>
    if ["Union", "Callable", "ClassVar", "Final"].contains word then meaningless
    else .ok ([.applied "Unpack" [.applied word args]], none)
  | _ => meaningless

def allItems (v : Entity) : Answer (List Entity) := do
  match ← v.items with
  | (vs, none) => return vs
  | (_, some why) => throw why

def length : Entity → Answer Nat
  | .str s => .ok s.length
  | .bytes bs => .ok bs.length
  | .list vs | .tuple vs | .set _ vs | .view _ vs => .ok vs.length
  | .dict entries => .ok entries.length
  | .range a b c =>
    let n := rangeLength a b c
    if (n : Int) < sizeLimit then .ok n
    else fail .overflow "Python int too large to convert to C ssize_t"
  | _ => meaningless

def lookup? (entries : List (Entity × Entity)) (key : Entity) : Option Entity :=
  (entries.find? fun e => e.1.same key).map Prod.snd

/-- A mapping with a value for a key. A key that is there keeps its place. -/
def put (entries : List (Entity × Entity)) (key value : Entity) : List (Entity × Entity) :=
  if (lookup? entries key).isSome then
    entries.map fun e => if e.1.same key then (e.1, value) else e
  else entries ++ [(key, value)]

/-- Whether an entity can be looked for in a set: a set is looked for as what can be hashed. -/
def isSought (v : Entity) : Bool := v.isHashable || v matches .set _ _

/-- Whether an entity is a row of items in order. -/
def isRow : Entity → Bool
  | .str _ | .bytes _ | .list _ | .tuple _ => true
  | _ => false

def contains (v item : Entity) : Answer Bool :=
  match v, item with
  | .str s, .str t => .ok (Search.isWithin t.toList s.toList)
  | .str _, _ => meaningless
  | .bytes bs, .bytes cs => .ok (Search.isWithin cs bs)
  | .bytes bs, item =>
    match item.index? with
    | some n =>
      if 0 ≤ n ∧ n < 256 then .ok (bs.any fun b => b.toNat = n.toNat)
      else fail .value "byte must be in range(0, 256)"
    | none => meaningless
  | .dict entries, item =>
    if item.isHashable then .ok (lookup? entries item).isSome else meaningless
  | .set _ vs, item =>
    if item.isSought then .ok (vs.any item.same) else meaningless
  | .range a b c, item =>
    match item.index? with
    | some n =>
      .ok (if 0 < c then a ≤ n && n < b && (n - a).emod c = 0
        else b < n && n ≤ a && (a - n).emod (-c) = 0)
    | none => do return (rangeItems a b c).1.any item.same
  | v, item => do
    match ← v.items with
    | (vs, ending) =>
      if vs.any item.same then return true
      else
        match ending with
        | some why => throw why
        | none => return false

/-- The place of an index, which counts from the end if it is negative. -/
def place? (length : Nat) (index : Int) : Option Nat :=
  let i := if index < 0 then index + length else index
  if 0 ≤ i ∧ i < length then some i.toNat else none

def itemAt {α : Type} (what : String) (xs : List α) (index : Int) : Answer α :=
  if sizeLimit ≤ index ∨ index < -sizeLimit then
    fail .position "cannot fit 'int' into an index-sized integer"
  else
    match (place? xs.length index).bind (xs[·]?) with
    | some x => .ok x
    | none => fail .position (what ++ " out of range")

def bound : Entity → Answer (Option Int)
  | .null => .ok none
  | v =>
    match v.index? with
    | some n => .ok (some n)
    | none => meaningless

/-- The first index, the end and the step of a slice of so many items. -/
def sliceBounds (a b c : Entity) (length : Nat) : Answer (Int × Int × Int) := do
  let start ← a.bound
  let stop ← b.bound
  let step := (← c.bound).getD 1
  if step = 0 then fail .value "slice step cannot be zero"
  let lower : Int := if step < 0 then -1 else 0
  let upper : Int := if step < 0 then length - 1 else length
  let clamp (n : Int) : Int :=
    if n < 0 then max (n + length) lower else min n upper
  return ((start.map clamp).getD (if step < 0 then upper else lower),
    (stop.map clamp).getD (if step < 0 then lower else upper), step)

def sliced {α : Type} (a b c : Entity) (xs : List α) : Answer (List α) := do
  let (start, stop, step) ← sliceBounds a b c xs.length
  let array := xs.toArray
  return (List.range (rangeLength start stop step)).filterMap fun (i : Nat) =>
    array[(start + i * step).toNat]?

def part (v index : Entity) : Answer Entity :=
  match v, index with
  | .dict entries, key =>
    if key.isHashable then
      match lookup? entries key with
      | some w => .ok w
      | none => do fail .key (← key.shown)
    else meaningless
  | .list vs, .slice a b c => do return .list (← sliced a b c vs)
  | .tuple vs, .slice a b c => do return .tuple (← sliced a b c vs)
  | .str s, .slice a b c => do return .str (String.ofList (← sliced a b c s.toList))
  | .bytes bs, .slice a b c => do return .bytes (← sliced a b c bs)
  | .range start stop step, .slice a b c => do
    let (i, j, k) ← sliceBounds a b c (rangeLength start stop step)
    return .range (start + i * step) (start + j * step) (step * k)
  | v, index =>
    match index.index? with
    | none => meaningless
    | some i =>
      match v with
      | .list vs => itemAt "list index" vs i
      | .tuple vs => itemAt "tuple index" vs i
      | .str s => do return ofChar (← itemAt "string index" s.toList i)
      | .bytes bs => do return .int (← itemAt "index" bs i).toNat
      | .range start stop step =>
        match place? (rangeLength start stop step) i with
        | some n => .ok (.int (start + n * step))
        | none => fail .position "range object index out of range"
      | _ => meaningless

end Entity

end Annotation

end Longhand
