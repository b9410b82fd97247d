import Longhand.Record.Fields
import Longhand.Value.Shown

/-!
Splitting a sequence in two. `Partition.splits` moves the boundary from the left end to the right
end, so a sequence of `n` items has `n + 1` partitions, and each joins to the sequence again.
-/

namespace Longhand

/-- A sequence cut in two. -/
structure Partition (α : Type) where
  left : List α
  right : List α
deriving DecidableEq, Repr, Inhabited

namespace Partition

variable {α : Type}

/-- The number of items before the cut. -/
def index (p : Partition α) : Nat := p.left.length

def joined (p : Partition α) : List α := p.left ++ p.right

/-- All partitions of a sequence, from an empty left part to an empty right part. -/
def splits (items : List α) : List (Partition α) :=
  (List.range (items.length + 1)).map fun k => ⟨items.take k, items.drop k⟩

theorem length_splits (items : List α) : (splits items).length = items.length + 1 := by
  simp [splits]

/-- The data form that the contract for partitions describes. -/
def toContract (p : Partition Value) : Value :=
  .dict [("left", .list p.left), ("right", .list p.right)]

def toValue (p : Partition Value) : Value :=
  .record .partition [("left", .tuple p.left), ("right", .tuple p.right)]

def ofFields (fields : Fields) : Except Error (Partition Value) :=
  Read.record .partition do
    let (left, right) ← Read.both
      (Read.optional fields "left" [] (Read.items "left"))
      (Read.optional fields "right" [] (Read.items "right"))
    return ⟨left, right⟩

end Partition

/-- The items that a value holds as a sequence: a text its characters, a mapping its keys, bytes
their numbers, a record its named fields. -/
def Value.sequence : Value → Except Error (List Value)
  | .list vs => .ok vs
  | .tuple vs => .ok vs
  | .str s => .ok (s.toList.map fun c => .str (String.singleton c))
  | .dict entries => .ok (entries.map fun e => .str e.1)
  | .bytes bs => .ok (bs.map fun b => .int b.toNat)
  | .record _ fields => .ok (fields.map fun f => .tuple [.str f.1, f.2])
  | .generic (.union true) _ => .error (.notIterable "types.UnionType")
  | v => .error (.notIterable v.typeName)

end Longhand
