import Longhand.Contract.Catalog
import Longhand.Partition

/-!
The partitions of a sequence under their contract.
-/

namespace Longhand

/-- All partitions of what a value holds as a sequence. -/
def Value.splits (v : Value) : Except Error (List (Partition Value)) := do
  return Partition.splits (← v.sequence)

/-- All partitions of what a value holds as a sequence, checked against their contract. -/
def Value.checkedSplits (v : Value) : Except Error (List (Partition Value)) := do
  let partitions ← v.splits
  Contract.partitionSet.check (.list (partitions.map Partition.toContract))
  return partitions

end Longhand
