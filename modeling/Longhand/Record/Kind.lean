import Longhand.Result
import Longhand.Shape.Currying

/-!
Records of every kind, read from their fields and written as values.
-/

namespace Longhand

inductive Record where
  | partition (p : Partition Value)
  | shape (s : Shape)
  | signature (s : Signature)
  | overloads (o : Overloads)
  | chain (c : Chain)
  | result (r : Result)

namespace Record

def kind : Record → RecordKind
  | .partition _ => .partition
  | .shape _ => .shape
  | .signature _ => .signature
  | .overloads _ => .overloads
  | .chain _ => .chain
  | .result _ => .result

def ofFields (kind : RecordKind) (fields : Fields) : Except Error Record :=
  match kind with
  | .partition => (Partition.ofFields fields).map .partition
  | .shape => (Shape.ofFields fields).map .shape
  | .signature => (Signature.ofFields fields).map .signature
  | .overloads => (Overloads.ofFields fields).map .overloads
  | .chain => (Chain.ofFields fields).map .chain
  | .result => (Result.ofFields fields).map .result

def toValue : Record → Value
  | .partition p => p.toValue
  | .shape s => s.toValue
  | .signature s => s.toValue
  | .overloads o => o.toValue
  | .chain c => c.toValue
  | .result r => r.toValue

/-- The value of a field. -/
def field? (r : Record) (name : String) : Option Value :=
  match r.toValue with
  | .record _ fields => Value.lookup fields name
  | _ => none

end Record

def RecordKind.all : List RecordKind :=
  [.partition, .shape, .signature, .overloads, .chain, .result]

def RecordKind.ofName? (name : String) : Option RecordKind := all.find? fun k => k.name == name

end Longhand
