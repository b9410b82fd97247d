import Longhand.Contract.Violation
import Longhand.Fault

/-!
The contracts of the public boundary: digit strings, arithmetic results, and the set of all
partitions of a sequence.
-/

namespace Longhand

namespace Contract

/-- Text with a character that is no digit. -/
def nonDigit : OutsideRange := ⟨'0', '9'⟩

def heading (file title description : String) : List Keyword :=
  [.note "$schema" "https://json-schema.org/draft/2020-12/schema", .note "$id" file,
    .note "title" title, .note "description" description]

/-- A text of one or more digits. -/
def digitSequence : Schema := .mk <|
  heading "digit_sequence.json" "DigitSequence"
    "Non-negative integer as decimal digits, most significant first" ++
  [.type .string, .minLength 1, .not (.mk [.pattern nonDigit])]

/-- A result that carries a value, or an error code of a registered kind. -/
def naturalResult : Schema := .mk <|
  heading "natural_result.json" "NaturalResult"
    "Success/failure result of a natural-number operation" ++
  [.type .object,
    .required ["operation", "ok", "value", "error_code", "details"],
    .closed,
    .properties [
      ("operation", .mk [.type .string,
        .enum [.str "add", .str "subtract", .str "modulo", .str "multiply"]]),
      ("ok", .mk [.type .boolean]),
      ("value", .mk [.types [.string, .null], .minLength 1,
        .not (.mk [.type .string, .pattern nonDigit])]),
      ("error_code", .mk [.types [.string, .null],
        .enum (.null :: Fault.registered.map fun f => .str f.code)]),
      ("details", .mk [.type .string])],
    .branch (.mk [.properties [("ok", .mk [.const (.bool true)])]])
      (.mk [.properties [("value", .mk [.type .string]), ("error_code", .mk [.type .null])]])
      (.mk [.properties [("value", .mk [.type .null]), ("error_code", .mk [.type .string])]])]

/-- A non-empty list of pairs of lists. -/
def partitionSet : Schema := .mk <|
  heading "partition_set.json" "PartitionSet"
    "All left/right splits of one sequence, from empty left to empty right" ++
  [.type .array, .minItems 1,
    .items (.mk [.type .object, .required ["left", "right"], .closed,
      .properties [("left", .mk [.type .array]), ("right", .mk [.type .array])]])]

def all : List (String × Schema) :=
  [("digit_sequence", digitSequence), ("natural_result", naturalResult),
    ("partition_set", partitionSet)]

def named (name : String) : Except Error Schema :=
  match all.find? fun c => c.1 == name with
  | some (_, schema) => .ok schema
  | none => .error (.schema .missing)

end Contract

end Longhand
