import Longhand.Value.Basic

/-!
Schemas: what a contract demands of a value, keyword by keyword, in the order in which they are
written. `Schema.toValue` is the written form. The keywords mean what the specification of JSON
Schema says; that values are checked against written schemas in this sense is an assumption.
-/

namespace Longhand

/-- The types that a schema can ask for. -/
inductive SchemaType where
  | array | boolean | null | object | string
deriving DecidableEq, Repr, Inhabited

namespace SchemaType

def name : SchemaType → String
  | .array => "array"
  | .boolean => "boolean"
  | .null => "null"
  | .object => "object"
  | .string => "string"

def admits : SchemaType → Value → Bool
  | .array, .list _ => true
  | .boolean, .bool _ => true
  | .null, .null => true
  | .object, .dict _ => true
  | .string, .str _ => true
  | _, _ => false

end SchemaType

/-- A fixed value that a schema can name. -/
inductive Literal where
  | null
  | bool (b : Bool)
  | str (s : String)
deriving DecidableEq, Repr, Inhabited

namespace Literal

def toValue : Literal → Value
  | .null => .null
  | .bool b => .bool b
  | .str s => .str s

/-- Whether a value is the literal itself; truth values equal no numbers. -/
def admits : Literal → Value → Bool
  | .null, .null => true
  | .bool b, .bool c => b = c
  | .str s, .str t => s = t
  | _, _ => false

end Literal

/-- A search pattern of one character class: some character outside a range. -/
structure OutsideRange where
  first : Char
  last : Char
deriving DecidableEq, Repr, Inhabited

namespace OutsideRange

def text (p : OutsideRange) : String :=
  String.ofList ['[', '^', p.first, '-', p.last, ']']

def foundIn (p : OutsideRange) (s : String) : Bool :=
  s.toList.any fun c => c < p.first || p.last < c

end OutsideRange

mutual

/-- A schema: its keywords in order. -/
inductive Schema where
  | mk (keywords : List Keyword)

inductive Keyword where
  /-- A remark that demands nothing. -/
  | note (name text : String)
  | type (only : SchemaType)
  | types (any : List SchemaType)
  | enum (choices : List Literal)
  | const (value : Literal)
  | minLength (least : Nat)
  | minItems (least : Nat)
  | pattern (pattern : OutsideRange)
  | required (names : List String)
  | properties (schemas : List (String × Schema))
  /-- No properties beside the listed ones. -/
  | closed
  | items (schema : Schema)
  | not (schema : Schema)
  /-- What else is demanded depends on whether a value meets a condition. -/
  | branch (condition accepted refused : Schema)

end

instance : Inhabited Schema := ⟨.mk []⟩

namespace Schema

/-- The property names that the keywords of one schema list. -/
def propertyNames : List Keyword → List String
  | [] => []
  | .properties schemas :: rest => schemas.map Prod.fst ++ propertyNames rest
  | _ :: rest => propertyNames rest

mutual

def toValue : Schema → Value
  | .mk keywords => .dict (entries keywords)

def entries : List Keyword → List (String × Value)
  | [] => []
  | k :: rest => keywordEntries k ++ entries rest

def keywordEntries : Keyword → List (String × Value)
  | .note name text => [(name, .str text)]
  | .type t => [("type", .str t.name)]
  | .types ts => [("type", .list (ts.map fun t => .str t.name))]
  | .enum choices => [("enum", .list (choices.map Literal.toValue))]
  | .const v => [("const", v.toValue)]
  | .minLength n => [("minLength", .int n)]
  | .minItems n => [("minItems", .int n)]
  | .pattern p => [("pattern", .str p.text)]
  | .required names => [("required", .list (names.map .str))]
  | .properties schemas => [("properties", .dict (propertyEntries schemas))]
  | .closed => [("additionalProperties", .bool false)]
  | .items s => [("items", s.toValue)]
  | .not s => [("not", s.toValue)]
  | .branch c t e => [("if", c.toValue), ("then", t.toValue), ("else", e.toValue)]

def propertyEntries : List (String × Schema) → List (String × Value)
  | [] => []
  | (name, s) :: rest => (name, s.toValue) :: propertyEntries rest

end

end Schema

end Longhand
