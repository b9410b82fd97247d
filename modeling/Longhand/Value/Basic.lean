/-!
The values that pass through the program: operands, call arguments, type descriptions and records.
Some descriptions of types are a `Class`, built in or defined elsewhere; the others, such as a
generic alias, cannot be tested for their members.
-/

namespace Longhand

/-- A class that is defined outside of the language: its home, if it has one, its name, and the
name of the class of which it is a member itself. -/
structure DefinedClass where
  home : String
  name : String
  type : String := "type"
  /-- What tells apart classes of one name. -/
  serial : Nat := 0
deriving DecidableEq, Repr, Inhabited

inductive Class where
  | int | str | bool | float | complex | list | dict | tuple | bytes | object | type | null
  | defined (as : DefinedClass)
deriving DecidableEq, Repr, Inhabited

namespace Class

def name : Class → String
  | .int => "int"
  | .str => "str"
  | .bool => "bool"
  | .float => "float"
  | .complex => "complex"
  | .list => "list"
  | .dict => "dict"
  | .tuple => "tuple"
  | .bytes => "bytes"
  | .object => "object"
  | .type => "type"
  | .null => "NoneType"
  | .defined c => c.name

/-- The name with the home of the class; built-in classes show none. -/
def qualifiedName : Class → String
  | .defined c => if c.home = "" then c.name else c.home ++ "." ++ c.name
  | c => c.name

/-- Everything is an object, and truth values are integers. -/
def refines : Class → Class → Bool
  | _, .object => true
  | .bool, .int => true
  | c, d => c = d

def builtIn : List Class :=
  [.int, .str, .bool, .float, .complex, .list, .dict, .tuple, .bytes, .object, .type, .null]

end Class

/-- What a parametrised type is built from. -/
inductive Generic where
  /-- A class with arguments, `list[int]`. -/
  | builtin (origin : Class)
  /-- A named alias of the typing vocabulary, `typing.List[int]`. -/
  | typing (name : String)
  /-- A choice of types, spelled with a bar (`int | None`) or in full. -/
  | union (bar : Bool)
  /-- Argument types, then the result type. -/
  | callable
  /-- Fixed values. -/
  | literal
deriving DecidableEq, Repr, Inhabited

/-- The kinds of records that the program builds. -/
inductive RecordKind where
  | partition | shape | signature | overloads | chain | result
deriving DecidableEq, Repr, Inhabited

def RecordKind.name : RecordKind → String
  | .partition => "Partition"
  | .shape => "FunctionShape"
  | .signature => "Signature"
  | .overloads => "OverloadedSignature"
  | .chain => "CurriedSignature"
  | .result => "NaturalResult"

/-- A value. Mappings and records keep their entries in order. -/
inductive Value where
  | null
  | bool (b : Bool)
  | int (n : Int)
  | float (x : Float)
  | complex (re im : Float)
  | str (s : String)
  | bytes (bs : List UInt8)
  | list (items : List Value)
  | tuple (items : List Value)
  | dict (entries : List (String × Value))
  | type (c : Class)
  /-- The type that everything has. -/
  | any
  /-- A type variable. -/
  | variable (name : String)
  /-- The three dots of an open tuple type. -/
  | ellipsis
  | generic (head : Generic) (args : List Value)
  /-- A member of a defined class, which is never taken apart: its text, unless an integer in it is
  beyond the conversion limit. -/
  | object (of : DefinedClass) (text : Option String)
  | record (kind : RecordKind) (fields : List (String × Value))
deriving Inhabited

namespace Value

/-- The class of a value, where it is one that has members of its own. -/
def class? : Value → Option Class
  | .null => some .null
  | .bool _ => some .bool
  | .int _ => some .int
  | .float _ => some .float
  | .complex _ _ => some .complex
  | .str _ => some .str
  | .bytes _ => some .bytes
  | .list _ => some .list
  | .tuple _ => some .tuple
  | .dict _ => some .dict
  | .object c _ => some (.defined c)
  | .type _ => some .type
  | .any => some .type
  | _ => none

/-- Whether a value belongs to a class, as far as the classes that are built in tell. -/
def isA (v : Value) (c : Class) : Bool :=
  match v.class? with
  | some d => d.refines c
  | none => c = .object

def typeName : Value → String
  | .null => "NoneType"
  | .bool _ => "bool"
  | .int _ => "int"
  | .float _ => "float"
  | .complex _ _ => "complex"
  | .str _ => "str"
  | .bytes _ => "bytes"
  | .list _ => "list"
  | .tuple _ => "tuple"
  | .dict _ => "dict"
  | .object c _ => c.name
  | .type (.defined c) => c.type
  | .type _ => "type"
  | .any => "_AnyMeta"
  | .variable _ => "TypeVar"
  | .ellipsis => "ellipsis"
  | .generic (.builtin _) _ => "GenericAlias"
  | .generic (.typing _) _ => "_GenericAlias"
  | .generic (.union true) _ => "UnionType"
  | .generic (.union false) _ => "_UnionGenericAlias"
  | .generic .callable _ => "_CallableGenericAlias"
  | .generic .literal _ => "_LiteralGenericAlias"
  | .record kind _ => kind.name

def lookup (entries : List (String × Value)) (key : String) : Option Value :=
  (entries.find? fun e => e.1 == key).map Prod.snd

end Value

end Longhand
