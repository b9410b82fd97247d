import Longhand.Annotation.Expression

/-!
What the expressions of annotations stand for. Entities never change: what would change a list or a
mapping gives its answer and leaves the entity as it is.
-/

namespace Longhand

namespace Annotation

/-- A failure that the evaluation of an annotation ends with. -/
inductive EvaluationError where
  /-- A text that is not an expression. -/
  | notExpression (shown : String)
  | limit (why : LimitExceeded)
  | noAttribute (owner name : String)
  | evaluation (kind : EvaluationFault) (text : String)
deriving Inhabited

def EvaluationError.toError : EvaluationError → Error
  | .notExpression shown => .notExpression shown
  | .limit why => .limit why
  | .noAttribute owner name => .noAttribute owner name
  | .evaluation kind text => .evaluation kind text

/-- Why an annotation has no value. -/
inductive Failure where
  /-- A name is unknown, or a type error occurs: the annotation stands for itself. -/
  | meaningless
  | failed (why : EvaluationError)
deriving Inhabited

/-- A result, or why there is none. -/
abbrev Answer (α : Type) := Except Failure α

def fail {α : Type} (kind : EvaluationFault) (text : String) : Answer α :=
  .error (.failed (.evaluation kind text))

/-- Fails for lack of meaning. -/
def meaningless {α : Type} : Answer α := .error .meaningless

/-- What an expression stands for. Classes and other named things are given by their names. -/
inductive Entity where
  | null
  | ellipsis
  /-- The answer of an operation that its operands do not have. -/
  | notImplemented
  | bool (b : Bool)
  | int (n : Int)
  | float (x : Float)
  | complex (re im : Float)
  | str (s : String)
  | bytes (bs : List UInt8)
  | list (items : List Entity)
  | tuple (items : List Entity)
  | dict (entries : List (Entity × Entity))
  | set (isFrozen : Bool) (items : List Entity)
  | range (start stop step : Int)
  | slice (start stop step : Entity)
  /-- Items that are given one by one, and perhaps a failure after the last. -/
  | iterator (kind : String) (items : List Entity) (ending : Option Failure)
  /-- The keys, values or entries of a mapping. -/
  | view (kind : String) (items : List Entity)
  /-- A plain member of a class, made from some arguments. -/
  | made (cls : String) (args : List Entity)
  | cls (name : String)
  /-- A class that the annotation makes. -/
  | defined (as : DefinedClass)
  | library (name : String)
  /-- A function by its name, which its library precedes unless it is known everywhere. -/
  | builtin (name : String)
  /-- A method together with the entity that it belongs to. -/
  | method (self : Entity) (name : String)
  /-- A method by itself, as its class has it. -/
  | descriptor (cls name : String)
  | function (params : List (String × ParameterKind × Option Entity)) (body : Expression)
      (captured : List (String × Entity))
  /-- A word of the typing vocabulary that is no type by itself. -/
  | form (name : String)
  /-- A generic type of the typing vocabulary without its arguments. -/
  | bare (name : String)
  /-- A form or generic type of the typing vocabulary with its arguments. -/
  | applied (name : String) (args : List Entity)
  /-- A type with remarks. -/
  | annotated (of : Entity) (remarks : List Entity)
  /-- A class with arguments. -/
  | generic (origin : String) (args : List Entity) (isStarred : Bool)
  /-- A choice that is written with bars. -/
  | union (args : List Entity)
  /-- A text that is to be resolved. -/
  | forward (text : String)
  /-- A type variable with the sign of its variance. -/
  | variable (sign name : String) (constraints : List Entity) (bound : Entity)
  /-- A name for the members of a type. -/
  | newType (name : String) (of : Entity)
  /-- Something of a class that is known by its text alone. -/
  | sealed (cls shown : String)
deriving Inhabited

def namelessHome : String := "__main__"

/-- The class of the classes of mappings with given fields. -/
def mappingClassType : String := "_TypedDictMeta"

namespace Entity

def ofValue : Value → Entity
  | .null => .null
  | .bool b => .bool b
  | .int n => .int n
  | .float x => .float x
  | .complex re im => .complex re im
  | .str s => .str s
  | .bytes bs => .bytes bs
  | .ellipsis => .ellipsis
  | .type (.defined c) => .defined c
  | .type c => .cls c.name
  | .any => .cls "Any"
  | _ => .notImplemented

def className : Entity → String
  | .null => "NoneType"
  | .ellipsis => "ellipsis"
  | .notImplemented => "NotImplementedType"
  | .bool _ => "bool"
  | .int _ => "int"
  | .float _ => "float"
  | .complex _ _ => "complex"
  | .str _ => "str"
  | .bytes _ => "bytes"
  | .list _ => "list"
  | .tuple _ => "tuple"
  | .dict _ => "dict"
  | .set isFrozen _ => if isFrozen then "frozenset" else "set"
  | .range _ _ _ => "range"
  | .slice _ _ _ => "slice"
  | .iterator kind _ _ => kind
  | .view kind _ => kind
  | .made c _ => c
  | .defined c => c.type
  | .cls name =>
    if name = "Any" then "_AnyMeta"
    else if name = "Protocol" || "Supports".toList.isPrefixOf name.toList then "_ProtocolMeta"
    else "type"
  | .library _ => "module"
  | .builtin name => if name.toList.contains '.' then "function" else "builtin_function_or_method"
  | .method _ name =>
    if "__".toList.isPrefixOf name.toList then "method-wrapper" else "builtin_function_or_method"
  | .descriptor _ name =>
    if "__".toList.isPrefixOf name.toList then "wrapper_descriptor" else "method_descriptor"
  | .function _ _ _ => "function"
  | .form "Literal" => "_LiteralSpecialForm"
  | .form _ => "_SpecialForm"
  | .bare "Callable" => "_CallableType"
  | .bare "Tuple" => "_TupleType"
  | .bare _ => "_SpecialGenericAlias"
  | .applied "Union" _ => "_UnionGenericAlias"
  | .applied "Literal" _ => "_LiteralGenericAlias"
  | .applied "Callable" _ => "_CallableGenericAlias"
  | .applied "Concatenate" _ => "_ConcatenateGenericAlias"
  | .applied "Unpack" _ => "_UnpackGenericAlias"
  | .applied _ _ => "_GenericAlias"
  | .annotated _ _ => "_AnnotatedAlias"
  | .generic _ _ _ => "GenericAlias"
  | .union _ => "UnionType"
  | .forward _ => "ForwardRef"
  | .variable _ _ _ _ => "TypeVar"
  | .newType _ _ => "NewType"
  | .sealed c _ => c

def isMappingClass : Entity → Bool
  | .defined c => c.type = mappingClassType
  | _ => false

end Entity

end Annotation

end Longhand
