import Longhand.Annotation.Hierarchy

/-!
The words of the typing vocabulary, and the type variables in what they make.
-/

namespace Longhand

namespace Annotation

variable [Home]

/-- The generic types of the vocabulary: the class behind each, and the number of its arguments
where it is fixed. -/
def genericWords : List (String × String × Option Nat) :=
  [("Hashable", "Hashable", some 0), ("Awaitable", "Awaitable", some 1),
    ("Coroutine", "Coroutine", some 3), ("AsyncIterable", "AsyncIterable", some 1),
    ("AsyncIterator", "AsyncIterator", some 1), ("Iterable", "Iterable", some 1),
    ("Iterator", "Iterator", some 1), ("Reversible", "Reversible", some 1),
    ("Sized", "Sized", some 0), ("Container", "Container", some 1),
    ("Collection", "Collection", some 1), ("Callable", "Callable", none),
    ("AbstractSet", "Set", some 1), ("MutableSet", "MutableSet", some 1),
    ("Mapping", "Mapping", some 2), ("MutableMapping", "MutableMapping", some 2),
    ("Sequence", "Sequence", some 1), ("MutableSequence", "MutableSequence", some 1),
    ("ByteString", "ByteString", some 0), ("Tuple", "tuple", none), ("List", "list", some 1),
    ("Deque", "deque", some 1), ("Set", "set", some 1), ("FrozenSet", "frozenset", some 1),
    ("MappingView", "MappingView", some 1), ("KeysView", "KeysView", some 1),
    ("ItemsView", "ItemsView", some 2), ("ValuesView", "ValuesView", some 1),
    ("ContextManager", "AbstractContextManager", some 1),
    ("AsyncContextManager", "AbstractAsyncContextManager", some 1), ("Dict", "dict", some 2),
    ("DefaultDict", "defaultdict", some 2), ("OrderedDict", "OrderedDict", some 2),
    ("Counter", "Counter", some 1), ("ChainMap", "ChainMap", some 2),
    ("Generator", "Generator", some 3), ("AsyncGenerator", "AsyncGenerator", some 2),
    ("Type", "type", some 1), ("Pattern", "Pattern", some 1), ("Match", "Match", some 1)]

/-- The words that are no types without arguments, or never take any. -/
def formWords : List String :=
  ["Union", "Optional", "Literal", "ClassVar", "Final", "NoReturn", "Never", "Self",
    "LiteralString", "TypeAlias", "Concatenate", "TypeGuard", "Required", "NotRequired", "Unpack"]

/-- The forms that are types by themselves. -/
def plainForms : List String := ["NoReturn", "Never", "Self", "LiteralString", "TypeAlias"]

def wrappingForms : List String :=
  ["ClassVar", "Final", "TypeGuard", "Required", "NotRequired", "Unpack"]

def typingFunctions : List String :=
  ["cast", "assert_type", "get_args", "get_origin", "get_type_hints", "is_typeddict", "final",
    "overload", "get_overloads", "clear_overloads", "no_type_check", "no_type_check_decorator",
    "runtime_checkable", "assert_never", "reveal_type", "dataclass_transform", "NamedTuple",
    "TypedDict", "abstractmethod"]

/-- The type variables of the vocabulary: sign, constraints and bound of each. -/
def variableWords : List (String × String × List Entity × Entity) :=
  [("T", "~", [], .null), ("KT", "~", [], .null), ("VT", "~", [], .null),
    ("T_co", "+", [], .null), ("V_co", "+", [], .null), ("VT_co", "+", [], .null),
    ("T_contra", "-", [], .null), ("CT_co", "+", [], .cls "type"),
    ("AnyStr", "~", [.cls "bytes", .cls "str"], .null)]

def classWords : List (String × String) :=
  [("Text", "str"), ("ABCMeta", "ABCMeta"), ("defaultdict", "defaultdict"),
    ("GenericAlias", "GenericAlias"), ("MethodDescriptorType", "method_descriptor"),
    ("WrapperDescriptorType", "wrapper_descriptor"), ("MethodWrapperType", "method-wrapper")]

def libraryWords : List String :=
  ["collections", "contextlib", "functools", "operator", "sys", "types", "warnings"]

/-- Words that are there and of which nothing else is known. -/
def otherWords : List String :=
  ["re", "io", "stdlib_re", "EXCLUDED_ATTRIBUTES", "NamedTupleMeta", "ParamSpecArgs",
    "ParamSpecKwargs", "__all__", "__builtins__", "__cached__", "__doc__", "__file__", "__loader__",
    "__spec__"]

def vocabularyWord (name : String) : Option Entity :=
  if formWords.contains name then some (.form name)
  else if (genericWords.lookup name).isSome then some (.bare name)
  else if typingFunctions.contains name then some (.builtin ("typing." ++ name))
  else if libraryWords.contains name then some (.library name)
  else if otherWords.contains name then some (.sealed "object" name)
  else
    match variableWords.lookup name, classWords.lookup name, classRow? name with
    | some (sign, constraints, bound), _, _ => some (.variable sign name constraints bound)
    | none, some cls, _ => some (.cls cls)
    | none, none, some r => if r.home = "typing" then some (.cls name) else none
    | none, none, none =>
      match name with
      | "TYPE_CHECKING" => some (.bool false)
      | "__name__" => some (.str "typing")
      | "__package__" => some (.str "")
      | _ => none

namespace Entity

/-- Where a generic type of the vocabulary comes from: a class, or a form. -/
def originOf (word : String) : Entity :=
  match genericWords.lookup word with
  | some (origin, _) => .cls origin
  | none => if formWords.contains word then .form word else .cls word

def sameVariable : Entity → Entity → Bool
  | .variable _ s _ _, .variable _ t _ _ => s = t
  | _, _ => false

mutual

/-- The type variables in an entity, each once, in the order of their first places. -/
def typeVariables : Entity → List Entity
  | v@(.variable _ _ _ _) => [v]
  | .applied _ args | .generic _ args _ | .union args | .tuple args => typeVariablesIn args
  | .annotated of _ => of.typeVariables
  | _ => []

def typeVariablesIn : List Entity → List Entity
  | [] => []
  | v :: vs =>
    let first := v.typeVariables
    first ++ (typeVariablesIn vs).filter fun w => !first.any w.sameVariable

end

end Entity

end Annotation

end Longhand
