import Longhand.Annotation.Vocabulary
import Longhand.Decimal.Shortest

/-!
The attributes of entities. Classes and their members have the attributes that the table of classes
lists; generic types pass requests on to the class behind them; what remains is a failure whose
wording depends on the kind of the entity.
-/

namespace Longhand

namespace Annotation

variable [Home]

/-- Whether a name is kept for the language. -/
def isReserved (name : String) : Bool :=
  "__".toList.isPrefixOf name.toList && "__".toList.isPrefixOf name.toList.reverse

namespace Entity

/-- The failure of an entity that lacks an attribute. -/
def lacks {α : Type} (e : Entity) (name : String) : Answer α :=
  let owner := match e with
    | .library s => "module '" ++ s ++ "'"
    | .cls c => "type object '" ++ c ++ "'"
    | .defined c => "type object '" ++ c.name ++ "'"
    | .union _ => "'types.UnionType' object"
    | e => "'" ++ e.className ++ "' object"
  match e with
  | .form _ | .bare _ | .applied _ _ | .annotated _ _ => fail .attribute name
  | _ => .error (.failed (.noAttribute owner name))

/-- Something of which only the class is known. -/
def unknown (cls name : String) : Entity := .sealed cls name

/-- The failure part of an attribute that a class lists without telling more. -/
def listed (e : Entity) (cls name : String) : AttributeKind → Entity
  | .method => .method e name
  | .classMethod => .method (.cls e.className) name
  | .free => .method (.cls cls) name
  | .data => unknown "object" name
  | .value =>
    if name = "__hash__" then .null
    else if name = "__module__" then .str (((classRow? cls).map ClassRow.home).getD "builtins")
    else if name = "__doc__" && Home.defines cls then .null
    else unknown "object" name

def ofClass (c name : String) : Answer Entity :=
  let classes (names : List String) : Entity := .tuple (names.map .cls)
  let parents := ((lineage c).drop 1).take 1
  match name with
  | "__name__" | "__qualname__" => .ok (.str c)
  | "__module__" => .ok (.str (((classRow? c).map ClassRow.home).getD "builtins"))
  | "__mro__" => .ok (classes (lineage c))
  | "__bases__" => .ok (classes parents)
  | "__base__" => .ok ((parents.head?.map .cls).getD .null)
  | "__text_signature__" => .ok .null
  | "__dict__" => .ok (unknown "mappingproxy" name)
  | "__annotations__" => if Home.defines c then .ok (.dict []) else lacks (.cls c) name
  | "__abstractmethods__" =>
    if hasAttribute c name then .ok (unknown "frozenset" name) else fail .attribute name
  | name =>
    match findAttribute c name with
    | some (owner, .method) => .ok (.descriptor owner name)
    | some (owner, .data) => .ok (unknown "getset_descriptor" (owner ++ "." ++ name))
    | some (_, .value) => .ok (listed (.cls c) c name .value)
    | some (_, _) => .ok (.method (.cls c) name)
    | none =>
      match findAttribute "type" name with
      | some (_, .method) | some (_, .classMethod) => .ok (.method (.cls c) name)
      | some _ => .ok (unknown "object" name)
      | none => lacks (.cls c) name

/-- The classes that a library names in its own way. -/
def typeNames : List (String × String) :=
  [("NoneType", "NoneType"), ("FunctionType", "function"), ("LambdaType", "function"),
    ("EllipsisType", "ellipsis"), ("NotImplementedType", "NotImplementedType"),
    ("BuiltinFunctionType", "builtin_function_or_method"), ("ModuleType", "module"),
    ("BuiltinMethodType", "builtin_function_or_method"), ("GeneratorType", "generator"),
    ("MappingProxyType", "mappingproxy"), ("MethodType", "method"),
    ("MethodDescriptorType", "method_descriptor"), ("MethodWrapperType", "method-wrapper"),
    ("WrapperDescriptorType", "wrapper_descriptor"), ("UnionType", "UnionType"),
    ("GenericAlias", "GenericAlias")]

def operatorNames : List String :=
  ["add", "sub", "mul", "truediv", "floordiv", "mod", "pow", "lshift", "rshift", "or_", "and_",
    "xor"]

def ofLesserLibrary (library name : String) : Option Entity :=
  match library with
  | "sys" => if name = "maxsize" then some (.int (signBound - 1)) else none
  | "types" => (typeNames.lookup name).map .cls
  | "functools" => if name = "reduce" then some (.builtin "functools.reduce") else none
  | "operator" =>
    if operatorNames.contains name then some (.builtin ("operator." ++ name)) else none
  | "collections" => if name = "abc" then some (.library "collections.abc") else none
  | _ => none

def ofLibrary (library name : String) : Answer Entity :=
  if (findAttribute "module" name).any fun (_, kind) => kind = .method then
    .ok (.method (.library library) name)
  else if library = "typing" then
    match vocabularyWord name with
    | some e => .ok e
    | none => lacks (.library library) name
  else if name = "__name__" then .ok (.str library)
  else
    match ofLesserLibrary library name, classRow? name with
    | some e, _ => .ok e
    | none, some r => if r.home = library then .ok (.cls name) else lacks (.library library) name
    | none, none => lacks (.library library) name

/-- An attribute of a generic type with arguments: its own ones. -/
def ofApplied (word : String) (args : List Entity) (name : String) : Option Entity :=
  let isOptional := word = "Union" && args.length = 2 && args.any (· matches .cls "NoneType")
  let shownName := if isOptional then "Optional" else word
  match name with
  | "__name__" | "__qualname__" => some (.str shownName)
  | "_name" =>
    some (if isOptional || (genericWords.lookup word).isSome then .str shownName else .null)
  | "__origin__" => some (originOf word)
  | "__args__" => some (.tuple args)
  | "__parameters__" => some (.tuple (typeVariablesIn args))
  | "__module__" => some (.str "typing")
  | "__slots__" => some .null
  | "_paramspec_tvars" => some (.bool (word = "Callable" || word = "Concatenate"))
  | _ => none

/-- An attribute of a member of a class, as the class lists it. -/
def ofMember (e : Entity) (name : String) : Answer Entity :=
  match findAttribute e.className name with
  | some (owner, kind) => .ok (listed e owner name kind)
  | none => lacks e name

/-- The parts of an entity that have names of their own. -/
def part? : Entity → String → Option Entity
  | .bool b, "real" | .bool b, "numerator" => some (.int b.toNat)
  | .int n, "real" | .int n, "numerator" => some (.int n)
  | .bool _, "imag" | .int _, "imag" => some (.int 0)
  | .bool _, "denominator" | .int _, "denominator" => some (.int 1)
  | .float x, "real" => some (.float x)
  | .float _, "imag" => some (.float 0.0)
  | .complex re _, "real" => some (.float re)
  | .complex _ im, "imag" => some (.float im)
  | .range a _ _, "start" => some (.int a)
  | .range _ b _, "stop" => some (.int b)
  | .range _ _ c, "step" => some (.int c)
  | .slice a _ _, "start" => some a
  | .slice _ b _, "stop" => some b
  | .slice _ _ c, "step" => some c
  | .made c _, "__dict__" => if Home.defines c then some (.dict []) else none
  | .made c _, "__weakref__" => if Home.defines c then some .null else none
  | .made c args, "args" =>
    if (lineage c).contains "BaseException" then some (.tuple args) else none
  | .made "StopIteration" args, "value" => some (args.headD .null)
  | .made "SystemExit" [arg], "code" => some arg
  | .union args, "__args__" => some (.tuple args)
  | .union args, "__parameters__" => some (.tuple (typeVariablesIn args))
  | .union _, "__module__" => some (.str "types")
  | .forward s, "__forward_arg__" => some (.str s)
  | .forward _, "__forward_evaluated__" | .forward _, "__forward_is_class__" => some (.bool false)
  | .forward _, "__forward_is_argument__" => some (.bool true)
  | .forward _, "__forward_value__" | .forward _, "__forward_module__" => some .null
  | .variable _ s _ _, "__name__" => some (.str s)
  | .variable _ _ cs _, "__constraints__" => some (.tuple cs)
  | .variable _ _ _ b, "__bound__" => some b
  | .variable s _ _ _, "__covariant__" => some (.bool (s = "+"))
  | .variable s _ _ _, "__contravariant__" => some (.bool (s = "-"))
  | .newType s _, "__name__" | .newType s _, "__qualname__" => some (.str s)
  | .newType _ v, "__supertype__" => some v
  | .newType _ _, "__module__" => some (.str namelessHome)
  | .variable _ s _ _, "__module__" =>
    some (.str (if (variableWords.lookup s).isSome then "typing" else namelessHome))
  | .function _ _ _, "__name__" | .function _ _ _, "__qualname__" => some (.str "<lambda>")
  | .function _ _ _, "__doc__" | .function _ _ _, "__module__" => some .null
  | .function _ _ _, "__dict__" | .function _ _ _, "__annotations__" => some (.dict [])
  | .function params _ _, "__defaults__" =>
    let values := params.filterMap fun (_, kind, value) =>
      if kind = .keywordOnly then none else value
    some (if values.isEmpty then .null else .tuple values)
  | .function params _ _, "__kwdefaults__" =>
    let entries := params.filterMap fun (name, kind, value) =>
      if kind = .keywordOnly then value.map fun v => (.str name, v) else none
    some (if entries.isEmpty then .null else .dict entries)
  | .builtin s, "__name__" | .builtin s, "__qualname__" =>
    some (.str (String.ofList ((s.toList.reverse.takeWhile (· ≠ '.')).reverse)))
  | .builtin s, "__module__" => some (.str (if s.toList.contains '.' then "typing" else "builtins"))
  | .method _ s, "__name__" => some (.str s)
  | .method v _, "__self__" => some v
  | .method v s, "__qualname__" =>
    some (.str ((match v with
      | .cls c => c
      | v => v.className) ++ "." ++ s))
  | .iterator "generator" _ _, "__name__" | .iterator "generator" _ _, "__qualname__" =>
    some (.str "<genexpr>")
  | .descriptor _ s, "__name__" => some (.str s)
  | .descriptor c s, "__qualname__" => some (.str (c ++ "." ++ s))
  | .descriptor c _, "__objclass__" => some (.cls c)
  | _, _ => none

def attributeNamed : Entity → String → Answer Entity
  | e, "__class__" => .ok (.cls e.className)
  | .library s, name => ofLibrary s name
  | .cls c, name => ofClass c name
  | .form s, name =>
    match name with
    | "__name__" | "__qualname__" | "_name" => .ok (.str s)
    | name => ofMember (.form s) name
  | .bare s, name =>
    match name, genericWords.lookup s with
    | "__name__", _ | "__qualname__", _ | "_name", _ => .ok (.str s)
    | "__module__", _ => .ok (.str "typing")
    | "__slots__", _ => .ok .null
    | "__origin__", _ => .ok (originOf s)
    | "_nparams", some (_, n) => .ok (.int ((n.map Int.ofNat).getD (-1)))
    | "_inst", some (c, _) => .ok (.bool (((classRow? c).map ClassRow.home) != some "builtins"))
    | "__doc__", some (c, _) =>
      let home := ((classRow? c).map ClassRow.home).getD "builtins"
      let shown := if home = "builtins" then c else home ++ "." ++ c
      .ok (.str ("A generic version of " ++ shown ++ "."))
    | name, _ =>
      if hasAttribute (Entity.bare s).className name || isReserved name then ofMember (.bare s) name
      else attributeBehind (originOf s) name
  | .applied s args, name =>
    match ofApplied s args name with
    | some v => .ok v
    | none =>
      if hasAttribute (Entity.applied s args).className name || isReserved name then
        ofMember (.applied s args) name
      else attributeBehind (originOf s) name
  | .annotated v remarks, name =>
    match name with
    | "__metadata__" => .ok (.tuple remarks)
    | "__origin__" => .ok v
    | "__args__" => .ok (.tuple [v])
    | "__parameters__" => .ok (.tuple v.typeVariables)
    | "__name__" | "__qualname__" => .ok (.str "Annotated")
    | name =>
      if name ≠ "__module__"
          && (hasAttribute (Entity.annotated v remarks).className name || isReserved name) then
        ofMember (.annotated v remarks) name
      else v.attributeNamed name
  | .generic c args isStarred, name =>
    match name with
    | "__origin__" => .ok (.cls c)
    | "__args__" => .ok (.tuple args)
    | "__parameters__" => .ok (.tuple (typeVariablesIn args))
    | "__unpacked__" => .ok (.bool isStarred)
    | "__typing_unpacked_tuple_args__" =>
      .ok (if isStarred && c = "tuple" then .tuple args else .null)
    | name => ofClass c name
  | e, name =>
    match part? e name with
    | some v => .ok v
    | none => ofMember e name
where
  /-- An attribute of what is behind a generic type. -/
  attributeBehind (origin : Entity) (name : String) : Answer Entity :=
    match origin with
    | .cls c => ofClass c name
    | e => ofMember e name

end Entity

end Annotation

end Longhand
