import Longhand.Annotation.Construct

/-!
Calls: of the functions that are known everywhere, of those of the typing vocabulary, and of
classes, methods and types. A function that calls another one is given the way to call it.
-/

namespace Longhand

namespace Annotation

variable [Home]

def builtinFunctions : List String :=
  ["abs", "all", "any", "ascii", "bin", "callable", "chr", "divmod", "format", "getattr", "hasattr",
    "hash", "hex", "id", "isinstance", "issubclass", "iter", "len", "max", "min", "next", "oct",
    "ord", "pow", "print", "repr", "round", "sorted", "sum", "vars", "eval", "exec", "compile",
    "dir", "globals", "locals", "open", "input", "setattr", "delattr", "breakpoint", "aiter",
    "anext", "__import__", "__build_class__"]

namespace Builtin

abbrev Apply := Entity → Call → Answer Entity

def named (c : Call) (name : String) : Entity := (c.named.lookup name).getD .null

def onlyNamed (c : Call) (names : List String) : Answer Unit :=
  if c.named.all fun (name, _) => names.contains name then .ok () else meaningless

/-- The first failure of a run through items, if any, after which nothing is given. -/
def mapItems (f : Entity → Answer (List Entity)) (ending : Option Failure) :
    List Entity → List Entity × Option Failure
  | [] => ([], ending)
  | v :: vs =>
    match f v with
    | .ok given =>
      let (more, ending) := mapItems f ending vs
      (given ++ more, ending)
    | .error why => ([], some why)

/-- Looks for the first item that passes a test, or fails where the items do. -/
def anyItem (p : Entity → Bool) (v : Entity) : Answer Bool := do
  let (vs, ending) ← v.items
  if vs.any p then return true
  match ending with
  | some why => throw why
  | none => return false

/-! ### Tests of kinds -/

def testClass? : Entity → Option String
  | .cls c => if c = "Any" then none else some c
  | .bare word =>
    match genericWords.lookup word with
    | some (origin, _) => some origin
    | none => none
  | _ => none

/-- Whether a class passes the test of an entity: of a class, of a choice, or of any of several
entities, of which the ones behind the first that passes are not looked at. -/
def passes (cls : String) : Entity → Answer Bool
  | .tuple vs | .union vs | .applied "Union" vs => passesOne cls vs
  | v =>
    match testClass? v with
    | some d => .ok (refines cls d)
    | none => meaningless
where
  passesOne (cls : String) : List Entity → Answer Bool
  | [] => .ok false
  | v :: vs => do if ← passes cls v then return true else passesOne cls vs

def isCallable : Entity → Bool
  | .cls _ | .defined _ | .builtin _ | .method _ _ | .descriptor _ _ | .function _ _ _ | .form _
  | .bare _ | .applied _ _ | .annotated _ _ | .generic _ _ _ | .newType _ _ => true
  | _ => false

/-! ### Order -/

def keyed (apply : Apply) (key : Entity) (vs : List Entity) : Answer (List (Entity × Entity)) :=
  match key with
  | .null => .ok (vs.map fun v => (v, v))
  | key => vs.mapM fun v => do return (← apply key ⟨[v], []⟩, v)

/-- The first item that is above all others, or below them. -/
def extreme (apply : Apply) (op : Comparison) (name : String) (c : Call) : Answer Entity := do
  onlyNamed c ["key", "default"]
  let vs ← match c.args with
    | [] => meaningless
    | [v] => v.allItems
    | vs => if (c.named.lookup "default").isSome then meaningless else pure vs
  match ← keyed apply (named c "key") vs with
  | [] =>
    match c.named.lookup "default" with
    | some v => return v
    | none => fail .value (name ++ "() arg is an empty sequence")
  | first :: more => do
    let (_, v) ← more.foldlM (fun (best : Entity × Entity) item => do
      if ← Entity.compare op item.1 best.1 then return item else return best) first
    return v

def insertKeyed (item : Entity × Entity) : List (Entity × Entity) →
    Answer (List (Entity × Entity))
  | [] => .ok [item]
  | other :: rest => do
    if ← Entity.compare .less item.1 other.1 then return item :: other :: rest
    else return other :: (← insertKeyed item rest)

def sorted (apply : Apply) (vs : List Entity) (c : Call) : Answer (List Entity) := do
  onlyNamed c ["key", "reverse"]
  let isReversed := (named c "reverse").holds
  let items ← keyed apply (named c "key") vs
  let items := if isReversed then items.reverse else items
  let done ← items.foldlM (fun done item => insertKeyed item done) []
  let done := done.map Prod.snd
  return if isReversed then done.reverse else done

/-! ### Numbers -/

/-- The sum of items from a start. Texts are not put together. -/
def sum (c : Call) : Answer Entity := do
  match ← c.bind ["", "start"] 1 with
  | [some v, start] =>
    let start := start.getD (.int 0)
    let vs ← v.allItems
    match start with
    | .str _ | .bytes _ => meaningless
    | start => vs.foldlM (Entity.combine .add) start
  | _ => meaningless

def inBase (base : Nat) (mark : String) (c : Call) : Answer Entity := do
  let n ← (← c.single).toIndex
  return .str ((if n < 0 then "-" else "") ++ mark ++ String.ofList (Nat.toDigits base n.natAbs))

def character (c : Call) : Answer Entity := do
  let n ← (← c.single).toIndex
  if 0x80000000 ≤ n ∨ n < -0x80000000 then
    fail .overflow "Python int too large to convert to C int"
  else if 0 ≤ n ∧ n < 0x110000 then return Entity.ofChar (Char.ofNat n.toNat)
  else fail .value "chr() arg not in range(0x110000)"

def ordinal (c : Call) : Answer Entity := do
  match ← c.single with
  | .str s =>
    match s.toList with
    | [a] => return .int a.toNat
    | _ => meaningless
  | .bytes [b] => return .int b.toNat
  | _ => meaningless

/-! ### Attributes and iterators -/

def attributeOr (c : Call) : Answer Entity := do
  match ← c.plain 2 3 with
  | v :: .str name :: default =>
    match v.attributeNamed name, default with
    | .error (.failed (.noAttribute _ _)), w :: _ => return w
    | .error (.failed (.evaluation .attribute _)), w :: _ => return w
    | r, _ => r
  | _ => meaningless

def hasAttribute (c : Call) : Answer Entity := do
  match ← c.plain 2 2 with
  | [v, .str name] =>
    match v.attributeNamed name with
    | .ok _ => return .bool true
    | .error (.failed (.noAttribute _ _)) => return .bool false
    | .error (.failed (.evaluation .attribute _)) => return .bool false
    | .error why => throw why
  | _ => meaningless

def iteratorKind : Entity → String
  | .str s => if s.toList.all fun c => c.toNat < 0x80 then "str_ascii_iterator" else "str_iterator"
  | .bytes _ => "bytes_iterator"
  | .list _ => "list_iterator"
  | .tuple _ => "tuple_iterator"
  | .set _ _ => "set_iterator"
  | .dict _ => "dict_keyiterator"
  | .range _ _ _ => "range_iterator"
  | .view "dict_values" _ => "dict_valueiterator"
  | .view "dict_items" _ => "dict_itemiterator"
  | .view _ _ => "dict_keyiterator"
  | .iterator kind _ _ => kind
  | _ => "generator"

def mostCalls : Nat := 10000

/-- The answers of a call until one equals a mark. -/
def untilMark (call : Answer Entity) (mark : Entity) : (fuel : Nat) →
    List Entity × Option Failure
  | 0 => ([], some .meaningless)
  | fuel + 1 =>
    match call with
    | .error why => ([], some why)
    | .ok v =>
      if v.same mark then ([], none)
      else
        let (vs, ending) := untilMark call mark fuel
        (v :: vs, ending)

def iterator (apply : Apply) (c : Call) : Answer Entity := do
  match ← c.plain 1 2 with
  | [v] =>
    let (vs, ending) ← v.items
    return .iterator (iteratorKind v) vs ending
  | [f, mark] =>
    if !isCallable f then meaningless
    let (vs, ending) := untilMark (apply f ⟨[], []⟩) mark mostCalls
    return .iterator "callable_iterator" vs ending
  | _ => meaningless

/-- The next item of an iterator, or a value in its place. -/
def next (c : Call) : Answer Entity := do
  match ← c.plain 1 2 with
  | .iterator _ (v :: _) _ :: _ => return v
  | .iterator _ [] (some why) :: _ => throw why
  | .iterator _ [] none :: [v] => return v
  | .iterator _ [] none :: _ => fail .exhausted ""
  | _ => meaningless

/-- What a function gives for the items of rows side by side. -/
def mapped (apply : Apply) (c : Call) : Answer Entity := do
  match ← c.plain 2 100 with
  | f :: rows => do
    match ← Construct.sideBySide ⟨rows, []⟩ with
    | .iterator _ vs ending =>
      let (vs, ending) := mapItems (fun v => do return [← apply f ⟨v.arguments, []⟩]) ending vs
      return .iterator "map" vs ending
    | _ => meaningless
  | [] => meaningless

/-- The items for which a function gives something true. -/
def filtered (apply : Apply) (c : Call) : Answer Entity := do
  match ← c.plain 2 2 with
  | [f, v] => do
    let (vs, ending) ← v.items
    let keep (v : Entity) : Answer (List Entity) := do
      let test ← match f with
        | .null => pure v
        | f => apply f ⟨[v], []⟩
      return if test.holds then [v] else []
    let (vs, ending) := mapItems keep ending vs
    return .iterator "filter" vs ending
  | _ => meaningless

/-! ### Raising -/

def faultClasses : List (String × EvaluationFault) :=
  [("AttributeError", .attribute), ("IndexError", .position), ("KeyError", .key),
    ("ZeroDivisionError", .zeroDivision), ("ValueError", .value), ("OverflowError", .overflow),
    ("RecursionError", .recursion), ("StopIteration", .exhausted), ("MemoryError", .memory),
    ("LookupError", .lookup), ("RuntimeError", .runtime), ("AssertionError", .assertion),
    ("SyntaxError", .spelling), ("FileNotFoundError", .missingFile)]

/-- The failure that a class of failures or a member of one stands for. -/
def raised (v : Entity) (args : List Entity) : Answer Entity := do
  let (cls, args) := match v with
    | .made cls own => (cls, own)
    | .cls cls => (cls, args)
    | v => (v.className, [])
  let ancestors := lineage cls
  if !ancestors.contains "BaseException" || ancestors.contains "TypeError"
      || ancestors.contains "NameError" then meaningless
  else if cls = "StopIteration" then fail .runtime "generator raised StopIteration"
  else
    fail ((faultClasses.lookup cls).getD (.named cls)) (← (Entity.made cls args).plainText)

/-! ### The typing vocabulary -/

/-- How much of an entity is shown where it should not be there. -/
def mostShown : Nat := 100

def argumentsOf : Entity → Entity
  | .annotated v remarks => .tuple (v :: remarks)
  | .applied "Callable" [a, r] =>
    if a.isParameters then .tuple [a, r] else .tuple [.list [a], r]
  | .applied "Callable" args => .tuple [.list args.dropLast, args.getLastD .null]
  | .applied _ args | .generic _ args _ | .union args => .tuple args
  | _ => .tuple []

/-- What a type is made from. -/
def originOf : Entity → Entity
  | .annotated _ _ => .cls "Annotated"
  | .applied word _ | .bare word => Entity.originOf word
  | .generic c _ _ => .cls c
  | .union _ => .cls "UnionType"
  | .cls "Generic" => .cls "Generic"
  | _ => .null

/-- A class of mappings with given fields, whose types must be types. -/
def mappingClass (c : Call) : Answer Entity := do
  let (name, types) ← match c.args with
    | [.str name] => pure (name, (c.named.filter fun (key, _) => key ≠ "total").map Prod.snd)
    | [.str name, .dict fields] => do
      onlyNamed c ["total"]
      pure (name, fields.map Prod.snd)
    | _ => meaningless
  let _ ← Entity.asTypes types
  return .defined ⟨namelessHome, name, mappingClassType, 0⟩

def typing (name : String) (c : Call) : Answer Entity := do
  match name with
  | "cast" =>
    match ← c.bind ["typ", "val"] 2 with
    | [_, some v] => return v
    | _ => meaningless
  | "assert_type" =>
    match ← c.plain 2 2 with
    | v :: _ => return v
    | [] => meaningless
  | "get_args" => return argumentsOf (← c.single)
  | "get_origin" => return originOf (← c.single)
  | "final" | "no_type_check" | "reveal_type" => c.single
  | "assert_never" => do
    let s ← (← c.single).shown
    let s := if s.length ≤ mostShown then s
      else String.ofList (s.toList.take mostShown) ++ "..."
    fail .assertion ("Expected code to be unreachable, but got: " ++ s)
  | "is_typeddict" => return .bool (← c.single).isMappingClass
  | "TypedDict" => mappingClass c
  | "get_type_hints" =>
    match ← c.single with
    | .cls _ | .function _ _ _ | .builtin _ | .method _ _ | .descriptor _ _ => return .dict []
    | _ => meaningless
  | "get_overloads" => do
    let _ ← c.single
    return .list []
  | "clear_overloads" => do
    let _ ← c.plain 0 0
    return .null
  | _ => meaningless

/-! ### All functions -/

def operatorFunctions : List (String × Operator) :=
  Method.operatorNames ++ [("or_", .alternative), ("and_", .both)]

/-- A function that is known everywhere, or by its library. -/
def function (apply : Apply) (name : String) (c : Call) : Answer Entity := do
  match name with
  | "abs" =>
    match Number.ofEntity? (← c.single) with
    | some n => return (← n.size).toEntity
    | none => meaningless
  | "all" => do return .bool !(← anyItem (fun v => !v.holds) (← c.single))
  | "any" => do return .bool (← anyItem Entity.holds (← c.single))
  | "ascii" => do return .str (inAscii (← (← c.single).shown))
  | "repr" => do return .str (← (← c.single).shown)
  | "bin" => inBase 2 "0b" c
  | "oct" => inBase 8 "0o" c
  | "hex" => inBase 16 "0x" c
  | "callable" => do return .bool (isCallable (← c.single))
  | "chr" => character c
  | "ord" => ordinal c
  | "divmod" =>
    match ← c.plain 2 2 with
    | [v, w] => Method.divided v w
    | _ => meaningless
  | "format" =>
    match ← c.plain 1 2 with
    | [v] => do return .str (← v.laidOut "")
    | [v, .str layout] => do return .str (← v.laidOut layout)
    | _ => meaningless
  | "getattr" => attributeOr c
  | "hasattr" => hasAttribute c
  | "hash" => (← c.single).hash
  | "id" => do
    let _ ← c.single
    return .sealed "int" (placed "id")
  | "isinstance" =>
    match ← c.plain 2 2 with
    | [v, test] => return .bool (← passes v.className test)
    | _ => meaningless
  | "issubclass" =>
    match ← c.plain 2 2 with
    | [_, .tuple []] => return .bool false
    | [.cls d, test] => return .bool (← passes d test)
    | _ => meaningless
  | "iter" => iterator apply c
  | "next" => next c
  | "len" => do return .int (← (← c.single).length)
  | "max" => extreme apply .greater "max" c
  | "min" => extreme apply .less "min" c
  | "pow" =>
    match ← c.bind ["base", "exp", "mod"] 2 with
    | [some v, some w, modulus] => Method.power v w (Entity.orNull modulus)
    | _ => meaningless
  | "print" => do
    onlyNamed c ["sep", "end", "flush"]
    let _ ← c.args.mapM Entity.plainText
    return .null
  | "round" =>
    match ← c.bind ["number", "ndigits"] 1 with
    | [some v, places] => Method.rounded v places
    | _ => meaningless
  | "sorted" =>
    match c.args with
    | [v] => do return .list (← sorted apply (← v.allItems) c)
    | _ => meaningless
  | "sum" => sum c
  | "vars" =>
    match ← c.single with
    | .made c _ => if Home.defines c then return .dict [] else meaningless
    | v => if v.isTyping || v matches .library _ then return .sealed "dict" "vars" else meaningless
  | "exec" =>
    match ← c.plain 1 3 with
    | .str _ :: _ => return .null
    | _ => meaningless
  | "open" =>
    match c.args, c.named with
    | [.str s], [] => fail .missingFile s
    | _, _ => meaningless
  | "__import__" =>
    match ← c.plain 1 5 with
    | .str s :: _ =>
      if s = "typing" || libraryWords.contains s then return .library s else meaningless
    | _ => meaningless
  | "functools.reduce" =>
    match ← c.plain 2 3 with
    | f :: v :: start => do
      match start ++ (← v.allItems) with
      | [] => meaningless
      | first :: vs => vs.foldlM (fun a b => apply f ⟨[a, b], []⟩) first
    | _ => meaningless
  | name =>
    match name.toList with
    | 't' :: 'y' :: 'p' :: 'i' :: 'n' :: 'g' :: '.' :: rest => typing (String.ofList rest) c
    | 'o' :: 'p' :: 'e' :: 'r' :: 'a' :: 't' :: 'o' :: 'r' :: '.' :: rest =>
      match operatorFunctions.lookup (String.ofList rest), ← c.plain 2 2 with
      | some op, [v, w] => Entity.combine op v w
      | _, _ => meaningless
    | _ => meaningless

/-! ### Calls -/

def ofClass (construct : String → Call → Answer Entity) (cls name : String) (c : Call) :
    Answer Entity := do
  match cls, name with
  | _, "__call__" => construct cls c
  | _, "__new__" =>
    match c.args with
    | .cls d :: args => if refines d cls then construct d { c with args } else meaningless
    | _ => meaningless
  | _, "__class_getitem__" => (Entity.cls cls).indexed (← c.single)
  | _, "mro" => do
    let _ ← c.plain 0 0
    return .list ((lineage cls).map .cls)
  | "dict", "fromkeys" =>
    match ← c.plain 1 2 with
    | v :: value => do
      let keys ← v.allItems
      if !keys.all Entity.isHashable then meaningless
      return .dict (Method.putAll [] (keys.map fun k => (k, value.headD .null)))
    | [] => meaningless
  | "int", "from_bytes" => Method.ofBytes c
  | "bool", "from_bytes" => do return .bool (← Method.ofBytes c).holds
  | "float", "fromhex" =>
    match ← c.single with
    | .str s => Construct.realOfHex s.toList
    | _ => meaningless
  | "bytes", "fromhex" =>
    match ← c.single with
    | .str s => return .bytes (← TextMethod.ofHexadecimal 0 s.toList)
    | _ => meaningless
  | "str", "maketrans" => do TextMethod.table (← c.plain 1 3)
  | _, "__subclasses__" => do
    let _ ← c.plain 0 0
    if !Home.defines cls then meaningless
    let heirs := Home.classes.filter fun r => (r.lineage.drop 1).head? = some cls
    return .list (heirs.map fun r => .cls r.name)
  | _, "__or__" => do Entity.alternative (.cls cls) (← c.single)
  | _, "__ror__" => do Entity.alternative (← c.single) (.cls cls)
  | _, "__instancecheck__" => do return .bool (refines (← c.single).className cls)
  | _, "__subclasscheck__" =>
    match ← c.single with
    | .cls d => return .bool (refines d cls)
    | _ => meaningless
  | _, "__repr__" | _, "__str__" => do
    let _ ← c.plain 0 0
    return .str (← (Entity.cls cls).shown)
  | _, _ => meaningless

/-- What a call of a class makes. -/
def construct (apply : Apply) (cls : String) (c : Call) : Answer Entity :=
  match cls with
  | "map" => mapped apply c
  | "filter" => filtered apply c
  | cls => Construct.call cls c

/-- What a call of anything but a function of its own gives. -/
def call (apply : Apply) (f : Entity) (c : Call) : Answer Entity :=
  match f with
  | .cls cls => construct apply cls c
  | .generic cls _ _ => construct apply cls c
  | .annotated v _ => apply v c
  | .newType _ _ => c.single
  | .builtin name => function apply name c
  | .method (.cls cls) name => ofClass (construct apply) cls name c
  | .method (.iterator kind vs ending) "__next__" =>
    if c.args.isEmpty then next ⟨[.iterator kind vs ending], []⟩ else meaningless
  | .method (.iterator kind vs ending) "send" => next ⟨[.iterator kind vs ending], []⟩
  | .method (.iterator _ _ _) "close" => .ok .null
  | .method (.iterator "generator" _ _) "throw" =>
    match c.args with
    | v :: args => raised v args
    | [] => meaningless
  | .method v "__iter__" => iterator apply ⟨v :: c.args, c.named⟩
  | .method (.list vs) "sort" => do
    let _ ← if c.args.isEmpty then sorted apply vs c else meaningless
    return .null
  | .method v "__call__" => apply v c
  | .method v name => Method.call v name c
  | .descriptor cls name =>
    match c.args with
    | v :: args =>
      if v.isMember cls then
        match v with
        | .cls d => if cls = "type" then apply (.method (.cls d) name) { c with args }
            else Method.call v name { c with args }
        | v => apply (.method v name) { c with args }
      else meaningless
    | [] => meaningless
  | _ => meaningless

end Builtin

end Annotation

end Longhand
