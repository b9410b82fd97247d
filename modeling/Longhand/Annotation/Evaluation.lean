import Longhand.Annotation.Builtin

/-!
The value of an expression. Parts are looked at from left to right, and only as far as they count.
Names are those of comprehensions around, those given values by the expression, and those that
everyone knows; a function keeps the names around it. Only calls of functions need fuel: a call
within a call has one less. What expressions can do besides, such as running statements or opening
files, has no meaning here.
-/

namespace Longhand

namespace Annotation

variable [Home]

/-- Names with what they stand for; the first of one name counts. -/
abbrev Names := List (String × Entity)

/-! ### Names that are known -/

def namelessClasses : List String :=
  ["NoneType", "ellipsis", "NotImplementedType", "function", "builtin_function_or_method",
    "module", "method_descriptor", "getset_descriptor", "wrapper_descriptor", "method-wrapper",
    "classmethod_descriptor", "generator", "list_iterator", "tuple_iterator",
    "str_ascii_iterator", "str_iterator", "dict_keyiterator", "dict_keys", "dict_values",
    "dict_items", "range_iterator", "set_iterator", "bytes_iterator", "mappingproxy", "method",
    "dict_valueiterator", "dict_itemiterator", "list_reverseiterator", "member_descriptor"]

/-- What a name that is given nowhere in an annotation stands for: what the module says, or else
what everyone knows. -/
def knownName (name : String) : Option Entity :=
  if Home.defines name then some (.cls name)
  else if (Home.names.lookup name).isSome then Home.names.lookup name
  else if builtinFunctions.contains name then some (.builtin name)
  else
    match name with
    | "Ellipsis" => some .ellipsis
    | "NotImplemented" => some .notImplemented
    | "__debug__" => some (.bool true)
    | "__name__" => some (.str "builtins")
    | "EnvironmentError" | "IOError" => some (.cls "OSError")
    | "exit" | "quit" | "help" | "copyright" | "credits" | "license" =>
      some (.sealed "object" name)
    | name =>
      match classRow? name with
      | some r =>
        if r.home = "builtins" && !namelessClasses.contains name then some (.cls name) else none
      | none => none

/-! ### Targets -/

mutual

/-- The names with those of a target given an entity, or the items of one. -/
def assign (names : Names) : Expression → Entity → Answer Names
  | .name s, v => .ok ((s, v) :: names)
  | .tuple targets, v | .list targets, v => do
    let vs ← v.allItems
    let stars := (targets.filter fun t => t matches .starred _).length
    if stars = 0 && targets.length < vs.length then
      fail .value ("too many values to unpack (expected " ++ toString targets.length ++ ")")
    else if vs.length + stars < targets.length then
      let least := if stars = 0 then "" else "at least "
      fail .value ("not enough values to unpack (expected " ++ least
        ++ toString (targets.length - stars) ++ ", got " ++ toString vs.length ++ ")")
    else assignAll names targets vs
  | .starred target, v => assign names target v
  | _, _ => meaningless

/-- The names with those of targets given entities in order; a starred target takes what the
others leave. -/
def assignAll (names : Names) : List Expression → List Entity → Answer Names
  | [], _ => .ok names
  | .starred target :: rest, vs => do
    let count := vs.length - rest.length
    assignAll (← assign names target (.list (vs.take count))) rest (vs.drop count)
  | target :: rest, vs => do
    assignAll (← assign names target (vs.headD .null)) rest (vs.drop 1)

end

/-! ### Parameters -/

def bindParameters (params : List (String × ParameterKind × Option Entity)) (c : Call) :
    Answer Names := do
  let isPositional (p : String × ParameterKind × Option Entity) : Bool :=
    p.2.1 = .positionalOnly || p.2.1 = .positional
  let positional := params.filter isPositional
  let takesMore := params.any fun p => p.2.1 = .variadic
  let takesNames := params.any fun p => p.2.1 = .variadicKeyword
  if positional.length < c.args.length && !takesMore then meaningless
  let named := params.filter fun p => p.2.1 = .positional || p.2.1 = .keywordOnly
  let extra := c.named.filter fun (name, _) => !named.any fun p => p.1 = name
  if !extra.isEmpty && !takesNames then meaningless
  params.foldlM (fun names (name, kind, default) => do
    let place := (positional.findIdx? fun p => p.1 = name).getD positional.length
    let byPlace := if kind = .positionalOnly || kind = .positional then c.args[place]? else none
    let byName := if kind = .positional || kind = .keywordOnly then c.named.lookup name else none
    match kind, byPlace, byName with
    | .variadic, _, _ => return (name, .tuple (c.args.drop positional.length)) :: names
    | .variadicKeyword, _, _ =>
      return (name, .dict (extra.map fun (k, v) => (.str k, v))) :: names
    | _, some _, some _ => meaningless
    | _, some v, none | _, none, some v => return (name, v) :: names
    | _, none, none =>
      match default with
      | some v => return (name, v) :: names
      | none => meaningless) []

/-! ### Frames -/

/-- What an expression is looked at in: the names of everything, unless the expression stands by
itself; those of the functions around; and the way to call an entity. -/
structure Frame where
  globals : Option Names
  outer : Names
  apply : Names → Entity → Call → Answer Entity

/-- A computation that gives values to names. -/
abbrev Eval := StateT Names (Except Failure)

def attempt {α : Type} (x : Eval α) : Eval (Except Failure α) := fun names =>
  match x names with
  | .ok (a, names) => .ok (.ok a, names)
  | .error why => .ok (.error why, names)

/-- What a computation gives for each item, up to the first failure. -/
def gatherEach (step : Entity → Eval (List Entity × Option Failure)) (ending : Option Failure) :
    List Entity → Eval (List Entity × Option Failure)
  | [] => return ([], ending)
  | v :: vs => do
    match ← step v with
    | (given, some why) => return (given, some why)
    | (given, none) =>
      let (more, ending) ← gatherEach step ending vs
      return (given ++ more, ending)

def complete : List Entity × Option Failure → Answer (List Entity)
  | (vs, none) => .ok vs
  | (_, some why) => .error why

namespace Frame

/-- What a name stands for, after the names of comprehensions. -/
def lookup (f : Frame) (bound : Names) (name : String) : Eval Entity := do
  let names ← get
  match ((bound.lookup name).or (names.lookup name)).or
      ((f.outer.lookup name).or ((f.globals.bind fun g => g.lookup name).or (knownName name))) with
  | some v => return v
  | none => throw .meaningless

def call (f : Frame) (v : Entity) (c : Call) : Eval Entity := do
  let names ← get
  f.apply (f.globals.getD names) v c

/-- The names that a function keeps. -/
def kept (f : Frame) (bound : Names) : Eval Names := do
  if f.globals.isSome then return bound ++ (← get) ++ f.outer else return bound ++ f.outer

end Frame

def fieldText (v : Entity) (form : FieldForm) (layout : Entity) : Answer Entity := do
  let v ← match form with
    | .plain => pure v
    | .text => do pure (.str (← v.plainText))
    | .quoted => do pure (.str (← v.shown))
    | .ascii => do pure (.str (inAscii (← v.shown)))
  match layout with
  | .str layout => return .str (← v.laidOut layout)
  | _ => return .str (← v.laidOut "")

def joinedText (vs : List Entity) : Answer Entity := do
  let texts ← vs.mapM fun
    | .str s => .ok s
    | _ => meaningless
  return .str (String.join texts)

def collect (what : Collection) (gathered : List Entity × Option Failure) : Answer Entity := do
  match what with
  | .list => return .list (← complete gathered)
  | .set => Entity.setOf false (← complete gathered)
  | .stream =>
    let ending := gathered.2.map fun
      | .failed (.evaluation .exhausted _) =>
        .failed (.evaluation .runtime "generator raised StopIteration")
      | why => why
    return .iterator "generator" gathered.1 ending

def collectPairs (gathered : List Entity × Option Failure) : Answer Entity := do
  let pairs ← (← complete gathered).mapM fun
    | .tuple [k, v] => if k.isHashable then .ok (k, v) else meaningless
    | _ => meaningless
  return .dict (Method.putAll [] pairs)

def namedOf (v : Entity) : Answer Names :=
  match v with
  | .dict entries => entries.mapM fun
    | (.str s, v) => .ok (s, v)
    | _ => meaningless
  | _ => meaningless

mutual

def evaluate (f : Frame) (bound : Names) : Expression → Eval Entity
  | .name s => f.lookup bound s
  | .value v => return .ofValue v
  | .attribute owner name => do (← evaluate f bound owner).attributeNamed name
  | .subscript owner index => do
    let v ← evaluate f bound owner
    v.indexed (← evaluate f bound index)
  | .slice a b c => do
    return .slice (← evaluateOptional f bound a) (← evaluateOptional f bound b)
      (← evaluateOptional f bound c)
  | .call function arguments => do
    let v ← evaluate f bound function
    let args ← evaluatePlaced f bound arguments
    f.call v ⟨args, ← evaluateNamed f bound arguments⟩
  | .list items => do return .list (← evaluateAll f bound items)
  | .tuple items => do return .tuple (← evaluateAll f bound items)
  | .set items => do Entity.setOf false (← evaluateAll f bound items)
  | .dict entries => do return .dict (← evaluateEntries f bound [] entries)
  | .starred items => do return .tuple (← (← evaluate f bound items).allItems)
  | .sign op operand => do (← evaluate f bound operand).signed op
  | .binary .or left right => do
    let v ← evaluate f bound left
    if v.holds then return v else evaluate f bound right
  | .binary .and left right => do
    let v ← evaluate f bound left
    if v.holds then evaluate f bound right else return v
  | .binary op left right => do
    let v ← evaluate f bound left
    Entity.combine op v (← evaluate f bound right)
  | .comparison first rest => do
    return .bool (← evaluateChain f bound (← evaluate f bound first) rest)
  | .conditional condition yes no => do
    if (← evaluate f bound condition).holds then evaluate f bound yes else evaluate f bound no
  | .naming name value => do
    let v ← evaluate f bound value
    modify ((name, v) :: ·)
    return v
  | .function params body => do
    return .function (← evaluateDefaults f bound params) body (← f.kept bound)
  | .comprehension what item clauses => do
    let source ← evaluateSource f bound clauses
    collect what (← gather f bound (fun bound => evaluate f bound item) (some source) clauses)
  | .dictComprehension key value clauses => do
    let source ← evaluateSource f bound clauses
    let pair (bound : Names) : Eval Entity := do
      let k ← evaluate f bound key
      return .tuple [k, ← evaluate f bound value]
    collectPairs (← gather f bound pair (some source) clauses)
  | .joined parts => do joinedText (← evaluateAll f bound parts)
  | .field value form layout => do
    let v ← evaluate f bound value
    fieldText v form (← evaluateOptional f bound layout)
  | .suspension _ => throw .meaningless

def evaluateOptional (f : Frame) (bound : Names) : Option Expression → Eval Entity
  | none => return .null
  | some e => evaluate f bound e

/-- The values of expressions, of which starred ones give all their items. -/
def evaluateAll (f : Frame) (bound : Names) : List Expression → Eval (List Entity)
  | [] => return []
  | .starred e :: es => do
    let vs ← (← evaluate f bound e).allItems
    return vs ++ (← evaluateAll f bound es)
  | e :: es => do
    let v ← evaluate f bound e
    return v :: (← evaluateAll f bound es)

def evaluateEntries (f : Frame) (bound : Names) (entries : List (Entity × Entity)) :
    List (Option Expression × Expression) → Eval (List (Entity × Entity))
  | [] => return entries
  | (some key, value) :: rest => do
    let k ← evaluate f bound key
    let v ← evaluate f bound value
    if k.isHashable then evaluateEntries f bound (Entity.put entries k v) rest
    else throw .meaningless
  | (none, value) :: rest => do
    match ← evaluate f bound value with
    | .dict more => evaluateEntries f bound (Method.putAll entries more) rest
    | _ => throw .meaningless

def evaluatePlaced (f : Frame) (bound : Names) : List (Passing × Expression) → Eval (List Entity)
  | [] => return []
  | (.plain, e) :: rest => do
    let v ← evaluate f bound e
    return v :: (← evaluatePlaced f bound rest)
  | (.spread, e) :: rest => do
    let vs ← (← evaluate f bound e).allItems
    return vs ++ (← evaluatePlaced f bound rest)
  | (_, _) :: rest => evaluatePlaced f bound rest

/-- The arguments that are given by name, each once. -/
def evaluateNamed (f : Frame) (bound : Names) : List (Passing × Expression) → Eval Names
  | [] => return []
  | (.named name, e) :: rest => do
    let v ← evaluate f bound e
    let more ← evaluateNamed f bound rest
    if (more.lookup name).isSome then throw .meaningless else return (name, v) :: more
  | (.spreadNamed, e) :: rest => do
    let given ← namedOf (← evaluate f bound e)
    let more ← evaluateNamed f bound rest
    if given.any fun g => (more.lookup g.1).isSome then throw .meaningless
    else return given ++ more
  | (_, _) :: rest => evaluateNamed f bound rest

/-- Whether each operand compares with the next as asked. The first one that does not ends it. -/
def evaluateChain (f : Frame) (bound : Names) (v : Entity) :
    List (Comparison × Expression) → Eval Bool
  | [] => return true
  | (op, e) :: rest => do
    let w ← evaluate f bound e
    if ← Entity.compare op v w then evaluateChain f bound w rest else return false

def evaluateDefaults (f : Frame) (bound : Names) :
    List (String × ParameterKind × Option Expression) →
      Eval (List (String × ParameterKind × Option Entity))
  | [] => return []
  | (name, kind, none) :: rest => do return (name, kind, none) :: (← evaluateDefaults f bound rest)
  | (name, kind, some e) :: rest => do
    let v ← evaluate f bound e
    return (name, kind, some v) :: (← evaluateDefaults f bound rest)

def evaluateConditions (f : Frame) (bound : Names) : List Expression → Eval Bool
  | [] => return true
  | e :: es => do
    if (← evaluate f bound e).holds then evaluateConditions f bound es else return false

def evaluateSource (f : Frame) (bound : Names) :
    List (Expression × Expression × List Expression) → Eval (List Entity × Option Failure)
  | [] => return ([], none)
  | (_, source, _) :: _ => do (← evaluate f bound source).items

/-- What an item gives for all ways through clauses, up to the first failure. What the first
clause runs through may be given. -/
def gather (f : Frame) (bound : Names) (item : Names → Eval Entity)
    (given : Option (List Entity × Option Failure)) :
    List (Expression × Expression × List Expression) → Eval (List Entity × Option Failure)
  | [] => do
    match ← attempt (item bound) with
    | .ok v => return ([v], none)
    | .error why => return ([], some why)
  | (target, source, conditions) :: rest => do
    let source ← match given with
      | some g => pure (.ok g)
      | none => attempt do (← evaluate f bound source).items
    match source with
    | .error why => return ([], some why)
    | .ok (vs, ending) =>
      gatherEach (fun v => do
        let step ← attempt do
          let bound ← assign bound target v
          return (bound, ← evaluateConditions f bound conditions)
        match step with
        | .error why => return ([], some why)
        | .ok (_, false) => return ([], none)
        | .ok (bound, true) => gather f bound item none rest) ending vs

end

/-- How deep calls go. -/
def deepestCall : Nat := 980

def apply : (fuel : Nat) → Names → Entity → Call → Answer Entity
  | 0, _, _, _ => fail .recursion "maximum recursion depth exceeded"
  | fuel + 1, globals, .function params body kept, c => do
    let names ← bindParameters params c
    let (v, _) ← (evaluate ⟨some globals, kept, apply fuel⟩ [] body).run names
    return v
  | fuel + 1, globals, .builtin "eval", c =>
    match c.args with
    | .str s :: _ =>
      match Expression.ofText (String.ofList (s.toList.dropWhile fun c => c = ' ' || c = '\t')) with
      | some e => do
        let (v, _) ← (evaluate ⟨none, [], apply fuel⟩ [] e).run globals
        return v
      | none =>
        if s.toList.contains '\x00' then
          fail .value "source code string cannot contain null bytes"
        else fail .spelling "invalid syntax (<string>, line 1)"
    | _ => meaningless
  | fuel + 1, globals, v, c => Builtin.call (apply fuel globals) v c

/-- The value of an expression that stands by itself, and the names with those that it gives
values to. -/
def Expression.value? (names : Names) (e : Expression) : Answer (Entity × Names) :=
  (evaluate ⟨none, [], apply deepestCall⟩ [] e).run names

end Annotation

end Longhand
