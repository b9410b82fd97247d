import Longhand.Annotation.Attribute
import Longhand.Annotation.Scope
import Longhand.Annotation.Sequence

/-!
What entities make of an index: generic types take arguments, forms take types, and sequences and
mappings give parts. A text in the place of a type is kept to be resolved later, but it must spell
an expression at once.
-/

namespace Longhand

namespace Annotation

variable [Home]

namespace Entity

/-- A text as a type that is to be resolved. -/
def reference (s : String) : Answer Entity :=
  if s.isEmpty then fail .position "string index out of range"
  else if s.toList.contains '\x00' then fail .value "source code string cannot contain null bytes"
  else if (Expression.ofText s).isSome then .ok (.forward s)
  else .error (.failed (.notExpression (Quoted.string s)))

/-- An entity in the place of a type: null stands for its class, and a text for what it spells. -/
def converted : Entity → Answer Entity
  | .null => .ok (.cls "NoneType")
  | .str s => reference s
  | v => .ok v

/-- An entity as a type. Words that need arguments are none, unless qualifiers are allowed. -/
def asType (allowsQualifiers : Bool) (v : Entity) : Answer Entity := do
  match ← v.converted with
  | .tuple _ | .cls "Generic" | .cls "Protocol" | .applied "Generic" _ | .applied "Protocol" _ =>
    meaningless
  | .applied word args =>
    if (word = "ClassVar" || word = "Final") && !allowsQualifiers then meaningless
    else return .applied word args
  | .form word =>
    if plainForms.contains word || (allowsQualifiers && (word = "ClassVar" || word = "Final")) then
      return .form word
    else meaningless
  | v => return v

def asTypes (vs : List Entity) : Answer (List Entity) := vs.mapM (asType false)

def arguments : Entity → List Entity
  | .tuple vs => vs
  | v => [v]

/-! ### Choices -/

/-- The members of choices among the entities, opened. -/
def opened (vs : List Entity) : List Entity :=
  vs.flatMap fun
    | .applied "Union" args | .union args => args
    | v => [v]

def choice (vs : List Entity) : Answer Entity := do
  let members := opened (← asTypes vs)
  if !members.all isHashable then meaningless
  match distinct members with
  | [] => meaningless
  | [v] => return v
  | members => return .applied "Union" members

def isTyping : Entity → Bool
  | .form _ | .bare _ | .applied _ _ | .annotated _ _ | .forward _ | .variable _ _ _ _
  | .newType _ _ => true
  | _ => false

/-- Whether an entity can stand beside a bar. -/
def isAlternative : Entity → Bool
  | .null | .cls _ | .defined _ | .generic _ _ _ | .union _ => true
  | _ => false

/-- The choice of two entities that is written with a bar. -/
def alternative (v w : Entity) : Answer Entity :=
  if v.isTyping || w.isTyping then choice [v, w]
  else if v.isAlternative && w.isAlternative && !(v matches .null && w matches .null) then
    let named : Entity → Entity
      | .null => .cls "NoneType"
      | v => v
    match distinct ((opened [v, w]).map named) with
    | [v] => .ok v
    | members => .ok (.union members)
  else meaningless

/-! ### Variables -/

def rebuilt (e : Entity) (args : List Entity) : Answer Entity :=
  match e with
  | .applied "Union" _ => choice args
  | .applied "Concatenate" _ =>
    match args.getLast? with
    | some (.list more) | some (.tuple more) => .ok (.tuple (args.dropLast ++ more))
    | some (.applied "Concatenate" more) => .ok (.applied "Concatenate" (args.dropLast ++ more))
    | _ => .ok (.applied "Concatenate" args)
  | .applied word _ => .ok (.applied word args)
  | .generic c _ isStarred => .ok (.generic c args isStarred)
  | .union _ =>
    match args with
    | [] => meaningless
    | v :: vs => vs.foldlM alternative v
  | .annotated _ remarks =>
    match args with
    | [.annotated v more] => .ok (.annotated v (more ++ remarks))
    | [v] => .ok (.annotated v remarks)
    | _ => meaningless
  | .tuple _ => .ok (.tuple args)
  | e => .ok e

mutual

/-- An entity with types in the place of its variables. -/
def replaced (types : List (Entity × Entity)) : Entity → Answer Entity
  | v@(.variable _ _ _ _) =>
    match types.find? fun t => t.1.sameVariable v with
    | some (_, type) => do
      match ← asType false type with
      | .generic _ _ true | .applied "Unpack" _ => meaningless
      | type => return type
    | none => .ok v
  | .applied word args => do
    if (typeVariablesIn args).isEmpty then return .applied word args
    else rebuilt (.applied word []) (← replacedAll types args)
  | .generic c args isStarred => do
    return .generic c (← replacedAll types args) isStarred
  | .union args => do rebuilt (.union []) (← replacedAll types args)
  | .annotated v remarks => do rebuilt (.annotated v remarks) [← replaced types v]
  | .tuple vs => do return .tuple (← replacedAll types vs)
  | v => .ok v

def replacedAll (types : List (Entity × Entity)) : List Entity → Answer (List Entity)
  | [] => .ok []
  | v :: vs => do return (← replaced types v) :: (← replacedAll types vs)

end

def unpacked (args : List Entity) : List Entity :=
  args.flatMap fun
    | .generic "tuple" more true => if more.getLast? matches some .ellipsis then
        [.generic "tuple" more true] else more
    | v => [v]

/-- A generic type with further arguments for its variables, of which it must have some. Those of
the vocabulary are looked at before they are counted. -/
def specialized (e index : Entity) : Answer Entity := do
  let vars := e.typeVariables
  if vars.isEmpty then meaningless
  let given ← if e.isTyping then index.arguments.mapM converted else pure index.arguments
  let args := unpacked given
  if vars.length ≠ args.length then meaningless else replaced (vars.zip args) e

/-! ### Words with arguments -/

/-- The fixed values of an index: those of nested lists are opened, and repetitions of one class are
left out where all can be hashed. -/
def literal (index : Entity) : Entity :=
  let values := index.arguments.flatMap fun
    | .applied "Literal" args => args
    | v => [v]
  let kept := values.foldl (fun kept v =>
    if kept.any fun w => v.className = w.className && v.same w then kept else kept ++ [v]) []
  .applied "Literal" (if values.all isHashable then kept else values)

def ofForm (word : String) (index : Entity) : Answer Entity := do
  if wrappingForms.contains word then return .applied word [← asType false index]
  else
    match word with
    | "Union" => choice index.arguments
    | "Optional" => choice [← asType false index, .cls "NoneType"]
    | "Literal" => return literal index
    | "Concatenate" =>
      match index.arguments.getLast? with
      | some .ellipsis => do
        return .applied word ((← asTypes index.arguments.dropLast) ++ [.ellipsis])
      | _ => meaningless
    | _ => meaningless

/-- A call type. The result is looked at first. -/
def callable (params result : Entity) : Answer Entity := do
  let result ← asType false result
  match params with
  | .ellipsis => return .applied "Callable" [.ellipsis, result]
  | .list vs => return .applied "Callable" ((← vs.mapM converted) ++ [result])
  | params => return .applied "Callable" ((← params.arguments.mapM converted) ++ [result])

/-- A generic type of the vocabulary with its arguments, which are looked at before they are
counted. -/
def ofBare (word : String) (index : Entity) : Answer Entity := do
  match word, index with
  | "Callable", .tuple [params, result] => callable params result
  | "Callable", _ => meaningless
  | "Tuple", index =>
    match index.arguments.getLast?, index.arguments.length with
    | some .ellipsis, _ + 2 => do
      return .applied word ((← asTypes index.arguments.dropLast) ++ [.ellipsis])
    | _, _ => do return .applied word (← asTypes index.arguments)
  | word, index =>
    let args ← asTypes index.arguments
    match genericWords.lookup word with
    | some (_, some n) =>
      if n = args.length ∧ 0 < n then return .applied word args else meaningless
    | _ => meaningless

/-- A type with remarks. The type must say where it is at home. -/
def ofAnnotated : List Entity → Answer Entity
  | [] | [_] => meaningless
  | v :: remarks => do
    match ← asType true v with
    | .annotated v more => return .annotated v (more ++ remarks)
    | v => do
      let _ ← v.attributeNamed "__module__"
      return .annotated v remarks

/-- The classes of the vocabulary that take one argument. -/
def openClasses : List String := ["IO", "SupportsAbs", "SupportsRound"]

def ofIndexedClass (c : String) (index : Entity) : Answer Entity := do
  match c with
  | "Annotated" => ofAnnotated index.arguments
  | "Generic" | "Protocol" =>
    let args ← index.arguments.mapM converted
    if !args.isEmpty && args.all (· matches .variable _ _ _ _)
        && (typeVariablesIn args).length = args.length then
      return .applied c args
    else meaningless
  | c =>
    if (lineage c).contains "Generic" then
      let args ← index.arguments.mapM converted
      if openClasses.contains c && args.length = 1 then return .applied c args else meaningless
    else if c = "type" || hasAttribute c "__class_getitem__" then
      return .generic c index.arguments false
    else meaningless

def indexed (e index : Entity) : Answer Entity :=
  match e with
  | .cls c => ofIndexedClass c index
  | .form word => ofForm word index
  | .bare word => ofBare word index
  | .applied "Generic" _ | .applied "Protocol" _ => meaningless
  | .applied _ _ | .annotated _ _ | .generic _ _ _ | .union _ => e.specialized index
  | .defined _ => meaningless
  | e => e.part index

end Entity

end Annotation

end Longhand
