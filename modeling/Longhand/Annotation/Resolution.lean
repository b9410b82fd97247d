import Longhand.Annotation.Evaluation
import Longhand.Function

/-!
What annotations stand for. A text is read as an expression, and the texts in what the expression
stands for are annotations again, unless they are being resolved already (`Entity.settle`). In the
end remarks on types are left out (`Entity.stripped`), and what the rest of the library knows is
told apart from what only has a text (`Entity.toValue`). Annotations are resolved together, in
order: one may give values to names that later ones use (`resolveAll`).

This makes shapes and calls executable: `hintsOf` and `belongs` are what `Function.shape` and
`Bound.call` can be run with. The theorems on shapes and calls hold for every resolution and every
test for members. Expressions alone are evaluated here: code in texts is not run, and beyond the
vocabulary of types there are no modules to import and no files to open.
-/

namespace Longhand

namespace Annotation

variable [Home]

namespace Entity

def sameAll (vs ws : List Entity) : Bool := (Entity.tuple vs).same (.tuple ws)

/-! ### Texts in types -/

/-- The arguments of a class with types in the place of texts, which must all spell expressions. -/
def references (args : List Entity) : Answer (List Entity) :=
  args.mapM fun
    | .str s => reference s
    | v => .ok v

section

-- How a text is resolved.
variable (nested : String → Eval Entity)

mutual

/-- A type with the texts in it resolved. The texts among the arguments of a class must all spell
expressions before the first of them is looked at. -/
def settle : Entity → Eval Entity
  | .forward s => nested s
  | .generic c args isStarred => do
    let given ← references args
    let settled ← settleArguments args
    let e := Entity.generic c (if sameAll settled given then given else settled) false
    return if isStarred then .applied "Unpack" [e] else e
  | .applied word args => do
    let settled ← settleAll args
    if sameAll settled args then return .applied word args
    else rebuilt (.applied word []) settled
  | .annotated of remarks => do rebuilt (.annotated of remarks) [← settle of]
  | .union args => do
    let settled ← settleAll args
    if sameAll settled args then return .union args else rebuilt (.union []) settled
  | e => return e

def settleAll : List Entity → Eval (List Entity)
  | [] => return []
  | v :: vs => do
    let first ← settle v
    return first :: (← settleAll vs)

def settleArguments : List Entity → Eval (List Entity)
  | [] => return []
  | .str s :: vs => do
    let first ← nested s
    return first :: (← settleArguments vs)
  | v :: vs => do
    let first ← settle v
    return first :: (← settleArguments vs)

end

end

/-! ### Remarks -/

mutual

/-- A type without the remarks in it, and without what is said of entries of mappings. -/
def stripped : Entity → Answer Entity
  | .annotated of _ => of.stripped
  | .applied "Required" (v :: _) | .applied "NotRequired" (v :: _) => v.stripped
  | .applied word args => do
    let kept ← strippedAll args
    if sameAll kept args then return .applied word args else rebuilt (.applied word []) kept
  | .generic c args isStarred => do
    let kept ← strippedAll args
    return if sameAll kept args then .generic c args isStarred else .generic c kept false
  | .union args => do
    let kept ← strippedAll args
    if sameAll kept args then return .union args else rebuilt (.union []) kept
  | e => return e

def strippedAll : List Entity → Answer (List Entity)
  | [] => return []
  | v :: vs => do return (← v.stripped) :: (← strippedAll vs)

end

/-! ### Values -/

/-- The class with a name that is neither built in nor made by an annotation. -/
def definedClass (name : String) : DefinedClass :=
  match classRow? name with
  | some r => { home := if r.home = "builtins" then "" else r.home, name }
  | none => { home := "", name }

def classNamed (name : String) : Class :=
  (Class.builtIn.find? fun c => c.name == name).getD (.defined (definedClass name))

mutual

/-- The value that an entity is, if the library knows such values. -/
def toValue? : Entity → Option Value
  | .null => some .null
  | .ellipsis => some .ellipsis
  | .bool b => some (.bool b)
  | .int n => some (.int n)
  | .float x => some (.float x)
  | .complex re im => some (.complex re im)
  | .str s => some (.str s)
  | .bytes bs => some (.bytes bs)
  | .list items => do return .list (← toValues? items)
  | .tuple items => do return .tuple (← toValues? items)
  | .dict entries => do return .dict (← toEntries? entries)
  | .made c [] => if Home.defines c then some (.object (definedClass c) (Home.shown c)) else none
  | .cls "Any" => some .any
  | .cls name => some (.type (classNamed name))
  | .defined c => some (.type (.defined c))
  | .variable "~" name _ _ => some (.variable name)
  | .bare word => some (.generic (.typing word) [])
  | .union args => do return .generic (.union true) (← toValues? args)
  | .generic _ [] _ | .generic _ _ true | .applied _ [] => none
  | .generic c args false => do return .generic (.builtin (classNamed c)) (← toValues? args)
  | .applied "Union" args => do return .generic (.union false) (← toValues? args)
  | .applied "Literal" args => do return .generic .literal (← toValues? args)
  | .applied "Callable" args => do
    let takesAny := args.length = 2 && args.head? matches some .ellipsis
    if !takesAny && args.any isParameters then none
    else return .generic .callable (← toValues? args)
  | .applied "Unpack" _ => none
  | .applied word args => do
    if args.any fun v => v matches .tuple _ then none
    else return .generic (.typing word) (← toValues? args)
  | _ => none

def toValues? : List Entity → Option (List Value)
  | [] => some []
  | v :: vs => do return (← v.toValue?) :: (← toValues? vs)

def toEntries? : List (Entity × Entity) → Option (List (String × Value))
  | [] => some []
  | (.str key, v) :: rest => do return (key, ← v.toValue?) :: (← toEntries? rest)
  | _ => none

end

def toValue (e : Entity) : Value :=
  e.toValue?.getD (.object (definedClass e.className) e.shown.toOption)

/-- The entity that a parametrised type is, with the texts in it as types to be resolved. -/
def ofType : Value → Entity
  | .generic head args =>
    let parts := ofTypes args
    match head with
    | .builtin c => .generic c.name parts false
    | .typing word => if args.isEmpty then .bare word else .applied word (parts.map kept)
    | .union true => .union parts
    | .union false => .applied "Union" (parts.map kept)
    | .callable => .applied "Callable" (parts.map kept)
    | .literal => .applied "Literal" parts
  | .variable name => .variable "~" name [] .null
  | v => ofValue v
where
  ofTypes : List Value → List Entity
  | [] => []
  | v :: vs => ofType v :: ofTypes vs
  kept : Entity → Entity
  | .str s => .forward s
  | e => e

end Entity

/-! ### Annotations -/

def deepestText : Nat := 300

/-- What a text stands for. A text within itself stays. -/
def resolveText : (fuel : Nat) → (around : List String) → String → Eval Entity
  | 0, _, _ => fail .recursion "maximum recursion depth exceeded"
  | fuel + 1, around, s => do
    if around.contains s then return .forward s
    match Expression.ofText s with
    | none => throw (.failed (.notExpression (Quoted.string s)))
    | some e =>
      let (v, names) ← e.value? (← get)
      set names
      Entity.settle (resolveText fuel (s :: around)) (← v.asType false)

/-- What an annotation denotes. Texts are resolved, also those in parametrised types, and null
stands for its class; any other value stands for itself. A failure to leave out remarks is kept for
later. -/
def resolve : Value → Eval (Answer Value)
  | .null => return .ok (.type .null)
  | .str s => do
    let _ ← Entity.reference s
    let e ← resolveText deepestText [] s
    return e.stripped.map Entity.toValue
  | .generic head args => do
    let given := Entity.ofType (.generic head args)
    let e ← given.settle (resolveText deepestText [])
    if e.same given then return .ok (.generic head args) else return e.stripped.map Entity.toValue
  | v => return .ok v

/-- What annotations denote. All are resolved before remarks are left out. -/
def resolveAll (vs : List Value) : Answer (List Value) := do
  let (answers, _) ← (vs.mapM resolve).run []
  answers.mapM id

/-- What the annotations of a function resolve to. -/
def hintsOf : Resolver := fun f =>
  match resolveAll (f.annotations.map Prod.snd) with
  | .ok vs => .ok ((f.annotations.map Prod.fst).zip vs)
  | .error .meaningless => .error .meaningless
  | .error (.failed why) => .error (.failed why.toError)

/-! ### Members of classes -/

/-- Records have parts, and can be hashed. -/
def recordBases : List String := ["Hashable", "Iterable"]

/-- Which values belong to a class. Classes of mappings with given fields do not tell. -/
def belongs : MemberTest
  | .defined c, v =>
    if c.type = mappingClassType then
      .error (.raised "TypeError" "TypedDict does not support instance and class checks")
    else .ok (refines v.typeName c.name || (v matches .record _ _) && recordBases.contains c.name)
  | c, v => .ok (v.isA c)

end Annotation

end Longhand
