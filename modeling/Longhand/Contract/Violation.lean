import Longhand.Contract.Schema
import Longhand.Value.Shown

/-!
Checking a value against a schema. `Schema.violations` lists all that a value breaks, in the
order of the keywords; `Schema.accepts` holds when there is nothing to list, and `Schema.check`
fails with the first violation. This is the documented behaviour of a validator of schemas, and the
theorems on contracts assume that the validator keeps to it.
-/

namespace Longhand

/-- What a value breaks. -/
inductive Breach where
  | wrongType (value : Value) (expected : List SchemaType)
  | notChoice (value : Value) (choices : List Literal)
  | notConst (expected : Literal)
  | tooShort (value : Value) (least : Nat)
  | noMatch (value : Value) (pattern : OutsideRange)
  | missing (name : String)
  | unexpected (names : List String)
  | forbidden (value : Value) (schema : Schema)
deriving Inhabited

/-- The wording of a breach; a value may be too long to show. -/
def Breach.message : Breach → Except Error String
  | .wrongType v ts => do
    let names := ts.map fun t => Quoted.string t.name
    return (← v.shown) ++ " is not of type " ++ String.intercalate ", " names
  | .notChoice v choices => do
    let named := Value.list (choices.map Literal.toValue)
    return (← v.shown) ++ " is not one of " ++ (← named.shown)
  | .notConst e => do return (← e.toValue.shown) ++ " was expected"
  | .tooShort v n => do
    return (← v.shown) ++ (if n = 1 then " should be non-empty" else " is too short")
  | .noMatch v p => do return (← v.shown) ++ " does not match " ++ Quoted.string p.text
  | .missing name => .ok (Quoted.string name ++ " is a required property")
  | .unexpected names =>
    let sorted := names.mergeSort fun a b => !(b < a)
    let verb := if names.length = 1 then "was" else "were"
    .ok ("Additional properties are not allowed ("
      ++ String.intercalate ", " (sorted.map Quoted.string) ++ " " ++ verb ++ " unexpected)")
  | .forbidden v s => do
    return (← v.shown) ++ " should not be valid under " ++ (← s.toValue.shown)

/-- A breach, the place of the value in the data, and the keywords that lead to the demand. -/
structure Violation where
  path : List Place
  keywords : List String
  breach : Breach
deriving Inhabited

namespace Violation

/-- A breach of a keyword by the value itself. -/
def of (keyword : String) (breach : Breach) : Violation := ⟨[], [keyword], breach⟩

/-- The violation seen from an enclosing value and schema. -/
def under (place : List Place) (keywords : List String) (v : Violation) : Violation :=
  ⟨place ++ v.path, keywords ++ v.keywords, v.breach⟩

end Violation

namespace Schema

/-- The violations of the items of a list, each under its index. -/
def itemViolations (check : Value → List Violation) (index : Nat) :
    List Value → List Violation
  | [] => []
  | v :: vs =>
    (check v).map (Violation.under [.item index] ["items"]) ++ itemViolations check (index + 1) vs

mutual

/-- All that a value breaks. -/
def violations : Schema → Value → List Violation
  | .mk keywords => allViolations (propertyNames keywords) keywords

def allViolations (names : List String) : List Keyword → Value → List Violation
  | [], _ => []
  | k :: rest, v => keywordViolations names k v ++ allViolations names rest v

/-- What a value breaks of one keyword. Keywords for one type pass values of all others. -/
def keywordViolations (names : List String) : Keyword → Value → List Violation
  | .note _ _, _ => []
  | .type t, v => if t.admits v then [] else [.of "type" (.wrongType v [t])]
  | .types ts, v => if ts.any (·.admits v) then [] else [.of "type" (.wrongType v ts)]
  | .enum choices, v =>
    if choices.any (·.admits v) then [] else [.of "enum" (.notChoice v choices)]
  | .const e, v => if e.admits v then [] else [.of "const" (.notConst e)]
  | .minLength n, .str s => if s.length < n then [.of "minLength" (.tooShort (.str s) n)] else []
  | .minItems n, .list vs => if vs.length < n then [.of "minItems" (.tooShort (.list vs) n)] else []
  | .pattern p, .str s => if p.foundIn s then [] else [.of "pattern" (.noMatch (.str s) p)]
  | .required required, .dict entries =>
    (required.filter fun name => (Value.lookup entries name).isNone).map fun name =>
      .of "required" (.missing name)
  | .properties schemas, .dict entries => propertyViolations schemas entries
  | .closed, .dict entries =>
    match (entries.map Prod.fst).filter (!names.contains ·) with
    | [] => []
    | extras => [.of "additionalProperties" (.unexpected extras)]
  | .items s, .list vs => itemViolations (violations s) 0 vs
  | .not s, v => if (violations s v).isEmpty then [.of "not" (.forbidden v s)] else []
  | .branch condition accepted refused, v =>
    if (violations condition v).isEmpty then
      (violations accepted v).map (Violation.under [] ["then"])
    else (violations refused v).map (Violation.under [] ["else"])
  | _, _ => []

/-- What the listed properties of a mapping break, each under its name. -/
def propertyViolations :
    List (String × Schema) → List (String × Value) → List Violation
  | [], _ => []
  | (name, s) :: rest, entries =>
    (match Value.lookup entries name with
      | some v => (violations s v).map (Violation.under [.field name] ["properties", name])
      | none => []) ++ propertyViolations rest entries

end

/-- Whether a value breaks nothing. -/
def accepts (s : Schema) (v : Value) : Bool := (s.violations v).isEmpty

/-- Fails with the first violation, if there is one. -/
def check (s : Schema) (v : Value) : Except Error Unit :=
  match s.violations v with
  | [] => .ok ()
  | first :: _ => do throw (.contract (← first.breach.message))

end Schema

end Longhand
