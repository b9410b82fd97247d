import Longhand.Contract.Pattern
import Longhand.Value.Equality

/-!
The dialect of schemas: which JSON values are schemas at all. A schema is a truth value or a
mapping whose known keywords have the right form (`KeywordForm`); unknown keywords are free. The
keywords are judged in a fixed order, and the first defect counts. The theorems on the library of
contracts do not depend on the dialect, as they hold for any judgement of schemas.
-/

namespace Longhand

/-- The form that a keyword of a schema asks of its value. -/
inductive KeywordForm where
  /-- One type name, or a list of distinct ones. -/
  | typeNames
  | text
  /-- A reference without a fragment. -/
  | reference
  | pattern
  | size
  /-- A list of distinct texts. -/
  | names
  | anyList
  | schema
  | schemas
  | free
deriving DecidableEq, Repr, Inhabited

namespace KeywordForm

def ofName : String → KeywordForm
  | "type" => typeNames
  | "$schema" | "title" | "description" => text
  | "$id" => reference
  | "pattern" => pattern
  | "minLength" | "minItems" => size
  | "required" => names
  | "enum" => anyList
  | "items" | "additionalProperties" | "not" | "if" | "then" | "else" => schema
  | "properties" => schemas
  | _ => free

end KeywordForm

namespace Dialect

def typeNames : List String :=
  ["array", "boolean", "integer", "null", "number", "object", "string"]

def texts? : List Value → Option (List String)
  | [] => some []
  | .str s :: vs => (texts? vs).map (s :: ·)
  | _ :: _ => none

/-- Whether the items of a list are texts, all different. -/
def areDistinctTexts (vs : List Value) : Bool :=
  match texts? vs with
  | some ss => ss.eraseDups.length = ss.length
  | none => false

def isTypeName : Value → Bool
  | .str s => typeNames.contains s
  | _ => false

/-- Whether a value names one type, or several different ones. -/
def areTypeNames : Value → Bool
  | .list vs => !vs.isEmpty && vs.all isTypeName && areDistinctTexts vs
  | v => isTypeName v

/-- A whole number that is not negative; a fraction without decimals counts as whole. -/
def isSize : Value → Bool
  | .int n => 0 ≤ n
  | .float x =>
    match ExactReal.ofFloat x with
    | .finite num den => 0 ≤ num && num % den = 0
    | _ => false
  | _ => false

/-- A text with no number sign but perhaps a last one, which one line break may follow. -/
def isReference (s : String) : Bool :=
  match s.toList.dropWhile (· ≠ '#') with
  | [] | ['#'] | ['#', '\n'] => true
  | _ => false

/-- Why a value does not have the form of a keyword, as far as it holds no schemas itself. -/
def formDefect? : KeywordForm → Value → Option Pattern.Defect
  | .pattern, .str s =>
    match Pattern.check s with
    | .ok _ => none
    | .error why => some why
  | .typeNames, v => asked (areTypeNames v)
  | .text, .str _ => none
  | .reference, .str s => asked (isReference s)
  | .size, v => asked (isSize v)
  | .names, .list vs => asked (areDistinctTexts vs)
  | .anyList, .list _ => none
  | .free, _ => none
  | _, _ => some .malformed
where
  asked (holds : Bool) : Option Pattern.Defect := if holds then none else some .malformed

/-- The keywords in the order in which they are judged. Schemas within a schema come early. -/
def order : List String :=
  ["$id", "$schema", "items", "additionalProperties", "properties", "if", "then", "else", "not",
    "type", "enum", "minLength", "pattern", "minItems", "required", "title", "description"]

/-- What is wrong with a keyword, and its place in the order. -/
abbrev Finding := Nat × Pattern.Defect

/-- The finding that comes first. -/
def Finding.first : Option Finding → Option Finding → Option Finding
  | some f, some g => some (if f.1 ≤ g.1 then f else g)
  | f, g => f.or g

mutual

def defect? : Value → Option Pattern.Defect
  | .bool _ => none
  | .dict entries => (keywordsDefect? entries).map Prod.snd
  | _ => some .malformed

/-- The first finding among some keywords. -/
def keywordsDefect? : List (String × Value) → Option Finding
  | [] => none
  | (name, v) :: rest =>
    let found := match KeywordForm.ofName name with
      | .schema => defect? v
      | .schemas =>
        match v with
        | .dict entries => schemasDefect? entries
        | _ => some .malformed
      | form => formDefect? form v
    Finding.first (found.map fun why => (order.idxOf name, why)) (keywordsDefect? rest)

/-- The first defect among named schemas. -/
def schemasDefect? : List (String × Value) → Option Pattern.Defect
  | [] => none
  | (_, v) :: rest => (defect? v).or (schemasDefect? rest)

end

end Dialect

end Longhand
