import Longhand.Numeral.Basic
import Longhand.Record.Fields
import Longhand.Value.Plain
import Longhand.Value.Shown

/-!
The result of an operation as a record: a value, or the code of a failure, with details. A result
is read from its fields (`Result.ofFields`), written as a record or as plain data, and opened again
(`Result.unwrap`).
-/

namespace Longhand

inductive Operation where
  | add | subtract | modulo | multiply
deriving DecidableEq, Repr, Inhabited

namespace Operation

def name : Operation → String
  | .add => "add"
  | .subtract => "subtract"
  | .modulo => "modulo"
  | .multiply => "multiply"

def all : List Operation := [.add, .subtract, .modulo, .multiply]

def ofName? (name : String) : Option Operation := all.find? fun op => op.name == name

def ofName (name : String) : Except Error Operation :=
  match ofName? name with
  | some op => .ok op
  | none => .error (.setting (.unknown (Quoted.string name) "NaturalOperation"))

end Operation

/-- How an operation ended: with a digit string, or with the code of a failure. -/
inductive Outcome where
  | value (digits : List Digit) (nonempty : digits ≠ [])
  | failure (code : String)

structure Result where
  operation : Operation
  outcome : Outcome
  details : String

namespace Result

/-- The result that carries a numeral. -/
def success (op : Operation) (n : Numeral) : Result :=
  ⟨op, .value n.digits n.normal.1, ""⟩

/-- The result that carries the kind of a failure and its text. -/
def failure (op : Operation) (kind : Fault) (text : String) : Result :=
  ⟨op, .failure kind.code, text⟩

/-- Whether a result carries a value. -/
def ok (r : Result) : Bool :=
  match r.outcome with
  | .value _ _ => true
  | .failure _ => false

/-- The fields of a result, in order. Of value and code, one is null. -/
def fields (r : Result) : Fields :=
  let (value, code) := match r.outcome with
    | .value ds _ => (Value.str (Digits.text ds), Value.null)
    | .failure code => (Value.null, Value.str code)
  [("operation", .str r.operation.name), ("ok", .bool r.ok), ("value", value),
    ("error_code", code), ("details", .str r.details)]

/-- The data form that the contract for results describes. -/
def toContract (r : Result) : Value := .dict r.fields

def toValue (r : Result) : Value := .record .result r.fields

/-- The data form is the plain data of the record. -/
theorem plain_toValue (r : Result) : r.toValue.plain = .ok r.toContract := by
  cases r with
  | mk op outcome details => cases outcome <;> rfl

def readOperation (v : Value) : Read Operation :=
  match Read.text "operation" v with
  | .ok name =>
    match Operation.ofName? name with
    | some op => .ok op
    | none => Read.problem "operation" .notOperation
  | .error _ => Read.problem "operation" .notOperation

def readDigits (v : Value) : Read (Option { ds : List Digit // ds ≠ [] }) := do
  match ← Read.text? "value" v with
  | none => return none
  | some s =>
    match s.toList.mapM Digit.ofChar? with
    | some (d :: ds) => return some ⟨d :: ds, by simp⟩
    | _ => Read.problem "value" .notDigits

/-- Reads the fields of a result. All fields are read before it is asked whether they agree. -/
def read (fields : Fields) : Read Result := do
  let ((((op, ok), value), code), details) ← Read.both (Read.both (Read.both (Read.both
    (Read.required fields "operation" readOperation)
    (Read.required fields "ok" (Read.bool "ok")))
    (Read.optional fields "value" none readDigits))
    (Read.optional fields "error_code" none (Read.text? "error_code")))
    (Read.optional fields "details" "" (Read.text "details"))
  match ok, value, code with
  | true, some ds, none => return ⟨op, .value ds.val ds.property, details⟩
  | true, _, _ => .error [⟨[], .successIncomplete⟩]
  | false, none, some code => return ⟨op, .failure code, details⟩
  | false, _, _ => .error [⟨[], .failureIncomplete⟩]

def ofFields (fields : Fields) : Except Error Result := Read.record .result (read fields)

/-- The result that carries a given value, if that is a digit string. -/
def ofValue (op : Operation) (v : Value) : Except Error Result :=
  ofFields [("operation", .str op.name), ("ok", .bool true), ("value", v)]

/-- The value of a result, or the failure that it reports. -/
def unwrap (r : Result) : Except Error (List Digit) :=
  match r.outcome with
  | .value ds _ => .ok ds
  | .failure code => .error (.engine (.reported (Fault.ofCode code) r.details))

end Result

end Longhand
