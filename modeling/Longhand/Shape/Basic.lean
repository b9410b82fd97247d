import Longhand.Partition

/-!
Shapes of calls: a plain parameter list, a call in two stages, a choice of two-stage calls, and a
chain of calls with one argument each. Types of parameters are values of any kind.
-/

namespace Longhand

/-- A plain call: all parameters at once. -/
structure Shape where
  params : List Value
  result : Value
deriving Inhabited

/-- A call in two stages: the first call gives a function for the second. -/
structure Signature where
  first : List Value
  second : List Value
  result : Value
deriving Inhabited

/-- A choice of two-stage calls; one function serves all of them. -/
structure Overloads where
  signatures : List Signature
  nonempty : signatures ≠ []

/-- A chain of calls with one argument each, written flat. -/
structure Chain where
  param : Value
  rest : List Value
  result : Value
deriving Inhabited

namespace Shape

def arity (s : Shape) : Nat := s.params.length

/-- The parameters, then the result. -/
def render (s : Shape) : Except Error String := do
  return (← Value.labels s.params) ++ " => " ++ (← s.result.label)

def toValue (s : Shape) : Value :=
  .record .shape [("params", .tuple s.params), ("result", s.result)]

/-- A plain shape from its fields; without them it has no parameters and a null result. -/
def ofFields (fields : Fields) : Except Error Shape :=
  Read.record .shape do
    let (params, result) ← Read.both
      (Read.optional fields "params" [] (Read.items "params"))
      (Read.optional fields "result" .null .ok)
    return ⟨params, result⟩

end Shape

namespace Signature

/-- The parameters of both stages together. -/
def arity (s : Signature) : Nat := s.first.length + s.second.length

/-- Both stages, then the result. -/
def render (s : Signature) : Except Error String := do
  return (← Value.labels s.first) ++ " => " ++ (← Value.labels s.second) ++ " => "
    ++ (← s.result.label)

def toValue (s : Signature) : Value :=
  .record .signature [("first", .tuple s.first), ("second", .tuple s.second), ("result", s.result)]

def read (fields : Fields) : Read Signature := do
  let ((first, second), result) ← Read.both
    (Read.both (Read.optional fields "first" [] (Read.items "first"))
      (Read.optional fields "second" [] (Read.items "second")))
    (Read.optional fields "result" .null .ok)
  return ⟨first, second, result⟩

/-- A signature from its fields; without them both stages are empty and the result is null. -/
def ofFields (fields : Fields) : Except Error Signature := Read.record .signature (read fields)

/-- The two-stage call that cuts the parameters where a partition cuts them. -/
def ofPartition (p : Partition Value) (result : Value) : Signature := ⟨p.left, p.right, result⟩

end Signature

namespace Overloads

def ofArity (o : Overloads) (n : Int) : List Signature :=
  o.signatures.filter fun s => s.first.length = n

/-- All signatures in parentheses, joined. -/
def render (o : Overloads) : Except Error String := do
  let texts ← o.signatures.mapM fun s => do return "(" ++ (← s.render) ++ ")"
  return String.intercalate " & " texts

def toValue (o : Overloads) : Value :=
  .record .overloads [("overloads", .tuple (o.signatures.map Signature.toValue))]

/-- Reads one signature: a signature record, or a mapping of its fields. -/
def readSignature (index : Nat) : Value → Read Signature
  | .record .signature fields => (Signature.read fields).under [.field "overloads", .item index]
  | .dict fields => (Signature.read fields).under [.field "overloads", .item index]
  | _ => .error [⟨[.field "overloads", .item index], .notSignature⟩]

/-- Reads signatures one by one: the valid ones and all problems. -/
def readSignatures (index : Nat) : List Value → List Signature × List Problem
  | [] => ([], [])
  | v :: vs =>
    let (signatures, problems) := readSignatures (index + 1) vs
    match readSignature index v with
    | .ok s => (s :: signatures, problems)
    | .error ps => (signatures, ps ++ problems)

/-- A choice from its items. Having no valid one is a problem after those of the items. -/
def readItems (items : List Value) : Read Overloads :=
  match readSignatures 0 items with
  | (s :: rest, []) => .ok ⟨s :: rest, by simp⟩
  | (_ :: _, problems) => .error problems
  | ([], problems) => .error (problems ++ [⟨[.field "overloads"], .tooShort⟩])

def ofFields (fields : Fields) : Except Error Overloads :=
  Read.record .overloads
    (Read.required fields "overloads" fun v => do readItems (← Read.items "overloads" v))

/-- The choice between given signatures, of which there must be one. -/
def ofValues (signatures : List Value) : Except Error Overloads :=
  if signatures.isEmpty then .error .noSignatures
  else Read.record .overloads (readItems signatures)

end Overloads

namespace Chain

def params (c : Chain) : List Value := c.param :: c.rest

def arity (c : Chain) : Nat := c.params.length

/-- Each parameter by itself, then the result. -/
def render (c : Chain) : Except Error String := do
  let stages ← c.params.mapM fun p => do return "(" ++ (← p.label) ++ ")"
  return String.intercalate " => " (stages ++ [← c.result.label])

def toValue (c : Chain) : Value :=
  .record .chain [("params", .tuple c.params), ("result", c.result)]

/-- A chain from its fields, both of which it needs, with one parameter at least. -/
def ofFields (fields : Fields) : Except Error Chain :=
  Read.record .chain do
    let (params, result) ← Read.both
      (Read.required fields "params" fun v => do
        match ← Read.items "params" v with
        | [] => Read.problem "params" .tooShort
        | p :: rest => return (p, rest))
      (Read.required fields "result" .ok)
    return ⟨params.1, params.2, result⟩

/-- What a call with one argument gives: the chain of the other parameters, or the result after
the last. -/
def returns (c : Chain) : Value :=
  match c.rest with
  | [] => c.result
  | p :: rest => toValue ⟨p, rest, c.result⟩

def ofValue? : Value → Option Chain
  | .record .chain [("params", .tuple (p :: rest)), ("result", result)] => some ⟨p, rest, result⟩
  | _ => none

@[simp] theorem ofValue?_toValue (c : Chain) : ofValue? c.toValue = some c := rfl

theorem eq_toValue_of_ofValue? {v : Value} {c : Chain} (h : ofValue? v = some c) :
    v = c.toValue := by
  unfold ofValue? at h
  split at h
  · cases h; rfl
  · cases h

/-- A size that shrinks from a chain to what it returns. -/
theorem sizeOf_returns (c : Chain) : sizeOf c.returns < sizeOf c.toValue := by
  unfold returns
  split
  · rename_i h
    simp only [toValue, params, h, Value.record.sizeOf_spec, Value.tuple.sizeOf_spec,
      List.cons.sizeOf_spec, List.nil.sizeOf_spec, Prod.mk.sizeOf_spec]
    omega
  · rename_i p rest h
    simp only [toValue, params, h, Value.record.sizeOf_spec, Value.tuple.sizeOf_spec,
      List.cons.sizeOf_spec, List.nil.sizeOf_spec, Prod.mk.sizeOf_spec]
    omega

/-- The stages of a value one call after another, each parameter with the arity of its stage, as
long as the value is a chain; then what is left. -/
def unroll (v : Value) : List (Value × Nat) × Value :=
  match _h : ofValue? v with
  | some c =>
    let (stages, last) := unroll c.returns
    ((c.param, c.arity) :: stages, last)
  | none => ([], v)
termination_by sizeOf v
decreasing_by
  rw [eq_toValue_of_ofValue? _h]
  exact sizeOf_returns c

end Chain

end Longhand
