import Longhand.Proofs.Reading
import Longhand.Proofs.ResultRecord

/-!
Operations that may have no natural result report what they came to as a result record. Opening the
record gives the outcome of the engine again: its value, or a failure of the same kind with the
same text. Every other failure escapes unchanged, and the record is refused neither by its own
checks nor by its contract (`Natural.outcome_reported`).
-/

namespace Longhand

namespace Fault

/-- Every kind of failure that is made into a result can be stored. -/
theorem registered_of_domain {f : Fault} (h : f.refines .domain = true) : f ∈ registered := by
  cases f <;> revert h <;> decide

theorem ofCode_code {f : Fault} (h : f ∈ registered) : ofCode f.code = f := by
  rw [ofCode, ofCode?_code h]
  rfl

end Fault

/-- Two outcomes that tell a caller the same: one value, one failure, or failures of one coded kind
with one text. -/
inductive Alike {α : Type} : Except Error α → Except Error α → Prop
  | value (a : α) : Alike (.ok a) (.ok a)
  | failure (e : Error) : Alike (.error e) (.error e)
  | coded {c d : Cause} : c.fault = d.fault → c.message = d.message →
      Alike (.error (.engine c)) (.error (.engine d))

/-- The fields that an outcome is recorded with: those of a value, or those of the failure that
there is no natural result. No other failure is recorded. -/
def Operation.recorded (op : Operation) : Except Error String → Option Fields
  | .ok text => some [("operation", .str op.name), ("ok", .bool true), ("value", .str text)]
  | .error (.engine cause) =>
    if cause.fault.refines .domain then
      some [("operation", .str op.name), ("ok", .bool false),
        ("error_code", .str cause.fault.code), ("details", .str cause.message)]
    else none
  | .error _ => none

/-- An operation reports what the engine came to. -/
structure Operation.Reports (op : Operation) (reported : Except Error Result)
    (engine : Except Error String) : Prop where
  /-- Opening the result gives the outcome of the engine again. -/
  opens : Alike (reported >>= fun r => r.unwrap.map Digits.text) engine
  /-- A result carries a value exactly if the engine gave one. -/
  ok_iff : ∀ r, reported = .ok r → (r.ok = true ↔ ∃ text, engine = .ok text)
  /-- What is recorded passes the checks of the record and keeps the contract. -/
  accepted : ∀ fields ∈ op.recorded engine, ∃ r, Result.ofFields fields = .ok r ∧
    Contract.naturalResult.check r.toContract = .ok () ∧ reported = .ok r
  /-- A failure that is not recorded escapes. -/
  escapes : op.recorded engine = none → ∀ e, engine = .error e → reported = .error e

namespace Operation.Reports

variable {op : Operation}

theorem success (n : Numeral) : op.Reports (.ok (.success op n)) (.ok n.text) where
  opens := .value _
  ok_iff r hr := by
    cases hr
    exact iff_of_true rfl ⟨_, rfl⟩
  accepted fields hfields := by
    cases hfields
    exact ⟨_, Result.ofFields_success op n, Schema.check_of_kept (Result.kept_success op n), rfl⟩
  escapes := nofun

theorem failure {cause : Cause} (h : cause.fault.refines .domain = true) :
    op.Reports (.ok (.failure op cause.fault cause.message)) (.error (.engine cause)) where
  opens := by
    refine .coded ?_ rfl
    exact Fault.ofCode_code (Fault.registered_of_domain h)
  ok_iff r hr := by
    cases hr
    exact iff_of_false nofun nofun
  accepted fields hfields := by
    rw [recorded, if_pos h] at hfields
    cases hfields
    exact ⟨_, Result.ofFields_failure op _ _,
      Schema.check_of_kept (Result.kept_failure op (Fault.registered_of_domain h) _), rfl⟩
  escapes hnone := by
    rw [recorded, if_pos h] at hnone
    cases hnone

theorem escape {e : Error} (h : op.recorded (.error e) = none) :
    op.Reports (.error e) (.error e) where
  opens := .failure e
  ok_iff r hr := nomatch hr
  accepted fields hfields := by
    rw [h] at hfields
    cases hfields
  escapes _ d hd := by rw [Except.error.inj hd]

end Operation.Reports

namespace Natural

theorem checked_of_kept {r : Result} (h : Contract.naturalResult.Kept r.toContract)
    (log : List Event) : report.checked r log = ⟨.ok r, log⟩ := by
  rw [report.checked, Schema.check_of_kept h]
  rfl

theorem reports_report (op : Operation) (a b : Numeral) (computed : Traced Numeral) :
    op.Reports (report op a b computed).outcome (computed.outcome.map Numeral.text) := by
  rw [report]
  cases computed.outcome with
  | ok n =>
    simp only [checked_of_kept (Result.kept_success op n)]
    exact .success n
  | error e =>
    cases e with
    | engine cause =>
      by_cases h : cause.fault.refines .domain = true
      · simp only [if_pos h,
          checked_of_kept (Result.kept_failure op (Fault.registered_of_domain h) _)]
        exact .failure h
      · simp only [if_neg h]
        exact .escape (if_neg h)
    | _ => exact .escape rfl

/-- Reads two natural numbers and hands their texts to an operation of the engine. -/
def engine (operation : Value → Value → Except Error Numeral) (a b : Value) :
    Except Error String := do
  let left ← (parse a).map Numeral.text
  let right ← (parse b).map Numeral.text
  (operation (.str left) (.str right)).map Numeral.text

theorem recorded_unreadable (op : Operation) {e : Error} (h : e.IsUnreadable) :
    op.recorded (.error e) = none := by
  rcases h with ⟨why, rfl⟩ | rfl <;> rfl

/-- A failure to read an operand escapes; what comes after is reported. -/
theorem reports_operands (op : Operation) {operation : Value → Value → Except Error Numeral}
    {computed : Numeral → Numeral → Traced Numeral}
    (h : ∀ m n : Numeral, operation (.str m.text) (.str n.text) = (computed m n).outcome)
    (a b : Value) :
    op.Reports
      (do
        let (m, n) ← operands a b
        report op m n (computed m n) : Traced Result).outcome
      (engine operation a b) := by
  rw [operands, engine]
  cases ha : parse a with
  | error e => exact .escape (recorded_unreadable op (unreadable_parse a e ha))
  | ok m =>
    cases hb : parse b with
    | error e => exact .escape (recorded_unreadable op (unreadable_parse b e hb))
    | ok n =>
      have hreport := reports_report op m n (computed m n)
      rw [← h] at hreport
      exact hreport

theorem operands_text (m n : Numeral) :
    Arithmetic.operands (.str m.text) (.str n.text) = .ok (m, n) := by
  rw [Arithmetic.operands, Numeral.ofValue_numeral, Numeral.ofValue_numeral]
  rfl

/-- Differences and remainders of operands of any type are reported as the engine gives them for
the texts of the operands, under all settings: opening the result comes to the same value or to a
failure of the same kind with the same text, failures that are not recorded among them; the result
carries a value exactly if the engine gives one; and its record is never refused. -/
theorem outcome_reported (settings : Settings) (a b : Value) :
    Operation.subtract.Reports (Natural.subtract settings a b).outcome
      (engine (Arithmetic.subtract settings) a b) ∧
    Operation.modulo.Reports (Natural.modulo settings a b).outcome
      (engine (fun a b => (Arithmetic.modulo settings a b).outcome) a b) := by
  constructor
  · refine @reports_operands .subtract (Arithmetic.subtract settings)
      (fun m n => .ofExcept (m.subtract settings.digits n)) (fun m n => ?_) a b
    rw [Arithmetic.subtract, operands_text]
    rfl
  · refine reports_operands .modulo (fun m n => ?_) a b
    rw [Arithmetic.modulo, operands_text]
    rfl

end Natural

end Longhand
