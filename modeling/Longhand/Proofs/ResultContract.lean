import Longhand.Proofs.DigitContract
import Longhand.Proofs.JsonEquality

/-!
The contract for results and the results themselves describe the same data. What the contract takes
is, as JSON, the plain data of a result whose code, if it has one, is that of a registered kind; and
the plain data of any result is read as that result again (`Result.contract_describes`).
-/

namespace Longhand

namespace Value

variable {entries : List (String × Value)} {names : List String}

/-- The entries of the listed names, in the order of the list. -/
def select (entries : List (String × Value)) (names : List String) : List (String × Value) :=
  names.filterMap fun name => (lookup entries name).map fun v => (name, v)

theorem select_cons_none {name : String} (h : lookup entries name = none) :
    select entries (name :: names) = select entries names :=
  List.filterMap_cons_none (by rw [h]; rfl)

theorem select_cons_some {name : String} {v : Value} (h : lookup entries name = some v) :
    select entries (name :: names) = (name, v) :: select entries names :=
  List.filterMap_cons_some (by rw [h]; rfl)

theorem lookup_select (name : String) :
    lookup (select entries names) name = if name ∈ names then lookup entries name else none := by
  induction names with
  | nil => rfl
  | cons first names ih =>
    by_cases hname : first = name
    · subst hname
      rw [if_pos List.mem_cons_self]
      cases hfirst : lookup entries first with
      | none => rw [select_cons_none hfirst, ih, hfirst, ite_self]
      | some v => rw [select_cons_some hfirst, lookup_cons, if_pos rfl]
    · simp only [List.mem_cons, Ne.symm hname, false_or]
      rw [← ih]
      cases hfirst : lookup entries first with
      | none => rw [select_cons_none hfirst]
      | some v => rw [select_cons_some hfirst, lookup_cons, if_neg hname]

end Value

/-- A mapping of the listed names, and of no others, may be given in the order of the list. -/
theorem SameJson.select {entries : List (String × Value)} {names : List String}
    (honly : ∀ e ∈ entries, e.1 ∈ names) :
    SameJson (.dict entries) (.dict (Value.select entries names)) := by
  have hlookup : ∀ name, Value.lookup (Value.select entries names) name
      = Value.lookup entries name := by
    intro name
    rw [Value.lookup_select]
    by_cases hname : name ∈ names
    · rw [if_pos hname]
    · have hnone : ¬(Value.lookup entries name).isSome = true := by
        rw [Value.isSome_lookup_iff]
        rintro ⟨e, he, rfl⟩
        exact hname (honly e he)
      rw [if_neg hname, Option.not_isSome_iff_eq_none.1 hnone]
  refine .dict (fun name => by rw [hlookup]) fun name v w hv hw => ?_
  rw [hlookup, hv, Option.some_inj] at hw
  rw [hw]
  exact .refl w

namespace Result

/-- The fields of a result make that result. -/
theorem ofFields_fields (r : Result) : ofFields r.fields = .ok r := by
  obtain ⟨op, outcome, details⟩ := r
  cases outcome with
  | value ds hne =>
    simp [fields, ok, ofFields, read, Read.required, Read.optional, readOperation_name,
      readDigits_text hne, Read.text?, Read.text, Read.bool]
    rfl
  | failure code =>
    simp [fields, ok, ofFields, read, Read.required, Read.optional, readOperation_name,
      Read.text?, Read.text, Read.bool]
    rfl

/-- The five fields that the contract takes, given in order, are the data of a result. -/
theorem exists_of_kept {operation ok value code details : Value}
    (h : Contract.naturalResult.Kept (.dict [("operation", operation), ("ok", ok),
      ("value", value), ("error_code", code), ("details", details)])) :
    ∃ r : Result, r.toContract = .dict [("operation", operation), ("ok", ok), ("value", value),
      ("error_code", code), ("details", details)] := by
  obtain ⟨⟨op, rfl⟩, ⟨text, rfl⟩, ⟨rfl, rfl, digits, rfl, hdigits⟩ | ⟨rfl, rfl, kind, -, rfl⟩⟩ :=
    kept_iff.1 h
  · obtain ⟨ds, hne, rfl⟩ := (DigitText.isValid_iff.2 hdigits).exists_digits
    exact ⟨⟨op, .value ds hne, text⟩, rfl⟩
  · exact ⟨⟨op, .failure kind.code, text⟩, rfl⟩

/-- What the contract takes has the five fields, in some order. -/
theorem exists_fields_of_kept {d : Value} (h : Contract.naturalResult.Kept d) :
    ∃ operation ok value code details, SameJson d (.dict [("operation", operation), ("ok", ok),
      ("value", value), ("error_code", code), ("details", details)]) := by
  rw [Contract.naturalResult, Contract.heading, Schema.kept_iff] at h
  simp only [List.cons_append, List.nil_append, List.forall_mem_cons, Keyword.kept_note,
    Keyword.kept_type, SchemaType.admits_object_iff] at h
  obtain ⟨-, -, -, -, ⟨entries, rfl⟩, hrequired, hclosed, -⟩ := h
  rw [Keyword.kept_required] at hrequired
  simp only [List.forall_mem_cons, Option.isSome_iff_exists] at hrequired
  obtain ⟨⟨operation, hoperation⟩, ⟨ok, hok⟩, ⟨value, hvalue⟩, ⟨code, hcode⟩,
    ⟨details, hdetails⟩, -⟩ := hrequired
  have hselect := SameJson.select (Keyword.kept_closed.1 hclosed)
  refine ⟨operation, ok, value, code, details, ?_⟩
  simpa [Schema.propertyNames, Value.select, hoperation, hok, hvalue, hcode, hdetails]
    using hselect

theorem kept_iff_exists {d : Value} :
    Contract.naturalResult.Kept d ↔ ∃ r : Result, r.Registered ∧ SameJson d r.toContract := by
  constructor
  · intro h
    obtain ⟨operation, ok, value, code, details, hsame⟩ := exists_fields_of_kept h
    have hkept := (Schema.kept_congr _ hsame).1 h
    obtain ⟨r, hr⟩ := exists_of_kept hkept
    rw [← hr] at hkept hsame
    exact ⟨r, kept_toContract.1 hkept, hsame⟩
  · rintro ⟨r, hr, hsame⟩
    exact (Schema.kept_congr _ hsame).2 (kept_toContract.2 hr)

/-- The contract takes a value if it is, as JSON, the plain data of a result that can be made from
some fields and whose code, if any, is registered. The plain data of every result is a mapping of
fields that make this result again. -/
theorem contract_describes :
    (∀ d : Value, Contract.naturalResult.check d = .ok () ↔
      ∃ fields r data, ofFields fields = .ok r ∧ r.Registered ∧ r.toValue.plain = .ok data ∧
        SameJson d data) ∧
    ∀ r : Result, ∃ fields, r.toValue.plain = .ok (.dict fields) ∧ ofFields fields = .ok r := by
  refine ⟨fun d => ?_, fun r => ⟨r.fields, plain_toValue r, ofFields_fields r⟩⟩
  rw [Schema.check_eq_ok_iff, kept_iff_exists]
  constructor
  · rintro ⟨r, hr, hsame⟩
    exact ⟨r.fields, r, r.toContract, ofFields_fields r, hr, plain_toValue r, hsame⟩
  · rintro ⟨fields, r, data, -, hr, hdata, hsame⟩
    rw [plain_toValue, Except.ok.injEq] at hdata
    rw [← hdata] at hsame
    exact ⟨r, hr, hsame⟩

end Result

end Longhand
