import Longhand.Contract.Catalog
import Longhand.Proofs.DigitString
import Longhand.Proofs.Keeping
import Longhand.Result

/-!
Results as records. The fields of a value and the fields of a failure are read as the results that
carry them (`Result.ofFields_success`, `Result.ofFields_failure`). What the contract for results
demands of such fields is told in full (`Result.kept_iff`), and a result keeps it if its code, where
it has one, is that of a registered kind (`Result.kept_toContract`).
-/

namespace Longhand

namespace Value

@[simp] theorem lookup_cons (k key : String) (v : Value) (rest : List (String × Value)) :
    lookup ((k, v) :: rest) key = if k = key then some v else lookup rest key := by
  rw [lookup, List.find?_cons]
  by_cases h : k = key
  · rw [if_pos h, beq_iff_eq.2 h]
    rfl
  · rw [if_neg h, beq_false_of_ne h]
    rfl

end Value

namespace Digits

theorem mapM_ofChar?_toChar (ds : List Digit) :
    (ds.map Digit.toChar).mapM Digit.ofChar? = some ds := by
  induction ds with
  | nil => rfl
  | cons d ds ih =>
    rw [List.map_cons, List.mapM_cons, Digit.ofChar?_toChar, ih]
    rfl

/-- No character of a digit string is outside the digits. -/
theorem foundIn_nonDigit_text (ds : List Digit) :
    Contract.nonDigit.foundIn (text ds) = false := by
  have hdigit : ∀ d : Digit, (d.toChar < '0' || '9' < d.toChar) = false := by decide
  rw [OutsideRange.foundIn, toList_text, List.any_map, List.any_eq_false]
  exact fun d _ => Bool.eq_false_iff.1 (hdigit d)

end Digits

namespace Result

theorem readDigits_text {ds : List Digit} (h : ds ≠ []) :
    readDigits (.str (Digits.text ds)) = .ok (some ⟨ds, h⟩) := by
  obtain ⟨d, ds, rfl⟩ := List.exists_cons_of_ne_nil h
  rw [readDigits]
  simp only [Read.text?, Read.text, Except.map, bind, Except.bind, Digits.toList_text,
    Digits.mapM_ofChar?_toChar]
  rfl

theorem readOperation_name (op : Operation) : readOperation (.str op.name) = .ok op := by
  cases op <;> rfl

/-- The fields of a value make the result that carries it. -/
theorem ofFields_success (op : Operation) (n : Numeral) :
    ofFields [("operation", .str op.name), ("ok", .bool true), ("value", .str n.text)]
      = .ok (.success op n) := by
  have hvalue := readDigits_text n.normal.1
  rw [← Numeral.text] at hvalue
  simp [ofFields, read, Read.required, Read.optional, readOperation_name, hvalue, Read.bool]
  rfl

/-- The fields of a failure make the result that tells its kind and its text. -/
theorem ofFields_failure (op : Operation) (kind : Fault) (text : String) :
    ofFields [("operation", .str op.name), ("ok", .bool false), ("error_code", .str kind.code),
        ("details", .str text)]
      = .ok (.failure op kind text) := by
  simp [ofFields, read, Read.required, Read.optional, readOperation_name, Read.bool]
  rfl

/-- The contract takes the names of the operations. -/
theorem kept_name {v : Value} :
    (Schema.mk [.type .string,
        .enum [.str "add", .str "subtract", .str "modulo", .str "multiply"]]).Kept v
      ↔ ∃ op : Operation, v = .str op.name := by
  rw [Schema.kept_iff, List.forall_mem_cons, List.forall_mem_singleton, Keyword.kept_type,
    Keyword.kept_enum, SchemaType.admits_string_iff]
  constructor
  · rintro ⟨-, l, hl, rfl⟩
    have hall : ∀ l ∈ [Literal.str "add", .str "subtract", .str "modulo", .str "multiply"],
        ∃ op ∈ Operation.all, l = .str op.name := by decide
    obtain ⟨op, -, rfl⟩ := hall l hl
    exact ⟨op, rfl⟩
  · rintro ⟨op, rfl⟩
    exact ⟨⟨_, rfl⟩, .str op.name, by cases op <;> decide, rfl⟩

/-- The contract takes the codes of the registered kinds, and null. -/
theorem kept_code {v : Value} :
    (Schema.mk [.types [.string, .null],
        .enum (.null :: Fault.registered.map fun f => .str f.code)]).Kept v
      ↔ v = .null ∨ ∃ kind ∈ Fault.registered, v = .str kind.code := by
  rw [Schema.kept_iff, List.forall_mem_cons, List.forall_mem_singleton, Keyword.kept_types,
    Keyword.kept_enum]
  constructor
  · rintro ⟨-, l, hl, rfl⟩
    rcases List.mem_cons.1 hl with rfl | hl
    · exact .inl rfl
    · obtain ⟨kind, hkind, rfl⟩ := List.mem_map.1 hl
      exact .inr ⟨kind, hkind, rfl⟩
  · rintro (rfl | ⟨kind, hkind, rfl⟩)
    · exact ⟨⟨.null, by decide, rfl⟩, .null, List.mem_cons_self, rfl⟩
    · exact ⟨⟨.string, by decide, rfl⟩, .str kind.code,
        List.mem_cons_of_mem _ (List.mem_map_of_mem hkind), rfl⟩

/-- The contract takes texts of one or more digits, and null. -/
theorem kept_digits {v : Value} :
    (Schema.mk [.types [.string, .null], .minLength 1,
        .not (.mk [.type .string, .pattern Contract.nonDigit])]).Kept v
      ↔ v = .null ∨
        ∃ text, v = .str text ∧ 1 ≤ text.length ∧ Contract.nonDigit.foundIn text = false := by
  have hnot : (Schema.mk [.type .string, .pattern Contract.nonDigit]).Kept v
      ↔ ∃ text, v = .str text ∧ Contract.nonDigit.foundIn text = true := by
    rw [Schema.kept_iff, List.forall_mem_cons, List.forall_mem_singleton, Keyword.kept_type,
      SchemaType.admits_string_iff]
    constructor
    · rintro ⟨⟨text, rfl⟩, h⟩
      exact ⟨text, rfl, Keyword.kept_pattern.1 h⟩
    · rintro ⟨text, rfl, h⟩
      exact ⟨⟨text, rfl⟩, Keyword.kept_pattern.2 h⟩
  rw [Schema.kept_iff, List.forall_mem_cons, List.forall_mem_cons, List.forall_mem_singleton,
    Keyword.kept_types, Keyword.kept_not, hnot]
  constructor
  · rintro ⟨⟨t, ht, hadmits⟩, hlength, hdigits⟩
    rcases List.mem_cons.1 ht with rfl | ht
    · obtain ⟨text, rfl⟩ := SchemaType.admits_string_iff.1 hadmits
      refine .inr ⟨text, rfl, Keyword.kept_minLength.1 hlength, ?_⟩
      exact Bool.eq_false_iff.2 fun h => hdigits ⟨text, rfl, h⟩
    · rw [List.mem_singleton.1 ht] at hadmits
      exact .inl (SchemaType.admits_null_iff.1 hadmits)
  · rintro (rfl | ⟨text, rfl, hlength, hdigits⟩)
    · exact ⟨⟨.null, by decide, rfl⟩, rfl, by rintro ⟨_, ⟨⟩, -⟩⟩
    · refine ⟨⟨.string, by decide, rfl⟩, Keyword.kept_minLength.2 hlength, ?_⟩
      rintro ⟨_, ⟨⟩, hfound⟩
      exact Bool.false_ne_true (hdigits.symm.trans hfound)

/-- What the contract demands of the five fields of a result, given in order. -/
theorem kept_iff {operation ok value code details : Value} :
    Contract.naturalResult.Kept (.dict [("operation", operation), ("ok", ok), ("value", value),
        ("error_code", code), ("details", details)])
      ↔ (∃ op : Operation, operation = .str op.name) ∧ (∃ text, details = .str text) ∧
        ((ok = .bool true ∧ code = .null ∧
            ∃ text, value = .str text ∧ 1 ≤ text.length ∧ Contract.nonDigit.foundIn text = false) ∨
          (ok = .bool false ∧ value = .null ∧
            ∃ kind ∈ Fault.registered, code = .str kind.code)) := by
  rw [Contract.naturalResult, Contract.heading, Schema.kept_iff]
  -- the keywords of the contract, then those of the schemas in it, then which names it lists
  simp only [List.cons_append, List.nil_append, List.forall_mem_cons, Keyword.kept_note,
    Keyword.kept_type, Keyword.kept_required, Keyword.kept_closed, Keyword.kept_properties,
    Keyword.kept_branch, Value.lookup_cons, Schema.propertyNames, String.reduceEq, if_true,
    if_false, Option.mem_some_iff, forall_eq', Option.isSome_some, kept_name, kept_code,
    kept_digits]
  simp only [Schema.kept_singleton, List.forall_mem_cons, Keyword.kept_type, Keyword.kept_const,
    Keyword.kept_properties, Value.lookup_cons, String.reduceEq, if_true, if_false,
    Option.mem_some_iff, forall_eq', SchemaType.admits_object_iff, SchemaType.admits_string_iff,
    SchemaType.admits_null_iff, SchemaType.admits_boolean_iff, Literal.toValue, List.not_mem_nil,
    false_imp_iff, imp_true_iff, and_true]
  simp only [List.map_cons, List.map_nil, List.append_nil, List.mem_cons, true_or, or_true,
    true_and]
  constructor
  · rintro ⟨-, ⟨hop, ⟨b, rfl⟩, hvalue, hcode, hdetails⟩, hthen, helse⟩
    refine ⟨hop, hdetails, ?_⟩
    cases b with
    | true =>
      obtain ⟨⟨text, rfl⟩, rfl⟩ := hthen rfl
      exact .inl ⟨rfl, rfl, hvalue.resolve_left (by rintro ⟨⟩)⟩
    | false =>
      obtain ⟨rfl, text, rfl⟩ := helse (by rintro ⟨⟩)
      exact .inr ⟨rfl, rfl, hcode.resolve_left (by rintro ⟨⟩)⟩
  · rintro ⟨hop, hdetails, ⟨rfl, rfl, text, rfl, hdigits⟩ | ⟨rfl, rfl, kind, hkind, rfl⟩⟩
    · exact ⟨⟨_, rfl⟩, ⟨hop, ⟨true, rfl⟩, .inr ⟨text, rfl, hdigits⟩, .inl rfl, hdetails⟩,
        fun _ => ⟨⟨text, rfl⟩, rfl⟩, fun h => absurd rfl h⟩
    · refine ⟨⟨_, rfl⟩, ⟨hop, ⟨false, rfl⟩, .inl rfl, .inr ⟨kind, hkind, rfl⟩, hdetails⟩, ?_,
        fun _ => ⟨rfl, _, rfl⟩⟩
      rintro ⟨⟩

/-- The code of the result, if it has one, is that of a registered kind. -/
def Registered (r : Result) : Prop :=
  match r.outcome with
  | .value _ _ => True
  | .failure code => ∃ kind ∈ Fault.registered, code = kind.code

/-- The contract takes the data of a result if its code is registered. -/
theorem kept_toContract {r : Result} :
    Contract.naturalResult.Kept r.toContract ↔ r.Registered := by
  obtain ⟨op, outcome, details⟩ := r
  cases outcome with
  | value ds hne =>
    have hlength : 1 ≤ (Digits.text ds).length := by
      rw [Digits.length_text]
      exact List.length_pos_iff.2 hne
    refine iff_of_true (kept_iff.2 ⟨⟨op, rfl⟩, ⟨details, rfl⟩, .inl ⟨rfl, rfl, _, rfl, ?_⟩⟩) trivial
    exact ⟨hlength, Digits.foundIn_nonDigit_text ds⟩
  | failure code =>
    refine kept_iff.trans ⟨?_, ?_⟩
    · rintro ⟨-, -, ⟨⟨⟩, -⟩ | ⟨-, -, kind, hkind, hcode⟩⟩
      exact ⟨kind, hkind, Value.str.inj hcode⟩
    · rintro ⟨kind, hkind, rfl⟩
      exact ⟨⟨op, rfl⟩, ⟨details, rfl⟩, .inr ⟨rfl, rfl, kind, hkind, rfl⟩⟩

theorem kept_success (op : Operation) (n : Numeral) :
    Contract.naturalResult.Kept (success op n).toContract :=
  kept_toContract.2 trivial

theorem kept_failure (op : Operation) {kind : Fault} (h : kind ∈ Fault.registered)
    (text : String) : Contract.naturalResult.Kept (failure op kind text).toContract :=
  kept_toContract.2 ⟨kind, h, rfl⟩

end Result

end Longhand
