import Longhand.Contract.Violation

/-!
When a value keeps a schema, said keyword by keyword. A schema is kept if each of its keywords is
(`Schema.kept_iff`), and each kind of keyword has one lemma that tells what it demands.
-/

namespace Longhand

namespace SchemaType

variable {v : Value}

theorem admits_string_iff : SchemaType.string.admits v = true ↔ ∃ s, v = .str s := by
  cases v <;> simp [admits]

theorem admits_null_iff : SchemaType.null.admits v = true ↔ v = .null := by
  cases v <;> simp [admits]

theorem admits_boolean_iff : SchemaType.boolean.admits v = true ↔ ∃ b, v = .bool b := by
  cases v <;> simp [admits]

theorem admits_object_iff : SchemaType.object.admits v = true ↔ ∃ es, v = .dict es := by
  cases v <;> simp [admits]

end SchemaType

/-- A literal admits the value that it is written as, and no other. -/
theorem Literal.admits_iff {l : Literal} {v : Value} : l.admits v = true ↔ v = l.toValue := by
  cases l <;> cases v <;> simp [admits, toValue, eq_comm]

/-- A value breaks nothing of a schema. -/
def Schema.Kept (s : Schema) (v : Value) : Prop := s.violations v = []

/-- A value breaks nothing of one keyword, beside the listed property names. -/
def Keyword.Kept (names : List String) (k : Keyword) (v : Value) : Prop :=
  Schema.keywordViolations names k v = []

namespace Schema

theorem check_of_kept {s : Schema} {v : Value} (h : s.Kept v) : s.check v = .ok () := by
  rw [check, h]

/-- A check succeeds for what breaks nothing, and for nothing else. -/
theorem check_eq_ok_iff {s : Schema} {v : Value} : s.check v = .ok () ↔ s.Kept v := by
  refine ⟨fun h => ?_, check_of_kept⟩
  rw [check] at h
  split at h
  · assumption
  · rename_i first _ _
    cases hmessage : first.breach.message with
    | ok text =>
      rw [hmessage] at h
      cases h
    | error e =>
      rw [hmessage] at h
      cases h

theorem kept_iff {ks : List Keyword} {v : Value} :
    (Schema.mk ks).Kept v ↔ ∀ k ∈ ks, k.Kept (propertyNames ks) v := by
  rw [Kept, violations]
  generalize propertyNames ks = names
  induction ks with
  | nil => exact iff_of_true rfl fun _ h => absurd h List.not_mem_nil
  | cons k ks ih =>
    rw [allViolations, List.append_eq_nil_iff, ih, List.forall_mem_cons]
    rfl

theorem kept_singleton {k : Keyword} {v : Value} :
    (Schema.mk [k]).Kept v ↔ k.Kept (propertyNames [k]) v := by
  rw [kept_iff, List.forall_mem_singleton]

end Schema

namespace Keyword

variable {names : List String} {v : Value}

theorem kept_items {s : Schema} {vs : List Value} :
    (items s).Kept names (.list vs) ↔ ∀ v ∈ vs, s.Kept v := by
  have hitems : ∀ i, Schema.itemViolations s.violations i vs = [] ↔ ∀ v ∈ vs, s.Kept v := by
    induction vs with
    | nil => exact fun i => iff_of_true rfl fun _ h => absurd h List.not_mem_nil
    | cons v vs ih =>
      intro i
      rw [Schema.itemViolations, List.append_eq_nil_iff, List.map_eq_nil_iff, ih,
        List.forall_mem_cons]
      rfl
  exact hitems 0

theorem kept_note (name text : String) : (note name text).Kept names v := rfl

/-- A demand with a single violation. -/
theorem ite_eq_nil_iff {α : Type} {b : Bool} {a : α} :
    (if b then [] else [a]) = [] ↔ b = true := by
  cases b <;> simp

/-- A demand of a least size, with a single violation. -/
theorem ite_lt_eq_nil_iff {α : Type} {size least : Nat} {a : α} :
    (if size < least then [a] else []) = [] ↔ least ≤ size := by
  by_cases h : size < least
  · rw [if_pos h]
    exact iff_of_false nofun (Nat.not_le.2 h)
  · rw [if_neg h]
    exact iff_of_true rfl (Nat.not_lt.1 h)

theorem kept_type {t : SchemaType} : (type t).Kept names v ↔ t.admits v = true :=
  ite_eq_nil_iff

theorem kept_types {ts : List SchemaType} :
    (types ts).Kept names v ↔ ∃ t ∈ ts, t.admits v = true :=
  ite_eq_nil_iff.trans List.any_eq_true

theorem kept_enum {choices : List Literal} :
    (enum choices).Kept names v ↔ ∃ l ∈ choices, v = l.toValue := by
  simp only [← Literal.admits_iff]
  exact ite_eq_nil_iff.trans List.any_eq_true

theorem kept_const {l : Literal} : (const l).Kept names v ↔ v = l.toValue :=
  ite_eq_nil_iff.trans Literal.admits_iff

theorem kept_minLength {n : Nat} {s : String} :
    (minLength n).Kept names (.str s) ↔ n ≤ s.length :=
  ite_lt_eq_nil_iff

theorem kept_minItems {n : Nat} {vs : List Value} :
    (minItems n).Kept names (.list vs) ↔ n ≤ vs.length :=
  ite_lt_eq_nil_iff

theorem kept_pattern {p : OutsideRange} {s : String} :
    (pattern p).Kept names (.str s) ↔ p.foundIn s = true :=
  ite_eq_nil_iff

theorem kept_required {required : List String} {entries : List (String × Value)} :
    (Keyword.required required).Kept names (.dict entries)
      ↔ ∀ name ∈ required, (Value.lookup entries name).isSome = true := by
  rw [Kept, Schema.keywordViolations, List.map_eq_nil_iff, List.filter_eq_nil_iff]
  simp only [Option.isNone_iff_eq_none, Option.isSome_iff_ne_none]

theorem kept_closed {entries : List (String × Value)} :
    closed.Kept names (.dict entries) ↔ ∀ e ∈ entries, e.1 ∈ names := by
  have hextras : (entries.map Prod.fst).filter (!names.contains ·) = []
      ↔ ∀ e ∈ entries, e.1 ∈ names := by
    rw [List.filter_eq_nil_iff, List.forall_mem_map]
    simp only [Bool.not_eq_true', Bool.not_eq_false, List.contains_iff_mem]
  rw [Kept, Schema.keywordViolations, ← hextras]
  cases (entries.map Prod.fst).filter (!names.contains ·) with
  | nil => exact iff_of_true rfl rfl
  | cons name extras => exact iff_of_false nofun nofun

theorem kept_properties {schemas : List (String × Schema)} {entries : List (String × Value)} :
    (properties schemas).Kept names (.dict entries)
      ↔ ∀ p ∈ schemas, ∀ w ∈ Value.lookup entries p.1, p.2.Kept w := by
  rw [Kept, Schema.keywordViolations]
  induction schemas with
  | nil => exact iff_of_true rfl fun _ h => absurd h List.not_mem_nil
  | cons p schemas ih =>
    obtain ⟨name, s⟩ := p
    rw [Schema.propertyViolations, List.append_eq_nil_iff, ih, List.forall_mem_cons]
    refine and_congr_left fun _ => ?_
    cases Value.lookup entries name with
    | none => exact iff_of_true rfl nofun
    | some w =>
      simp only [List.map_eq_nil_iff, Option.mem_some_iff, forall_eq']
      exact Iff.rfl

theorem kept_not {s : Schema} : (Keyword.not s).Kept names v ↔ ¬s.Kept v := by
  rw [Kept, Schema.keywordViolations, Schema.Kept]
  cases s.violations v <;> simp

theorem kept_branch {condition accepted refused : Schema} :
    (branch condition accepted refused).Kept names v
      ↔ (condition.Kept v → accepted.Kept v) ∧ (¬condition.Kept v → refused.Kept v) := by
  rw [Kept, Schema.keywordViolations, Schema.Kept]
  cases condition.violations v with
  | nil =>
    rw [List.isEmpty_nil, if_pos rfl, List.map_eq_nil_iff]
    exact ⟨fun h => ⟨fun _ => h, fun hne => absurd rfl hne⟩, fun h => h.1 rfl⟩
  | cons first others =>
    rw [List.isEmpty_cons, if_neg Bool.false_ne_true, List.map_eq_nil_iff]
    exact ⟨fun h => ⟨nofun, fun _ => h⟩, fun h => h.2 nofun⟩

end Keyword

end Longhand
