import Longhand.Proofs.Keeping

/-!
Equality of JSON values: lists are compared item by item, mappings by what each name stands for,
whatever the order of the names (`SameJson`). Truth values are no numbers, and numbers are the same
only if they are written the same. A schema sees no more of a value than this: of two values that
are the same, it is kept by both or by neither (`Schema.kept_congr`).
-/

namespace Longhand

/-- Two values are the same as JSON. -/
inductive SameJson : Value → Value → Prop
  | refl (v : Value) : SameJson v v
  | list {vs ws : List Value} : vs.length = ws.length →
      (∀ (i : Nat) (v w : Value), vs[i]? = some v → ws[i]? = some w → SameJson v w) →
      SameJson (.list vs) (.list ws)
  | dict {es fs : List (String × Value)} :
      (∀ name, (Value.lookup es name).isSome = (Value.lookup fs name).isSome) →
      (∀ name v w, Value.lookup es name = some v → Value.lookup fs name = some w →
        SameJson v w) →
      SameJson (.dict es) (.dict fs)

namespace Value

/-- A name leads to a value if some entry has it. -/
theorem isSome_lookup_iff {entries : List (String × Value)} {name : String} :
    (lookup entries name).isSome = true ↔ ∃ e ∈ entries, e.1 = name := by
  rw [lookup, Option.isSome_map, List.find?_isSome]
  simp only [beq_iff_eq]

end Value

namespace SameJson

variable {v w : Value}

theorem admits_eq (h : SameJson v w) (t : SchemaType) : t.admits v = t.admits w := by
  cases h with
  | refl => rfl
  | list => cases t <;> rfl
  | dict => cases t <;> rfl

theorem eq_literal_iff (h : SameJson v w) (l : Literal) : v = l.toValue ↔ w = l.toValue := by
  cases h with
  | refl => exact Iff.rfl
  | list => cases l <;> exact iff_of_false nofun nofun
  | dict => cases l <;> exact iff_of_false nofun nofun

end SameJson

/-- A condition that is the same for values that are the same as JSON. -/
def Respects (p : Value → Prop) : Prop := ∀ ⦃v w : Value⦄, SameJson v w → (p v ↔ p w)

namespace Respects

variable {p : Value → Prop}

/-- What all items of two lists meet, the second list as the first. -/
theorem forall_mem_iff (hp : Respects p) {vs ws : List Value} (hlength : vs.length = ws.length)
    (hsame : ∀ (i : Nat) (v w : Value), vs[i]? = some v → ws[i]? = some w → SameJson v w) :
    (∀ v ∈ vs, p v) ↔ ∀ w ∈ ws, p w := by
  have hat : ∀ (i : Nat) (hv : i < vs.length) (hw : i < ws.length), p vs[i] ↔ p ws[i] :=
    fun i hv hw => hp (hsame i _ _ (List.getElem?_eq_getElem hv) (List.getElem?_eq_getElem hw))
  simp only [List.forall_mem_iff_forall_getElem]
  exact ⟨fun h i hw => (hat i (hlength ▸ hw) hw).1 (h i _),
    fun h i hv => (hat i hv (hlength ▸ hv)).2 (h i _)⟩

/-- What the value under a name meets, if there is one, in two mappings with the same names. -/
theorem forall_lookup_iff (hp : Respects p) {es fs : List (String × Value)} {name : String}
    (hnames : (Value.lookup es name).isSome = (Value.lookup fs name).isSome)
    (hsame : ∀ v w, Value.lookup es name = some v → Value.lookup fs name = some w →
      SameJson v w) :
    (∀ v ∈ Value.lookup es name, p v) ↔ ∀ w ∈ Value.lookup fs name, p w := by
  cases he : Value.lookup es name with
  | none =>
    cases hf : Value.lookup fs name with
    | none => exact Iff.rfl
    | some w =>
      rw [he, hf] at hnames
      cases hnames
  | some v =>
    cases hf : Value.lookup fs name with
    | none =>
      rw [he, hf] at hnames
      cases hnames
    | some w =>
      simp only [Option.mem_some_iff, forall_eq']
      exact hp (hsame v w he hf)

end Respects

namespace Keyword

variable {names : List String} {s t u : Schema}

theorem respects_type (t : SchemaType) : Respects ((type t).Kept names) := by
  intro v w h
  rw [kept_type, kept_type, h.admits_eq]

theorem respects_types (ts : List SchemaType) : Respects ((types ts).Kept names) := by
  intro v w h
  simp only [kept_types, h.admits_eq]

theorem respects_enum (choices : List Literal) : Respects ((enum choices).Kept names) := by
  intro v w h
  simp only [kept_enum, h.eq_literal_iff]

theorem respects_const (l : Literal) : Respects ((const l).Kept names) := by
  intro v w h
  simp only [kept_const, h.eq_literal_iff]

theorem respects_minItems (n : Nat) : Respects ((minItems n).Kept names) := by
  intro v w h
  cases h with
  | refl | dict => exact Iff.rfl
  | list hlength _ => rw [kept_minItems, kept_minItems, hlength]

theorem respects_items (hs : Respects s.Kept) : Respects ((items s).Kept names) := by
  intro v w h
  cases h with
  | refl | dict => exact Iff.rfl
  | list hlength hsame =>
    rw [kept_items, kept_items]
    exact hs.forall_mem_iff hlength hsame

theorem respects_required (required : List String) :
    Respects ((Keyword.required required).Kept names) := by
  intro v w h
  cases h with
  | refl | list => exact Iff.rfl
  | dict hnames _ => simp only [kept_required, hnames]

theorem respects_closed : Respects (closed.Kept names) := by
  intro v w h
  cases h with
  | refl | list => exact Iff.rfl
  | dict hnames _ =>
    have hlisted (entries : List (String × Value)) : closed.Kept names (.dict entries)
        ↔ ∀ name, (Value.lookup entries name).isSome = true → name ∈ names := by
      simp only [kept_closed, Value.isSome_lookup_iff]
      exact ⟨fun h name ⟨e, he, hname⟩ => hname ▸ h e he, fun h e he => h e.1 ⟨e, he, rfl⟩⟩
    simp only [hlisted, hnames]

theorem respects_properties {schemas : List (String × Schema)}
    (hs : ∀ p ∈ schemas, Respects p.2.Kept) : Respects ((properties schemas).Kept names) := by
  intro v w h
  cases h with
  | refl | list => exact Iff.rfl
  | dict hnames hsame =>
    rw [kept_properties, kept_properties]
    exact forall₂_congr fun p hp => (hs p hp).forall_lookup_iff (hnames p.1) (hsame p.1)

theorem respects_not (hs : Respects s.Kept) : Respects ((Keyword.not s).Kept names) := by
  intro v w h
  rw [kept_not, kept_not, hs h]

theorem respects_branch (hs : Respects s.Kept) (ht : Respects t.Kept) (hu : Respects u.Kept) :
    Respects ((branch s t u).Kept names) := by
  intro v w h
  rw [kept_branch, kept_branch, hs h, ht h, hu h]

end Keyword

namespace Schema

mutual

/-- Of two values that are the same as JSON, a schema is kept by both or by neither. -/
theorem kept_congr : (s : Schema) → Respects s.Kept
  | .mk keywords => by
    intro v w h
    rw [kept_iff, kept_iff]
    exact forall₂_congr fun k hk => respects_of_mem keywords k hk h

theorem respects_of_mem {names : List String} :
    (keywords : List Keyword) → ∀ k ∈ keywords, Respects (k.Kept names)
  | [] => fun _ h => absurd h List.not_mem_nil
  | k :: rest => List.forall_mem_cons.2 ⟨respects_keyword k, respects_of_mem rest⟩

theorem respects_keyword {names : List String} : (k : Keyword) → Respects (k.Kept names)
  | .note _ _ => fun _ _ _ => Iff.rfl
  | .type t => Keyword.respects_type t
  | .types ts => Keyword.respects_types ts
  | .enum choices => Keyword.respects_enum choices
  | .const l => Keyword.respects_const l
  -- texts are the same only if they are equal
  | .minLength _ | .pattern _ => by
    intro v w h
    cases h <;> exact Iff.rfl
  | .minItems n => Keyword.respects_minItems n
  | .required required => Keyword.respects_required required
  | .properties schemas => Keyword.respects_properties (respects_of_listed schemas)
  | .closed => Keyword.respects_closed
  | .items s => Keyword.respects_items (kept_congr s)
  | .not s => Keyword.respects_not (kept_congr s)
  | .branch s t u => Keyword.respects_branch (kept_congr s) (kept_congr t) (kept_congr u)

theorem respects_of_listed : (schemas : List (String × Schema)) →
    ∀ p ∈ schemas, Respects p.2.Kept
  | [] => fun _ h => absurd h List.not_mem_nil
  | (_, s) :: rest => List.forall_mem_cons.2 ⟨kept_congr s, respects_of_listed rest⟩

end

end Schema

end Longhand
