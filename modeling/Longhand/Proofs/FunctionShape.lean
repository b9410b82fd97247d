import Longhand.Proofs.Hints

/-!
The shapes of functions. What the annotations resolve to is a parameter, of which little is asked
(`Resolver.KeepsNames`, `Resolver.RefusesUnspelled`). The first parameter that cannot be curried is
the one that is reported (`Function.fails_mapM_check`). So a function has the shape of its hints, or
is refused by its first such parameter (`Function.shape_of_hints`). A failure of the resolution that
is no lack of meaning comes out as it is (`Function.shape_or_escape`).
-/

namespace Longhand

namespace Parameter

/-- A parameter cannot be curried if it takes several arguments or a named one, or has a default. -/
def Refused (p : Parameter) : Prop :=
  p.kind ∈ [ParameterKind.variadic, .variadicKeyword, .keywordOnly] ∨ p.hasDefault = true

instance (p : Parameter) : Decidable p.Refused := inferInstanceAs (Decidable (_ ∨ _))

/-- What is said of a parameter that cannot be curried. Its kind counts before its default. -/
def refusal (p : Parameter) : String :=
  if p.kind ∈ [ParameterKind.variadic, .variadicKeyword, .keywordOnly] then
    "Parameter " ++ Quoted.string p.name ++ " of kind " ++ p.kind.description
      ++ " cannot be curried"
  else "Parameter " ++ Quoted.string p.name ++ " has a default value and cannot be curried"

variable {p : Parameter}

theorem isPositional_eq_false_iff :
    p.isPositional = false ↔ p.kind ∈ [ParameterKind.variadic, .variadicKeyword, .keywordOnly] := by
  rw [isPositional]
  cases p.kind <;> decide

theorem check_of_not_refused (h : ¬p.Refused) : p.check = .ok () := by
  rw [Refused, ← isPositional_eq_false_iff, not_or, Bool.not_eq_false, Bool.not_eq_true] at h
  rw [check, obstacle, h.1, h.2]
  rfl

theorem fails_check (h : p.Refused) : Fails p.check .unsupportedSignature p.refusal := by
  rw [check, obstacle, refusal]
  by_cases hkind : p.kind ∈ [ParameterKind.variadic, .variadicKeyword, .keywordOnly]
  · rw [isPositional_eq_false_iff.2 hkind, if_pos hkind]
    exact fails_engine _
  · have hpositional : p.isPositional = true := by
      rwa [← isPositional_eq_false_iff, Bool.not_eq_false] at hkind
    rw [hpositional, h.resolve_left hkind, if_neg hkind]
    exact fails_engine _

end Parameter

namespace Function

open Annotation (Expression Home hintsOf keepsNames_hintsOf refusesUnspelled_hintsOf)

/-! ### Refusals -/

section

variable {α : Type} (g : Parameter → α) {params : List Parameter}

theorem mapM_check (h : ∀ p ∈ params, ¬p.Refused) :
    params.mapM (fun p => do p.check; return g p) = .ok (params.map g) := by
  induction params with
  | nil => rfl
  | cons p params ih =>
    obtain ⟨hp, hparams⟩ := List.forall_mem_cons.1 h
    rw [List.mapM_cons, Parameter.check_of_not_refused hp, ih hparams]
    rfl

/-- The first parameter that cannot be curried is reported, whatever comes after it. -/
theorem fails_mapM_check {before rest : List Parameter} {p : Parameter}
    (hparams : params = before ++ p :: rest) (hbefore : ∀ q ∈ before, ¬q.Refused)
    (hp : p.Refused) :
    Fails (params.mapM fun p => do p.check; return g p) .unsupportedSignature p.refusal := by
  subst hparams
  rw [List.mapM_append, mapM_check g hbefore, List.mapM_cons]
  obtain ⟨e, he, hfault, htext⟩ := Parameter.fails_check hp
  rw [he]
  exact ⟨e, rfl, hfault, htext⟩

end

theorem exists_first_refused {params : List Parameter} (h : ∃ p ∈ params, p.Refused) :
    ∃ before p rest, params = before ++ p :: rest ∧ (∀ q ∈ before, ¬q.Refused) ∧ p.Refused := by
  have hsome : (params.find? fun p => decide p.Refused).isSome := by
    rw [List.find?_isSome]
    simpa only [decide_eq_true_eq] using h
  obtain ⟨p, hp⟩ := Option.isSome_iff_exists.1 hsome
  obtain ⟨hrefused, before, rest, hparams, hbefore⟩ := List.find?_eq_some_iff_append.1 hp
  exact ⟨before, p, rest, hparams, fun q hq => by simpa using hbefore q hq, by simpa using hrefused⟩

/-! ### Shapes -/

variable {resolve : Resolver} {f : Function} {hints : Hints}

theorem fails_shape (h : f.hints resolve = .ok hints) {before rest : List Parameter}
    {p : Parameter} (hf : f.params = before ++ p :: rest) (hbefore : ∀ q ∈ before, ¬q.Refused)
    (hp : p.Refused) : Fails (f.shape resolve) .unsupportedSignature p.refusal := by
  rw [shape, h]
  exact fails_bind.2 (.inr ⟨hints, rfl, fails_bind.2 (.inl (fails_mapM_check _ hf hbefore hp))⟩)

theorem shape_eq_ok (h : f.hints resolve = .ok hints) (hf : ∀ p ∈ f.params, ¬p.Refused) :
    f.shape resolve
      = .ok ⟨f.params.map fun p => f.typeOf hints p.name, f.typeOf hints "return"⟩ := by
  rw [shape, h]
  change (f.params.mapM fun p => do p.check; return f.typeOf hints p.name) >>= _ = _
  rw [mapM_check _ hf]
  rfl

/-- There are hints, unless the resolution fails otherwise than for lack of meaning. -/
theorem exists_hints (h : ∀ why, resolve f ≠ .error (.failed why)) :
    ∃ hints, f.hints resolve = .ok hints := by
  rw [Function.hints]
  cases hresolve : resolve f with
  | ok hints => exact ⟨hints, rfl⟩
  | error e =>
    cases e with
    | meaningless => exact ⟨[], rfl⟩
    | failed why => exact absurd hresolve (h why)

/-- A name without a hint has no annotation either. -/
theorem typeOf_of_isSome {name : String}
    (h : (hints.lookup name).isSome = (f.annotations.lookup name).isSome) :
    f.typeOf hints name = (hints.lookup name).getD .any := by
  rw [typeOf]
  cases hlookup : hints.lookup name with
  | some v => rfl
  | none =>
    rw [hlookup, eq_comm, Option.isSome_none, Option.isSome_eq_false_iff, Option.isNone_iff_eq_none]
      at h
    rw [h]
    rfl

/-- A function whose annotations resolve, or one of whose annotations has no meaning. It is refused
if and only if some parameter takes several arguments or a named one, or has a default; the first
such parameter is named, and its kind counts before its default. Any other function has a shape with
one type for each parameter in order and one for the result: what the annotation of that name
resolves to, or every annotation as it stands if one has no meaning; where there is none, any
type. -/
theorem shape_of_hints (hnames : resolve.KeepsNames) (f : Function)
    (h : ∀ why, resolve f ≠ .error (.failed why)) :
    ((∃ text, Fails (f.shape resolve) .unsupportedSignature text) ↔ ∃ p ∈ f.params, p.Refused) ∧
    (∀ before p rest, f.params = before ++ p :: rest → (∀ q ∈ before, ¬q.Refused) → p.Refused →
      Fails (f.shape resolve) .unsupportedSignature p.refusal) ∧
    ((∀ p ∈ f.params, ¬p.Refused) →
      (∀ hints, resolve f = .ok hints →
        f.shape resolve = .ok ⟨f.params.map fun p => (hints.lookup p.name).getD .any,
          (hints.lookup "return").getD .any⟩) ∧
      (resolve f = .error .meaningless →
        f.shape resolve = .ok ⟨f.params.map fun p => (f.annotations.lookup p.name).getD .any,
          (f.annotations.lookup "return").getD .any⟩)) := by
  obtain ⟨hints, hhints⟩ := exists_hints h
  refine ⟨⟨?_, ?_⟩, ?_, fun hf => ⟨fun hints hresolve => ?_, fun hnone => ?_⟩⟩
  · rintro ⟨text, hfails⟩
    by_contra hnone
    exact hfails.ne_ok _ (shape_eq_ok hhints fun p hp hrefused => hnone ⟨p, hp, hrefused⟩)
  · intro hsome
    obtain ⟨before, p, rest, hf, hbefore, hp⟩ := exists_first_refused hsome
    exact ⟨_, fails_shape hhints hf hbefore hp⟩
  · intro before p rest hf hbefore hp
    exact fails_shape hhints hf hbefore hp
  · have htype : ∀ name, f.typeOf hints name = (hints.lookup name).getD .any := fun name =>
      typeOf_of_isSome (hnames f hints hresolve name)
    rw [shape_eq_ok (by rw [Function.hints, hresolve]) hf]
    simp only [htype]
  · rw [shape_eq_ok (by rw [Function.hints, hnone]) hf]
    rfl

/-- A module with no classes and no names of its own. -/
abbrev emptyModule : Home := ⟨[], [], id⟩

/-- A result without a value is of the class of that, and a parameter without a type of any. -/
theorem shape_of_hints_null :
    let resolve := @hintsOf emptyModule
    let f : Function :=
      { params := [{ name := "x" }, { name := "y" }],
        annotations := [("x", .type .int), ("return", .null)] }
    resolve.KeepsNames ∧ (∀ why, resolve f ≠ .error (.failed why)) ∧
      f.shape resolve = .ok ⟨[.type .int, .any], .type .null⟩ := by
  intro resolve f
  have hnames : resolve.KeepsNames := @keepsNames_hintsOf emptyModule
  have hhints : resolve f = .ok [("x", .type .int), ("return", .type .null)] := rfl
  have hnot : ∀ why, resolve f ≠ .error (.failed why) := fun why => hhints ▸ nofun
  exact ⟨hnames, hnot, ((shape_of_hints hnames f hnot).2.2 (by decide)).1 _ hhints⟩

/-! ### Failures of the resolution -/

/-- A function has a shape or is refused with the code for unsupported signatures, unless the
resolution of its annotations fails otherwise than for lack of meaning: that failure comes out as it
is, before any parameter is looked at. A text that does not spell an expression is enough for that,
wherever it comes after classes. -/
theorem shape_or_escape (resolve : Resolver) (f : Function) :
    ((∀ why, resolve f ≠ .error (.failed why)) →
      (∃ s, f.shape resolve = .ok s) ∨
        ∃ text, Fails (f.shape resolve) .unsupportedSignature text) ∧
    (∀ why, resolve f = .error (.failed why) → f.shape resolve = .error why) ∧
    ∀ spells, resolve.RefusesUnspelled spells → ∀ before name s rest,
      f.annotations = before ++ (name, .str s) :: rest → (∀ a ∈ before, ∃ c, a.2 = .type c) →
      s ≠ "" → '\x00' ∉ s.toList → ¬spells s →
      f.shape resolve = .error (.notExpression (Quoted.string s)) := by
  have hescape : ∀ why, resolve f = .error (.failed why) → f.shape resolve = .error why :=
    fun why hwhy => by
      rw [shape, Function.hints, hwhy]
      rfl
  refine ⟨fun h => ?_, hescape,
    fun spells hresolve before name s rest hf hbefore hs hzero hnot => ?_⟩
  · obtain ⟨hints, hhints⟩ := exists_hints h
    by_cases hrefused : ∃ p ∈ f.params, p.Refused
    · obtain ⟨before, p, rest, hf, hbefore, hp⟩ := exists_first_refused hrefused
      exact .inr ⟨_, fails_shape hhints hf hbefore hp⟩
    · exact .inl ⟨_, shape_eq_ok hhints fun p hp hbad => hrefused ⟨p, hp, hbad⟩⟩
  · exact hescape _ (hresolve f before name s rest hf hbefore hs hzero hnot)

/-- A choice whose second type is missing spells no expression. -/
theorem shape_or_escape_unfinished :
    let resolve := @hintsOf emptyModule
    let f : Function := { params := [{ name := "x" }], annotations := [("x", .str "int |")] }
    Expression.ofText "int |" = none ∧
      f.shape resolve = .error (.notExpression (Quoted.string "int |")) := by
  intro resolve f
  have hnone : Expression.ofText "int |" = none := by decide +kernel
  have hresolve := @refusesUnspelled_hintsOf emptyModule
  refine ⟨hnone, (shape_or_escape resolve f).2.2 _ hresolve [] "x" "int |" [] rfl ?_ ?_ ?_ ?_⟩
  · exact fun _ h => absurd h List.not_mem_nil
  · decide
  · decide
  · rw [hnone]
    exact Bool.false_ne_true

end Function

end Longhand
