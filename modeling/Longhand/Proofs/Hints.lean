import Longhand.Annotation.Resolution
import Longhand.Proofs.Outcome
import Mathlib.Data.List.Basic

/-!
What the executable resolution of annotations keeps to: the hints have the names of the annotations
(`keepsNames_hintsOf`), and a text that spells no expression ends the resolution
(`refusesUnspelled_hintsOf`).
-/

namespace Longhand

namespace Annotation

/-- Other values under the same names. -/
theorem isSome_lookup_zip (name : String) (annotations : Hints) {vs : List Value}
    (h : vs.length = annotations.length) :
    (((annotations.map Prod.fst).zip vs).lookup name).isSome
      = (annotations.lookup name).isSome := by
  induction annotations generalizing vs with
  | nil => rfl
  | cons a annotations ih =>
    obtain ⟨v, vs, rfl⟩ := List.exists_cons_of_length_eq_add_one h
    rw [List.map_cons, List.zip_cons_cons, List.lookup_cons, List.lookup_cons]
    cases name == a.1 with
    | true => rfl
    | false => exact ih (Nat.succ.inj h)

variable [Home]

theorem length_resolveAll {vs ws : List Value} (h : resolveAll vs = .ok ws) :
    ws.length = vs.length := by
  rw [resolveAll] at h
  have hfirst := congrArg (fun x => StateT.run x [])
    (bind_length_mapM resolve vs (pure : Nat → Eval Nat))
  simp only [StateT.run_bind] at hfirst
  cases hrun : (vs.mapM resolve).run [] with
  | error e =>
    rw [hrun] at h
    cases h
  | ok r =>
    rw [hrun] at h hfirst
    have hlast : r.1.mapM id = .ok ws := h
    have hsecond := bind_length_mapM id r.1 (pure : Nat → Answer Nat)
    rw [hlast] at hsecond
    exact (Except.ok.inj hsecond).trans (congrArg Prod.fst (Except.ok.inj hfirst))

theorem keepsNames_hintsOf : Resolver.KeepsNames hintsOf := by
  intro f hints h name
  unfold hintsOf at h
  split at h
  · rename_i vs hvs
    cases h
    exact isSome_lookup_zip name f.annotations ((length_resolveAll hvs).trans (List.length_map _))
  · cases h
  · cases h

/-! ### Texts that spell no expression -/

theorem run_mapM_resolve_cons (v : Value) (vs : List Value) (names : Names) :
    ((v :: vs).mapM resolve).run names = (do
      let first ← (resolve v).run names
      let rest ← (vs.mapM resolve).run first.2
      return (first.1 :: rest.1, rest.2)) := by
  rw [List.mapM_cons]
  rfl

/-- Classes stand for themselves. -/
theorem run_mapM_resolve {vs : List Value} (h : ∀ v ∈ vs, ∃ c, v = .type c) (names : Names) :
    (vs.mapM resolve).run names = .ok (vs.map .ok, names) := by
  induction vs with
  | nil => rfl
  | cons v vs ih =>
    obtain ⟨⟨c, rfl⟩, hvs⟩ := List.forall_mem_cons.1 h
    rw [run_mapM_resolve_cons]
    change (do let rest ← (vs.mapM resolve).run names; return _) = _
    rw [ih hvs]
    rfl

theorem resolveAll_of_not_expression {before rest : List Value} {s : String}
    (hbefore : ∀ v ∈ before, ∃ c, v = .type c) (hs : s ≠ "") (hzero : '\x00' ∉ s.toList)
    (hnone : Expression.ofText s = none) :
    resolveAll (before ++ .str s :: rest)
      = .error (.failed (.notExpression (Quoted.string s))) := by
  have hreference : Entity.reference s
      = .error (.failed (.notExpression (Quoted.string s))) := by
    rw [Entity.reference, if_neg (by simpa using hs), if_neg (by simpa using hzero),
      hnone]
    rfl
  have htext : (resolve (.str s)).run []
      = .error (.failed (.notExpression (Quoted.string s))) := by
    rw [resolve, hreference]
    rfl
  rw [resolveAll, List.mapM_append, StateT.run_bind, run_mapM_resolve hbefore]
  change (do
    let answers ← (do
      let found ← ((Value.str s :: rest).mapM resolve).run []
      return (before.map Except.ok ++ found.1, found.2))
    answers.1.mapM id) = _
  rw [run_mapM_resolve_cons, htext]
  rfl

theorem refusesUnspelled_hintsOf :
    Resolver.RefusesUnspelled hintsOf fun s => (Expression.ofText s).isSome := by
  intro f before name s rest hf hbefore hs hzero hnone
  have hclasses : ∀ v ∈ before.map Prod.snd, ∃ c, v = .type c := by
    intro v hv
    obtain ⟨a, ha, rfl⟩ := List.mem_map.1 hv
    exact hbefore a ha
  rw [hintsOf, hf, List.map_append, List.map_cons,
    resolveAll_of_not_expression hclasses hs hzero (Option.not_isSome_iff_eq_none.1 hnone)]
  rfl

end Annotation

end Longhand
