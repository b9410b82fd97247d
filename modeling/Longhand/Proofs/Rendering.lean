import Longhand.Proofs.Outcome
import Longhand.Shape.Basic

/-!
How shapes are written in messages. The one thing that cannot be shown is an integer beyond the
conversion limit (`Value.limited_shown`). So a shape is written if each of its types has a label,
and otherwise writing it fails at that limit (`Signature.writes_render`,
`Overloads.writes_render`).
-/

namespace Longhand

/-- The one way to fail is at the conversion limit. -/
abbrev Limited {α : Type} (x : Except Error α) : Prop := FailsOnly (· = .limit .printing) x

theorem limited_intText (n : Int) : Limited (intText n) := by
  by_cases h : n.natAbs < tenPow digitLimit
  · rw [intText, if_pos h]
    exact .ok _
  · rw [intText, if_neg h]
    exact .error rfl

namespace Value

mutual

/-- A value that cannot be shown holds an integer beyond the conversion limit. -/
theorem limited_shown : (v : Value) → Limited v.shown
  | .null | .bool _ | .float _ | .complex _ _ | .str _ | .bytes _ | .type _ | .any
  | .variable _ | .ellipsis | .object _ (some _) => by
    simp only [shown]
    exact .ok _
  | .object _ none => by
    simp only [shown]
    exact .error rfl
  | .int n => by
    simp only [shown]
    exact limited_intText n
  | .list vs => by
    simp only [shown]
    exact (limited_shownAll vs).bind fun _ => .ok _
  | .tuple vs => by
    simp only [shown]
    refine (limited_shownAll vs).bind fun texts => ?_
    split <;> exact .ok _
  | .dict es => by
    simp only [shown]
    exact (limited_shownEntries es).bind fun _ => .ok _
  | .generic _ vs => by
    simp only [shown]
    exact (limited_shownArguments vs).bind fun _ => .ok _
  | .record _ es => by
    simp only [shown]
    exact (limited_shownFields es).bind fun _ => .ok _

theorem limited_shownAll : (vs : List Value) → Limited (shown.shownAll vs)
  | [] => .ok _
  | v :: vs => by
    simp only [shown.shownAll]
    exact (limited_shown v).bind fun _ => (limited_shownAll vs).bind fun _ => .ok _

theorem limited_shownEntries : (es : List (String × Value)) → Limited (shown.shownEntries es)
  | [] => .ok _
  | (_, v) :: es => by
    simp only [shown.shownEntries]
    exact (limited_shown v).bind fun _ => (limited_shownEntries es).bind fun _ => .ok _

theorem limited_shownFields : (es : List (String × Value)) → Limited (shown.shownFields es)
  | [] => .ok _
  | (_, v) :: es => by
    simp only [shown.shownFields]
    exact (limited_shown v).bind fun _ => (limited_shownFields es).bind fun _ => .ok _

theorem limited_shownArguments : (vs : List Value) → Limited (shown.shownArguments vs)
  | [] => .ok _
  | v :: vs => by
    have hv := limited_shown v
    have hvs := limited_shownArguments vs
    rw [shown.shownArguments.eq_def]
    split
    · exact .ok _
    · rename_i h
      cases h
      exact hvs.bind fun _ => .ok _
    · rename_i h
      cases h
      exact hvs.bind fun _ => .ok _
    · rename_i h
      cases h
      exact hv.bind fun _ => hvs.bind fun _ => .ok _

end

theorem limited_label (v : Value) : Limited v.label := by
  cases v with
  | str _ | type _ => exact .ok _
  | _ => exact limited_shown _

/-- A type that can be named in a message. -/
def Labelled (v : Value) : Prop := ∃ text, v.label = .ok text

@[simp] theorem labelled_type (c : Class) : Labelled (.type c) := ⟨c.name, rfl⟩

theorem exists_intText_iff {n : Int} :
    (∃ text, intText n = .ok text) ↔ n.natAbs < tenPow digitLimit := by
  by_cases h : n.natAbs < tenPow digitLimit
  · rw [intText, if_pos h]
    exact iff_of_true ⟨_, rfl⟩ h
  · rw [intText, if_neg h]
    refine iff_of_false ?_ h
    rintro ⟨_, ⟨⟩⟩

theorem labelled_int_iff {n : Int} : (Value.int n).Labelled ↔ n.natAbs < tenPow digitLimit := by
  have hlabel : (Value.int n).label = intText n := by simp only [label, shown]
  rw [Labelled, hlabel, exists_intText_iff]

theorem not_labelled_of_le {n : Nat} (h : tenPow digitLimit ≤ n) : ¬(Value.int n).Labelled := by
  rw [labelled_int_iff, Int.natAbs_natCast]
  exact Nat.not_lt.2 h

theorem label_of_not_labelled {v : Value} (h : ¬v.Labelled) :
    v.label = .error (.limit .printing) := by
  cases hv : v.label with
  | ok text => exact absurd ⟨text, hv⟩ h
  | error e => rw [limited_label v e hv]

end Value

/-- A text made of the labels of some types: it is there if all of them are labelled, and fails at
the conversion limit if one of them is not. -/
inductive Writes {α : Type} (types : List Value) : Except Error α → Prop
  | text (a : α) : (∀ t ∈ types, t.Labelled) → Writes types (.ok a)
  | limit {t : Value} : t ∈ types → ¬t.Labelled → Writes types (.error (.limit .printing))

namespace Writes

variable {α β : Type}

theorem pure (a : α) : Writes [] (.ok a) := .text a fun _ h => absurd h List.not_mem_nil

theorem bind {types more : List Value} {x : Except Error α} {f : α → Except Error β}
    (hx : Writes types x) (hf : ∀ a, Writes more (f a)) : Writes (types ++ more) (x >>= f) := by
  cases hx with
  | limit ht hl => exact .limit (List.mem_append_left more ht) hl
  | text a hall =>
    have hnext : Writes more (f a) := hf a
    show Writes (types ++ more) (f a)
    generalize f a = y at hnext
    cases hnext with
    | limit ht hl => exact .limit (List.mem_append_right types ht) hl
    | text b hmore => exact .text b fun t ht => (List.mem_append.1 ht).elim (hall t) (hmore t)

theorem map {types : List Value} {x : Except Error α} (g : α → β) (hx : Writes types x) :
    Writes types (x >>= fun a => .ok (g a)) := by
  have h := hx.bind fun a => pure (g a)
  rwa [List.append_nil] at h

theorem mapM {types : α → List Value} {f : α → Except Error β}
    (hf : ∀ a, Writes (types a) (f a)) (as : List α) :
    Writes (as.flatMap types) (as.mapM f) := by
  induction as with
  | nil => exact pure []
  | cons a as ih =>
    rw [List.mapM_cons, List.flatMap_cons]
    exact (hf a).bind fun b => ih.map (b :: ·)

theorem label (t : Value) : Writes [t] t.label := by
  by_cases h : t.Labelled
  · have hall : ∀ s ∈ [t], s.Labelled := fun s hs => by rwa [List.mem_singleton.1 hs]
    obtain ⟨text, htext⟩ := h
    rw [htext]
    exact .text text hall
  · rw [Value.label_of_not_labelled h]
    exact .limit (List.mem_singleton.2 rfl) h

theorem labels (types : List Value) : Writes types (Value.labels types) := by
  have h := (mapM label types).map (bracketed "(" ")")
  rwa [List.flatMap_singleton'] at h

end Writes

/-- The types that a two-stage call is written with. -/
def Signature.types (s : Signature) : List Value := s.first ++ (s.second ++ [s.result])

/-- The types that a choice of two-stage calls is written with. -/
def Overloads.types (o : Overloads) : List Value := o.signatures.flatMap Signature.types

theorem Signature.writes_render (s : Signature) : Writes s.types s.render :=
  (Writes.labels s.first).bind fun _ => (Writes.labels s.second).bind fun _ =>
    (Writes.label s.result).map _

theorem Overloads.writes_render (o : Overloads) : Writes o.types o.render :=
  (Writes.mapM (fun s => s.writes_render.map _) o.signatures).map _

end Longhand
