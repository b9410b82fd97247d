import Longhand.Proofs.Rendering

/-!
When a value can be shown. It can unless it holds an integer beyond the conversion limit, at any
depth (`Value.exists_shown_iff`).
-/

namespace Longhand

/-- If a second step does not depend on what the first one gives, both go well or neither does. -/
theorem exists_bind_ok_iff {α β : Type} {x : Except Error α} {f : α → Except Error β} {q : Prop}
    (hf : ∀ a, (∃ b, f a = .ok b) ↔ q) : (∃ b, x >>= f = .ok b) ↔ (∃ a, x = .ok a) ∧ q := by
  cases x with
  | error e => exact iff_of_false nofun nofun
  | ok a => exact (hf a).trans (and_iff_right ⟨a, rfl⟩).symm

theorem exists_bind_ok_iff_left {α β : Type} {x : Except Error α} {f : α → Except Error β}
    (hf : ∀ a, ∃ b, f a = .ok b) : (∃ b, x >>= f = .ok b) ↔ ∃ a, x = .ok a :=
  (exists_bind_ok_iff fun a => iff_true_intro (hf a)).trans (and_iff_left trivial)

namespace Value

/-- The values right inside a value. -/
def parts : Value → List Value
  | .list vs | .tuple vs | .generic _ vs => vs
  | .dict es | .record _ es => es.map Prod.snd
  | _ => []

/-- An integer beyond the conversion limit, or something that is never taken apart around one. -/
def TooLong : Value → Prop
  | .int n => tenPow digitLimit ≤ n.natAbs
  | .object _ none => True
  | _ => False

/-- A value holds an integer beyond the conversion limit, at any depth. -/
inductive Overlong : Value → Prop
  | here {v : Value} : v.TooLong → Overlong v
  | inside {v w : Value} : w ∈ v.parts → Overlong w → Overlong v

theorem overlong_iff {v : Value} : v.Overlong ↔ v.TooLong ∨ ∃ w ∈ v.parts, w.Overlong := by
  constructor
  · intro h
    cases h with
    | here h => exact .inl h
    | inside hw h => exact .inr ⟨_, hw, h⟩
  · rintro (h | ⟨w, hw, h⟩)
    · exact .here h
    · exact .inside hw h

theorem overlong_int_iff {n : Int} : (Value.int n).Overlong ↔ tenPow digitLimit ≤ n.natAbs := by
  rw [overlong_iff]
  exact or_iff_left fun ⟨_, hw, _⟩ => absurd hw List.not_mem_nil

theorem not_overlong_iff {v : Value} (h : ¬v.TooLong) :
    ¬v.Overlong ↔ ∀ w ∈ v.parts, ¬w.Overlong := by
  rw [overlong_iff, or_iff_right h]
  simp only [not_exists, not_and]

mutual

/-- A value can be shown if no integer in it is beyond the conversion limit. -/
theorem exists_shown_iff : (v : Value) → (∃ text, v.shown = .ok text) ↔ ¬v.Overlong
  | .null | .bool _ | .float _ | .complex _ _ | .str _ | .bytes _ | .type _ | .any
  | .variable _ | .ellipsis | .object _ (some _) => by
    rw [not_overlong_iff id]
    simp only [shown]
    exact iff_of_true ⟨_, rfl⟩ fun _ hw => absurd hw List.not_mem_nil
  | .object _ none => by
    simp only [shown]
    exact iff_of_false nofun fun h => h (.here trivial)
  | .int n => by
    simp only [shown]
    rw [exists_intText_iff, overlong_int_iff, Nat.not_le]
  | .list vs => by
    rw [not_overlong_iff id]
    simp only [shown]
    exact (exists_bind_ok_iff_left fun _ => ⟨_, rfl⟩).trans (exists_shownAll_iff vs)
  | .tuple vs => by
    rw [not_overlong_iff id]
    simp only [shown]
    refine (exists_bind_ok_iff_left fun texts => ?_).trans (exists_shownAll_iff vs)
    split <;> exact ⟨_, rfl⟩
  | .dict es => by
    rw [not_overlong_iff id]
    simp only [shown]
    exact (exists_bind_ok_iff_left fun _ => ⟨_, rfl⟩).trans (exists_shownEntries_iff es)
  | .generic _ vs => by
    rw [not_overlong_iff id]
    simp only [shown]
    exact (exists_bind_ok_iff_left fun _ => ⟨_, rfl⟩).trans (exists_shownArguments_iff vs)
  | .record _ es => by
    rw [not_overlong_iff id]
    simp only [shown]
    exact (exists_bind_ok_iff_left fun _ => ⟨_, rfl⟩).trans (exists_shownFields_iff es)

theorem exists_shownAll_iff : (vs : List Value) →
    (∃ texts, shown.shownAll vs = .ok texts) ↔ ∀ v ∈ vs, ¬v.Overlong
  | [] => iff_of_true ⟨_, rfl⟩ fun _ h => absurd h List.not_mem_nil
  | v :: vs => by
    rw [List.forall_mem_cons, ← exists_shown_iff v, ← exists_shownAll_iff vs]
    simp only [shown.shownAll]
    exact exists_bind_ok_iff fun _ => exists_bind_ok_iff_left fun _ => ⟨_, rfl⟩

theorem exists_shownEntries_iff : (es : List (String × Value)) →
    (∃ texts, shown.shownEntries es = .ok texts) ↔ ∀ v ∈ es.map Prod.snd, ¬v.Overlong
  | [] => iff_of_true ⟨_, rfl⟩ fun _ h => absurd h List.not_mem_nil
  | (_, v) :: es => by
    rw [List.map_cons, List.forall_mem_cons, ← exists_shown_iff v, ← exists_shownEntries_iff es]
    simp only [shown.shownEntries]
    exact exists_bind_ok_iff fun _ => exists_bind_ok_iff_left fun _ => ⟨_, rfl⟩

theorem exists_shownFields_iff : (es : List (String × Value)) →
    (∃ texts, shown.shownFields es = .ok texts) ↔ ∀ v ∈ es.map Prod.snd, ¬v.Overlong
  | [] => iff_of_true ⟨_, rfl⟩ fun _ h => absurd h List.not_mem_nil
  | (_, v) :: es => by
    rw [List.map_cons, List.forall_mem_cons, ← exists_shown_iff v, ← exists_shownFields_iff es]
    simp only [shown.shownFields]
    exact exists_bind_ok_iff fun _ => exists_bind_ok_iff_left fun _ => ⟨_, rfl⟩

theorem exists_shownArguments_iff : (vs : List Value) →
    (∃ texts, shown.shownArguments vs = .ok texts) ↔ ∀ v ∈ vs, ¬v.Overlong
  | [] => iff_of_true ⟨_, rfl⟩ fun _ h => absurd h List.not_mem_nil
  | v :: vs => by
    have hv := exists_shown_iff v
    have hvs := exists_shownArguments_iff vs
    rw [List.forall_mem_cons, ← hv, ← hvs, shown.shownArguments.eq_def]
    split
    · rename_i h
      cases h
    · rename_i h
      cases h
      simp only [shown]
      exact (exists_bind_ok_iff_left fun _ => ⟨_, rfl⟩).trans (and_iff_right ⟨_, rfl⟩).symm
    · rename_i h
      cases h
      simp only [shown]
      exact (exists_bind_ok_iff_left fun _ => ⟨_, rfl⟩).trans (and_iff_right ⟨_, rfl⟩).symm
    · rename_i h
      cases h
      exact exists_bind_ok_iff fun _ => exists_bind_ok_iff_left fun _ => ⟨_, rfl⟩

end

theorem shown_of_overlong {v : Value} (h : v.Overlong) : v.shown = .error (.limit .printing) := by
  cases hv : v.shown with
  | ok text => exact absurd h ((exists_shown_iff v).1 ⟨text, hv⟩)
  | error e => rw [limited_shown v e hv]

end Value

end Longhand
