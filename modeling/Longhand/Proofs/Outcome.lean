import Longhand.Traced

/-!
How computations end. A failure is told by its coded kind and its text (`Fails`), a log by the
lines that are written for it (`Traced.lines`). What a computation may fail with is told part by
part (`FailsOnly`).
-/

namespace Longhand

/-- The outcome is a failure of a coded kind with a text. -/
def Fails {α : Type} (outcome : Except Error α) (kind : Fault) (text : String) : Prop :=
  ∃ e, outcome = .error e ∧ e.fault? = some kind ∧ e.message = text

theorem fails_engine {α : Type} (c : Cause) :
    Fails (.error (.engine c) : Except Error α) c.fault c.message :=
  ⟨.engine c, rfl, rfl, rfl⟩

theorem fails_error {α : Type} {e : Error} {kind : Fault} {text : String} :
    Fails (.error e : Except Error α) kind text ↔ e.fault? = some kind ∧ e.message = text :=
  ⟨fun ⟨_, hd, h⟩ => Except.error.inj hd ▸ h, fun h => ⟨e, rfl, h⟩⟩

theorem Fails.text_unique {α : Type} {x : Except Error α} {kind other : Fault} {text word : String}
    (h : Fails x kind text) (h' : Fails x other word) : text = word := by
  obtain ⟨e, he, -, rfl⟩ := h
  obtain ⟨d, hd, -, rfl⟩ := h'
  rw [he] at hd
  cases hd
  rfl

theorem Fails.ne_ok {α : Type} {x : Except Error α} {kind : Fault} {text : String}
    (h : Fails x kind text) (a : α) : x ≠ .ok a := by
  obtain ⟨e, he, -⟩ := h
  rw [he]
  exact nofun

/-- What becomes of a value does not touch a failure. -/
theorem fails_map {α β : Type} {x : Except Error α} {f : α → β} {kind : Fault} {text : String} :
    Fails (x.map f) kind text ↔ Fails x kind text := by
  cases x with
  | error e => exact fails_error.trans fails_error.symm
  | ok a => exact iff_of_false (fun h => h.ne_ok (f a) rfl) (fun h => h.ne_ok a rfl)

/-- The part that comes first fails, or it does not and what follows fails. -/
theorem fails_bind {α β : Type} {x : Except Error α} {f : α → Except Error β} {kind : Fault}
    {text : String} :
    Fails (x >>= f) kind text ↔ Fails x kind text ∨ ∃ a, x = .ok a ∧ Fails (f a) kind text := by
  cases x with
  | error e =>
    rw [or_iff_left fun ⟨a, ha, _⟩ => nomatch ha]
    exact fails_error.trans fails_error.symm
  | ok a =>
    rw [or_iff_right fun ⟨e, he, _⟩ => nomatch he]
    exact ⟨fun h => ⟨a, rfl, h⟩, fun ⟨b, hb, h⟩ => Except.ok.inj hb ▸ h⟩

/-- What goes well in two steps went well in the first. -/
theorem exists_of_bind_ok {α β : Type} {first : Except Error α} {next : α → Except Error β} {b : β}
    (h : first >>= next = .ok b) : ∃ a, first = .ok a ∧ next a = .ok b := by
  cases first with
  | error e => cases h
  | ok a => exact ⟨a, rfl, h⟩

/-- There are as many results as there are items. -/
theorem bind_length_mapM {m : Type → Type} [Monad m] [LawfulMonad m] {α β γ : Type} (g : α → m β)
    (xs : List α) (next : Nat → m γ) :
    (xs.mapM g >>= fun ys => next ys.length) = (xs.mapM g >>= fun _ => next xs.length) := by
  induction xs generalizing next with
  | nil => simp
  | cons x xs ih =>
    simp only [List.mapM_cons, bind_assoc, pure_bind, List.length_cons]
    exact bind_congr fun _ => ih fun n => next (n + 1)

theorem map_bind {α β γ : Type} (x : Except Error α) (f : α → Except Error β) (g : β → γ) :
    (x >>= f).map g = x >>= fun a => (f a).map g := by
  cases x <;> rfl

/-- Every failure of a computation is such a one. -/
def FailsOnly {α : Type} (p : Error → Prop) (x : Except Error α) : Prop := ∀ e, x = .error e → p e

namespace FailsOnly

variable {α β : Type} {p q : Error → Prop}

theorem ok (a : α) : FailsOnly p (.ok a) := fun _ h => nomatch h

theorem error {e : Error} (h : p e) : FailsOnly p (.error e : Except Error α) := fun _ he =>
  Except.error.inj he ▸ h

theorem bind {x : Except Error α} {f : α → Except Error β} (hx : FailsOnly p x)
    (hf : ∀ a, FailsOnly p (f a)) : FailsOnly p (x >>= f) := by
  cases x with
  | error e => exact error (hx e rfl)
  | ok a => exact hf a

theorem mono {x : Except Error α} (hx : FailsOnly p x) (h : ∀ e, p e → q e) : FailsOnly q x :=
  fun e he => h e (hx e he)

end FailsOnly

namespace Traced

/-- A traced computation whose value is rewritten. -/
def map {α β : Type} (f : α → β) (t : Traced α) : Traced β := ⟨t.outcome.map f, t.log⟩

/-- The log as it is written: the weight and the wording of each record. -/
def lines {α : Type} (t : Traced α) : List (Level × String) :=
  t.log.map fun e => (e.level, e.text)

end Traced

end Longhand
