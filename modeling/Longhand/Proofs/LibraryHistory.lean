import Longhand.Contract.Library
import Longhand.Proofs.Outcome

/-!
Libraries of schemas over their histories: loads in any order, between them files come, change and
go. A single step keeps a schema that was loaded (`Library.lookup_after`) and, if no load of its
name goes well, keeps a name free; a load of one name leaves all others as they were
(`Library.Agrees`). Over a whole history this is `Library.loads_stick`.
-/

namespace Longhand

namespace LibraryEvent

/-- The files after an event. A load leaves them alone. -/
def onFiles (files : List (String × String)) : LibraryEvent → List (String × String)
  | .load _ => files
  | .write name text => (name, text) :: files
  | .remove name => files.filter fun f => f.1 != name

/-- Whether an event is a load of another name. -/
def loadsOther (name : String) : LibraryEvent → Bool
  | .load other => other != name
  | _ => false

end LibraryEvent

namespace Library

/-- The library after several events. -/
def afterAll (l : Library) (events : List LibraryEvent) : Library := events.foldl after l

/-- Among the files there is one of the name, and its text is JSON of a value that passes the
check. -/
def Spells (defect? : Value → Option Pattern.Defect) (files : List (String × String))
    (name : String) (v : Value) : Prop :=
  ∃ text, files.lookup name = some text ∧ Json.read text = .ok v ∧ defect? v = none

variable {l m : Library} {name other : String} {v : Value} {e : Error}

/-! One load -/

theorem read_eq_ok_iff : l.read name = .ok v ↔ Spells l.defect? l.files name v := by
  unfold read Spells
  cases l.files.lookup name with
  | none => exact iff_of_false nofun fun ⟨_, h, _⟩ => nomatch h
  | some text =>
    constructor
    · intro h
      obtain ⟨w, hw, h⟩ := exists_of_bind_ok h
      split at h
      · rename_i hdefect
        cases h
        exact ⟨text, rfl, hw, hdefect⟩
      · cases h
      · cases h
    · rintro ⟨_, ⟨⟩, hread, hdefect⟩
      simp only [hread, bind, Except.bind, hdefect]
      rfl

theorem load_of_loaded (h : l.loaded.lookup name = some v) : l.load name = (.ok v, l) := by
  rw [load, h]

theorem load_of_read (h : l.loaded.lookup name = none) (hread : l.read name = .ok v) :
    l.load name = (.ok v, { l with loaded := (name, v) :: l.loaded }) := by
  rw [load, h]
  simp only [hread]

theorem load_of_unread (h : l.loaded.lookup name = none) (hread : l.read name = .error e) :
    l.load name = (.error e, l) := by
  rw [load, h]
  simp only [hread]

/-- A load gives what was loaded before, or reads the file and keeps what it gives. -/
theorem load_cases (l : Library) (name : String) :
    (∃ v, l.loaded.lookup name = some v ∧ l.load name = (.ok v, l)) ∨
    l.loaded.lookup name = none ∧
      ((∃ v, l.read name = .ok v ∧
          l.load name = (.ok v, { l with loaded := (name, v) :: l.loaded })) ∨
        ∃ e, l.read name = .error e ∧ l.load name = (.error e, l)) := by
  cases h : l.loaded.lookup name with
  | some v => exact .inl ⟨v, rfl, load_of_loaded h⟩
  | none =>
    refine .inr ⟨rfl, ?_⟩
    cases hread : l.read name with
    | ok v => exact .inl ⟨v, rfl, load_of_read h hread⟩
    | error e => exact .inr ⟨e, rfl, load_of_unread h hread⟩

/-- A load that goes well leaves its schema behind. -/
theorem lookup_of_load_ok (h : (l.load name).1 = .ok v) :
    (l.load name).2.loaded.lookup name = some v := by
  obtain ⟨w, hw, hload⟩ | ⟨-, ⟨w, -, hload⟩ | ⟨e, -, hload⟩⟩ := load_cases l name
  · rw [hload] at h ⊢
    cases h
    exact hw
  · rw [hload] at h ⊢
    cases h
    exact List.lookup_cons_self
  · rw [hload] at h
    cases h

/-- A load that fails leaves nothing behind. -/
theorem of_load_error (h : (l.load name).1 = .error e) :
    l.loaded.lookup name = none ∧ (l.load name).2 = l := by
  obtain ⟨w, hw, hload⟩ | ⟨hnone, ⟨w, -, hload⟩ | ⟨d, -, hload⟩⟩ := load_cases l name
  · rw [hload] at h
    cases h
  · rw [hload] at h
    cases h
  · exact ⟨hnone, by rw [hload]⟩

theorem files_load (l : Library) (name : String) : (l.load name).2.files = l.files := by
  obtain ⟨w, -, hload⟩ | ⟨-, ⟨w, -, hload⟩ | ⟨e, -, hload⟩⟩ := load_cases l name <;> rw [hload]

theorem defect?_load (l : Library) (name : String) : (l.load name).2.defect? = l.defect? := by
  obtain ⟨w, -, hload⟩ | ⟨-, ⟨w, -, hload⟩ | ⟨e, -, hload⟩⟩ := load_cases l name <;> rw [hload]

/-- A load is no business of other names. -/
theorem lookup_load_of_ne (h : name ≠ other) :
    (l.load other).2.loaded.lookup name = l.loaded.lookup name := by
  obtain ⟨w, -, hload⟩ | ⟨-, ⟨w, -, hload⟩ | ⟨e, -, hload⟩⟩ := load_cases l other
  · rw [hload]
  · rw [hload, List.lookup_cons, beq_false_of_ne h]
  · rw [hload]

/-! One event -/

theorem files_after (l : Library) (event : LibraryEvent) :
    (l.after event).files = event.onFiles l.files := by
  cases event with
  | load other => exact files_load l other
  | write other text => rfl
  | remove other => rfl

theorem defect?_after (l : Library) (event : LibraryEvent) :
    (l.after event).defect? = l.defect? := by
  cases event with
  | load other => exact defect?_load l other
  | write other text => rfl
  | remove other => rfl

/-- Nothing touches a schema that was loaded. -/
theorem lookup_after (h : l.loaded.lookup name = some v) (event : LibraryEvent) :
    (l.after event).loaded.lookup name = some v := by
  cases event with
  | load other =>
    by_cases hname : name = other
    · subst hname
      rw [after, load_of_loaded h]
      exact h
    · rw [after, lookup_load_of_ne hname]
      exact h
  | write other text => exact h
  | remove other => exact h

/-- A name stays free if the event is no load of it that goes well. -/
theorem lookup_after_of_none (h : l.loaded.lookup name = none) {event : LibraryEvent}
    (hfails : event = .load name → ∃ e, (l.load name).1 = .error e) :
    (l.after event).loaded.lookup name = none := by
  cases event with
  | load other =>
    by_cases hname : name = other
    · subst hname
      obtain ⟨e, he⟩ := hfails rfl
      rw [after, (of_load_error he).2]
      exact h
    · rw [after, lookup_load_of_ne hname]
      exact h
  | write other text => exact h
  | remove other => exact h

/-- Every schema that a library has after an event it had before, or the event loaded it. -/
theorem mem_loaded_after {entry : String × Value} {event : LibraryEvent}
    (h : entry ∈ (l.after event).loaded) :
    entry ∈ l.loaded ∨ event = .load entry.1 ∧ Spells l.defect? l.files entry.1 entry.2 := by
  cases event with
  | load other =>
    rw [after] at h
    obtain ⟨w, -, hload⟩ | ⟨-, ⟨w, hread, hload⟩ | ⟨e, -, hload⟩⟩ := load_cases l other
    · rw [hload] at h
      exact .inl h
    · rw [hload] at h
      obtain rfl | hold := List.mem_cons.1 h
      · exact .inr ⟨rfl, read_eq_ok_iff.1 hread⟩
      · exact .inl hold
    · rw [hload] at h
      exact .inl h
  | write other text => exact .inl h
  | remove other => exact .inl h

/-- Two libraries cannot be told apart by loads of a name. -/
structure Agrees (name : String) (l m : Library) : Prop where
  files : l.files = m.files
  defect? : l.defect? = m.defect?
  lookup : l.loaded.lookup name = m.loaded.lookup name

namespace Agrees

theorem load_eq (h : Agrees name l m) : (l.load name).1 = (m.load name).1 := by
  have hread : l.read name = m.read name := by rw [read, read, h.files, h.defect?]
  obtain ⟨w, hw, hload⟩ | ⟨hnone, ⟨w, hw, hload⟩ | ⟨e, he, hload⟩⟩ := load_cases l name
  · rw [hload, load_of_loaded (h.lookup.symm.trans hw)]
  · rw [hload, load_of_read (h.lookup.symm.trans hnone) (hread.symm.trans hw)]
  · rw [hload, load_of_unread (h.lookup.symm.trans hnone) (hread.symm.trans he)]

/-- What happens to both does not set them apart. -/
theorem after (h : Agrees name l m) (event : LibraryEvent) :
    Agrees name (l.after event) (m.after event) := by
  refine ⟨by rw [files_after, files_after, h.files],
    by rw [defect?_after, defect?_after, h.defect?], ?_⟩
  cases event with
  | load other =>
    by_cases hname : name = other
    · subst hname
      have hloads := h.load_eq
      cases houtcome : (l.load name).1 with
      | ok v =>
        exact (lookup_of_load_ok houtcome).trans (lookup_of_load_ok (hloads ▸ houtcome)).symm
      | error e =>
        rw [Library.after, Library.after, (of_load_error houtcome).2,
          (of_load_error (hloads ▸ houtcome)).2]
        exact h.lookup
    · rw [Library.after, Library.after, lookup_load_of_ne hname, lookup_load_of_ne hname]
      exact h.lookup
  | write other text => exact h.lookup
  | remove other => exact h.lookup

/-- A load of another name that only one of them sees does not either. -/
theorem after_other (h : Agrees name l m) {event : LibraryEvent}
    (hother : event.loadsOther name = true) : Agrees name (l.after event) m := by
  cases event with
  | load other =>
    have hname : name ≠ other := fun he => by
      rw [he] at hother
      exact absurd (bne_self_eq_false other ▸ hother) Bool.false_ne_true
    exact ⟨(files_load l other).trans h.files, (defect?_load l other).trans h.defect?,
      (lookup_load_of_ne hname).trans h.lookup⟩
  | write other text => cases hother
  | remove other => cases hother

end Agrees

/-! Histories -/

theorem afterAll_cons (l : Library) (event : LibraryEvent) (events : List LibraryEvent) :
    l.afterAll (event :: events) = (l.after event).afterAll events := rfl

theorem files_afterAll (l : Library) (events : List LibraryEvent) :
    (l.afterAll events).files = events.foldl LibraryEvent.onFiles l.files := by
  induction events generalizing l with
  | nil => rfl
  | cons event events ih => rw [afterAll_cons, ih, files_after, List.foldl_cons]

theorem defect?_afterAll (l : Library) (events : List LibraryEvent) :
    (l.afterAll events).defect? = l.defect? := by
  induction events generalizing l with
  | nil => rfl
  | cons event events ih => rw [afterAll_cons, ih, defect?_after]

theorem lookup_afterAll (h : l.loaded.lookup name = some v) (events : List LibraryEvent) :
    (l.afterAll events).loaded.lookup name = some v := by
  induction events generalizing l with
  | nil => exact h
  | cons event events ih => exact ih (lookup_after h event)

/-- Every load of a name in a history fails. -/
def FailsThroughout (l : Library) (name : String) (events : List LibraryEvent) : Prop :=
  ∀ before rest, events = before ++ .load name :: rest →
    ∃ e, ((l.afterAll before).load name).1 = .error e

theorem lookup_afterAll_of_none (h : l.loaded.lookup name = none) {events : List LibraryEvent}
    (hfails : l.FailsThroughout name events) :
    (l.afterAll events).loaded.lookup name = none := by
  induction events generalizing l with
  | nil => exact h
  | cons event events ih =>
    refine ih (lookup_after_of_none h fun hevent => ?_) fun before rest hevents => ?_
    · exact hfails [] events (by rw [hevent]; rfl)
    · exact hfails (event :: before) rest (by rw [hevents]; rfl)

theorem Agrees.afterAll_filter (h : Agrees name l m) (events : List LibraryEvent) :
    Agrees name (l.afterAll events)
      (m.afterAll (events.filter fun event => !event.loadsOther name)) := by
  induction events generalizing l m with
  | nil => exact h
  | cons event events ih =>
    cases hother : event.loadsOther name with
    | true =>
      rw [afterAll_cons, List.filter_cons_of_neg (by simp [hother])]
      exact ih (h.after_other hother)
    | false =>
      rw [afterAll_cons, List.filter_cons_of_pos (by simp [hother])]
      exact ih (h.after event)

/-- Every schema that a library has after a history it had before, or the history loaded it from a
file that spelled it at that time. -/
theorem mem_loaded_afterAll {entry : String × Value} {events : List LibraryEvent}
    (h : entry ∈ (l.afterAll events).loaded) :
    entry ∈ l.loaded ∨ ∃ before rest, events = before ++ .load entry.1 :: rest ∧
      Spells l.defect? (before.foldl LibraryEvent.onFiles l.files) entry.1 entry.2 := by
  induction events generalizing l with
  | nil => exact .inl h
  | cons event events ih =>
    obtain hafter | ⟨before, rest, rfl, hspells⟩ := ih h
    · obtain hold | ⟨rfl, hspells⟩ := mem_loaded_after hafter
      · exact .inl hold
      · exact .inr ⟨[], events, rfl, hspells⟩
    · rw [files_after, defect?_after] at hspells
      exact .inr ⟨event :: before, rest, rfl, hspells⟩

/-- Schemas that were loaded stick, and failures leave no trace, over every history and whatever
the check of schemas is. Once a load of a name has gone well, every later one gives the same schema
and changes nothing. A load that fails changes nothing, and as long as all loads of the name have
failed, the next one gives what the file of that time spells, and goes well if it spells anything.
Leaving out the loads of other names changes no outcome. Of a library that starts with no schemas,
every schema was loaded from a file that spelled it then, so it passed the check. -/
theorem loads_stick (l : Library) (name : String) (events : List LibraryEvent) :
    (∀ v, (l.load name).1 = .ok v →
      ((l.load name).2.afterAll events).load name = (.ok v, (l.load name).2.afterAll events)) ∧
    (∀ e, (l.load name).1 = .error e → (l.load name).2 = l ∧
      (l.FailsThroughout name events → ∀ v, ((l.afterAll events).load name).1 = .ok v ↔
        Spells l.defect? (events.foldl LibraryEvent.onFiles l.files) name v)) ∧
    ((l.afterAll events).load name).1
      = ((l.afterAll (events.filter fun event => !event.loadsOther name)).load name).1 ∧
    (l.loaded = [] → ∀ entry ∈ (l.afterAll events).loaded, l.defect? entry.2 = none ∧
      ∃ before rest, events = before ++ .load entry.1 :: rest ∧
        Spells l.defect? (before.foldl LibraryEvent.onFiles l.files) entry.1 entry.2) := by
  refine ⟨fun v h => ?_, fun e h => ⟨(of_load_error h).2, fun hfails v => ?_⟩, ?_,
    fun hnew entry hentry => ?_⟩
  · exact load_of_loaded (lookup_afterAll (lookup_of_load_ok h) events)
  · have hnone := lookup_afterAll_of_none (of_load_error h).1 hfails
    rw [← files_afterAll, ← defect?_afterAll l events, ← read_eq_ok_iff, load, hnone]
    cases (l.afterAll events).read name <;> exact Iff.rfl
  · exact (Agrees.afterAll_filter ⟨rfl, rfl, rfl⟩ events).load_eq
  · obtain hold | ⟨before, rest, hevents, hspells⟩ := mem_loaded_afterAll hentry
    · rw [hnew] at hold
      exact absurd hold List.not_mem_nil
    · obtain ⟨text, -, -, hdefect⟩ := id hspells
      exact ⟨hdefect, before, rest, hevents, hspells⟩

/-- A broken file is mended and read, and the schema outlives the file. -/
theorem loads_stick_mended :
    ∃ l : Library, l = { files := [("point", "oops")] } ∧
      (l.load "point").1 = .error (.schema .unreadable) ∧
      (l.load "point").2 = l ∧
      ((l.afterAll [.write "point" "true"]).load "point").1 = .ok (.bool true) ∧
      ((((l.afterAll [.write "point" "true"]).load "point").2.afterAll
        [.remove "point", .load "line"]).load "point").1 = .ok (.bool true) := by
  refine ⟨_, rfl, ?_⟩
  have hbroken : (load { files := [("point", "oops")] } "point").1
      = .error (.schema .unreadable) := rfl
  obtain ⟨hsame, hmended⟩ :=
    (loads_stick { files := [("point", "oops")] } "point" [.write "point" "true"]).2.1 _ hbroken
  have hnever : FailsThroughout { files := [("point", "oops")] } "point"
      [.write "point" "true"] := fun before rest h => by
    have hmem : LibraryEvent.load "point" ∈ [LibraryEvent.write "point" "true"] := by
      rw [h]
      exact List.mem_append_right _ List.mem_cons_self
    exact absurd hmem (by decide)
  have hloads := (hmended hnever (.bool true)).2 ⟨"true", rfl, rfl, rfl⟩
  have hsticks := (loads_stick _ "point" [.remove "point", .load "line"]).1 _ hloads
  exact ⟨hbroken, hsame, hloads, by rw [hsticks]⟩

end Library

end Longhand
