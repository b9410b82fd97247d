import Longhand.Proofs.Rendering
import Longhand.Shape.Binding
import Mathlib.Data.List.Forall2
import Mathlib.Data.Nat.Find

/-!
Calls of bound functions. The test for the members of a class may answer as it likes, and may fail.
So there are three things that it can come to for an argument: the type takes it (`Takes`), refuses
it (`Refuses`), or its test breaks (`Breaks`), and one of them is always so
(`takes_or_refuses_or_breaks`). The same holds for arguments one for one, where the first that is
not taken decides (`suited_or_unsuited_or_breaks`). A call is observed together with the calls that
it makes of the function behind (`Bound.apply`). A refused call makes none (`Observed.Refused`), and
neither does one that a test breaks.
-/

namespace Longhand

/-! ### Tests in turn -/

/-- One of several items, all before which are skipped. -/
def Reached {α : Type} (skipped : α → Prop) (xs : List α) (x : α) : Prop :=
  ∃ before after, xs = before ++ x :: after ∧ ∀ y ∈ before, skipped y

theorem reached_or_forall {α : Type} (skipped : α → Prop) (xs : List α) :
    (∃ x, Reached skipped xs x ∧ ¬skipped x) ∨ ∀ x ∈ xs, skipped x := by
  induction xs with
  | nil => exact .inr fun _ h => absurd h List.not_mem_nil
  | cons y ys ih =>
    by_cases hy : skipped y
    · rcases ih with ⟨x, ⟨before, after, rfl, hbefore⟩, hx⟩ | hall
      · exact .inl ⟨x, ⟨y :: before, after, rfl, List.forall_mem_cons.2 ⟨hy, hbefore⟩⟩, hx⟩
      · exact .inr (List.forall_mem_cons.2 ⟨hy, hall⟩)
    · exact .inl ⟨y, ⟨[], ys, rfl, fun _ h => absurd h List.not_mem_nil⟩, hy⟩

section

variable {α : Type} {test : α → Except Error Bool} {before : List α}

theorem anyM_append_of_no (h : ∀ y ∈ before, test y = .ok false) (rest : List α) :
    (before ++ rest).anyM test = rest.anyM test := by
  induction before with
  | nil => rfl
  | cons y ys ih =>
    obtain ⟨hy, hys⟩ := List.forall_mem_cons.1 h
    rw [List.cons_append, List.anyM_cons, hy]
    exact ih hys

theorem allM_append_of_yes (h : ∀ y ∈ before, test y = .ok true) (rest : List α) :
    (before ++ rest).allM test = rest.allM test := by
  induction before with
  | nil => rfl
  | cons y ys ih =>
    obtain ⟨hy, hys⟩ := List.forall_mem_cons.1 h
    rw [List.cons_append, List.allM_cons, hy]
    exact ih hys

theorem findM?_append_of_no (h : ∀ y ∈ before, test y = .ok false) (rest : List α) :
    (before ++ rest).findM? test = rest.findM? test := by
  induction before with
  | nil => rfl
  | cons y ys ih =>
    obtain ⟨hy, hys⟩ := List.forall_mem_cons.1 h
    rw [List.cons_append, List.findM?, hy]
    exact ih hys

/-- Items for which the test says no may be left out beforehand. -/
theorem findM?_filter {p : α → Bool} (h : ∀ y, p y = false → test y = .ok false) (xs : List α) :
    (xs.filter p).findM? test = xs.findM? test := by
  induction xs with
  | nil => rfl
  | cons y ys ih =>
    cases hy : p y with
    | true =>
      rw [List.filter_cons_of_pos hy, List.findM?, List.findM?, ih]
    | false =>
      rw [List.filter_cons_of_neg (by rw [hy]; exact Bool.false_ne_true), ih, List.findM?, h y hy]
      rfl

end

/-! ### Arguments -/

section

variable (belongs : MemberTest)

/-- Which arguments a type takes: a class those that belong to it or to a class that stands for it,
if the tests before that one say no. A type that is no class takes everything. -/
inductive Takes : Value → Value → Prop
  | ofClass {c d : Class} {arg : Value} : Reached (belongs · arg = .ok false) c.promoted d →
      belongs d arg = .ok true → Takes (.type c) arg
  | untestable {param arg : Value} : param.isTestable = false → Takes param arg

/-- Which arguments a type refuses. -/
inductive Refuses : Value → Value → Prop
  | ofClass {c : Class} {arg : Value} : (∀ d ∈ c.promoted, belongs d arg = .ok false) →
      Refuses (.type c) arg

/-- Which arguments make the test of a type fail, and how. -/
inductive Breaks : Value → Value → Error → Prop
  | ofClass {c d : Class} {arg : Value} {e : Error} :
      Reached (belongs · arg = .ok false) c.promoted d → belongs d arg = .error e →
      Breaks (.type c) arg e

/-- Each argument is taken by the parameter in its place. -/
def TakenInPlace (params args : List Value) : Prop :=
  ∀ (i : Nat) (p a : Value), params[i]? = some p → args[i]? = some a → Takes belongs p a

/-- The parameter and the argument in a place before which all arguments are taken. -/
structure TakenBefore (params args : List Value) (i : Nat) (p a : Value) : Prop where
  param : params[i]? = some p
  arg : args[i]? = some a
  before : TakenInPlace belongs params (args.take i)

/-- There are too many arguments or too few, or the first that is not taken is refused. -/
def Unsuited (params args : List Value) : Prop :=
  params.length ≠ args.length ∨
    ∃ i p a, TakenBefore belongs params args i p a ∧ Refuses belongs p a

/-- There are as many arguments as parameters, and the test of the first that is not taken fails. -/
def BreaksOn (params args : List Value) (e : Error) : Prop :=
  params.length = args.length ∧
    ∃ i p a, TakenBefore belongs params args i p a ∧ Breaks belongs p a e

end

section

variable {belongs : MemberTest} {param arg : Value} {params args : List Value} {e : Error}

theorem Takes.accepts_eq (h : Takes belongs param arg) : accepts belongs param arg = .ok true := by
  cases h with
  | ofClass hd hyes =>
    obtain ⟨before, after, hc, hbefore⟩ := hd
    rw [accepts, hc, anyM_append_of_no hbefore, List.anyM_cons, hyes]
    rfl
  | untestable h => cases param <;> first | rfl | cases h

theorem Refuses.accepts_eq (h : Refuses belongs param arg) :
    accepts belongs param arg = .ok false := by
  cases h with
  | @ofClass c _ hall =>
    have happend := anyM_append_of_no hall []
    rw [List.append_nil] at happend
    exact happend

theorem Breaks.accepts_eq (h : Breaks belongs param arg e) :
    accepts belongs param arg = .error e := by
  cases h with
  | ofClass hd herror =>
    obtain ⟨before, after, hc, hbefore⟩ := hd
    rw [accepts, hc, anyM_append_of_no hbefore, List.anyM_cons, herror]
    rfl

theorem takes_or_refuses_or_breaks (belongs : MemberTest) (param arg : Value) :
    Takes belongs param arg ∨ Refuses belongs param arg ∨ ∃ e, Breaks belongs param arg e := by
  cases param with
  | type c =>
    rcases reached_or_forall (belongs · arg = .ok false) c.promoted with ⟨d, hd, hne⟩ | hall
    · cases hbelongs : belongs d arg with
      | error e => exact .inr (.inr ⟨e, .ofClass hd hbelongs⟩)
      | ok b =>
        cases b with
        | true => exact .inl (.ofClass hd hbelongs)
        | false => exact absurd hbelongs hne
    · exact .inr (.inl (.ofClass hall))
  | _ => exact .inl (.untestable rfl)

theorem takes_iff : Takes belongs param arg ↔ accepts belongs param arg = .ok true := by
  refine ⟨Takes.accepts_eq, fun h => ?_⟩
  rcases takes_or_refuses_or_breaks belongs param arg with ht | hr | ⟨e, hb⟩
  · exact ht
  · rw [hr.accepts_eq] at h
    cases h
  · rw [hb.accepts_eq] at h
    cases h

/-- A type that refuses an argument can be tested, so it has a name. -/
theorem Refuses.exists_label (h : Refuses belongs param arg) : ∃ text, param.label = .ok text := by
  cases h with
  | @ofClass c _ _ => exact ⟨c.name, rfl⟩

/-! ### Arguments one for one -/

theorem forall₂_takes_iff :
    List.Forall₂ (Takes belongs) params args
      ↔ params.length = args.length ∧ TakenInPlace belongs params args := by
  rw [List.forall₂_iff_get]
  refine and_congr_right fun _ => ⟨fun h i p a hp ha => ?_, fun h i hp ha => ?_⟩
  · obtain ⟨hi, rfl⟩ := List.getElem?_eq_some_iff.1 hp
    obtain ⟨hj, rfl⟩ := List.getElem?_eq_some_iff.1 ha
    exact h i hi hj
  · exact h i _ _ (List.getElem?_eq_getElem hp) (List.getElem?_eq_getElem ha)

/-- The first parameters take as many arguments. -/
theorem forall₂_takes_take_iff :
    List.Forall₂ (Takes belongs) (params.take args.length) args
      ↔ args.length ≤ params.length ∧ TakenInPlace belongs params args := by
  have hplace : TakenInPlace belongs (params.take args.length) args
      ↔ TakenInPlace belongs params args := by
    have hget : ∀ {i : Nat} {a : Value}, args[i]? = some a →
        (params.take args.length)[i]? = params[i]? := fun ha =>
      List.getElem?_take_of_lt (List.getElem?_eq_some_iff.1 ha).1
    exact ⟨fun h i p a hp ha => h i p a ((hget ha).trans hp) ha,
      fun h i p a hp ha => h i p a ((hget ha).symm.trans hp) ha⟩
  have hlength : min args.length params.length = args.length ↔ args.length ≤ params.length := by
    omega
  rw [forall₂_takes_iff, List.length_take, hlength, hplace]

theorem TakenInPlace.take (h : TakenInPlace belongs params args) (i : Nat) :
    TakenInPlace belongs params (args.take i) := by
  intro j p a hp ha
  rw [List.getElem?_take] at ha
  split at ha
  · exact h j p a hp ha
  · cases ha

/-- If some argument is not taken, there is a first one. -/
theorem exists_takenBefore (h : ¬TakenInPlace belongs params args) :
    ∃ i p a, TakenBefore belongs params args i p a ∧ ¬Takes belongs p a := by
  classical
  have hsome : ∃ (i : Nat) (p a : Value),
      params[i]? = some p ∧ args[i]? = some a ∧ ¬Takes belongs p a := by
    simpa only [TakenInPlace, not_forall, exists_prop] using h
  obtain ⟨p, a, hp, ha, hnot⟩ := Nat.find_spec hsome
  refine ⟨Nat.find hsome, p, a, ⟨hp, ha, fun j q b hq hb => ?_⟩, hnot⟩
  rw [List.getElem?_take] at hb
  split at hb
  · rename_i hj
    by_contra hq'
    exact Nat.find_min hsome hj ⟨q, b, hq, hb, hq'⟩
  · cases hb

theorem suited_or_unsuited_or_breaks (belongs : MemberTest) (params args : List Value) :
    List.Forall₂ (Takes belongs) params args ∨ Unsuited belongs params args ∨
      ∃ e, BreaksOn belongs params args e := by
  by_cases hlength : params.length = args.length
  · by_cases hplace : TakenInPlace belongs params args
    · exact .inl (forall₂_takes_iff.2 ⟨hlength, hplace⟩)
    · obtain ⟨i, p, a, hbefore, hnot⟩ := exists_takenBefore hplace
      rcases takes_or_refuses_or_breaks belongs p a with ht | hr | ⟨e, hb⟩
      · exact absurd ht hnot
      · exact .inr (.inl (.inr ⟨i, p, a, hbefore, hr⟩))
      · exact .inr (.inr ⟨e, hlength, i, p, a, hbefore, hb⟩)
  · exact .inr (.inl (.inl hlength))

/-- The test of arguments comes to a place before which all are taken. -/
theorem TakenBefore.fits_eq {i : Nat} {p a : Value} (h : TakenBefore belongs params args i p a)
    (hlength : params.length = args.length) :
    ∃ rest, fits belongs params args
      = accepts belongs p a >>= fun b => if b then rest else .ok false := by
  have hpair : (params.zip args)[i]? = some (p, a) :=
    List.getElem?_zip_eq_some.2 ⟨h.param, h.arg⟩
  obtain ⟨hi, hget⟩ := List.getElem?_eq_some_iff.1 hpair
  obtain ⟨rest, hsplit⟩ : ∃ rest, params.zip args = (params.zip args).take i ++ (p, a) :: rest :=
    ⟨_, by rw [← hget, ← List.drop_eq_getElem_cons hi, List.take_append_drop]⟩
  have hbefore : ∀ pair ∈ (params.zip args).take i, accepts belongs pair.1 pair.2 = .ok true := by
    intro (q, b) hmem
    obtain ⟨j, hj⟩ := List.getElem?_of_mem hmem
    rw [List.getElem?_take] at hj
    split at hj
    · rename_i hlt
      obtain ⟨hq, hb⟩ := List.getElem?_zip_eq_some.1 hj
      exact (h.before j q b hq ((List.getElem?_take_of_lt hlt).trans hb)).accepts_eq
    · cases hj
  refine ⟨rest.allM fun pair => accepts belongs pair.1 pair.2, ?_⟩
  rw [fits, if_pos hlength, hsplit, allM_append_of_yes hbefore, List.allM_cons]
  rfl

theorem fits_of_suited (h : List.Forall₂ (Takes belongs) params args) :
    fits belongs params args = .ok true := by
  have hall : ∀ pair ∈ params.zip args, accepts belongs pair.1 pair.2 = .ok true :=
    fun _ hmem => ((List.forall₂_iff_zip.1 h).2 hmem).accepts_eq
  have happend := allM_append_of_yes hall []
  rw [List.append_nil] at happend
  rw [fits, if_pos h.length_eq, happend]
  rfl

theorem Unsuited.fits_eq (h : Unsuited belongs params args) :
    fits belongs params args = .ok false := by
  by_cases hlength : params.length = args.length
  · rcases h with hne | ⟨i, p, a, hbefore, hrefuses⟩
    · exact absurd hlength hne
    · obtain ⟨rest, hrest⟩ := hbefore.fits_eq hlength
      rw [hrest, hrefuses.accepts_eq]
      rfl
  · rw [fits, if_neg hlength]

theorem BreaksOn.fits_eq (h : BreaksOn belongs params args e) :
    fits belongs params args = .error e := by
  obtain ⟨hlength, i, p, a, hbefore, hbreaks⟩ := h
  obtain ⟨rest, hrest⟩ := hbefore.fits_eq hlength
  rw [hrest, hbreaks.accepts_eq]
  rfl

end

/-- The test for members that goes by the built-in classes alone. -/
def MemberTest.builtIn : MemberTest := fun c v => .ok (v.isA c)

theorem not_breaksOn_builtIn {params args : List Value} {e : Error} :
    ¬BreaksOn .builtIn params args e := by
  rintro ⟨-, i, p, a, -, ⟨-, h⟩⟩
  cases h

/-! ### Observed calls -/

/-- What a call of a bound function comes to. -/
inductive Reply (α : Type) where
  /-- A function for the next stage. -/
  | further (next : Bound)
  /-- What the function behind gave. -/
  | value (a : α)

/-- The outcome of a call, with the arguments of each call of the function behind. -/
structure Observed (α : Type) where
  outcome : Except Error (Reply α)
  calls : List (List Value)

/-- Calls a bound function that has `f` behind it. -/
def Bound.apply {α : Type} (belongs : MemberTest) (f : List Value → Except Error α) (bound : Bound)
    (args : List Value) : Observed α :=
  match bound.call belongs args with
  | .ok (.further next) => ⟨.ok (.further next), []⟩
  | .ok (.invoke all) => ⟨(f all).map .value, [all]⟩
  | .error e => ⟨.error e, []⟩

namespace Observed

variable {α : Type}

/-- The function behind is not called. The failure is that the arguments do not match, or, if one
of the types in its text has no label, the failure to write that text. -/
structure Refused (types : List Value) (o : Observed α) : Prop where
  uncalled : o.calls = []
  mismatch : (∀ t ∈ types, t.Labelled) → ∃ why, o.outcome = .error (.engine (.mismatch why))
  unwritten : (∃ t ∈ types, ¬t.Labelled) → o.outcome = .error (.limit .printing)

/-- The end of a call whose arguments the parameters do not take, one for one: they are refused, or
the test of one of them fails and its failure is that of the call. -/
inductive Declined (belongs : MemberTest) (params args types : List Value) (o : Observed α) : Prop
  | refused : Unsuited belongs params args → o.Refused types → Declined belongs params args types o
  | broken {e : Error} : BreaksOn belongs params args e → o = ⟨.error e, []⟩ →
      Declined belongs params args types o

variable {belongs : MemberTest} {params args types others : List Value} {o : Observed α}

/-- Only which types there are counts. -/
theorem Refused.of_mem_iff (h : o.Refused types) (hmem : ∀ t, t ∈ types ↔ t ∈ others) :
    o.Refused others where
  uncalled := h.uncalled
  mismatch hall := h.mismatch fun t ht => hall t ((hmem t).1 ht)
  unwritten := fun ⟨t, ht, hl⟩ => h.unwritten ⟨t, (hmem t).2 ht, hl⟩

theorem Declined.of_mem_iff (h : o.Declined belongs params args types)
    (hmem : ∀ t, t ∈ types ↔ t ∈ others) : o.Declined belongs params args others := by
  cases h with
  | refused hargs ho => exact .refused hargs (ho.of_mem_iff hmem)
  | broken hargs ho => exact .broken hargs ho

/-- It is enough to tell what becomes of refused arguments, and what of a failing test. -/
theorem Declined.of_not_suited (h : ¬List.Forall₂ (Takes belongs) params args)
    (hrefused : Unsuited belongs params args → o.Refused types)
    (hbroken : ∀ e, BreaksOn belongs params args e → o = ⟨.error e, []⟩) :
    o.Declined belongs params args types := by
  rcases suited_or_unsuited_or_breaks belongs params args with hsuited | hunsuited | ⟨e, hbreaks⟩
  · exact absurd hsuited h
  · exact .refused hunsuited (hrefused hunsuited)
  · exact .broken hbreaks (hbroken e hbreaks)

/-- A test that never fails leaves refusals only. -/
theorem Declined.refused_of_builtIn (h : o.Declined .builtIn params args types) :
    Unsuited .builtIn params args ∧ o.Refused types := by
  cases h with
  | refused hargs ho => exact ⟨hargs, ho⟩
  | broken hargs => exact absurd hargs not_breaksOn_builtIn

end Observed

def argumentCount (args : List Value) : Except Error Nat := .ok args.length

namespace Bound

variable {α : Type} (belongs : MemberTest) (f : List Value → Except Error α)

/-- A call that writes a shape to refuse its arguments. -/
theorem refused_of_writes {bound : Bound} {args types : List Value} {shown : Except Error String}
    (hw : Writes types shown) (why : String → Mismatch)
    (h : bound.call belongs args = shown >>= fun text => .error (.engine (.mismatch (why text)))) :
    (bound.apply belongs f args).Refused types := by
  cases hw with
  | text text hall =>
    rw [apply, h]
    exact ⟨rfl, fun _ => ⟨why text, rfl⟩, fun ⟨t, ht, hl⟩ => absurd (hall t ht) hl⟩
  | limit ht hl =>
    rw [apply, h]
    exact ⟨rfl, fun hall => absurd (hall _ ht) hl, fun _ => rfl⟩

variable {belongs} {s : Signature} {first args : List Value}

theorem apply_second (h : List.Forall₂ (Takes belongs) s.second args) :
    (second s first).apply belongs f args
      = ⟨(f (first ++ args)).map .value, [first ++ args]⟩ := by
  rw [apply, call, fits_of_suited h]
  rfl

theorem refused_second (h : Unsuited belongs s.second args) :
    ((second s first).apply belongs f args).Refused s.types := by
  refine refused_of_writes belongs f s.writes_render
    (fun text => .secondStage text (describe args)) ?_
  rw [call, h.fits_eq]
  rfl

theorem broken_second {e : Error} (h : BreaksOn belongs s.second args e) :
    (second s first).apply belongs f args = ⟨.error e, []⟩ := by
  rw [apply, call, h.fits_eq]
  rfl

theorem declined_second (h : ¬List.Forall₂ (Takes belongs) s.second args) :
    ((second s first).apply belongs f args).Declined belongs s.second args s.types :=
  .of_not_suited h (refused_second f) fun _ => broken_second f

end Bound

end Longhand
