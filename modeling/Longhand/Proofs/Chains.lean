import Longhand.Proofs.Calls

/-!
Series of calls. A bound function is called, then what it gave, and so on with one list of arguments
for each call (`Bound.series`). A function bound to a chain is called with one argument at a time:
every argument that its parameter takes leads to the next stage and the last one to a single call of
the function behind, and the first argument that is not taken ends the series, with its index or
with the failure of its test (`Bound.chain_served`).
-/

namespace Longhand

/-- A call gives a further function and makes no call of the function behind. -/
def Observed.Continues {α : Type} (o : Observed α) : Prop :=
  o.calls = [] ∧ ∃ next, o.outcome = .ok (.further next)

/-- The last of a series of calls, after so many that each gave a further function. -/
def EndsAfter {α : Type} (n : Nat) (series : List (Observed α)) (last : Observed α) : Prop :=
  ∃ before, series = before ++ [last] ∧ before.length = n ∧ ∀ o ∈ before, o.Continues

theorem endsAfter_singleton {α : Type} (o : Observed α) : EndsAfter 0 [o] o :=
  ⟨[], rfl, rfl, fun _ h => absurd h List.not_mem_nil⟩

/-- One list of arguments for each argument. -/
def singles (args : List Value) : List (List Value) := args.map fun a => [a]

theorem singles_cons (a : Value) (args : List Value) : singles (a :: args) = [a] :: singles args :=
  rfl

namespace Bound

variable {α : Type}

section

variable (belongs : MemberTest) (f : List Value → Except Error α)

/-- Calls a bound function, then what that call gave, and so on, each time with the next list of
arguments. A call that gives no further function ends the series. -/
def series : Bound → List (List Value) → List (Observed α)
  | _, [] => []
  | bound, args :: rest =>
    match (bound.apply belongs f args).outcome with
    | .ok (.further next) => bound.apply belongs f args :: series next rest
    | _ => [bound.apply belongs f args]

end

variable {belongs : MemberTest} (f : List Value → Except Error α)

theorem series_further {bound next : Bound} {args : List Value} {calls : List (List Value)}
    (h : bound.apply belongs f args = ⟨.ok (.further next), calls⟩) (rest : List (List Value)) :
    series belongs f bound (args :: rest)
      = ⟨.ok (.further next), calls⟩ :: series belongs f next rest := by
  rw [series, h]

theorem series_value {bound : Bound} {args all : List Value}
    (h : bound.apply belongs f args = ⟨(f all).map .value, [all]⟩) (rest : List (List Value)) :
    series belongs f bound (args :: rest) = [⟨(f all).map .value, [all]⟩] := by
  rw [series, h]
  cases f all <;> rfl

theorem series_error {bound : Bound} {args : List Value} {e : Error} {calls : List (List Value)}
    (h : bound.apply belongs f args = ⟨.error e, calls⟩) (rest : List (List Value)) :
    series belongs f bound (args :: rest) = [⟨.error e, calls⟩] := by
  rw [series, h]

/-! ### One stage -/

/-- A taken argument is collected, and the next stage waits for the next parameter. -/
theorem apply_stage_further {collected rest : List Value} {p q a : Value} (h : Takes belongs p a) :
    (stage collected p (q :: rest)).apply belongs f [a]
      = ⟨.ok (.further (.stage (collected ++ [a]) q rest)), []⟩ := by
  rw [apply, call, h.accepts_eq]
  rfl

/-- The last taken argument leads to a call of the function behind, with all arguments. -/
theorem apply_stage_last {collected : List Value} {p a : Value} (h : Takes belongs p a) :
    (stage collected p []).apply belongs f [a]
      = ⟨(f (collected ++ [a])).map .value, [collected ++ [a]]⟩ := by
  rw [apply, call, h.accepts_eq]
  rfl

/-- An argument that is refused is named by its index, with the name of the type. -/
theorem apply_stage_refused (collected rest : List Value) {p a : Value} (h : Refuses belongs p a)
    {expected : String} (hlabel : p.label = .ok expected) :
    (stage collected p rest).apply belongs f [a]
      = ⟨.error (.engine (.mismatch (.argument collected.length expected a.typeName))), []⟩ := by
  rw [apply, call, h.accepts_eq, hlabel]
  rfl

/-- A test that fails ends the call with its failure. -/
theorem apply_stage_broken (collected rest : List Value) {p a : Value} {e : Error}
    (h : Breaks belongs p a e) :
    (stage collected p rest).apply belongs f [a] = ⟨.error e, []⟩ := by
  rw [apply, call, h.accepts_eq]
  rfl

/-! ### A run through the stages -/

/-- Arguments that are taken one after another lead on to the parameter that comes after theirs. The
induction is over the taken arguments; what has been collected grows with them. -/
theorem series_taken {front args : List Value} (h : List.Forall₂ (Takes belongs) front args)
    {p q : Value} {rest qs : List Value} (hparams : q :: qs = front ++ p :: rest)
    (collected more : List Value) :
    ∃ before, before.length = args.length ∧ (∀ o ∈ before, o.Continues) ∧
      series belongs f (.stage collected q qs) (singles (args ++ more))
        = before ++ series belongs f (.stage (collected ++ args) p rest) (singles more) := by
  induction h generalizing collected q qs with
  | nil =>
    cases hparams
    refine ⟨[], rfl, by simp, ?_⟩
    rw [List.append_nil]
    rfl
  | @cons q' a front args hqa _ ih =>
    obtain ⟨rfl, rfl⟩ := List.cons.inj hparams
    obtain ⟨r, rs, hrs⟩ : ∃ r rs, front ++ p :: rest = r :: rs :=
      List.exists_cons_of_ne_nil (by simp)
    obtain ⟨before, hlength, hall, hseries⟩ := ih hrs.symm (collected ++ [a])
    show ∃ before, _ ∧ _ ∧ series belongs f (.stage collected q (front ++ p :: rest)) _ = _
    rw [hrs]
    refine ⟨⟨.ok (.further (.stage (collected ++ [a]) r rs)), []⟩ :: before, by simp [hlength],
      List.forall_mem_cons.2 ⟨⟨rfl, _, rfl⟩, hall⟩, ?_⟩
    rw [List.cons_append, singles_cons, series_further f (apply_stage_further f hqa), hseries,
      List.append_assoc]
    rfl

/-- After so many taken arguments a chain waits for the argument of the parameter in that place. -/
theorem series_reaches {p q : Value} {qs args : List Value} {i : Nat}
    (hp : (q :: qs)[i]? = some p) (hi : i ≤ args.length)
    (h : TakenInPlace belongs (q :: qs) (args.take i)) :
    ∃ before, before.length = i ∧ (∀ o ∈ before, o.Continues) ∧
      series belongs f (.stage [] q qs) (singles args)
        = before ++ series belongs f (.stage (args.take i) p ((q :: qs).drop (i + 1)))
            (singles (args.drop i)) := by
  obtain ⟨hlt, hget⟩ := List.getElem?_eq_some_iff.1 hp
  have hlength : (args.take i).length = i := List.length_take_of_le hi
  have htaken : List.Forall₂ (Takes belongs) ((q :: qs).take i) (args.take i) := by
    have htake := forall₂_takes_take_iff.2 ⟨by rw [hlength]; exact Nat.le_of_lt hlt, h⟩
    rwa [hlength] at htake
  have hparams : q :: qs = (q :: qs).take i ++ p :: (q :: qs).drop (i + 1) := by
    rw [← hget, ← List.drop_eq_getElem_cons hlt, List.take_append_drop]
  obtain ⟨before, hbefore, hall, hseries⟩ := series_taken f htaken hparams [] (args.drop i)
  rw [List.take_append_drop, List.nil_append] at hseries
  exact ⟨before, hbefore.trans hlength, hall, hseries⟩

/-- If all arguments are taken and there are parameters left, every call gives a further
function. -/
theorem series_unfinished {q : Value} {qs args : List Value}
    (h : TakenInPlace belongs (q :: qs) args) (hlt : args.length < (q :: qs).length) :
    (series belongs f (.stage [] q qs) (singles args)).length = args.length ∧
      ∀ o ∈ series belongs f (.stage [] q qs) (singles args), o.Continues := by
  obtain ⟨before, hlength, hall, hseries⟩ :=
    series_reaches f (List.getElem?_eq_getElem hlt) (Nat.le_refl _) (h.take _)
  rw [List.drop_length] at hseries
  have hnil : singles [] = [] := rfl
  rw [hnil, series, List.append_nil] at hseries
  rw [hseries]
  exact ⟨hlength, hall⟩

/-- If all arguments are taken and there is one for each parameter, the last call makes the one call
of the function behind. -/
theorem series_served {q : Value} {qs args : List Value} (h : TakenInPlace belongs (q :: qs) args)
    (hlength : args.length = (q :: qs).length) :
    EndsAfter qs.length (series belongs f (.stage [] q qs) (singles args))
      ⟨(f args).map .value, [args]⟩ := by
  have hlt : qs.length < (q :: qs).length := Nat.lt_succ_self _
  have hlt' : qs.length < args.length := hlength ▸ hlt
  have hlast : args.drop qs.length = [args[qs.length]] := by
    have hnil : args.drop (qs.length + 1) = [] := List.drop_eq_nil_of_le (Nat.le_of_eq hlength)
    rw [List.drop_eq_getElem_cons hlt', hnil]
  have hnone : (q :: qs).drop (qs.length + 1) = [] := List.drop_length
  have htaken : Takes belongs (q :: qs)[qs.length] args[qs.length] :=
    h _ _ _ (List.getElem?_eq_getElem hlt) (List.getElem?_eq_getElem hlt')
  obtain ⟨before, hbefore, hall, hseries⟩ :=
    series_reaches f (List.getElem?_eq_getElem hlt) (Nat.le_of_lt hlt') (h.take _)
  refine ⟨before, ?_, hbefore, hall⟩
  rw [hseries, hnone, hlast, singles_cons, series_value f (apply_stage_last f htaken),
    ← hlast, List.take_append_drop]

/-- A series ends in the place before which all arguments are taken, if that stage fails. -/
theorem series_failed {q p a : Value} {qs args : List Value} {i : Nat} {e : Error}
    (h : TakenBefore belongs (q :: qs) args i p a)
    (hstage : (stage (args.take i) p ((q :: qs).drop (i + 1))).apply belongs f [a]
      = ⟨.error e, []⟩) :
    EndsAfter i (series belongs f (.stage [] q qs) (singles args)) ⟨.error e, []⟩ := by
  obtain ⟨hlt, hget⟩ := List.getElem?_eq_some_iff.1 h.arg
  obtain ⟨before, hbefore, hall, hseries⟩ :=
    series_reaches f h.param (Nat.le_of_lt hlt) h.before
  refine ⟨before, ?_, hbefore, hall⟩
  rw [hseries, List.drop_eq_getElem_cons hlt, hget, singles_cons, series_error f hstage]

/-- The first argument that is not taken is refused by its index, and nothing is called after it. -/
theorem series_refused {q p a : Value} {qs args : List Value} {i : Nat}
    (h : TakenBefore belongs (q :: qs) args i p a) (hp : Refuses belongs p a) {expected : String}
    (hlabel : p.label = .ok expected) :
    EndsAfter i (series belongs f (.stage [] q qs) (singles args))
      ⟨.error (.engine (.mismatch (.argument i expected a.typeName))), []⟩ := by
  have hlt := (List.getElem?_eq_some_iff.1 h.arg).1
  have hrefused := apply_stage_refused f (args.take i) ((q :: qs).drop (i + 1)) hp hlabel
  rw [List.length_take_of_le (Nat.le_of_lt hlt)] at hrefused
  exact series_failed f h hrefused

/-- The first argument that is not taken ends the series with the failure of its test. -/
theorem series_broken {q p a : Value} {qs args : List Value} {i : Nat} {e : Error}
    (h : TakenBefore belongs (q :: qs) args i p a) (hp : Breaks belongs p a e) :
    EndsAfter i (series belongs f (.stage [] q qs) (singles args)) ⟨.error e, []⟩ :=
  series_failed f h (apply_stage_broken f _ _ hp)

/-- A function bound to the chain of a parameter list, called with one argument at a time and with
at most one for each parameter. If all arguments are taken, each call before that for the last
parameter gives a further function, and that one makes a single call of the function behind, with
all arguments in order. If not, all calls before that with the first argument that is not taken give
further functions, and the function behind is not called. The argument is refused by its index,
unless its test fails and the call ends with that failure. Without parameters the function itself is
bound. -/
theorem chain_served (params : List Value) (result : Value) :
    ∃ curried, (fullCurry params result).outcome = .ok curried ∧
      (params = [] → ofParams curried.params = .direct) ∧
      (params ≠ [] → ∀ args : List Value, args.length ≤ params.length →
        (TakenInPlace belongs params args →
          (args.length < params.length →
            (series belongs f (ofParams curried.params) (singles args)).length = args.length ∧
            ∀ o ∈ series belongs f (ofParams curried.params) (singles args), o.Continues) ∧
          (args.length = params.length →
            EndsAfter (params.length - 1)
              (series belongs f (ofParams curried.params) (singles args))
              ⟨(f args).map .value, [args]⟩)) ∧
        (¬TakenInPlace belongs params args →
          ∃ i p a, TakenBefore belongs params args i p a ∧
            ((Refuses belongs p a ∧ ∃ expected, p.label = .ok expected ∧
              EndsAfter i (series belongs f (ofParams curried.params) (singles args))
                ⟨.error (.engine (.mismatch (.argument i expected a.typeName))), []⟩) ∨
            ∃ e, Breaks belongs p a e ∧
              EndsAfter i (series belongs f (ofParams curried.params) (singles args))
                ⟨.error e, []⟩))) := by
  cases params with
  | nil => exact ⟨_, rfl, fun _ => rfl, fun h => absurd rfl h⟩
  | cons q qs =>
    refine ⟨_, rfl, nofun, fun _ args _ => ⟨fun h => ?_, fun h => ?_⟩⟩
    · exact ⟨series_unfinished f h, series_served f h⟩
    · obtain ⟨i, p, a, hbefore, hnot⟩ := exists_takenBefore h
      refine ⟨i, p, a, hbefore, ?_⟩
      rcases takes_or_refuses_or_breaks belongs p a with ht | hr | ⟨e, hb⟩
      · exact absurd ht hnot
      · obtain ⟨expected, hlabel⟩ := hr.exists_label
        exact .inl ⟨hr, expected, hlabel, series_refused f hbefore hr hlabel⟩
      · exact .inr ⟨e, hb, series_broken f hbefore hb⟩

/-- A test for members that fails for every class but those that are built in. -/
def failingTest (e : Error) : MemberTest
  | .defined _, _ => .error e
  | c, v => .ok (v.isA c)

/-- A class of mappings with given fields cannot be tested for its members. The argument is neither
taken nor refused. -/
theorem chain_served_broken :
    let movie : Value := .type (.defined { home := "", name := "Movie" })
    let e : Error := .raised "TypeError" "TypedDict does not support instance and class checks"
    ∃ curried, (fullCurry [movie] (.type .str)).outcome = .ok curried ∧
      EndsAfter 0 (series (failingTest e) argumentCount (ofParams curried.params)
        (singles [.dict [("title", .str "x")]])) ⟨.error e, []⟩ := by
  intro movie e
  obtain ⟨curried, hrun, -, hcalls⟩ :=
    @chain_served _ (failingTest e) argumentCount [movie] (.type .str)
  refine ⟨curried, hrun, ?_⟩
  have hbroken : accepts (failingTest e) movie (.dict [("title", .str "x")]) = .error e := rfl
  have hnot : ¬TakenInPlace (failingTest e) [movie] [.dict [("title", .str "x")]] := fun h =>
    nomatch hbroken.symm.trans (h 0 _ _ rfl rfl).accepts_eq
  obtain ⟨i, p, a, hbefore, hend⟩ :=
    (hcalls (List.cons_ne_nil _ _) [.dict [("title", .str "x")]] (Nat.le_refl 1)).2 hnot
  obtain ⟨hi, rfl⟩ := List.getElem?_eq_some_iff.1 hbefore.param
  obtain rfl : i = 0 := Nat.lt_one_iff.1 hi
  obtain rfl := Option.some.inj hbefore.arg
  rcases hend with ⟨hr, -⟩ | ⟨d, hb, hend⟩
  · exact nomatch hbroken.symm.trans hr.accepts_eq
  · obtain rfl := Except.error.inj (hbroken.symm.trans hb.accepts_eq)
    exact hend

-- An integer passes for a floating-point number, and a name takes everything.
example :
    (series .builtIn (fun args => .ok args.length) (ofParams [.type .float, .str "T", .type .int])
      (singles [.int 1, .null, .str "x"]))[2]?
      = some ⟨.error (.engine (.mismatch (.argument 2 "int" "str"))), []⟩ := rfl

end Bound

end Longhand
