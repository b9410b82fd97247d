import Longhand.Function
import Longhand.Proofs.Chains
import Longhand.Proofs.Selection

/-!
Functions bound to the curried forms of their own shape. The shape has a type for each parameter
(`Function.length_params_shape`). Called in two parts, cut anywhere, or with one argument at a time,
a function serves the same arguments: those that the types of the shape take, one for one
(`Function.curry_agree`).
-/

namespace Longhand

namespace Observed.Refused

variable {α : Type} {types : List Value} {o : Observed α}

/-- A refused call fails and makes no call of the function behind. -/
theorem exists_eq (h : o.Refused types) : ∃ e, o = ⟨.error e, []⟩ := by
  obtain ⟨outcome, calls⟩ := o
  obtain rfl : calls = [] := h.uncalled
  by_cases hall : ∀ t ∈ types, t.Labelled
  · obtain ⟨why, hwhy⟩ := h.mismatch hall
    obtain rfl : outcome = .error (.engine (.mismatch why)) := hwhy
    exact ⟨_, rfl⟩
  · have hsome : ∃ t ∈ types, ¬t.Labelled := by
      simpa only [not_forall, exists_prop] using hall
    obtain rfl : outcome = .error (.limit .printing) := h.unwritten hsome
    exact ⟨_, rfl⟩

/-- A mismatch that is told without writing any type. -/
theorem of_mismatch (why : Mismatch) :
    (⟨.error (.engine (.mismatch why)), []⟩ : Observed α).Refused [] where
  uncalled := rfl
  mismatch _ := ⟨why, rfl⟩
  unwritten := by
    rintro ⟨t, ht, -⟩
    exact absurd ht List.not_mem_nil

end Observed.Refused

/-! ### Arguments in two parts -/

section

variable {belongs : MemberTest} {params args : List Value}

/-- The place before which all arguments are taken lies in one of two parts of them. -/
theorem TakenBefore.cut {i : Nat} {p a : Value} (h : TakenBefore belongs params args i p a)
    (k : Nat) :
    TakenBefore belongs (params.take k) (args.take k) i p a ∨
      TakenInPlace belongs params (args.take k) ∧
        TakenBefore belongs (params.drop k) (args.drop k) (i - k) p a := by
  by_cases hik : i < k
  · refine .inl ⟨(List.getElem?_take_of_lt hik).trans h.param,
      (List.getElem?_take_of_lt hik).trans h.arg, fun j q b hq hb => ?_⟩
    rw [List.take_take, Nat.min_eq_left (Nat.le_of_lt hik)] at hb
    rw [List.getElem?_take] at hq
    split at hq
    · exact h.before j q b hq hb
    · cases hq
  · obtain ⟨m, rfl⟩ := Nat.exists_eq_add_of_le (Nat.not_lt.1 hik)
    have htaken := h.before.take k
    rw [List.take_take, Nat.min_eq_left (Nat.le_add_right k m)] at htaken
    rw [Nat.add_sub_cancel_left]
    refine .inr ⟨htaken, List.getElem?_drop.trans h.param, List.getElem?_drop.trans h.arg,
      fun j q b hq hb => ?_⟩
    rw [List.getElem?_drop] at hq
    have hdrop : (args.drop k).take m = (args.take (k + m)).drop k := by
      rw [List.drop_take, Nat.add_sub_cancel_left]
    rw [hdrop, List.getElem?_drop] at hb
    exact h.before (k + j) q b hq hb

theorem Unsuited.cut (hlength : params.length = args.length) (h : Unsuited belongs params args)
    (k : Nat) :
    Unsuited belongs (params.take k) (args.take k) ∨
      TakenInPlace belongs params (args.take k) ∧
        Unsuited belongs (params.drop k) (args.drop k) := by
  obtain ⟨i, p, a, hbefore, hrefuses⟩ := h.resolve_left fun hne => hne hlength
  rcases hbefore.cut k with hfirst | ⟨htaken, hsecond⟩
  · exact .inl (.inr ⟨i, p, a, hfirst, hrefuses⟩)
  · exact .inr ⟨htaken, .inr ⟨i - k, p, a, hsecond, hrefuses⟩⟩

theorem BreaksOn.cut {e : Error} (h : BreaksOn belongs params args e) (k : Nat) :
    BreaksOn belongs (params.take k) (args.take k) e ∨
      TakenInPlace belongs params (args.take k) ∧
        BreaksOn belongs (params.drop k) (args.drop k) e := by
  obtain ⟨hlength, i, p, a, hbefore, hbreaks⟩ := h
  rcases hbefore.cut k with hfirst | ⟨htaken, hsecond⟩
  · exact .inl ⟨by rw [List.length_take, List.length_take, hlength], i, p, a, hfirst, hbreaks⟩
  · exact .inr ⟨htaken, by rw [List.length_drop, List.length_drop, hlength],
      i - k, p, a, hsecond, hbreaks⟩

end

namespace Bound

variable {α : Type} {belongs : MemberTest} (f : List Value → Except Error α)

/-- A call that fails ends a series. -/
theorem endsAfter_error {bound : Bound} {args : List Value} {e : Error}
    (h : bound.apply belongs f args = ⟨.error e, []⟩) (rest : List (List Value)) :
    EndsAfter 0 (series belongs f bound (args :: rest)) ⟨.error e, []⟩ := by
  rw [series_error f h rest]
  exact endsAfter_singleton _

/-- A refused call ends a series. -/
theorem endsAfter_refused {bound : Bound} {args : List Value} {types : List Value}
    (h : (bound.apply belongs f args).Refused types) (rest : List (List Value)) :
    EndsAfter 0 (series belongs f bound (args :: rest)) (bound.apply belongs f args) := by
  obtain ⟨e, he⟩ := h.exists_eq
  rw [he]
  exact endsAfter_error f he rest

/-- A call that gives a further function is followed by the calls of that one. -/
theorem endsAfter_further {bound next : Bound} {args : List Value} {rest : List (List Value)}
    {n : Nat} {last : Observed α} (h : bound.apply belongs f args = ⟨.ok (.further next), []⟩)
    (hrest : EndsAfter n (series belongs f next rest) last) :
    EndsAfter (n + 1) (series belongs f bound (args :: rest)) last := by
  obtain ⟨before, hseries, hlength, hall⟩ := hrest
  rw [series_further f h, hseries]
  exact ⟨⟨.ok (.further next), []⟩ :: before, rfl, by simp [hlength],
    List.forall_mem_cons.2 ⟨⟨rfl, next, rfl⟩, hall⟩⟩

section Cuts

variable {params : List Value} {result : Value} {shape : Overloads}
  (hshape : shape.signatures = (List.range (params.length + 1)).map (cut params result))

include hshape

/-- Arguments that the parameters take are served in two parts, wherever they are cut. -/
theorem series_cut_served (hne : params ≠ []) {args : List Value}
    (h : List.Forall₂ (Takes belongs) params args) {k : Nat} (hk : k ≤ args.length) :
    EndsAfter 1 (series belongs f (ofOverloads shape) [args.take k, args.drop k])
      ⟨(f args).map .value, [args]⟩ := by
  obtain ⟨hlength, hplace⟩ := forall₂_takes_iff.1 h
  have hx : (args.take k).length = k := List.length_take_of_le hk
  have hle : (args.take k).length ≤ params.length := by omega
  have hsecond : List.Forall₂ (Takes belongs) (cut params result (args.take k).length).second
      (args.drop k) := by
    rw [hx]
    exact List.forall₂_drop k h
  have hserved : (second (cut params result (args.take k).length) (args.take k)).apply belongs f
      (args.drop k) = ⟨(f args).map .value, [args]⟩ := by
    rw [apply_second f hsecond, List.take_append_drop]
  rw [ofOverloads_of_arity (exists_arity_ne_zero hshape hne)]
  refine endsAfter_further f (apply_choice f (chooses_cut hshape hle (hplace.take k))) ?_
  rw [series_value f hserved]
  exact endsAfter_singleton _

/-- Arguments that are refused are refused in one of two parts, wherever they are cut. -/
theorem series_cut_refused (hne : params ≠ []) {args : List Value}
    (hlength : params.length = args.length) (h : Unsuited belongs params args) {k : Nat}
    (hk : k ≤ args.length) :
    ∃ n last, EndsAfter n (series belongs f (ofOverloads shape) [args.take k, args.drop k]) last ∧
      last.Refused (result :: params) := by
  have hx : (args.take k).length = k := List.length_take_of_le hk
  rw [ofOverloads_of_arity (exists_arity_ne_zero hshape hne)]
  rcases h.cut hlength k with hfirst | ⟨htaken, hsecond⟩
  · have hrefused := refused_cut f hshape (by rwa [hx])
    exact ⟨0, _, endsAfter_refused f hrefused _, hrefused⟩
  · have hle : (args.take k).length ≤ params.length := by omega
    have hrefused : ((second (cut params result (args.take k).length) (args.take k)).apply belongs f
        (args.drop k)).Refused _ := refused_second f (by rw [hx]; exact hsecond)
    exact ⟨1, _, endsAfter_further f (apply_choice f (chooses_cut hshape hle htaken))
      (endsAfter_refused f hrefused []), hrefused.of_mem_iff fun _ => mem_types_cut⟩

/-- A test that fails ends the calls in two parts, wherever they are cut. -/
theorem series_cut_broken (hne : params ≠ []) {args : List Value} {e : Error}
    (h : BreaksOn belongs params args e) {k : Nat} (hk : k ≤ args.length) :
    ∃ n, EndsAfter n (series belongs f (ofOverloads shape) [args.take k, args.drop k])
      ⟨.error e, []⟩ := by
  have hlength := h.1
  have hx : (args.take k).length = k := List.length_take_of_le hk
  rw [ofOverloads_of_arity (exists_arity_ne_zero hshape hne)]
  rcases h.cut k with hfirst | ⟨htaken, hsecond⟩
  · exact ⟨0, endsAfter_error f (broken_cut f hshape (by rwa [hx])) _⟩
  · have hle : (args.take k).length ≤ params.length := by omega
    have hbroken : (second (cut params result (args.take k).length) (args.take k)).apply belongs f
        (args.drop k) = ⟨.error e, []⟩ := broken_second f (by rw [hx]; exact hsecond)
    exact ⟨1, endsAfter_further f (apply_choice f (chooses_cut hshape hle htaken))
      (endsAfter_error f hbroken [])⟩

end Cuts

end Bound

namespace Function

variable {resolve : Resolver} {f : Function} {s : Shape}

/-- A shape has a type for each parameter. -/
theorem length_params_shape (h : f.shape resolve = .ok s) :
    s.params.length = f.params.length := by
  obtain ⟨hints, hhints, h⟩ := exists_of_bind_ok h
  obtain ⟨params, hparams, h⟩ := exists_of_bind_ok h
  cases h
  have hlength := bind_length_mapM (fun p : Parameter => do p.check; return f.typeOf hints p.name)
    f.params (pure : Nat → Except Error Nat)
  rw [hparams] at hlength
  exact Except.ok.inj hlength

theorem curry_inTwo (h : f.shape resolve = .ok s) :
    ∃ shape, (partialCurry s.params s.result).outcome = .ok shape ∧
      (f.curry resolve true).outcome = .ok (.ofOverloads shape) := by
  refine ⟨_, rfl, ?_⟩
  rw [curry, h]
  rfl

theorem curry_byOne (h : f.shape resolve = .ok s) :
    (f.curry resolve false).outcome = .ok (.ofParams s.params) := by
  obtain ⟨params, result⟩ := s
  rw [curry, h]
  cases params <;> rfl

/-- A function with a shape and at least one parameter, bound to both curried forms of the shape,
and called with one argument for each parameter: in two parts, cut anywhere, and one at a time. What
stands behind may do anything with its arguments. If the types of the shape take the arguments, one
for one, then either way of calling it makes a single call behind, with all arguments, and comes to
what that call came to. If they do not, neither way makes a call behind, and the first argument that
is not taken decides how both end. If it is refused, both end in a refusal; that of a call in two
parts cannot be written if a type of the shape has no label, that of a call with one argument always
can. If its test fails, both end with that failure. -/
theorem curry_agree {α : Type} (belongs : MemberTest) (behind : List Value → Except Error α)
    (hs : f.shape resolve = .ok s) (hne : f.params ≠ []) :
    s.params.length = f.params.length ∧
    ∃ inTwo byOne, (f.curry resolve true).outcome = .ok inTwo ∧
      (f.curry resolve false).outcome = .ok byOne ∧
      ∀ args : List Value, args.length = f.params.length → ∀ k ≤ args.length,
        (List.Forall₂ (Takes belongs) s.params args →
          EndsAfter 1 (Bound.series belongs behind inTwo [args.take k, args.drop k])
            ⟨(behind args).map .value, [args]⟩ ∧
          EndsAfter (f.params.length - 1) (Bound.series belongs behind byOne (singles args))
            ⟨(behind args).map .value, [args]⟩) ∧
        (¬List.Forall₂ (Takes belongs) s.params args →
          (Unsuited belongs s.params args ∧
            (∃ n last, EndsAfter n
                (Bound.series belongs behind inTwo [args.take k, args.drop k]) last ∧
              last.Refused (s.result :: s.params)) ∧
            ∃ n last, EndsAfter n (Bound.series belongs behind byOne (singles args)) last ∧
              last.Refused []) ∨
          ∃ e, BreaksOn belongs s.params args e ∧
            (∃ n, EndsAfter n (Bound.series belongs behind inTwo [args.take k, args.drop k])
              ⟨.error e, []⟩) ∧
            ∃ n, EndsAfter n (Bound.series belongs behind byOne (singles args))
              ⟨.error e, []⟩) := by
  have hparams := length_params_shape hs
  have hne' : s.params ≠ [] := by
    rw [← List.length_pos_iff, hparams]
    exact List.length_pos_iff.2 hne
  obtain ⟨shape, hshape, hinTwo⟩ := curry_inTwo hs
  have hcuts := Bound.signatures_partialCurry hshape
  refine ⟨hparams, _, _, hinTwo, curry_byOne hs, fun args hargs k hk => ?_⟩
  rw [← hparams] at hargs ⊢
  obtain ⟨q, qs, hq⟩ := List.exists_cons_of_ne_nil hne'
  refine ⟨fun h => ?_, fun h => ?_⟩
  · refine ⟨Bound.series_cut_served behind hcuts hne' h hk, ?_⟩
    have hplace := (forall₂_takes_iff.1 h).2
    rw [hq] at hplace hargs ⊢
    exact Bound.series_served behind hplace hargs
  · rcases suited_or_unsuited_or_breaks belongs s.params args with
      hsuited | hunsuited | ⟨e, hbreaks⟩
    · exact absurd hsuited h
    · have hinTwo := Bound.series_cut_refused behind hcuts hne' hargs.symm hunsuited hk
      refine .inl ⟨hunsuited, hinTwo, ?_⟩
      obtain ⟨i, p, a, hbefore, hrefuses⟩ := hunsuited.resolve_left fun hne => hne hargs.symm
      obtain ⟨expected, hlabel⟩ := hrefuses.exists_label
      rw [hq] at hbefore ⊢
      exact ⟨i, _, Bound.series_refused behind hbefore hrefuses hlabel, .of_mismatch _⟩
    · refine .inr ⟨e, hbreaks, Bound.series_cut_broken behind hcuts hne' hbreaks hk, ?_⟩
      obtain ⟨-, i, p, a, hbefore, hfails⟩ := hbreaks
      rw [hq] at hbefore ⊢
      exact ⟨i, Bound.series_broken behind hbefore hfails⟩

/-- Annotations stand for themselves, as they do if there are no texts among them. -/
def asTheyStand : Resolver := fun f => .ok f.annotations

/-- A function of one integer, with an integer beyond the conversion limit for its result. -/
def unwritable : Function where
  params := [{ name := "x" }]
  annotations := [("x", .type .int), ("return", .int (tenPow digitLimit))]

theorem shape_unwritable :
    unwritable.shape asTheyStand = .ok ⟨[.type .int], .int (tenPow digitLimit)⟩ := rfl

/-- An integer is served either way, cut before or after it. A text is refused either way, but in
two parts the refusal cannot be written. -/
theorem curry_agree_unwritten :
    unwritable.shape asTheyStand = .ok ⟨[.type .int], .int (tenPow digitLimit)⟩ ∧
    unwritable.params ≠ [] ∧
    ∃ inTwo byOne, (unwritable.curry asTheyStand true).outcome = .ok inTwo ∧
      (unwritable.curry asTheyStand false).outcome = .ok byOne ∧
      EndsAfter 1 (Bound.series .builtIn argumentCount inTwo [[], [.int 1]])
        ⟨.ok (.value 1), [[.int 1]]⟩ ∧
      EndsAfter 0 (Bound.series .builtIn argumentCount byOne [[.int 1]])
        ⟨.ok (.value 1), [[.int 1]]⟩ ∧
      (∃ n last, EndsAfter n (Bound.series .builtIn argumentCount inTwo [[.str "x"], []]) last ∧
        last.outcome = .error (.limit .printing)) ∧
      ∃ n last why, EndsAfter n (Bound.series .builtIn argumentCount byOne [[.str "x"]]) last ∧
        last.outcome = .error (.engine (.mismatch why)) := by
  have hne : unwritable.params ≠ [] := List.cons_ne_nil _ _
  obtain ⟨-, inTwo, byOne, hinTwo, hbyOne, hcalls⟩ :=
    curry_agree .builtIn argumentCount shape_unwritable hne
  have hint : List.Forall₂ (Takes .builtIn) [.type .int] [.int 1] := .cons (takes_iff.2 rfl) .nil
  have hstr : ¬List.Forall₂ (Takes .builtIn) [.type .int] [.str "x"] := fun h => by
    cases takes_iff.1 (List.forall₂_cons.1 h).1
  have hserved := (hcalls [.int 1] rfl 0 (Nat.zero_le _)).1 hint
  obtain ⟨-, ⟨n, last, hlast, hrefused⟩, m, last', hlast', hrefused'⟩ | ⟨e, hbreaks, -⟩ :=
    (hcalls [.str "x"] rfl 1 (Nat.le_refl _)).2 hstr
  · obtain ⟨why, hwhy⟩ := hrefused'.mismatch (by simp)
    refine ⟨shape_unwritable, hne, inTwo, byOne, hinTwo, hbyOne, hserved.1, hserved.2,
      ⟨n, last, hlast, ?_⟩, m, last', why, hlast', hwhy⟩
    exact hrefused.unwritten ⟨_, List.mem_cons_self, Value.not_labelled_of_le (Nat.le_refl _)⟩
  · exact absurd hbreaks not_breaksOn_builtIn

end Function

end Longhand
