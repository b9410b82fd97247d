import Longhand.Proofs.Calls

/-!
Functions bound to a choice of two-stage calls. The first call commits to the first signature
whose first stage takes its arguments (`Overloads.Chooses`), unless a test fails on the way to it,
and the second call has the second stage of that signature only. So a signature is served unless an
earlier one takes the same first arguments and does not take the second ones
(`Bound.overload_served`). In the choice of all cuts of a parameter list no two signatures compete
(`Bound.unsuited_of_ne_cut`), and calls may be cut anywhere (`Bound.cut_served`).
-/

namespace Longhand

/-- A signature of a choice whose first stage takes the arguments, while those before refuse
them. -/
def Overloads.Chooses (belongs : MemberTest) (o : Overloads) (args : List Value) (s : Signature) :
    Prop :=
  Reached (fun t => Unsuited belongs t.first args) o.signatures s ∧
    List.Forall₂ (Takes belongs) s.first args

theorem Signature.mem_types {s : Signature} {t : Value} :
    t ∈ s.types ↔ t ∈ s.first ++ s.second ∨ t = s.result := by
  rw [types, ← List.append_assoc, List.mem_append, List.mem_singleton]

namespace Bound

section

variable {belongs : MemberTest} {shape : Overloads} {args : List Value} {s : Signature}

/-- That the numbers agree is part of that the arguments fit. -/
theorem select_eq_findM? (belongs : MemberTest) (shape : Overloads) (args : List Value) :
    select belongs shape args = shape.signatures.findM? fun s => fits belongs s.first args := by
  refine findM?_filter (fun s hs => ?_) _
  exact Unsuited.fits_eq (.inl fun hlength => of_decide_eq_false hs (congrArg Int.ofNat hlength))

/-- The choice comes to a signature before which all refuse the arguments. -/
theorem select_of_reached
    (h : Reached (fun t => Unsuited belongs t.first args) shape.signatures s) :
    ∃ rest, select belongs shape args
      = fits belongs s.first args >>= fun b => if b then .ok (some s) else rest := by
  obtain ⟨before, after, hsigs, hbefore⟩ := h
  refine ⟨after.findM? fun s => fits belongs s.first args, ?_⟩
  rw [select_eq_findM?, hsigs, findM?_append_of_no fun t ht => (hbefore t ht).fits_eq, List.findM?]
  refine bind_congr fun b => ?_
  cases b <;> rfl

theorem select_of_unsuited (h : ∀ s ∈ shape.signatures, Unsuited belongs s.first args) :
    select belongs shape args = .ok none := by
  have happend := findM?_append_of_no (fun s hs => (h s hs).fits_eq) []
  rw [List.append_nil] at happend
  rw [select_eq_findM?, happend]
  rfl

theorem select_of_chooses (h : shape.Chooses belongs args s) :
    select belongs shape args = .ok (some s) := by
  obtain ⟨rest, hrest⟩ := select_of_reached h.1
  rw [hrest, fits_of_suited h.2]
  rfl

end

section

variable {α : Type} {belongs : MemberTest} (f : List Value → Except Error α) {shape : Overloads}
  {args : List Value} {s : Signature} {e : Error}

theorem apply_choice (h : shape.Chooses belongs args s) :
    (choice shape).apply belongs f args = ⟨.ok (.further (.second s args)), []⟩ := by
  rw [apply, call, select_of_chooses h]
  rfl

theorem refused_choice (h : ∀ s ∈ shape.signatures, Unsuited belongs s.first args) :
    ((choice shape).apply belongs f args).Refused shape.types := by
  refine refused_of_writes belongs f shape.writes_render
    (fun text => .noOverload text (describe args)) ?_
  rw [call, select_of_unsuited h]
  rfl

theorem broken_choice (h : Reached (fun t => Unsuited belongs t.first args) shape.signatures s)
    (hs : BreaksOn belongs s.first args e) :
    (choice shape).apply belongs f args = ⟨.error e, []⟩ := by
  obtain ⟨rest, hrest⟩ := select_of_reached h
  rw [apply, call, hrest, hs.fits_eq]
  rfl

end

/-- A choice that takes any arguments at all waits for them. -/
theorem ofOverloads_of_arity {shape : Overloads} (h : ∃ s ∈ shape.signatures, s.arity ≠ 0) :
    ofOverloads shape = .choice shape := by
  refine if_neg fun hall => ?_
  obtain ⟨s, hs, hne⟩ := h
  exact hne (of_decide_eq_true (List.all_eq_true.1 hall s hs))

variable {α : Type} {belongs : MemberTest} (f : List Value → Except Error α)

/-- A function bound to a choice of two-stage calls, of which at least one takes arguments. Let one
of its signatures take some arguments in its two stages. The first call commits to the first
signature of the choice whose first stage takes the arguments, unless the test of a signature before
that one fails, which ends the call with that failure. If the second stage of the signature that was
committed to takes the other arguments, the second call hands all of them to the function behind, in
one call; if not, it does not call the function behind, although the choice has a signature for the
arguments. No signature is lost unless one before it takes the same first arguments and not the
second ones, or cannot be tested for the first ones. -/
theorem overload_served {shape : Overloads} (hshape : ∃ s ∈ shape.signatures, s.arity ≠ 0)
    {before after : List Signature} {sig : Signature}
    (hsig : shape.signatures = before ++ sig :: after) {x y : List Value}
    (hx : List.Forall₂ (Takes belongs) sig.first x)
    (hy : List.Forall₂ (Takes belongs) sig.second y) :
    (∃ t ∈ before, ∃ e, Reached (fun t => Unsuited belongs t.first x) shape.signatures t ∧
      BreaksOn belongs t.first x e ∧ (ofOverloads shape).apply belongs f x = ⟨.error e, []⟩) ∨
    ∃ s next, shape.Chooses belongs x s ∧
      (ofOverloads shape).apply belongs f x = ⟨.ok (.further next), []⟩ ∧
      (List.Forall₂ (Takes belongs) s.second y →
        next.apply belongs f y = ⟨(f (x ++ y)).map .value, [x ++ y]⟩) ∧
      (¬List.Forall₂ (Takes belongs) s.second y →
        (next.apply belongs f y).Declined belongs s.second y s.types) ∧
      ((∀ t ∈ before, List.Forall₂ (Takes belongs) t.first x →
        List.Forall₂ (Takes belongs) t.second y) → List.Forall₂ (Takes belongs) s.second y) := by
  rw [ofOverloads_of_arity hshape]
  rcases reached_or_forall (fun t => Unsuited belongs t.first x) before with
    ⟨t, ⟨front, back, rfl, hfront⟩, hnot⟩ | hall
  · -- an earlier signature does not refuse the first arguments
    have ht : t ∈ front ++ t :: back := List.mem_append_right front List.mem_cons_self
    have hreached : Reached (fun t => Unsuited belongs t.first x) shape.signatures t :=
      ⟨front, back ++ sig :: after, by rw [hsig, List.append_assoc, List.cons_append], hfront⟩
    rcases suited_or_unsuited_or_breaks belongs t.first x with hsuited | hunsuited | ⟨e, hbreaks⟩
    · exact .inr ⟨t, .second t x, ⟨hreached, hsuited⟩, apply_choice f ⟨hreached, hsuited⟩,
        apply_second f, declined_second f, fun hbefore => hbefore t ht hsuited⟩
    · exact absurd hunsuited hnot
    · exact .inl ⟨t, ht, e, hreached, hbreaks, broken_choice f hreached hbreaks⟩
  · have hchooses : shape.Chooses belongs x sig := ⟨⟨before, after, hsig, hall⟩, hx⟩
    exact .inr ⟨sig, .second sig x, hchooses, apply_choice f hchooses, apply_second f,
      declined_second f, fun _ => hy⟩

/-- Two signatures that differ in their second stage only. -/
def rivals : Overloads where
  signatures :=
    [⟨[.type .int], [.type .str], .type .list⟩, ⟨[.type .int], [.type .int], .type .list⟩]
  nonempty := nofun

/-- Of two rivals the earlier one is served. The arguments of the other one are refused, although
it takes them in both stages. -/
theorem overload_served_earlier :
    (∃ s ∈ rivals.signatures, s.arity ≠ 0) ∧
    List.Forall₂ (Takes .builtIn) [.type .int] [.int 1] ∧
    List.Forall₂ (Takes .builtIn) [.type .str] [.str "a"] ∧
    (∃ next, (ofOverloads rivals).apply .builtIn argumentCount [.int 1]
        = ⟨.ok (.further next), []⟩ ∧
      next.apply .builtIn argumentCount [.str "a"] = ⟨.ok (.value 2), [[.int 1, .str "a"]]⟩) ∧
    List.Forall₂ (Takes .builtIn) [.type .int] [.int 2] ∧
    ∃ next why, (ofOverloads rivals).apply .builtIn argumentCount [.int 1]
        = ⟨.ok (.further next), []⟩ ∧
      (next.apply .builtIn argumentCount [.int 2]).outcome = .error (.engine (.mismatch why)) ∧
      (next.apply .builtIn argumentCount [.int 2]).calls = [] := by
  have hshape : ∃ s ∈ rivals.signatures, s.arity ≠ 0 := ⟨_, List.mem_cons_self, by decide⟩
  have hx : List.Forall₂ (Takes .builtIn) [.type .int] [.int 1] := .cons (takes_iff.2 rfl) .nil
  have hy : List.Forall₂ (Takes .builtIn) [.type .str] [.str "a"] := .cons (takes_iff.2 rfl) .nil
  have hy' : List.Forall₂ (Takes .builtIn) [.type .int] [.int 2] := .cons (takes_iff.2 rfl) .nil
  have hnot : ¬List.Forall₂ (Takes .builtIn) [.type .str] [.int 2] := fun h => by
    cases takes_iff.1 (List.forall₂_cons.1 h).1
  have hearlier : rivals.signatures = [] ++ _ :: _ := rfl
  have hlater : rivals.signatures = [_] ++ _ :: [] := rfl
  have hfirst : ∀ {s}, rivals.Chooses .builtIn [.int 1] s →
      s = ⟨[.type .int], [.type .str], .type .list⟩ := fun hs =>
    (Option.some.inj (Except.ok.inj (select_of_chooses hs))).symm
  obtain ⟨t, ht, -⟩ | ⟨s, next, hs, hcall, hserved, -⟩ :=
    overload_served argumentCount hshape hearlier hx hy
  · exact absurd ht List.not_mem_nil
  obtain ⟨t, -, e, -, hbreaks, -⟩ | ⟨s', next', hs', hcall', -, hdeclined, -⟩ :=
    overload_served argumentCount hshape hlater hx hy'
  · exact absurd hbreaks not_breaksOn_builtIn
  obtain rfl := hfirst hs
  obtain rfl := hfirst hs'
  obtain ⟨-, hrefused⟩ := (hdeclined hnot).refused_of_builtIn
  obtain ⟨why, hwhy⟩ := hrefused.mismatch (by simp [Signature.types])
  exact ⟨hshape, hx, hy, ⟨next, hcall, hserved hy⟩, hy', next', why, hcall', hwhy,
    hrefused.uncalled⟩

section Cuts

variable {params : List Value} {result : Value} {shape : Overloads}

/-- The signature that cuts a parameter list after so many parameters. -/
def cut (params : List Value) (result : Value) (n : Nat) : Signature :=
  ⟨params.take n, params.drop n, result⟩

theorem signatures_partialCurry (h : (partialCurry params result).outcome = .ok shape) :
    shape.signatures = (List.range (params.length + 1)).map (cut params result) := by
  cases h
  exact List.map_map

theorem mem_types_cut {n : Nat} {t : Value} :
    t ∈ (cut params result n).types ↔ t ∈ result :: params := by
  rw [Signature.mem_types, cut, List.take_append_drop, List.mem_cons, or_comm]

variable (hshape : shape.signatures = (List.range (params.length + 1)).map (cut params result))

include hshape

theorem mem_signatures_iff {s : Signature} :
    s ∈ shape.signatures ↔ ∃ n ≤ params.length, cut params result n = s := by
  rw [hshape]
  simp only [List.mem_map, List.mem_range, Nat.lt_succ_iff]

theorem mem_types_cuts {t : Value} : t ∈ shape.types ↔ t ∈ result :: params := by
  rw [Overloads.types, List.mem_flatMap]
  constructor
  · rintro ⟨s, hs, ht⟩
    obtain ⟨n, -, rfl⟩ := (mem_signatures_iff hshape).1 hs
    exact mem_types_cut.1 ht
  · intro ht
    exact ⟨cut params result 0, (mem_signatures_iff hshape).2 ⟨0, Nat.zero_le _, rfl⟩,
      mem_types_cut.2 ht⟩

/-- Of all cuts only the one after as many parameters as there are arguments can take them. -/
theorem unsuited_of_ne_cut {s : Signature} (hs : s ∈ shape.signatures) {x : List Value}
    (hne : s ≠ cut params result x.length) : Unsuited belongs s.first x := by
  obtain ⟨n, hn, rfl⟩ := (mem_signatures_iff hshape).1 hs
  refine .inl fun hlength => hne ?_
  rw [cut, List.length_take, Nat.min_eq_left hn] at hlength
  rw [hlength]

theorem reached_cut {x : List Value} (hle : x.length ≤ params.length) :
    Reached (fun t => Unsuited belongs t.first x) shape.signatures
      (cut params result x.length) := by
  obtain ⟨m, hm⟩ : ∃ m, params.length + 1 = x.length + (m + 1) :=
    ⟨params.length - x.length, by omega⟩
  have hrange : List.range (params.length + 1)
      = List.range x.length ++ x.length :: (List.range m).map (x.length + 1 + ·) := by
    rw [hm, List.range_add, List.range_succ_eq_map, List.map_cons, List.map_map, Nat.add_zero]
    congr 3
    funext n
    exact (Nat.add_right_comm x.length 1 n).symm
  refine ⟨(List.range x.length).map (cut params result), _,
    by rw [hshape, hrange, List.map_append, List.map_cons], fun s hs => ?_⟩
  obtain ⟨n, hn, rfl⟩ := List.mem_map.1 hs
  have hlt := List.mem_range.1 hn
  refine .inl ?_
  rw [cut, List.length_take]
  omega

theorem exists_arity_ne_zero (hne : params ≠ []) : ∃ s ∈ shape.signatures, s.arity ≠ 0 := by
  refine ⟨cut params result 0, (mem_signatures_iff hshape).2 ⟨0, Nat.zero_le _, rfl⟩, ?_⟩
  rw [Signature.arity, cut, List.take_zero, List.length_nil, Nat.zero_add]
  exact mt List.length_eq_zero_iff.1 hne

/-- The first call is served by the cut after its arguments. -/
theorem chooses_cut {x : List Value} (hle : x.length ≤ params.length)
    (hx : TakenInPlace belongs params x) : shape.Chooses belongs x (cut params result x.length) :=
  ⟨reached_cut hshape hle, forall₂_takes_take_iff.2 ⟨hle, hx⟩⟩

theorem refused_cut {x : List Value} (h : Unsuited belongs (params.take x.length) x) :
    ((choice shape).apply belongs f x).Refused (result :: params) := by
  refine (refused_choice f fun s hs => ?_).of_mem_iff fun _ => mem_types_cuts hshape
  by_cases hs' : s = cut params result x.length
  · exact hs' ▸ h
  · exact unsuited_of_ne_cut hshape hs hs'

theorem broken_cut {x : List Value} {e : Error} (h : BreaksOn belongs (params.take x.length) x e) :
    (choice shape).apply belongs f x = ⟨.error e, []⟩ := by
  have hlength := h.1
  rw [List.length_take] at hlength
  exact broken_choice f (reached_cut hshape (by omega)) h

theorem declined_cut {x : List Value}
    (h : ¬(x.length ≤ params.length ∧ TakenInPlace belongs params x)) :
    ((choice shape).apply belongs f x).Declined belongs (params.take x.length) x
      (result :: params) :=
  .of_not_suited (mt forall₂_takes_take_iff.1 h) (refused_cut f hshape)
    fun _ => broken_cut f hshape

end Cuts

/-- A function bound to the choice of all cuts of a parameter list that is not empty. The first
call succeeds exactly if there are no more arguments than parameters and each is taken by the
parameter in its place. The second call then hands the arguments of both calls to the function
behind, in one call, exactly if together there are as many as parameters and each is taken by the
parameter in its place. In all other cases the arguments are refused, or the test of the first of
them that is not taken fails, and the function behind is not called. -/
theorem cut_served {params : List Value} (hne : params ≠ []) (result : Value) :
    ∃ shape, (partialCurry params result).outcome = .ok shape ∧ ∀ x,
      (x.length ≤ params.length ∧ TakenInPlace belongs params x →
        ∃ next, (ofOverloads shape).apply belongs f x = ⟨.ok (.further next), []⟩ ∧ ∀ y,
          (x.length + y.length = params.length ∧
              TakenInPlace belongs (params.drop x.length) y →
            next.apply belongs f y = ⟨(f (x ++ y)).map .value, [x ++ y]⟩) ∧
          (¬(x.length + y.length = params.length ∧
              TakenInPlace belongs (params.drop x.length) y) →
            (next.apply belongs f y).Declined belongs (params.drop x.length) y
              (result :: params))) ∧
      (¬(x.length ≤ params.length ∧ TakenInPlace belongs params x) →
        ((ofOverloads shape).apply belongs f x).Declined belongs (params.take x.length) x
          (result :: params)) := by
  obtain ⟨shape, hrun⟩ : ∃ shape, (partialCurry params result).outcome = .ok shape := ⟨_, rfl⟩
  have hshape := signatures_partialCurry hrun
  rw [hrun]
  refine ⟨shape, rfl, fun x => ?_⟩
  rw [ofOverloads_of_arity (exists_arity_ne_zero hshape hne)]
  refine ⟨fun ⟨hle, hx⟩ => ?_, declined_cut f hshape⟩
  refine ⟨_, apply_choice f (chooses_cut hshape hle hx), fun y => ?_⟩
  have hsecond : List.Forall₂ (Takes belongs) (cut params result x.length).second y
      ↔ x.length + y.length = params.length ∧
        TakenInPlace belongs (params.drop x.length) y := by
    have hlength : params.length - x.length = y.length
        ↔ x.length + y.length = params.length := by omega
    rw [cut, forall₂_takes_iff, List.length_drop, hlength]
  rw [← hsecond]
  exact ⟨apply_second f, fun h => (declined_second f h).of_mem_iff fun _ => mem_types_cut⟩

/-- Arguments of the wrong type are refused as such if the result type can be written. If it is an
integer beyond the conversion limit, the refusal itself cannot be written; calls that are served do
not depend on that. -/
theorem cut_served_unwritten :
    [Value.type .int] ≠ [] ∧
    (∃ shape why, (partialCurry [.type .int] (.type .str)).outcome = .ok shape ∧
      ((ofOverloads shape).apply .builtIn argumentCount [.str "x"]).outcome
        = .error (.engine (.mismatch why))) ∧
    ∃ shape next, (partialCurry [.type .int] (.int (tenPow digitLimit))).outcome = .ok shape ∧
      (ofOverloads shape).apply .builtIn argumentCount [.int 1] = ⟨.ok (.further next), []⟩ ∧
      next.apply .builtIn argumentCount [] = ⟨.ok (.value 1), [[.int 1]]⟩ ∧
      ((ofOverloads shape).apply .builtIn argumentCount [.str "x"]).outcome
        = .error (.limit .printing) := by
  have hne : [Value.type .int] ≠ [] := List.cons_ne_nil _ _
  have hint : List.Forall₂ (Takes .builtIn) [.type .int] [.int 1] := .cons (takes_iff.2 rfl) .nil
  have hx : [Value.int 1].length ≤ [Value.type .int].length ∧
      TakenInPlace .builtIn [.type .int] [.int 1] := forall₂_takes_take_iff.1 hint
  have hrefused : ¬([Value.str "x"].length ≤ [Value.type .int].length ∧
      TakenInPlace .builtIn [.type .int] [.str "x"]) := by
    rw [← forall₂_takes_take_iff]
    exact fun h => nomatch takes_iff.1 (List.forall₂_cons.1 h).1
  obtain ⟨shape, hshape, hcalls⟩ := cut_served argumentCount hne (.type .str)
  obtain ⟨shape', hshape', hcalls'⟩ := cut_served argumentCount hne (.int (tenPow digitLimit))
  obtain ⟨-, hcall⟩ := ((hcalls [.str "x"]).2 hrefused).refused_of_builtIn
  obtain ⟨-, hcall'⟩ := ((hcalls' [.str "x"]).2 hrefused).refused_of_builtIn
  obtain ⟨why, hwhy⟩ := hcall.mismatch (by simp)
  obtain ⟨next, hnext, hy⟩ := (hcalls' [.int 1]).1 hx
  refine ⟨hne, ⟨shape, why, hshape, hwhy⟩, shape', next, hshape', hnext, ?_, ?_⟩
  · exact (hy []).1 ⟨rfl, fun i p a _ ha => by cases ha⟩
  · exact hcall'.unwritten ⟨_, List.mem_cons_self, Value.not_labelled_of_le (Nat.le_refl _)⟩

end Bound

end Longhand
