import Longhand.Shape.Currying

/-!
A chain is written flat, but it is used one call after another: each call gives the chain of the
other parameters, and the last one gives the result. So a flat chain is the nested one that has a
single parameter before each of its stages (`Chain.stages_unroll`), also in how it is written, and
it does not matter whether the result is a chain again. The stages of any value are what it gives
call after call (`Chain.unroll_follow`).
-/

namespace Longhand

namespace Chain

/-- What is left after some calls: the chain of the other parameters, or the result if there are
none. -/
def remaining : List Value → Value → Value
  | [], result => result
  | p :: rest, result => toValue ⟨p, rest, result⟩

/-- What so many calls give, one after another; there is nothing to be had from calling what is no
chain. -/
def follow? : Nat → Value → Option Value
  | 0, v => some v
  | k + 1, v => (ofValue? v).bind fun c => follow? k c.returns

theorem returns_eq (c : Chain) : c.returns = remaining c.rest c.result := by
  rw [returns]
  cases c.rest <;> rfl

/-- The induction is over the calls; each one takes a parameter away. -/
theorem follow?_remaining {k : Nat} {params : List Value} (h : k ≤ params.length)
    (result : Value) :
    follow? k (remaining params result) = some (remaining (params.drop k) result) := by
  induction k generalizing params with
  | zero => rfl
  | succ k ih =>
    cases params with
    | nil => exact absurd h (Nat.not_succ_le_zero k)
    | cons p rest =>
      rw [remaining, follow?, ofValue?_toValue, Option.bind_some, returns_eq, List.drop_succ_cons]
      exact ih (Nat.le_of_succ_le_succ h)

theorem unroll_of_chain {v : Value} {c : Chain} (h : ofValue? v = some c) :
    unroll v = ((c.param, c.arity) :: (unroll c.returns).1, (unroll c.returns).2) := by
  rw [unroll]
  split
  · rename_i d hd
    obtain rfl := Option.some.inj (h.symm.trans hd)
    rfl
  · rename_i hnone
    exact absurd (h.symm.trans hnone) (Option.some_ne_none c)

theorem unroll_of_none {v : Value} (h : ofValue? v = none) : unroll v = ([], v) := by
  rw [unroll]
  split
  · rename_i c hc
    exact absurd (hc.symm.trans h) (Option.some_ne_none c)
  · rfl

/-- The stages of a value are what so many calls give, and what is left after all of them is no
chain. The induction is over the calls of a value that is a chain. -/
theorem unroll_follow (v : Value) :
    (∀ (k : Nat) param arity, (unroll v).1[k]? = some (param, arity) →
      ∃ c : Chain, follow? k v = some c.toValue ∧ c.param = param ∧ c.arity = arity) ∧
    follow? (unroll v).1.length v = some (unroll v).2 ∧ ofValue? (unroll v).2 = none := by
  induction v using unroll.induct with
  | case1 v c hc _ _ _ ih =>
    obtain ⟨hstages, hlast, hnone⟩ := ih
    have hcall : ∀ k, follow? (k + 1) v = follow? k c.returns := fun k => by
      rw [follow?, hc, Option.bind_some]
    rw [unroll_of_chain hc]
    refine ⟨fun k param arity hk => ?_, (hcall _).trans hlast, hnone⟩
    cases k with
    | zero =>
      cases hk
      exact ⟨c, congrArg some (eq_toValue_of_ofValue? hc), rfl, rfl⟩
    | succ k =>
      rw [hcall]
      exact hstages k param arity hk
  | case2 v hv =>
    rw [unroll_of_none hv]
    exact ⟨fun k param arity hk => (nomatch hk), rfl, hv⟩

/-- A chain passes the checks of its own record. -/
theorem ofFields_fields (c : Chain) :
    ofFields [("params", .tuple c.params), ("result", c.result)] = .ok c := rfl

/-- What is written for what is left. -/
def remainingText : List Value → Value → Except Error String
  | [], result => result.label
  | p :: rest, result => render ⟨p, rest, result⟩

/-- The parameters that are left, each by itself, then the result. -/
theorem remainingText_eq (params : List Value) (result : Value) :
    remainingText params result = (do
      let stages ← params.mapM fun p => do return "(" ++ (← p.label) ++ ")"
      return String.intercalate " => " (stages ++ [← result.label])) := by
  cases params with
  | nil =>
    rw [remainingText, List.mapM_nil]
    cases result.label with
    | error e => rfl
    | ok last => exact congrArg Except.ok String.intercalate_singleton.symm
  | cons p rest => rfl

/-- The first parameter is written before what is written for the others. If something cannot be
written, it is the first thing that cannot. -/
theorem render_eq (c : Chain) :
    c.render = (do
      let first ← c.param.label
      let others ← remainingText c.rest c.result
      return "(" ++ first ++ ")" ++ " => " ++ others) := by
  rw [render, params, List.mapM_cons, remainingText_eq]
  cases c.param.label with
  | error e => rfl
  | ok first =>
    cases c.rest.mapM fun p => do return "(" ++ (← p.label) ++ ")" with
    | error e => rfl
    | ok stages =>
      cases c.result.label with
      | error e => rfl
      | ok last =>
        have hne : stages ++ [last] ≠ [] :=
          List.append_ne_nil_of_right_ne_nil _ (List.cons_ne_nil last [])
        exact congrArg Except.ok (String.intercalate_cons_of_ne_nil hne)

/-- The chain of a parameter list that is not empty. After any number of calls that leaves
parameters there is the chain of those, which passes the checks of its record anew: it waits for the
parameter in that place and for as many arguments as there are parameters left. After a call for
each parameter there is the result, whether or not it is a chain again. The chain is written as its
first parameter in parentheses before the chain of the others, or before the result if there are no
others; if something cannot be written, both ways fail alike. -/
theorem stages_unroll {params : List Value} (hne : params ≠ []) (result : Value) :
    ∃ c, (fullCurry params result).outcome = .ok (.chain c) ∧
      (∀ (k : Nat) p, params[k]? = some p →
        ∃ stage, follow? k c.toValue = some stage.toValue ∧
          (fullCurry (params.drop k) result).outcome = .ok (.chain stage) ∧
          ofFields [("params", .tuple (params.drop k)), ("result", result)] = .ok stage ∧
          stage.param = p ∧ stage.arity = params.length - k) ∧
      follow? params.length c.toValue = some result ∧
      c.render = (do
        let first ← (params.head hne).label
        let others ← if params.tail = [] then result.label
          else do (← (fullCurry params.tail result).outcome).render
        return "(" ++ first ++ ")" ++ " => " ++ others) := by
  obtain ⟨q, rest, rfl⟩ := List.exists_cons_of_ne_nil hne
  refine ⟨⟨q, rest, result⟩, rfl, fun k p hp => ?_, ?_, ?_⟩
  · obtain ⟨hk, hget⟩ := List.getElem?_eq_some_iff.1 hp
    have hfollow := follow?_remaining (Nat.le_of_lt hk) result
    rw [List.drop_eq_getElem_cons hk, hget] at hfollow ⊢
    refine ⟨⟨p, (q :: rest).drop (k + 1), result⟩, hfollow, rfl,
      ofFields_fields ⟨p, _, result⟩, rfl, ?_⟩
    rw [arity, Chain.params, List.length_cons, List.length_drop]
    omega
  · have hfollow := follow?_remaining (Nat.le_refl (q :: rest).length) result
    rwa [List.drop_length] at hfollow
  · rw [render_eq]
    cases rest <;> rfl

/-- The result is a chain itself, and is left after both calls. -/
theorem stages_unroll_to_chain :
    [Value.type .int, .str "T"] ≠ [] ∧
    ∃ c, (fullCurry [.type .int, .str "T"] (toValue ⟨.type .bool, [], .type .list⟩)).outcome
        = .ok (.chain c) ∧
      follow? 2 c.toValue = some (toValue ⟨.type .bool, [], .type .list⟩) ∧
      (∃ stage : Chain, follow? 1 c.toValue = some stage.toValue ∧ stage.param = .str "T" ∧
        stage.arity = 1) ∧
      c.render = .ok ("(int) => (T) => "
        ++ "CurriedSignature(params=(<class 'bool'>,), result=<class 'list'>)") := by
  have hne : [Value.type .int, .str "T"] ≠ [] := List.cons_ne_nil _ _
  obtain ⟨c, hc, hstages, hlast, hrender⟩ :=
    stages_unroll hne (toValue ⟨.type .bool, [], .type .list⟩)
  obtain ⟨stage, hstage, -, -, hparam, harity⟩ := hstages 1 (.str "T") rfl
  exact ⟨hne, c, hc, hlast, ⟨stage, hstage, hparam, harity⟩, hrender.trans rfl⟩

end Chain

end Longhand
