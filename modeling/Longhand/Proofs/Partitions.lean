import Longhand.Contract.Splits
import Longhand.Proofs.Keeping
import Longhand.Value.Equality
import Mathlib.Logic.ExistsUnique

/-!
The partitions of a sequence are its decompositions in two. Which partition stands in which place is
told by one lemma (`Partition.getElem?_splits`): the one that joins to the sequence and is cut after
as many items. So every decomposition is listed once, each partition shifts one item more to the
left than the one before, and no two are equal (`Value.splits_decompose`). The contract for
partitions refuses no list of them (`Value.checkedSplits_eq`).
-/

namespace Longhand

namespace Partition

variable {α : Type} {items : List α}

theorem getElem?_splits {k : Nat} {p : Partition α} :
    (splits items)[k]? = some p ↔ p.joined = items ∧ p.index = k := by
  rw [splits, List.getElem?_map, Option.map_eq_some_iff]
  constructor
  · rintro ⟨n, hn, rfl⟩
    obtain ⟨hk, rfl⟩ := List.getElem?_eq_some_iff.1 hn
    rw [List.length_range] at hk
    rw [List.getElem_range]
    exact ⟨List.take_append_drop k items, List.length_take_of_le (Nat.le_of_lt_succ hk)⟩
  · obtain ⟨left, right⟩ := p
    rintro ⟨rfl, rfl⟩
    have hlt : left.length < (left ++ right).length + 1 := by
      rw [List.length_append]
      omega
    refine ⟨left.length, List.getElem?_range hlt, ?_⟩
    simp only [joined, List.take_left, List.drop_left]

/-- Two ways to cut a sequence after as many items are the same. -/
theorem eq_of_index_eq {p q : Partition α} (h : p.joined = q.joined) (hindex : p.index = q.index) :
    p = q := by
  have hp := getElem?_splits.2 ⟨h, hindex⟩
  rw [getElem?_splits.2 ⟨rfl, rfl⟩] at hp
  exact (Option.some.inj hp).symm

/-- A pair is listed in one place exactly if it is a decomposition. -/
theorem existsUnique_splits_iff {l r : List α} :
    (∃! k : Nat, (splits items)[k]? = some ⟨l, r⟩) ↔ l ++ r = items := by
  constructor
  · rintro ⟨k, hk, -⟩
    exact (getElem?_splits.1 hk).1
  · intro h
    exact ⟨l.length, getElem?_splits.2 ⟨h, rfl⟩, fun k hk => (getElem?_splits.1 hk).2.symm⟩

theorem pairwise_splits : (splits items).Pairwise fun p q => p.index ≠ q.index := by
  refine List.pairwise_iff_getElem.2 fun i j hi hj hlt => ?_
  rw [(getElem?_splits.1 (List.getElem?_eq_getElem hi)).2,
    (getElem?_splits.1 (List.getElem?_eq_getElem hj)).2]
  exact Nat.ne_of_lt hlt

/-- The first item on the right becomes the last one on the left. -/
def Shifts (p q : Partition α) : Prop := ∃ x, p.right = x :: q.right ∧ q.left = p.left ++ [x]

theorem shifts_of_index {p q : Partition α} (h : p.joined = q.joined)
    (hindex : q.index = p.index + 1) : p.Shifts q := by
  obtain ⟨left, right⟩ := p
  cases right with
  | nil =>
    have hlength := congrArg List.length h
    simp only [joined, index, List.append_nil, List.length_append] at hlength hindex
    omega
  | cons x right =>
    have hq : q = ⟨left ++ [x], right⟩ :=
      eq_of_index_eq (by rw [← h, joined, joined, List.append_assoc]; rfl)
        (by rw [hindex, index, index, List.length_append]; rfl)
    rw [hq]
    exact ⟨x, rfl, rfl⟩

end Partition

/-! ### Equality of the records -/

theorem Value.length_eq_of_sameAll {vs ws : List Value} (h : Value.same.sameAll vs ws = true) :
    vs.length = ws.length := by
  induction vs generalizing ws with
  | nil =>
    cases ws with
    | nil => rfl
    | cons w ws => simp [Value.same.sameAll] at h
  | cons v vs ih =>
    cases ws with
    | nil => simp [Value.same.sameAll] at h
    | cons w ws =>
      rw [Value.same.sameAll, Bool.and_eq_true] at h
      exact congrArg (· + 1) (ih h.2)

/-- As records, partitions that are cut after different numbers of items are not equal, whatever the
items are. -/
theorem Partition.not_same_of_index_ne {p q : Partition Value} (h : p.index ≠ q.index) :
    p.toValue.same q.toValue = false := by
  refine Bool.eq_false_iff.2 fun hsame => h ?_
  have hleft : Value.same.sameAll p.left q.left = true := by
    simp only [toValue, Value.same, Value.same.sameFields, Bool.and_eq_true] at hsame
    exact hsame.2.1.2
  exact Value.length_eq_of_sameAll hleft

/-! ### The contract -/

theorem Contract.kept_partitionSet {ps : List (Partition Value)} :
    partitionSet.Kept (.list (ps.map Partition.toContract)) ↔ ps ≠ [] := by
  rw [partitionSet, heading, Schema.kept_iff]
  simp only [List.cons_append, List.nil_append, List.forall_mem_cons, Keyword.kept_note,
    Keyword.kept_type, Keyword.kept_minItems, Keyword.kept_items, List.not_mem_nil, false_imp_iff,
    imp_true_iff, and_true, true_and]
  constructor
  · rintro ⟨-, hlength, -⟩ rfl
    exact absurd hlength (by decide)
  · intro hne
    refine ⟨rfl, ?_, fun v hv => ?_⟩
    · rw [List.length_map]
      exact List.length_pos_iff.2 hne
    · obtain ⟨p, -, rfl⟩ := List.mem_map.1 hv
      -- the keywords for one pair of lists, computed
      rfl

namespace Value

/-- The check of the partitions against their contract never fails. -/
theorem checkedSplits_eq (v : Value) : v.checkedSplits = v.splits := by
  rw [checkedSplits, splits]
  cases v.sequence with
  | error e => rfl
  | ok items =>
    have hne : Partition.splits items ≠ [] := by
      rw [← List.length_pos_iff, Partition.length_splits]
      exact Nat.succ_pos _
    have hcheck := Schema.check_of_kept (Contract.kept_partitionSet.2 hne)
    show (Contract.partitionSet.check _ >>= fun _ => _) = _
    rw [hcheck]
    rfl

/-- The partitions of a sequence, with or without the check against their contract. There is one
more than the sequence has items. The one in place `k` is cut after `k` items and joins to the
sequence, and a pair is listed, in one place only, exactly if it is a decomposition of the sequence.
Each partition shifts one item more to the left than the one before. No two are the same, nor are
any two equal as records, even if all items are equal. -/
theorem splits_decompose {v : Value} {items : List Value} (h : v.sequence = .ok items) :
    ∃ ps, v.splits = .ok ps ∧ v.checkedSplits = .ok ps ∧ ps.length = items.length + 1 ∧
      (∀ (k : Nat) p, ps[k]? = some p → p.index = k ∧ p.joined = items) ∧
      (∀ l r, (∃! k : Nat, ps[k]? = some ⟨l, r⟩) ↔ l ++ r = items) ∧
      (∀ (k : Nat) p q, ps[k]? = some p → ps[k + 1]? = some q → p.Shifts q) ∧
      ps.Pairwise fun p q => p ≠ q ∧ p.toValue.same q.toValue = false := by
  have hrun : v.splits = .ok (Partition.splits items) := by
    rw [splits, h]
    rfl
  refine ⟨_, hrun, (checkedSplits_eq v).trans hrun, Partition.length_splits items, fun k p hp => ?_,
    fun l r => Partition.existsUnique_splits_iff, fun k p q hp hq => ?_, ?_⟩
  · exact (Partition.getElem?_splits.1 hp).symm
  · obtain ⟨hp, hpk⟩ := Partition.getElem?_splits.1 hp
    obtain ⟨hq, hqk⟩ := Partition.getElem?_splits.1 hq
    exact Partition.shifts_of_index (hp.trans hq.symm) (by rw [hqk, hpk])
  · exact Partition.pairwise_splits.imp fun hne =>
      ⟨fun heq => hne (congrArg Partition.index heq), Partition.not_same_of_index_ne hne⟩

/-- Of two items that are equal, each is on either side once. -/
theorem splits_decompose_repeated :
    sequence (.tuple [.int 1, .int 1]) = .ok [.int 1, .int 1] ∧
    ∃ ps, checkedSplits (.tuple [.int 1, .int 1]) = .ok ps ∧ ps.length = 3 ∧
      (∃! k : Nat, ps[k]? = some ⟨[.int 1], [.int 1]⟩) ∧
      ps.Pairwise fun p q => p ≠ q ∧ p.toValue.same q.toValue = false := by
  have h : sequence (.tuple [.int 1, .int 1]) = .ok [.int 1, .int 1] := rfl
  obtain ⟨ps, -, hrun, hlength, -, hlisted, -, hdistinct⟩ := splits_decompose h
  exact ⟨h, ps, hrun, hlength, (hlisted [.int 1] [.int 1]).2 rfl, hdistinct⟩

end Value

end Longhand
