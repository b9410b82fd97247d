import Longhand.Proofs.Conversion
import Longhand.Proofs.DigitContract
import Longhand.Proofs.Showing

/-!
What the boundary makes of a value. One that denotes a natural number (`Natural.Denotes`) is read as
the text of that number, without leading zeros. Every other value is refused as malformed, unless
the refusal would have to show an integer beyond the conversion limit: then the failure of the
conversion escapes (`Natural.parse_reads_or_refuses`).
-/

namespace Longhand

/-- What a schema finds is found by one of its keywords. -/
theorem Schema.mem_violations_iff {ks : List Keyword} {v : Value} {x : Violation} :
    x ∈ (Schema.mk ks).violations v ↔ ∃ k ∈ ks, x ∈ keywordViolations (propertyNames ks) k v := by
  rw [violations]
  generalize propertyNames ks = names
  induction ks with
  | nil =>
    refine iff_of_false List.not_mem_nil ?_
    rintro ⟨_, h, -⟩
    exact absurd h List.not_mem_nil
  | cons k ks ih =>
    rw [allViolations, List.mem_append, ih]
    simp only [List.mem_cons, exists_eq_or_imp]

namespace Keyword

variable {names : List String} {v : Value} {x : Violation}

theorem breach_type {t : SchemaType} (h : x ∈ Schema.keywordViolations names (.type t) v) :
    x.breach = .wrongType v [t] := by
  rw [Schema.keywordViolations] at h
  split at h
  · exact absurd h List.not_mem_nil
  · rw [List.mem_singleton.1 h]
    rfl

theorem breach_minLength {n : Nat} (h : x ∈ Schema.keywordViolations names (.minLength n) v) :
    x.breach = .tooShort v n := by
  cases v with
  | str s =>
    rw [Schema.keywordViolations] at h
    split at h
    · rw [List.mem_singleton.1 h]
      rfl
    · exact absurd h List.not_mem_nil
  | _ => exact absurd h List.not_mem_nil

theorem breach_not {s : Schema} (h : x ∈ Schema.keywordViolations names (.not s) v) :
    x.breach = .forbidden v s := by
  rw [Schema.keywordViolations] at h
  split at h
  · rw [List.mem_singleton.1 h]
    rfl
  · exact absurd h List.not_mem_nil

end Keyword

/-- The contract for digit strings tells a violation by showing the value; the rest of the wording
is short. -/
theorem Contract.message_digitSequence {v : Value} {x : Violation}
    (h : x ∈ digitSequence.violations v) :
    ∃ wording : String → String, x.breach.message = v.shown >>= fun text => .ok (wording text) := by
  rw [digitSequence, heading, Schema.mem_violations_iff] at h
  simp only [List.cons_append, List.nil_append, List.mem_cons, List.not_mem_nil, or_false,
    exists_eq_or_imp, exists_eq_left] at h
  rcases h with h | h | h | h | h | h | h
  · exact absurd h List.not_mem_nil
  · exact absurd h List.not_mem_nil
  · exact absurd h List.not_mem_nil
  · exact absurd h List.not_mem_nil
  · rw [Keyword.breach_type h]
    exact ⟨_, rfl⟩
  · rw [Keyword.breach_minLength h]
    exact ⟨_, rfl⟩
  · rw [Keyword.breach_not h]
    exact ⟨_, rfl⟩

theorem Contract.check_digitSequence {v : Value} (h : ¬digitSequence.Kept v) :
    ∃ wording : String → String,
      digitSequence.check v = v.shown >>= fun text => .error (.contract (wording text)) := by
  obtain ⟨first, rest, hviolations⟩ := List.exists_cons_of_ne_nil h
  obtain ⟨wording, hwording⟩ := message_digitSequence (hviolations ▸ List.mem_cons_self)
  refine ⟨wording, ?_⟩
  rw [Schema.check, hviolations]
  simp only [hwording]
  cases v.shown <;> rfl

namespace Natural

/-- A value denotes a natural number: a digit string that of its digits, and an integer itself, if
it is not negative and within the conversion limit. -/
inductive Denotes : Value → Nat → Prop
  | text {s : String} : DigitText.IsValid s → Denotes (.str s) (DigitText.value s)
  | integer {n : Nat} : n < tenPow digitLimit → Denotes (.int n) n

/-- A refusal of the value would have to show an integer beyond the conversion limit. Natural
numbers are never shown. -/
def Unshowable (v : Value) : Prop := v.Overlong ∧ ∀ n : Nat, v ≠ .int n

theorem Denotes.eq_of_int {z : Int} {n : Nat} (h : Denotes (.int z) n) : z = n := by
  generalize hv : Value.int z = v at h
  cases h with
  | text hs => cases hv
  | integer hn => exact Value.int.inj hv

theorem Denotes.parse_eq {v : Value} {n : Nat} (h : Denotes v n) : parse v = .ok (.ofNat n) := by
  cases h with
  | text hs => exact (parse_eq_ok_iff (by rintro _ ⟨⟩)).2 hs.ofValue_eq
  | @integer n hn =>
    rw [parse, Numeral.ofInteger_natCast, if_pos hn]

/-- The refusal of anything but a natural number shows what is refused. -/
theorem parse_refused {v : Value} (h : ∀ n, ¬Denotes v n) (hnat : ∀ n : Nat, v ≠ .int n) :
    ∃ why : String → Malformed,
      parse v = v.shown >>= fun text => .error (.engine (.malformed (why text))) := by
  by_cases hint : ∃ n, v = .int n
  · obtain ⟨n, rfl⟩ := hint
    have hneg : n < 0 := Int.not_le.1 fun hn => hnat n.toNat (by rw [Int.toNat_of_nonneg hn])
    refine ⟨.negative, ?_⟩
    rw [parse, Numeral.ofInteger, if_pos hneg, Value.shown]
    rfl
  · have hkept : ¬Contract.digitSequence.Kept v := fun hkept => by
      obtain ⟨s, rfl, hs⟩ := Contract.kept_digitSequence.1 hkept
      exact h _ (.text hs)
    obtain ⟨wording, hcheck⟩ := Contract.check_digitSequence hkept
    refine ⟨fun text => .rejected text (wording text), ?_⟩
    unfold parse
    split
    · exact absurd ⟨_, rfl⟩ hint
    · rw [hcheck]
      cases hv : v.shown with
      | ok text => rfl
      | error e =>
        rw [Value.limited_shown v e hv]
        rfl

theorem Unshowable.parse_eq {v : Value} (h : Unshowable v) :
    parse v = .error (.limit .printing) := by
  obtain ⟨hlong, hnat⟩ := h
  have hnone : ∀ n, ¬Denotes v n := by
    rintro n (hs | hn)
    · exact (Value.exists_shown_iff _).1 ⟨_, rfl⟩ hlong
    · exact hnat _ rfl
  obtain ⟨why, hparse⟩ := parse_refused hnone hnat
  rw [hparse, Value.shown_of_overlong hlong]
  rfl

theorem malformed_parse {v : Value} (h : ∀ n, ¬Denotes v n) (hv : ¬Unshowable v) :
    ∃ why, parse v = .error (.engine (.malformed why)) := by
  by_cases hnat : ∃ n : Nat, v = .int n
  · obtain ⟨n, rfl⟩ := hnat
    have hlong : ¬n < tenPow digitLimit := fun hn => h n (.integer hn)
    refine ⟨.unprintable .printing, ?_⟩
    rw [parse, Numeral.ofInteger_natCast, if_neg hlong]
  · have hnat : ∀ n : Nat, v ≠ .int n := fun n hn => hnat ⟨n, hn⟩
    obtain ⟨why, hparse⟩ := parse_refused h hnat
    obtain ⟨text, htext⟩ := (Value.exists_shown_iff v).2 fun hlong => hv ⟨hlong, hnat⟩
    refine ⟨why text, ?_⟩
    rw [hparse, htext]
    rfl

open DigitText (IsValid isNormal) in
/-- A value that denotes a natural number is read as the decimal text of that number, digits without
leading zeros. One that denotes none is refused as malformed, unless it holds an integer beyond the
conversion limit and is no natural number itself: then the refusal cannot be written, and what
escapes is the failure of the conversion. -/
theorem parse_reads_or_refuses (v : Value) :
    (∀ n, Denotes v n → (parse v).map Numeral.text = .ok (Nat.repr n) ∧
      IsValid (Nat.repr n) ∧ isNormal (Nat.repr n) = true) ∧
    ((∀ n, ¬Denotes v n) → ¬Unshowable v → ∃ text, Fails (parse v) .malformedInput text) ∧
    (Unshowable v → parse v = .error (.limit .printing)) := by
  refine ⟨fun n h => ?_, fun h hv => ?_, Unshowable.parse_eq⟩
  · have htext : (Numeral.ofNat n).text = Nat.repr n := by
      rw [Numeral.text_eq_repr, Numeral.value_ofNat]
    rw [h.parse_eq, ← htext]
    exact ⟨rfl, DigitText.isValid_text (Numeral.ofNat n).normal.1, DigitText.isNormal_text _⟩
  · obtain ⟨why, hparse⟩ := malformed_parse h hv
    rw [hparse]
    exact ⟨_, fails_engine (.malformed why)⟩

/-- A text is read without its leading zeros and a small negative number is malformed. A large one
escapes the reading, and so does a list with a large number in it. -/
theorem parse_reads_or_refuses_overlong :
    Denotes (.str "007") 7 ∧ (parse (.str "007")).map Numeral.text = .ok "7" ∧
    (∀ n, ¬Denotes (.int (-5)) n) ∧ ¬Unshowable (.int (-5)) ∧
    (∃ text, Fails (parse (.int (-5))) .malformedInput text) ∧
    Unshowable (.int (-(tenPow digitLimit))) ∧
    parse (.int (-(tenPow digitLimit))) = .error (.limit .printing) ∧
    Unshowable (.list [.int (tenPow digitLimit)]) ∧
    parse (.list [.int (tenPow digitLimit)]) = .error (.limit .printing) := by
  have hpos := tenPow_pos digitLimit
  have hseven : Denotes (.str "007") 7 := .text (by decide)
  have hnone : ∀ n, ¬Denotes (.int (-5)) n := fun n h => by
    have hn := h.eq_of_int
    omega
  have hshowable : ¬Unshowable (.int (-5)) := fun h => by
    have hlong : tenPow digitLimit ≤ 5 := Value.overlong_int_iff.1 h.1
    have hten : tenPow 1 ≤ tenPow digitLimit := tenPow_le (by decide)
    exact absurd (Nat.le_trans hten hlong) (by decide)
  have hnegative : Unshowable (.int (-(tenPow digitLimit))) := by
    refine ⟨Value.overlong_int_iff.2 ?_, fun n hn => ?_⟩
    · exact Nat.le_of_eq (by rw [Int.natAbs_neg, Int.natAbs_natCast])
    · have hn := Value.int.inj hn
      omega
  have hlist : Unshowable (.list [.int (tenPow digitLimit)]) := by
    have hle : tenPow digitLimit ≤ (tenPow digitLimit : Int).natAbs :=
      Nat.le_of_eq (Int.natAbs_natCast _).symm
    exact ⟨.inside List.mem_cons_self (Value.overlong_int_iff.2 hle), by rintro _ ⟨⟩⟩
  exact ⟨hseven, ((parse_reads_or_refuses _).1 7 hseven).1, hnone, hshowable,
    (parse_reads_or_refuses _).2.1 hnone hshowable, hnegative,
    (parse_reads_or_refuses _).2.2 hnegative, hlist, (parse_reads_or_refuses _).2.2 hlist⟩

end Natural

end Longhand
