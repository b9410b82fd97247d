import Longhand.Proofs.Remainder
import Longhand.Proofs.Reporting

/-!
The contract for digit strings and the reading of operands draw the same line: both take the texts
of one or more ASCII digits and no other value (`Natural.contract_agrees`). What is read at the
boundary is a text without leading zeros that every operation takes as it is.
-/

namespace Longhand

namespace DigitText

theorem isDigit_iff {c : Char} : c.isDigit = true ↔ ¬(c < '0' ∨ '9' < c) := by
  rw [not_or, Char.not_lt, Char.not_lt, Char.isDigit, Bool.and_eq_true, decide_eq_true_eq,
    decide_eq_true_eq]
  exact Iff.rfl

/-- A text of digits has a character, and none of its characters is outside the digits. -/
theorem isValid_iff {s : String} :
    IsValid s ↔ 1 ≤ s.length ∧ Contract.nonDigit.foundIn s = false := by
  have hempty : s ≠ "" ↔ 1 ≤ s.length := by
    rw [Nat.one_le_iff_ne_zero]
    exact not_congr String.length_eq_zero_iff.symm
  have hdigits : (∀ c ∈ s.toList, c.isDigit = true) ↔ Contract.nonDigit.foundIn s = false := by
    rw [OutsideRange.foundIn, List.any_eq_false]
    refine forall₂_congr fun c _ => ?_
    rw [isDigit_iff, Bool.or_eq_true, decide_eq_true_eq, decide_eq_true_eq]
    exact Iff.rfl
  rw [IsValid, hempty, hdigits]

end DigitText

namespace Digits

theorem map_toChar_of_ofChars {i : Nat} {cs : List Char} {ds : List Digit}
    (h : ofChars i cs = .ok ds) : ds.map Digit.toChar = cs := by
  induction cs generalizing i ds with
  | nil =>
    cases h
    rfl
  | cons c cs ih =>
    rw [ofChars] at h
    split at h
    · rename_i d hd
      obtain ⟨rest, hrest, h⟩ := exists_of_bind_ok h
      cases h
      rw [List.map_cons, Digit.toChar_of_ofChar? hd, ih hrest]
    · cases h

/-- A value is read as digits if it is their text. -/
theorem ofValue_eq_ok_iff {v : Value} {ds : List Digit} :
    ofValue v = .ok ds ↔ ds ≠ [] ∧ v = .str (text ds) := by
  constructor
  · intro h
    refine ⟨ne_nil_of_ofValue h, ?_⟩
    cases v with
    | str s =>
      rw [ofValue] at h
      split at h
      · cases h
      · rw [← String.toList_inj.1 ((toList_text ds).trans (map_toChar_of_ofChars h))]
    | _ => cases h
  · rintro ⟨hne, rfl⟩
    exact ofValue_text hne

theorem exists_ofValue_iff {v : Value} :
    (∃ ds, ofValue v = .ok ds) ↔ ∃ s, v = .str s ∧ DigitText.IsValid s := by
  constructor
  · rintro ⟨ds, h⟩
    obtain ⟨hne, rfl⟩ := ofValue_eq_ok_iff.1 h
    exact ⟨_, rfl, DigitText.isValid_text hne⟩
  · rintro ⟨s, rfl, hs⟩
    obtain ⟨ds, hne, rfl⟩ := hs.exists_digits
    exact ⟨ds, ofValue_text hne⟩

end Digits

namespace Contract

/-- What the contract for digit strings demands. -/
theorem kept_digitSequence {v : Value} :
    digitSequence.Kept v ↔ ∃ s, v = .str s ∧ DigitText.IsValid s := by
  rw [digitSequence, heading, Schema.kept_iff]
  simp only [List.cons_append, List.nil_append, List.forall_mem_cons, Keyword.kept_note,
    Keyword.kept_type, SchemaType.admits_string_iff, List.not_mem_nil, false_imp_iff, imp_true_iff,
    and_true, true_and]
  constructor
  · rintro ⟨⟨s, rfl⟩, hlength, hdigits⟩
    refine ⟨s, rfl, DigitText.isValid_iff.2 ⟨Keyword.kept_minLength.1 hlength, ?_⟩⟩
    rw [Keyword.kept_not, Schema.kept_singleton, Keyword.kept_pattern] at hdigits
    exact Bool.eq_false_iff.2 hdigits
  · rintro ⟨s, rfl, hs⟩
    obtain ⟨hlength, hdigits⟩ := DigitText.isValid_iff.1 hs
    refine ⟨⟨s, rfl⟩, Keyword.kept_minLength.2 hlength, ?_⟩
    rw [Keyword.kept_not, Schema.kept_singleton, Keyword.kept_pattern]
    exact Bool.eq_false_iff.1 hdigits

end Contract

/-- No operation finds one of its operands malformed. -/
structure Arithmetic.Admits (a b : Value) : Prop where
  compare : FailsOnly (fun e => ¬e.IsMalformed) (compare a b)
  add : ∀ settings, FailsOnly (fun e => ¬e.IsMalformed) (add settings a b)
  subtract : ∀ settings, FailsOnly (fun e => ¬e.IsMalformed) (subtract settings a b)
  multiply : ∀ settings, FailsOnly (fun e => ¬e.IsMalformed) (multiply settings a b)
  modulo : ∀ settings, FailsOnly (fun e => ¬e.IsMalformed) (modulo settings a b).outcome

namespace Error

/-- A failure of another kind than that of malformed operands. -/
def NotMalformed (e : Error) : Prop := e.fault? ≠ some .malformedInput

theorem NotMalformed.not_isMalformed {e : Error} (h : e.NotMalformed) : ¬e.IsMalformed := by
  rintro ⟨why, rfl⟩
  exact h rfl

end Error

namespace Numeral

theorem failsOnly_subtract (s : DigitStrategy) (a b : Numeral) :
    FailsOnly Error.NotMalformed (subtract s a b) := by
  rw [subtract]
  split
  · exact .ok _
  · exact .error fun h => by cases h

theorem failsOnly_modulo (settings : Settings) (a b : Numeral) :
    FailsOnly Error.NotMalformed (modulo settings a b).outcome := by
  by_cases hb : b = zero
  · rw [modulo, dif_pos hb]
    exact .error fun h => by cases h
  · cases hs : settings.remainder with
    | shiftSubtract =>
      rw [modulo_shift hs a hb]
      exact .ok _
    | repeatedSubtraction =>
      by_cases hcap : ∃ cap ∈ settings.cap, cap < a.value / b.value
      · obtain ⟨cap, hc, hlt⟩ := hcap
        rw [outcome_modulo_of_lt hs hb hc hlt]
        exact .error fun h => by cases h
      · rw [outcome_modulo_of_le hs hb fun cap hc =>
          Nat.le_of_not_lt fun hlt => hcap ⟨cap, hc, hlt⟩]
        exact .ok _

end Numeral

/-- The texts of numerals are no malformed operands. -/
theorem Arithmetic.admits_text (m n : Numeral) : Admits (.str m.text) (.str n.text) where
  compare := by
    rw [compare, Natural.operands_text]
    exact .ok _
  add settings := by
    rw [add, Natural.operands_text]
    exact .ok _
  subtract settings := by
    rw [subtract, Natural.operands_text]
    exact (Numeral.failsOnly_subtract settings.digits m n).mono fun _ =>
      Error.NotMalformed.not_isMalformed
  multiply settings := by
    rw [multiply, Natural.operands_text]
    exact .ok _
  modulo settings := by
    rw [modulo, Natural.operands_text]
    exact (Numeral.failsOnly_modulo settings m n).mono fun _ =>
      Error.NotMalformed.not_isMalformed

namespace Natural

theorem check_of_ofValue {v : Value} {m : Numeral} (h : Numeral.ofValue v = .ok m) :
    Contract.digitSequence.check v = .ok () := by
  obtain ⟨ds, hds, -⟩ := exists_of_bind_ok h
  exact Schema.check_of_kept (Contract.kept_digitSequence.2 (Digits.exists_ofValue_iff.1 ⟨ds, hds⟩))

/-- The contract refuses nothing else than reading does, so only integers are read otherwise. -/
theorem parse_eq_ok_iff {v : Value} (h : ∀ n, v ≠ .int n) {m : Numeral} :
    parse v = .ok m ↔ Numeral.ofValue v = .ok m := by
  constructor
  · intro hparse
    unfold parse at hparse
    split at hparse
    · exact absurd rfl (h _)
    · split at hparse
      · exact hparse
      · obtain ⟨text, -, hthrow⟩ := exists_of_bind_ok hparse
        cases hthrow
      · cases hparse
  · intro hread
    unfold parse
    split
    · exact absurd rfl (h _)
    · rw [check_of_ofValue hread]
      exact hread

/-- The contract for digit strings takes the texts of one or more ASCII digits, reading an operand
takes the same ones, and neither takes any other value. So of all values but integers, the boundary
reads those that the operations read, as the same text. Whatever it reads is a text of digits that
loses nothing by normalization, is read as itself, and is no malformed operand of any operation. -/
theorem contract_agrees (v : Value) :
    (Contract.digitSequence.check v = .ok () ↔ ∃ s, v = .str s ∧ DigitText.IsValid s) ∧
    ((∃ ds, Digits.ofValue v = .ok ds) ↔ ∃ s, v = .str s ∧ DigitText.IsValid s) ∧
    ((∀ n, v ≠ .int n) → ∀ text, (parse v).map Numeral.text = .ok text
      ↔ (Numeral.ofValue v).map Numeral.text = .ok text) ∧
    ∀ text, (parse v).map Numeral.text = .ok text →
      DigitText.IsValid text ∧ DigitText.strip text = text ∧
      (Numeral.ofValue (.str text)).map Numeral.text = .ok text ∧
      ∀ w other, (parse w).map Numeral.text = .ok other →
        Arithmetic.Admits (.str text) (.str other) := by
  have hmap : ∀ {x : Except Error Numeral} {text : String},
      x.map Numeral.text = .ok text ↔ ∃ m, x = .ok m ∧ m.text = text := by
    intro x text
    cases x with
    | error e => exact iff_of_false nofun nofun
    | ok m => simp [Except.map]
  refine ⟨?_, Digits.exists_ofValue_iff, fun h text => ?_, fun text htext => ?_⟩
  · exact Schema.check_eq_ok_iff.trans Contract.kept_digitSequence
  · simp only [hmap, parse_eq_ok_iff h]
  · obtain ⟨m, -, rfl⟩ := hmap.1 htext
    refine ⟨DigitText.isValid_text m.normal.1, ?_, ?_, fun w other hother => ?_⟩
    · rw [Numeral.text, DigitText.strip_text m.normal.1, Numeral.ofDigits_digits, Numeral.text]
    · rw [Numeral.ofValue_numeral]
      rfl
    · obtain ⟨n, -, rfl⟩ := hmap.1 hother
      exact Arithmetic.admits_text m n

end Natural

end Longhand
