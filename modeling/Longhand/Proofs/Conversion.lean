import Longhand.Proofs.NormalForm
import Longhand.Proofs.Outcome

/-!
Conversion between natural numbers and digit strings. Within the conversion limit both directions
undo each other (`DigitText.conversions_invert`). On the way to a number the limit is on the
characters of a text (`DigitText.IsValid.toNat_eq`), and on the way back on the number itself
(`Numeral.ofInteger_natCast`). A normal text is within the one limit exactly if its number is within
the other, but zeros before it count as well (`DigitText.padding_counts`).
-/

namespace Longhand

namespace Numeral

/-- So many digits are enough exactly for the numbers below that power of ten. -/
theorem length_le_iff {n : Numeral} {k : Nat} (hk : 0 < k) :
    n.length ≤ k ↔ n.value < tenPow k := by
  constructor
  · intro hle
    exact Nat.lt_of_lt_of_le (Digits.value_lt n.digits) (tenPow_le hle)
  · intro hlt
    refine Nat.le_of_not_lt fun hlong => ?_
    have hle : tenPow (n.length - 1) ≤ n.value :=
      Digits.pow_le_value n.normal (Nat.lt_of_le_of_lt hk hlong)
    have hpow : tenPow k ≤ tenPow (n.length - 1) := tenPow_le (by omega)
    omega

theorem ofInteger_natCast (n : Nat) :
    ofInteger (.int n) = if n < tenPow digitLimit then .ok (ofNat n)
      else .error (.engine (.malformed (.unprintable .printing))) := by
  rw [ofInteger, if_neg (Int.not_lt.2 (Int.natCast_nonneg n)), Int.toNat_natCast]

/-- The text of a natural number is within the limit exactly if the number is. -/
theorem length_repr_le_iff {n : Nat} :
    (Nat.repr n).length ≤ digitLimit ↔ n < tenPow digitLimit := by
  rw [← text_ofNat, length_text, length_le_iff (by decide), value_ofNat]

end Numeral

namespace DigitText

variable {s : String}

/-- A digit string of characters within the limit is converted to its number. -/
theorem IsValid.toNat_eq (h : IsValid s) :
    Digits.toNat (.str s) = if s.length ≤ digitLimit then .ok (value s)
      else .error (.engine (.malformed (.unreadable (.reading s.length)))) := by
  obtain ⟨ds, hne, rfl⟩ := h.exists_digits
  rw [Digits.toNat, Digits.ofValue_text hne, Digits.length_text, value_text]
  rfl

theorem IsValid.length_strip_le_iff (h : IsValid s) :
    (strip s).length ≤ digitLimit ↔ value s < tenPow digitLimit := by
  rw [h.strip_eq_repr, Numeral.length_repr_le_iff]

theorem IsValid.toNat_of_le (h : IsValid s) (hlen : s.length ≤ digitLimit) :
    Digits.toNat (.str s) = .ok (value s) := by
  rw [h.toNat_eq, if_pos hlen]

theorem IsValid.fails_toNat (h : IsValid s) (hlong : digitLimit < s.length) :
    Fails (Digits.toNat (.str s)) .malformedInput
      ("Digit sequence exceeds the host conversion limit: "
        ++ (LimitExceeded.reading s.length).message) := by
  rw [h.toNat_eq, if_neg (Nat.not_le.2 hlong)]
  exact fails_engine (.malformed (.unreadable (.reading s.length)))

/-- Without its leading zeros a digit string is converted if its number is below the limit. -/
theorem IsValid.toNat_strip (h : IsValid s) (hvalue : value s < tenPow digitLimit) :
    Digits.toNat (.str (strip s)) = .ok (value s) := by
  rw [(isValid_strip h).toNat_of_le (h.length_strip_le_iff.2 hvalue), h.value_strip]

/-- A number below the limit is converted to a normal digit string that denotes it, and this back to
the number. A digit string within the limit is converted to the number it denotes, and this back to
the normal form of the digit string. Every other number is refused; these are the numbers with
decimal texts beyond the limit. -/
theorem conversions_invert (n : Nat) {s : String} (hs : IsValid s) :
    (n < tenPow digitLimit →
      ∃ t, (Numeral.ofInteger (.int n)).map Numeral.text = .ok t ∧
        IsValid t ∧ isNormal t = true ∧ value t = n ∧ Digits.toNat (.str t) = .ok n) ∧
    (s.length ≤ digitLimit →
      Digits.toNat (.str s) = .ok (value s) ∧
      (do Numeral.ofInteger (.int (← Digits.toNat (.str s)))).map Numeral.text
        = (Numeral.ofValue (.str s)).map Numeral.text) ∧
    (tenPow digitLimit ≤ n →
      Fails (Numeral.ofInteger (.int n)) .malformedInput
        ("Integer exceeds the host conversion limit, pass decimal text instead: "
          ++ LimitExceeded.printing.message)) ∧
    ((Nat.repr n).length ≤ digitLimit ↔ n < tenPow digitLimit) := by
  refine ⟨fun hn => ?_, fun hlen => ?_, fun hn => ?_, Numeral.length_repr_le_iff⟩
  · refine ⟨Nat.repr n, ?_, isValid_repr n, ?_, value_repr n, ?_⟩
    · rw [Numeral.ofInteger_natCast, if_pos hn, ← Numeral.text_ofNat]
      rfl
    · rw [← Numeral.text_ofNat]
      exact isNormal_text (.ofNat n)
    · rw [(isValid_repr n).toNat_of_le (Numeral.length_repr_le_iff.2 hn), value_repr]
  · have hread := hs.toNat_of_le hlen
    have hlimit : value s < tenPow digitLimit :=
      hs.length_strip_le_iff.1 (Nat.le_trans (length_strip_le s) hlen)
    refine ⟨hread, ?_⟩
    rw [hread, hs.ofValue_eq]
    simp only [bind, Except.bind, Numeral.ofInteger_natCast, if_pos hlimit]
  · rw [Numeral.ofInteger_natCast, if_neg (Nat.not_lt.2 hn)]
    exact fails_engine (.malformed (.unprintable .printing))

/-- Zeros before a number do not matter on the way back, and the first number beyond the limit is
refused. -/
theorem conversions_invert_padded :
    IsValid "0120" ∧ "0120".length ≤ digitLimit ∧ Digits.toNat (.str "0120") = .ok 120 ∧
    (do Numeral.ofInteger (.int (← Digits.toNat (.str "0120")))).map Numeral.text
      = (Numeral.ofValue (.str "0120")).map Numeral.text ∧
    120 < tenPow digitLimit ∧
    (∃ t, (Numeral.ofInteger (.int 120)).map Numeral.text = .ok t ∧
      IsValid t ∧ isNormal t = true ∧ value t = 120 ∧ Digits.toNat (.str t) = .ok 120) ∧
    Fails (Numeral.ofInteger (.int (tenPow digitLimit))) .malformedInput
      ("Integer exceeds the host conversion limit, pass decimal text instead: "
        ++ LimitExceeded.printing.message) := by
  have hvalid : IsValid "0120" := by decide
  have hlen : "0120".length ≤ digitLimit := by decide
  have hlimit : 120 < tenPow digitLimit := by
    have hten : tenPow 3 ≤ tenPow digitLimit := tenPow_le (by decide)
    exact Nat.lt_of_lt_of_le (by decide) hten
  obtain ⟨hnumber, htext, -, -⟩ := conversions_invert 120 hvalid
  obtain ⟨-, -, hbeyond, -⟩ := conversions_invert (tenPow digitLimit) hvalid
  exact ⟨hvalid, hlen, (htext hlen).1, (htext hlen).2, hlimit, hnumber hlimit,
    hbeyond (Nat.le_refl _)⟩

/-- Two conversions give the same number, or both texts are malformed. -/
def SameReading (x y : Except Error Nat) : Prop :=
  (∃ n, x = .ok n ∧ y = .ok n) ∨
    ∃ why other, Fails x .malformedInput why ∧ Fails y .malformedInput other

/-- Leading zeros count towards the conversion limit. A digit string of characters within the limit
is converted to the number it denotes, and a longer one is malformed. Without its leading zeros it
is converted whenever the number is below the limit. So a digit string and its normal form are
converted alike exactly if the digit string is short enough or the number is too large anyway. -/
theorem padding_counts {s : String} (hs : IsValid s) :
    (s.length ≤ digitLimit → Digits.toNat (.str s) = .ok (value s)) ∧
    (digitLimit < s.length →
      Fails (Digits.toNat (.str s)) .malformedInput
        ("Digit sequence exceeds the host conversion limit: "
          ++ (LimitExceeded.reading s.length).message)) ∧
    (value s < tenPow digitLimit → Digits.toNat (.str (strip s)) = .ok (value s)) ∧
    (SameReading (Digits.toNat (.str s)) (Digits.toNat (.str (strip s)))
      ↔ s.length ≤ digitLimit ∨ tenPow digitLimit ≤ value s) := by
  refine ⟨hs.toNat_of_le, hs.fails_toNat, hs.toNat_strip, fun hsame => ?_, fun h => ?_⟩
  · refine Decidable.byContradiction fun hapart => ?_
    obtain ⟨hlong, hvalue⟩ := not_or.1 hapart
    rcases hsame with ⟨n, hn, -⟩ | ⟨_, _, -, hfails⟩
    · exact (hs.fails_toNat (Nat.lt_of_not_le hlong)).ne_ok n hn
    · exact hfails.ne_ok (value s) (hs.toNat_strip (Nat.lt_of_not_le hvalue))
  · -- Beyond the limit on numbers the text is too long even without its zeros.
    by_cases hvalue : value s < tenPow digitLimit
    · have hlen := h.resolve_right (Nat.not_le.2 hvalue)
      exact .inl ⟨value s, hs.toNat_of_le hlen, hs.toNat_strip hvalue⟩
    · have hlong : digitLimit < (strip s).length :=
        Nat.lt_of_not_le (mt hs.length_strip_le_iff.1 hvalue)
      have hlonger := Nat.lt_of_lt_of_le hlong (length_strip_le s)
      exact .inr ⟨_, _, hs.fails_toNat hlonger, (isValid_strip hs).fails_toNat hlong⟩

/-- So many zeros before a seven that one character is too many. -/
def paddedSeven : String := String.ofList (List.replicate digitLimit '0' ++ ['7'])

theorem isValid_paddedSeven : IsValid paddedSeven := by
  refine ⟨fun h => ?_, fun c hc => ?_⟩
  · have hempty := congrArg String.toList h
    rw [paddedSeven, String.toList_ofList] at hempty
    exact List.append_ne_nil_of_right_ne_nil _ (List.cons_ne_nil '7' []) hempty
  · rw [paddedSeven, String.toList_ofList, List.mem_append, List.mem_replicate,
      List.mem_singleton] at hc
    rcases hc with ⟨-, rfl⟩ | rfl <;> rfl

theorem length_paddedSeven : paddedSeven.length = digitLimit + 1 := by
  rw [paddedSeven, String.length_ofList, List.length_append, List.length_replicate]
  rfl

theorem strip_paddedSeven : strip paddedSeven = "7" := by
  rw [strip, paddedSeven, String.toList_ofList,
    stripLeading_replicate_append (List.cons_ne_nil '7' [])]
  rfl

/-- A text that is refused, though the digit that is left of it is not. -/
theorem padding_counts_seven :
    IsValid paddedSeven ∧ value paddedSeven = 7 ∧ strip paddedSeven = "7" ∧
    Fails (Digits.toNat (.str paddedSeven)) .malformedInput
      ("Digit sequence exceeds the host conversion limit: "
        ++ (LimitExceeded.reading 4301).message) ∧
    Digits.toNat (.str "7") = .ok 7 ∧
    ¬SameReading (Digits.toNat (.str paddedSeven)) (Digits.toNat (.str "7")) := by
  have hvalue : value paddedSeven = 7 := by
    rw [← isValid_paddedSeven.value_strip, strip_paddedSeven]
    decide
  have hlong : digitLimit < paddedSeven.length :=
    Nat.lt_of_lt_of_eq (Nat.lt_succ_self digitLimit) length_paddedSeven.symm
  have hlimit : 7 < tenPow digitLimit := by
    have hten : tenPow 1 ≤ tenPow digitLimit := tenPow_le (by decide)
    exact Nat.lt_of_lt_of_le (by decide) hten
  obtain ⟨-, hrefused, hread, hsame⟩ := padding_counts isValid_paddedSeven
  rw [strip_paddedSeven, hvalue] at hread hsame
  refine ⟨isValid_paddedSeven, hvalue, strip_paddedSeven, ?_, hread hlimit, fun h => ?_⟩
  · rw [length_paddedSeven] at hrefused
    exact hrefused (Nat.lt_succ_self digitLimit)
  · rcases hsame.1 h with hshort | hlarge
    · exact Nat.not_le.2 hlong hshort
    · exact Nat.not_le.2 hlimit hlarge

end DigitText

end Longhand
