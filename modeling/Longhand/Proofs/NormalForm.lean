import Longhand.Proofs.DigitString

/-!
The normal form of a digit string. Stripping any text takes zeros off its front and leaves the rest
as it is, and a text is normal exactly if there is something in it and nothing to take off
(`DigitText.isNormal_iff`). A digit string is normalized to the decimal text of its number, so two
of them have one normal form exactly if they denote one number (`DigitText.normal_form_unique`).
-/

namespace Longhand

section Stripping

variable {α : Type} [DecidableEq α] {zero : α} {xs : List α}

theorem stripLeading_eq_nil_iff : stripLeading zero xs = [] ↔ xs = [] := by
  fun_induction stripLeading zero xs with
  | case1 => exact Iff.rfl
  | case2 x => exact Iff.rfl
  | case3 y rest ih =>
    exact iff_of_false (fun h => List.cons_ne_nil _ _ (ih.1 h)) (List.cons_ne_nil _ _)
  | case4 x y rest hx => exact Iff.rfl

theorem stripLeading_stripLeading :
    stripLeading zero (stripLeading zero xs) = stripLeading zero xs := by
  fun_induction stripLeading zero xs with
  | case1 => rfl
  | case2 x => rfl
  | case3 y rest ih => exact ih
  | case4 x y rest hx => rw [stripLeading, if_neg hx]

/-- Nothing but zeros is dropped, and only from the front. -/
theorem exists_append_stripLeading (zero : α) (xs : List α) :
    ∃ n, xs = List.replicate n zero ++ stripLeading zero xs := by
  fun_induction stripLeading zero xs with
  | case1 => exact ⟨0, rfl⟩
  | case2 x => exact ⟨0, rfl⟩
  | case3 y rest ih =>
    obtain ⟨n, hn⟩ := ih
    exact ⟨n + 1, by rw [List.replicate_succ, List.cons_append, ← hn]⟩
  | case4 x y rest hx => exact ⟨0, rfl⟩

/-- All zeros before a list that is not empty are dropped. -/
theorem stripLeading_replicate_append (hxs : xs ≠ []) (n : Nat) :
    stripLeading zero (List.replicate n zero ++ xs) = stripLeading zero xs := by
  induction n with
  | zero => rfl
  | succ n ih =>
    obtain ⟨y, rest, hrest⟩ :=
      List.exists_cons_of_ne_nil (List.append_ne_nil_of_right_ne_nil (List.replicate n zero) hxs)
    rw [List.replicate_succ, List.cons_append, ← ih, hrest, stripLeading, if_pos rfl]

theorem length_stripLeading_le (zero : α) (xs : List α) :
    (stripLeading zero xs).length ≤ xs.length := by
  obtain ⟨n, hn⟩ := exists_append_stripLeading zero xs
  have hlength := congrArg List.length hn
  rw [List.length_append, List.length_replicate] at hlength
  omega

/-- Of two or more items all stay exactly if the first one is no zero. -/
theorem stripLeading_cons_cons_eq_iff {x y : α} :
    stripLeading zero (x :: y :: xs) = x :: y :: xs ↔ x ≠ zero := by
  rw [stripLeading]
  split
  · rename_i hx
    refine iff_of_false (fun h => ?_) (not_not_intro hx)
    have hle := length_stripLeading_le zero (y :: xs)
    rw [h, List.length_cons] at hle
    omega
  · rename_i hx
    exact iff_of_true rfl hx

end Stripping

namespace DigitText

variable {s : String}

theorem toList_strip (s : String) : (strip s).toList = stripLeading '0' s.toList :=
  String.toList_ofList

theorem strip_eq_empty_iff : strip s = "" ↔ s = "" := by
  rw [← String.toList_eq_nil_iff, toList_strip, stripLeading_eq_nil_iff,
    String.toList_eq_nil_iff]

theorem strip_strip (s : String) : strip (strip s) = strip s := by
  rw [strip, toList_strip, stripLeading_stripLeading]
  rfl

/-- What stripping takes off is a run of zeros before the rest. -/
theorem exists_append_strip (s : String) :
    ∃ zeros, s = String.ofList (List.replicate zeros '0') ++ strip s := by
  obtain ⟨zeros, hzeros⟩ := exists_append_stripLeading '0' s.toList
  refine ⟨zeros, String.toList_inj.1 ?_⟩
  rw [String.toList_append, String.toList_ofList, toList_strip]
  exact hzeros

theorem length_strip_le (s : String) : (strip s).length ≤ s.length := by
  rw [← String.length_toList, ← String.length_toList, toList_strip]
  exact length_stripLeading_le '0' s.toList

/-- A text is normal exactly if it is not empty and loses nothing by stripping. -/
theorem isNormal_iff : isNormal s = true ↔ s ≠ "" ∧ strip s = s := by
  have hempty : s ≠ "" ↔ s.toList ≠ [] := not_congr String.toList_eq_nil_iff.symm
  have hstrip : strip s = s ↔ stripLeading '0' s.toList = s.toList := by
    rw [← toList_strip]
    exact String.toList_inj.symm
  rw [hempty, hstrip, isNormal]
  generalize s.toList = cs
  match cs with
  | [] => exact iff_of_false nofun fun h => h.1 rfl
  | [c] => exact iff_of_true (Bool.or_true _) ⟨nofun, rfl⟩
  | c :: d :: rest =>
    show (decide (c ≠ '0') || false) = true ↔ _
    rw [stripLeading_cons_cons_eq_iff, Bool.or_false, decide_eq_true_eq]
    exact (and_iff_right (List.cons_ne_nil _ _)).symm

theorem strip_numeral (n : Numeral) : strip n.text = n.text := by
  rw [Numeral.text, strip_text n.normal.1, Numeral.ofDigits_digits, Numeral.text]

theorem isNormal_text (n : Numeral) : isNormal n.text = true :=
  isNormal_iff.2 ⟨fun h => n.normal.1 (Digits.text_injective h), strip_numeral n⟩

theorem isNormal_strip (h : s ≠ "") : isNormal (strip s) = true :=
  isNormal_iff.2 ⟨mt strip_eq_empty_iff.1 h, strip_strip s⟩

/-- Stripping a digit string leaves a digit string. -/
theorem isValid_strip (h : IsValid s) : IsValid (strip s) := by
  refine ⟨mt strip_eq_empty_iff.1 h.1, fun c hc => h.2 c ?_⟩
  obtain ⟨zeros, hzeros⟩ := exists_append_strip s
  rw [hzeros, String.toList_append]
  exact List.mem_append_right _ hc

namespace IsValid

theorem strip_eq_repr (h : IsValid s) : strip s = Nat.repr (value s) := by
  obtain ⟨n, -, hvalue, htext⟩ := h.exists_numeral
  rw [← htext, Numeral.text_eq_repr, hvalue]

theorem value_strip (h : IsValid s) : value (strip s) = value s := by
  rw [h.strip_eq_repr, value_repr]

/-- A digit string is read as the text that stripping leaves. -/
theorem map_text_ofValue (h : IsValid s) :
    (Numeral.ofValue (.str s)).map Numeral.text = .ok (strip s) := by
  obtain ⟨n, hread, -, htext⟩ := h.exists_numeral
  rw [hread, ← htext]
  rfl

end IsValid

/-- Stripping any text twice is stripping it once. It takes zeros off the front and nothing else,
and a text is normal exactly if it is not empty and stripping leaves it as it is. The normal form of
a digit string is what stripping leaves: a normal digit string that denotes the same number. Two
digit strings have the same normal form exactly if they denote the same number. -/
theorem normal_form_unique (u : String) {s t : String} (hs : IsValid s) (ht : IsValid t) :
    (strip (strip u) = strip u ∧
      (∃ zeros, u = String.ofList (List.replicate zeros '0') ++ strip u) ∧
      (isNormal u = true ↔ u ≠ "" ∧ strip u = u)) ∧
    ((Numeral.ofValue (.str s)).map Numeral.text = .ok (strip s) ∧
      isNormal (strip s) = true ∧ IsValid (strip s) ∧ value (strip s) = value s) ∧
    ((Numeral.ofValue (.str s)).map Numeral.text = (Numeral.ofValue (.str t)).map Numeral.text
      ↔ value s = value t) := by
  refine ⟨⟨strip_strip u, exists_append_strip u, isNormal_iff⟩,
    ⟨hs.map_text_ofValue, isNormal_strip hs.1, isValid_strip hs, hs.value_strip⟩, ?_⟩
  rw [hs.map_text_ofValue, ht.map_text_ofValue, Except.ok.injEq]
  constructor
  · intro h
    rw [← hs.value_strip, ← ht.value_strip, h]
  · intro h
    rw [hs.strip_eq_repr, ht.strip_eq_repr, h]

/-- A text that is no digit string is stripped like any other. All zeros are one zero. -/
theorem normal_form_unique_zeros :
    IsValid "000" ∧ IsValid "0" ∧ strip "00-7" = "-7" ∧
    strip (strip "00-7") = strip "00-7" ∧
    (isNormal "00-7" = true ↔ "00-7" ≠ "" ∧ strip "00-7" = "00-7") ∧
    (Numeral.ofValue (.str "000")).map Numeral.text = .ok (strip "000") ∧ strip "000" = "0" ∧
    (Numeral.ofValue (.str "000")).map Numeral.text
      = (Numeral.ofValue (.str "0")).map Numeral.text := by
  have hzeros : IsValid "000" := by decide
  have hzero : IsValid "0" := by decide
  obtain ⟨⟨htwice, -, hnormal⟩, ⟨hread, -⟩, hsame⟩ := normal_form_unique "00-7" hzeros hzero
  exact ⟨hzeros, hzero, by decide, htwice, hnormal, hread, by decide, hsame.2 (by decide)⟩

end DigitText

end Longhand
