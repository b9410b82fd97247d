import Longhand.Arithmetic.Operand
import Longhand.Proofs.Outcome

/-!
Digit strings: texts of one or more ASCII digits, leading zeros allowed (`DigitText.IsValid`).
Reading one gives the numeral of the number that its digits denote, stripping one gives the text
of that numeral, and the text of a numeral is the standard decimal text of its value
(`Numeral.text_eq_repr`).
-/

namespace Longhand

namespace Digit

theorem toChar_eq_digitChar (d : Digit) : d.toChar = Nat.digitChar d.val := by
  revert d; decide

theorem toChar_zero : Digit.zero.toChar = '0' := rfl

theorem toChar_injective : Function.Injective Digit.toChar := by
  intro d e h
  have hd := congrArg ofChar? h
  rw [ofChar?_toChar, ofChar?_toChar] at hd
  exact Option.some.inj hd

theorem isDigit_toChar (d : Digit) : d.toChar.isDigit = true := by
  revert d; decide

theorem ofChar?_eq_none {c : Char} (h : c.isDigit = false) : ofChar? c = none := by
  cases hd : ofChar? c with
  | none => rfl
  | some d =>
    rw [← toChar_of_ofChar? hd, isDigit_toChar] at h
    cases h

theorem exists_of_isDigit {c : Char} (h : c.isDigit = true) : ∃ d : Digit, d.toChar = c := by
  have hc : 48 ≤ c.toNat ∧ c.toNat < 58 := by
    simp only [Char.isDigit, Bool.and_eq_true, decide_eq_true_eq] at h
    have h0 : (48 : UInt32).toNat ≤ c.val.toNat := UInt32.le_iff_toNat_le.1 h.1
    have h9 : c.val.toNat ≤ (57 : UInt32).toNat := UInt32.le_iff_toNat_le.1 h.2
    simp only [UInt32.reduceToNat] at h0 h9
    exact ⟨h0, Nat.lt_succ_of_le h9⟩
  exact ⟨⟨c.toNat - 48, by omega⟩, toChar_of_ofChar? (by rw [ofChar?, dif_pos hc])⟩

end Digit

/-- Stripping does not depend on how the items are written. -/
theorem stripLeading_map {α β : Type} [DecidableEq α] [DecidableEq β] {f : α → β}
    (hf : Function.Injective f) (zero : α) (xs : List α) :
    stripLeading (f zero) (xs.map f) = (stripLeading zero xs).map f := by
  fun_induction stripLeading zero xs with
  | case1 => rfl
  | case2 x => rfl
  | case3 y rest ih =>
    rw [List.map_cons, List.map_cons, stripLeading, if_pos rfl]
    exact ih
  | case4 x y rest hx =>
    rw [List.map_cons, List.map_cons, stripLeading, if_neg fun h => hx (hf h)]

namespace Digits

@[simp] theorem toList_text (ds : List Digit) : (text ds).toList = ds.map Digit.toChar := by
  simp [text]

theorem text_injective {xs ys : List Digit} (h : text xs = text ys) : xs = ys := by
  have h' := congrArg String.toList h
  rw [toList_text, toList_text] at h'
  exact (List.map_inj_right fun _ _ h => Digit.toChar_injective h).1 h'

theorem length_text (ds : List Digit) : (text ds).length = ds.length := by
  rw [← String.length_toList, toList_text, List.length_map]

theorem headD_map_toChar (ds : List Digit) :
    (ds.map Digit.toChar).headD '0' = (ds.headD .zero).toChar := by
  cases ds <;> rfl

theorem ofChars_map_toChar (position : Nat) (ds : List Digit) :
    ofChars position (ds.map Digit.toChar) = .ok ds := by
  induction ds generalizing position with
  | nil => rfl
  | cons d ds ih =>
    rw [List.map_cons, ofChars, Digit.ofChar?_toChar]
    simp only [ih]
    rfl

/-- Reading gives back the digits that a text was made of. -/
theorem ofValue_text {ds : List Digit} (h : ds ≠ []) : ofValue (.str (text ds)) = .ok ds := by
  have hne : ¬(text ds).toList = [] := by
    rw [toList_text]
    exact mt List.map_eq_nil_iff.1 h
  rw [ofValue, if_neg hne, toList_text]
  exact ofChars_map_toChar 0 ds

theorem ne_nil_of_ofValue {v : Value} {ds : List Digit} (h : ofValue v = .ok ds) : ds ≠ [] := by
  rintro rfl
  cases v with
  | str s =>
    rw [ofValue] at h
    split at h
    · cases h
    · rename_i hs
      obtain ⟨c, cs, hcs⟩ := List.exists_cons_of_ne_nil hs
      rw [hcs, ofChars] at h
      split at h
      · obtain ⟨rest, -, h⟩ := exists_of_bind_ok h
        cases h
      · cases h
  | _ => cases h

theorem map_toChar_decimal (n : Nat) (acc : List Digit) :
    (decimal n acc).map Digit.toChar = Nat.toDigits 10 n ++ acc.map Digit.toChar := by
  fun_induction decimal n acc with
  | case1 n acc h =>
    rw [Nat.toDigits_of_lt_base h, List.map_cons, Digit.toChar_eq_digitChar]
    rfl
  | case2 n acc h ih =>
    rw [ih, Nat.toDigits_of_base_le (by decide) (Nat.le_of_not_lt h), List.map_cons,
      Digit.toChar_eq_digitChar, List.append_assoc]
    rfl

end Digits

namespace Numeral

/-- A numeral is written as its value is. -/
theorem text_eq_repr (n : Numeral) : n.text = Nat.repr n.value := by
  have h := Digits.map_toChar_decimal n.value []
  rw [List.map_nil, List.append_nil] at h
  apply String.toList_inj.1
  rw [Nat.toList_repr, ← h, text, Digits.toList_text]
  exact congrArg (fun m : Numeral => m.digits.map Digit.toChar) (ofNat_value n).symm

theorem text_ofNat (n : Nat) : (ofNat n).text = Nat.repr n := by rw [text_eq_repr, value_ofNat]

theorem text_zero : zero.text = "0" := rfl

theorem text_injective {a b : Numeral} (h : a.text = b.text) : a = b := by
  cases a
  cases b
  cases Digits.text_injective h
  rfl

theorem text_eq_zero_iff {n : Numeral} : n.text = "0" ↔ n = zero := by
  rw [← text_zero]
  exact ⟨text_injective, congrArg text⟩

theorem ne_zero_of_value_pos {n : Numeral} (h : 0 < n.value) : n ≠ zero := by
  rintro rfl
  exact Nat.lt_irrefl 0 h

@[simp] theorem length_text (n : Numeral) : n.text.length = n.length := Digits.length_text n.digits

theorem digits_ofDigits {ds : List Digit} (h : ds ≠ []) :
    (ofDigits ds).digits = stripLeading .zero ds := by
  rw [ofDigits, dif_neg h]

theorem ofDigits_digits (n : Numeral) : ofDigits n.digits = n := ext_value (value_ofDigits _)

theorem ofValue_text {ds : List Digit} (h : ds ≠ []) :
    ofValue (.str (Digits.text ds)) = .ok (ofDigits ds) := by
  rw [ofValue, Digits.ofValue_text h]
  rfl

theorem ofValue_numeral (n : Numeral) : ofValue (.str n.text) = .ok n := by
  rw [text, ofValue_text n.normal.1, ofDigits_digits]

end Numeral

namespace DigitText

/-- One or more ASCII digits and nothing else. -/
def IsValid (s : String) : Prop := s ≠ "" ∧ ∀ c ∈ s.toList, c.isDigit = true

instance (s : String) : Decidable (IsValid s) :=
  @instDecidableAnd _ _ _ (List.decidableBAll (fun c => c.isDigit = true) s.toList)

/-- The number that the digits of a text denote. -/
def value (s : String) : Nat := Nat.ofDigitChars 10 s.toList 0

theorem value_text (ds : List Digit) : value (Digits.text ds) = Digits.value ds := by
  suffices h : ∀ n, Nat.ofDigitChars 10 (ds.map Digit.toChar) n
      = ds.foldl (fun n d => 10 * n + d.val) n by
    rw [value, Digits.toList_text, h 0, Digits.value]
  intro n
  induction ds generalizing n with
  | nil => rfl
  | cons d ds ih =>
    rw [List.map_cons, Digit.toChar_eq_digitChar,
      Nat.ofDigitChars_cons_digitChar_of_lt_ten d.isLt, ih]
    rfl

theorem value_repr (n : Nat) : value (Nat.repr n) = n := by
  rw [value, Nat.toList_repr, Nat.ofDigitChars_ten_toDigits]

/-- A valid text is the text of its digits. -/
theorem IsValid.exists_digits {s : String} (h : IsValid s) : ∃ ds ≠ [], s = Digits.text ds := by
  obtain ⟨hne, hall⟩ := h
  have hds : ∃ ds : List Digit, ds.map Digit.toChar = s.toList := by
    generalize s.toList = cs at hall
    induction cs with
    | nil => exact ⟨[], rfl⟩
    | cons c cs ih =>
      obtain ⟨ds, hds⟩ := ih fun x hx => hall x (List.mem_cons_of_mem c hx)
      obtain ⟨d, hd⟩ := Digit.exists_of_isDigit (hall c List.mem_cons_self)
      exact ⟨d :: ds, by rw [List.map_cons, hd, hds]⟩
  obtain ⟨ds, hds⟩ := hds
  have hs : s = Digits.text ds := String.toList_inj.1 (by rw [Digits.toList_text, hds])
  refine ⟨ds, ?_, hs⟩
  rintro rfl
  exact hne hs

theorem isValid_text {ds : List Digit} (h : ds ≠ []) : IsValid (Digits.text ds) := by
  refine ⟨fun hs => h (Digits.text_injective hs), fun c hc => ?_⟩
  rw [Digits.toList_text] at hc
  obtain ⟨d, -, rfl⟩ := List.mem_map.1 hc
  exact d.isDigit_toChar

theorem isValid_repr (n : Nat) : IsValid (Nat.repr n) := by
  have h := isValid_text (Numeral.ofNat n).normal.1
  rwa [← Numeral.text, Numeral.text_ofNat] at h

/-- A stripped text is the text of a numeral. -/
theorem strip_text {ds : List Digit} (h : ds ≠ []) :
    strip (Digits.text ds) = (Numeral.ofDigits ds).text := by
  rw [strip, Digits.toList_text, ← Digit.toChar_zero,
    stripLeading_map Digit.toChar_injective, Numeral.text, Numeral.digits_ofDigits h]
  rfl

/-- Reading a valid text gives the numeral of the number it denotes, and this numeral is written
as the text without its leading zeros. -/
theorem IsValid.exists_numeral {s : String} (h : IsValid s) :
    ∃ n : Numeral, Numeral.ofValue (.str s) = .ok n ∧ n.value = value s ∧ n.text = strip s := by
  obtain ⟨ds, hne, rfl⟩ := h.exists_digits
  exact ⟨Numeral.ofDigits ds, Numeral.ofValue_text hne,
    (Numeral.value_ofDigits ds).trans (value_text ds).symm, (strip_text hne).symm⟩

theorem IsValid.ofValue_eq {s : String} (h : IsValid s) :
    Numeral.ofValue (.str s) = .ok (.ofNat (value s)) := by
  obtain ⟨n, hn, hvalue, -⟩ := h.exists_numeral
  rw [hn, ← hvalue, Numeral.ofNat_value]

end DigitText

end Longhand
