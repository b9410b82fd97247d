import Longhand.Proofs.Order
import Longhand.Proofs.Product
import Longhand.Proofs.Remainder

/-!
Laws between the operations. A comparison tells what a subtraction comes to, and so makes the
subtractions safe that it guards (`Arithmetic.comparison_laws`). Sum and difference undo each other,
a product with a sum is a sum of products, and a remainder is what is left of a multiple and a
smaller number (`Arithmetic.inverse_laws`). Every call may have settings of its own, since on
numerals all of them compute one function of the values.
-/

namespace Longhand

namespace Numeral

theorem subtract_add (s t : DigitStrategy) (a b : Numeral) : (a.add s b).subtract t b = .ok a := by
  rw [subtract_eq, value_add, if_pos (Nat.le_add_left _ _), Nat.add_sub_cancel, ofNat_value]

theorem add_subtract (s t : DigitStrategy) {a b : Numeral} (h : b.value ≤ a.value) :
    ∃ d, a.subtract s b = .ok d ∧ d.add t b = a := by
  refine ⟨ofNat (a.value - b.value), ?_, ?_⟩
  · rw [subtract_eq, if_pos h]
  · rw [add_eq, value_ofNat, Nat.sub_add_cancel h, ofNat_value]

theorem multiply_add (s t u v w : DigitStrategy) (a b c : Numeral) :
    a.multiply s (b.add t c) = (a.multiply u b).add v (a.multiply w c) := by
  rw [multiply_eq, add_eq v, value_add, value_multiply, value_multiply, Nat.mul_add]

/-- A number below the divisor is the remainder of it and any multiple of the divisor. Repeated
subtraction takes the divisor away as often as the multiple says, so the cap must not be below. -/
theorem outcome_modulo_add_multiply (s t : DigitStrategy) {settings : Settings} {b q r : Numeral}
    (h : r.value < b.value)
    (hcap : settings.remainder = .shiftSubtract ∨ ∀ cap ∈ settings.cap, q.value ≤ cap) :
    (modulo settings ((q.multiply s b).add t r) b).outcome = .ok r := by
  have hpos : 0 < b.value := Nat.zero_lt_of_lt h
  have hb := ne_zero_of_value_pos hpos
  have hvalue : ((q.multiply s b).add t r).value = r.value + b.value * q.value := by
    rw [value_add, value_multiply, Nat.add_comm, Nat.mul_comm]
  obtain ⟨hdiv, hmod⟩ := (Nat.div_mod_unique hpos).2 ⟨hvalue.symm, h⟩
  cases hs : settings.remainder with
  | shiftSubtract => rw [modulo_shift hs _ hb, hmod, ofNat_value]
  | repeatedSubtraction =>
    have hle : ∀ cap ∈ settings.cap, q.value ≤ cap := hcap.resolve_left (by rw [hs]; nofun)
    rw [outcome_modulo_of_le hs hb (hdiv ▸ hle), hmod, ofNat_value]

end Numeral

namespace Arithmetic

open DigitText (IsValid value strip)

/-- An operation on texts that gives a text, which another operation can take. -/
def onTexts (operation : Value → Value → Except Error Numeral) (a b : String) :
    Except Error String :=
  (operation (.str a) (.str b)).map Numeral.text

/-- The remainder without the log. -/
def remainder (settings : Settings) (a b : Value) : Except Error Numeral :=
  (modulo settings a b).outcome

section Reading

variable (settings : Settings) {a b : String} {m n : Numeral}
  (ha : Numeral.ofValue (.str a) = .ok m) (hb : Numeral.ofValue (.str b) = .ok n)

include ha hb

theorem compare_of_ofValue :
    compare (.str a) (.str b) = .ok (Ord.compare m.value n.value) := by
  rw [compare, operands_of_ofValue ha hb, ← Numeral.compare_eq]
  rfl

theorem add_onTexts :
    onTexts (add settings) a b = .ok (m.add settings.digits n).text := by
  rw [onTexts, add, operands_of_ofValue ha hb]
  rfl

theorem subtract_onTexts :
    onTexts (subtract settings) a b = (m.subtract settings.digits n).map Numeral.text := by
  rw [onTexts, subtract, operands_of_ofValue ha hb]
  rfl

theorem multiply_onTexts :
    onTexts (multiply settings) a b = .ok (m.multiply settings.digits n).text := by
  rw [onTexts, multiply, operands_of_ofValue ha hb]
  rfl

theorem remainder_onTexts :
    onTexts (remainder settings) a b = (Numeral.modulo settings m n).outcome.map Numeral.text := by
  rw [onTexts, remainder, modulo_of_ofValue settings ha hb]

end Reading

/-- A comparison of digit strings gives the order of their numbers, and so does the comparison of
the texts by length and then as words. The first number is the smaller one exactly if the
subtraction is refused, and both are equal exactly if the difference is zero. If the first one is
not the smaller, there is a difference. So the loop of long division, which takes the divisor away
while a comparison allows it, never has a subtraction refused, however many rounds it is given. -/
theorem comparison_laws (settings : Settings) {a b : String} (ha : IsValid a) (hb : IsValid b) :
    compare (.str a) (.str b) = .ok (Ord.compare (value a) (value b)) ∧
    Checked.compare (.str a) (.str b) = .ok (Ord.compare (value a) (value b)) ∧
    (compare (.str a) (.str b) = .ok .lt ↔
      Fails (onTexts (subtract settings) a b) .negativeResult
        ("Cannot subtract " ++ strip b ++ " from smaller number " ++ strip a)) ∧
    (compare (.str a) (.str b) = .ok .eq ↔ onTexts (subtract settings) a b = .ok "0") ∧
    ((compare (.str a) (.str b)).map Ordering.isGE = .ok true →
      ∃ difference, onTexts (subtract settings) a b = .ok difference ∧
        Checked.subtract settings (.str a) (.str b) = .ok difference) ∧
    ∀ rounds e, Checked.reduce settings (strip b) rounds (strip a) ≠ some (.error e) := by
  obtain ⟨m, hm, hma, hmt⟩ := ha.exists_numeral
  obtain ⟨n, hn, hnb, hnt⟩ := hb.exists_numeral
  have hcompare := compare_of_ofValue hm hn
  have hsubtract := subtract_onTexts settings hm hn
  rw [Checked.compare_eq, Checked.subtract_eq, ← onTexts, ← hma, ← hnb, ← hmt, ← hnt]
  refine ⟨hcompare, hcompare, ?_, ?_, fun hge => ?_,
    fun rounds => Checked.reduce_ne_error settings n rounds m⟩
  · rw [hcompare, hsubtract, Except.ok.injEq, Nat.compare_eq_lt, fails_map,
      Numeral.fails_subtract_iff]
  · rw [hcompare, hsubtract, Except.ok.injEq, Nat.compare_eq_eq,
      Numeral.subtract_text_eq_zero_iff]
  · rw [hcompare] at hge
    have hle := Nat.isGE_compare.1 (Except.ok.inj hge)
    rw [hsubtract, Numeral.subtract_eq, if_pos hle]
    exact ⟨_, rfl, rfl⟩

/-- The smaller number is the one with fewer digits, though as a word its text is the larger. -/
theorem comparison_laws_by_length :
    IsValid "0100" ∧ IsValid "99" ∧
    compare (.str "0100") (.str "99") = .ok .gt ∧
    (∃ difference, onTexts (subtract { digits := .counting }) "0100" "99" = .ok difference ∧
      Checked.subtract { digits := .counting } (.str "0100") (.str "99") = .ok difference) ∧
    Fails (onTexts (subtract {}) "99" "0100") .negativeResult
      "Cannot subtract 100 from smaller number 99" ∧
    compare (.str "099") (.str "99") = .ok .eq ∧ onTexts (subtract {}) "099" "99" = .ok "0" := by
  have ha : IsValid "0100" := by decide
  have hb : IsValid "99" := by decide
  obtain ⟨hmore, -, -, -, hsafe, -⟩ := comparison_laws { digits := .counting } ha hb
  obtain ⟨hless, -, hrefused, -⟩ := comparison_laws {} hb ha
  obtain ⟨hsame, -, -, hzero, -⟩ := comparison_laws {} (a := "099") (by decide) hb
  exact ⟨ha, hb, hmore, hsafe (congrArg (Except.map Ordering.isGE) hmore), hrefused.1 hless, hsame,
    hzero.1 hsame⟩

/-- Laws that hold between the operations on digit strings, with other settings for every call. A
subtraction undoes an addition and, if the first number is not the smaller, an addition undoes a
subtraction; what comes back has no leading zeros. A product with a sum is the sum of the products.
A number below the divisor is the remainder of it and any multiple of the divisor, if a cap does not
matter or does not stop so many subtractions. -/
theorem inverse_laws {a b q r : String} (ha : IsValid a) (hb : IsValid b) (hq : IsValid q)
    (hr : IsValid r) (s t u v w : Settings) :
    (do onTexts (subtract t) (← onTexts (add s) a b) b) = .ok (strip a) ∧
    ((compare (.str a) (.str b)).map Ordering.isGE = .ok true →
      (do onTexts (add t) (← onTexts (subtract s) a b) b) = .ok (strip a)) ∧
    (∃ product, (do onTexts (multiply s) a (← onTexts (add t) b q)) = .ok product ∧
      (do onTexts (add v) (← onTexts (multiply u) a b) (← onTexts (multiply w) a q))
        = .ok product) ∧
    (compare (.str r) (.str b) = .ok .lt →
      (u.remainder = .shiftSubtract ∨ ∀ cap ∈ u.cap, value q ≤ cap) →
      (do
        let product ← onTexts (multiply s) q b
        let sum ← onTexts (add t) product r
        onTexts (remainder u) sum b) = .ok (strip r)) := by
  obtain ⟨m, hm, -, hmt⟩ := ha.exists_numeral
  obtain ⟨n, hn, -, -⟩ := hb.exists_numeral
  obtain ⟨k, hk, hkq, -⟩ := hq.exists_numeral
  obtain ⟨l, hl, -, hlt⟩ := hr.exists_numeral
  have hread := Numeral.ofValue_numeral
  refine ⟨?_, fun hge => ?_, ?_, fun hlt' hcap => ?_⟩
  · rw [add_onTexts s hm hn]
    show onTexts (subtract t) (m.add s.digits n).text b = _
    rw [subtract_onTexts t (hread _) hn, Numeral.subtract_add, ← hmt]
    rfl
  · have hle : n.value ≤ m.value := by
      rw [compare_of_ofValue hm hn] at hge
      exact Nat.isGE_compare.1 (Except.ok.inj hge)
    obtain ⟨d, hd, hsum⟩ := Numeral.add_subtract s.digits t.digits hle
    rw [subtract_onTexts s hm hn, hd]
    show onTexts (add t) d.text b = _
    rw [add_onTexts t (hread d) hn, hsum, hmt]
  · refine ⟨(m.multiply s.digits (n.add t.digits k)).text, ?_, ?_⟩
    · rw [add_onTexts t hn hk]
      exact multiply_onTexts s hm (hread _)
    · rw [multiply_onTexts u hm hn, multiply_onTexts w hm hk, Numeral.multiply_add _ _ u.digits
        v.digits w.digits]
      exact add_onTexts v (hread _) (hread _)
  · have hbelow : l.value < n.value := by
      rw [compare_of_ofValue hl hn] at hlt'
      exact Nat.compare_eq_lt.1 (Except.ok.inj hlt')
    rw [multiply_onTexts s hk hn]
    show (onTexts (add t) (k.multiply s.digits n).text r >>= fun x => onTexts (remainder u) x b) = _
    rw [add_onTexts t (hread _) hl]
    show onTexts (remainder u) ((k.multiply s.digits n).add t.digits l).text b = _
    rw [remainder_onTexts u (hread _) hn, Numeral.outcome_modulo_add_multiply s.digits t.digits
      hbelow (hkq ▸ hcap), ← hlt]
    rfl

/-- The columns are counted in one call and looked up in the next, and the cap is just enough. -/
theorem inverse_laws_at_cap :
    (do onTexts (subtract {}) (← onTexts (add { digits := .counting }) "0120" "07") "07")
      = .ok "120" ∧
    (compare (.str "0120") (.str "07")).map Ordering.isGE = .ok true ∧
    (do onTexts (add {}) (← onTexts (subtract { digits := .counting }) "0120" "07") "07")
      = .ok "120" ∧
    compare (.str "05") (.str "07") = .ok .lt ∧
    (do
      let product ← onTexts (multiply { digits := .counting }) "3" "07"
      let sum ← onTexts (add {}) product "05"
      onTexts (remainder { cap := some 3 }) sum "07") = .ok "5" := by
  have hge : (compare (.str "0120") (.str "07")).map Ordering.isGE = .ok true := rfl
  have hlt : compare (.str "05") (.str "07") = .ok .lt := rfl
  have hcap : ∀ cap ∈ (some 3 : Option Nat), value "3" ≤ cap := by decide
  obtain ⟨hsubtract, hadd, -, hremainder⟩ := @inverse_laws "0120" "07" "3" "05" (by decide)
    (by decide) (by decide) (by decide) { digits := .counting } {} { cap := some 3 } {} {}
  exact ⟨hsubtract, hge, hadd hge, hlt, hremainder hlt (.inr hcap)⟩

end Arithmetic

end Longhand
