import Longhand.Proofs.LongDivision
import Longhand.Proofs.RepeatedSubtraction

/-!
Remainders. Both strategies give the remainder of the numbers (`Arithmetic.modulo_agree`), and
repeated subtraction has an exact account of its subtractions, its cap and its log
(`Arithmetic.modulo_account`). With every check made in every call, and every loop cut off after
some rounds, a remainder comes to the same once the rounds suffice (`Checked.remainder_shift`,
`Checked.remainder_repeated`).
-/

namespace Longhand

namespace Numeral

theorem modulo_shift {settings : Settings} (hs : settings.remainder = .shiftSubtract)
    (a : Numeral) {b : Numeral} (hb : b ≠ zero) :
    modulo settings a b = ⟨.ok (ofNat (a.value % b.value)),
      [.remainderStarted "shift_subtract" a.length b.length]⟩ := by
  rw [modulo, dif_neg hb, hs]
  simp only [shiftRemainder_eq]
  rfl

theorem modulo_repeated {settings : Settings} (hs : settings.remainder = .repeatedSubtraction)
    (a : Numeral) {b : Numeral} (hb : b ≠ zero) :
    modulo settings a b
      = (repeatedRemainder settings a.length b hb a 0).after
          (.remainderStarted "repeated_subtraction" a.length b.length) := by
  rw [modulo, dif_neg hb, hs]
  rfl

/-- One line for the start, at most one warning, and one line for the end unless the cap is below
the quotient. -/
theorem lines_modulo {settings : Settings} (hs : settings.remainder = .repeatedSubtraction)
    (a : Numeral) {b : Numeral} (hb : b ≠ zero) :
    (modulo settings a b).lines
      = [(.debug, "modulo: strategy=repeated_subtraction dividend=" ++ Nat.repr a.length
          ++ " digits divisor=" ++ Nat.repr b.length ++ " digits")]
        ++ (if settings.Warns 0 a.value b.value then
            [(.warning, "modulo by repeated subtraction passed " ++ Nat.repr settings.warnAt
              ++ " iterations (dividend=" ++ Nat.repr a.length ++ " digits, divisor="
              ++ Nat.repr b.length ++ " digits); consider ModuloStrategy.SHIFT_SUBTRACT")]
          else [])
        ++ (settings.ending (a.value / b.value) (ofNat (a.value % b.value))).lines := by
  rw [modulo_repeated hs a hb, repeatedRemainder_eq settings a.length hb a 0 fun _ _ =>
    Nat.zero_le _, Nat.zero_add]
  have hslow : (Event.remainderSlow settings.warnAt a.length b.length).text
      = "modulo by repeated subtraction passed " ++ Nat.repr settings.warnAt
        ++ " iterations (dividend=" ++ Nat.repr a.length ++ " digits, divisor="
        ++ Nat.repr b.length ++ " digits); consider ModuloStrategy.SHIFT_SUBTRACT" :=
    String.append_assoc ..
  rw [← hslow]
  split <;> rfl

/-- What is left is given back unless the cap is below the quotient. -/
theorem outcome_modulo_of_le {settings : Settings}
    (hs : settings.remainder = .repeatedSubtraction) {a b : Numeral} (hb : b ≠ zero)
    (hcap : ∀ cap ∈ settings.cap, a.value / b.value ≤ cap) :
    (modulo settings a b).outcome = .ok (ofNat (a.value % b.value)) := by
  rw [modulo_repeated hs a hb, repeatedRemainder_eq settings a.length hb a 0 fun _ _ =>
    Nat.zero_le _, Nat.zero_add, Settings.ending_of_le _ hcap]
  split <;> rfl

theorem outcome_modulo_of_lt {settings : Settings}
    (hs : settings.remainder = .repeatedSubtraction) {a b : Numeral} (hb : b ≠ zero) {cap : Nat}
    (hc : cap ∈ settings.cap) (hlt : cap < a.value / b.value) :
    (modulo settings a b).outcome = .error (.engine (.precondition (.iterations cap))) := by
  rw [modulo_repeated hs a hb, repeatedRemainder_eq settings a.length hb a 0 fun _ _ =>
    Nat.zero_le _, Nat.zero_add, Settings.ending_of_lt _ hc hlt]
  split <;> rfl

end Numeral

namespace Checked

/-- The remainder of two texts without leading zeros, where no loop is run for more than so many
rounds at a time; none if they do not suffice. -/
def remainder (rounds : Nat) (settings : Settings) (a b : String) : Option (Traced String) :=
  if b = "0" then some (.fail (.engine (.divisionByZero a)))
  else
    let computed := match settings.remainder with
      | .shiftSubtract => (divide settings rounds b a.toList "0").map Traced.ofExcept
      | .repeatedSubtraction => takeAway settings a.length b rounds a 0
    computed.map (Traced.after (.remainderStarted settings.remainder.name a.length b.length))

def modulo (rounds : Nat) (settings : Settings) (a b : Value) : Option (Traced String) :=
  match operand a, operand b with
  | .ok a, .ok b => remainder rounds settings a b
  | .error e, _ => some (.fail e)
  | .ok _, .error e => some (.fail e)

theorem remainder_zero (rounds : Nat) (settings : Settings) (a : Numeral) :
    remainder rounds settings a.text "0"
      = some ((Numeral.modulo settings a .zero).map Numeral.text) := by
  rw [remainder, if_pos rfl, Numeral.modulo, dif_pos rfl]
  rfl

theorem remainder_repeated {settings : Settings} (hs : settings.remainder = .repeatedSubtraction)
    (a : Numeral) {b : Numeral} (hb : b ≠ .zero) (rounds : Nat) :
    remainder rounds settings a.text b.text
      = if settings.GoesOn 0 a.value b.value rounds then none
        else some ((Numeral.modulo settings a b).map Numeral.text) := by
  rw [remainder, if_neg (mt Numeral.text_eq_zero_iff.1 hb), Numeral.modulo, dif_neg hb, hs]
  simp only [Numeral.length_text, takeAway_text settings a.length hb a 0 rounds]
  split <;> rfl

theorem remainder_shift {settings : Settings} (hs : settings.remainder = .shiftSubtract)
    {a b : Numeral} (hb : b ≠ .zero) {rounds : Nat} (h : 9 < rounds) :
    remainder rounds settings a.text b.text
      = some ((Numeral.modulo settings a b).map Numeral.text) := by
  have hdivide := divide_text settings hb h a.digits .zero (by
    rw [Numeral.value_zero]
    exact Numeral.value_pos hb)
  have hdigits : a.text.toList = a.digits.map Digit.toChar := Digits.toList_text a.digits
  rw [Numeral.text_zero, ← hdigits] at hdivide
  rw [remainder, if_neg (mt Numeral.text_eq_zero_iff.1 hb), Numeral.modulo, dif_neg hb, hs]
  simp only [Numeral.length_text, hdivide]
  rfl

theorem modulo_of_ofValue (rounds : Nat) (settings : Settings) {a b : Value} {m n : Numeral}
    (ha : Numeral.ofValue a = .ok m) (hb : Numeral.ofValue b = .ok n) :
    modulo rounds settings a b = remainder rounds settings m.text n.text := by
  rw [modulo, operand_eq, operand_eq, ha, hb]
  rfl

/-- The remainder of two texts without leading zeros comes to that of their numerals once the rounds
suffice. -/
theorem exists_remainder_eq (settings : Settings) (m n : Numeral) :
    ∃ enough, ∀ rounds, enough ≤ rounds →
      remainder rounds settings m.text n.text
        = some ((Numeral.modulo settings m n).map Numeral.text) := by
  by_cases hn : n = .zero
  · subst hn
    exact ⟨0, fun rounds _ => remainder_zero rounds settings m⟩
  · cases hs : settings.remainder with
    | shiftSubtract => exact ⟨10, fun rounds hr => remainder_shift hs hn hr⟩
    | repeatedSubtraction =>
      refine ⟨m.value / n.value + 1, fun rounds hr => ?_⟩
      rw [remainder_repeated hs m hn,
        if_neg (Settings.not_goesOn_of_div_lt (Numeral.value_pos hn) hr)]

end Checked

namespace Arithmetic

open DigitText (IsValid value strip)

theorem modulo_of_ofValue (settings : Settings) {a b : Value} {m n : Numeral}
    (ha : Numeral.ofValue a = .ok m) (hb : Numeral.ofValue b = .ok n) :
    Arithmetic.modulo settings a b = Numeral.modulo settings m n := by
  rw [Arithmetic.modulo, operands, ha, hb]
  rfl

/-- The checks of a remainder fail on its operands or not at all, and its loops end. -/
theorem exists_checked_modulo_eq (settings : Settings) (a b : Value) :
    ∃ enough, ∀ rounds, enough ≤ rounds →
      Checked.modulo rounds settings a b
        = some ((Arithmetic.modulo settings a b).map Numeral.text) := by
  cases ha : Numeral.ofValue a with
  | error e =>
    refine ⟨0, fun rounds _ => ?_⟩
    rw [Checked.modulo, Checked.operand_eq, ha, Arithmetic.modulo, operands, ha]
    rfl
  | ok m =>
    cases hb : Numeral.ofValue b with
    | error e =>
      refine ⟨0, fun rounds _ => ?_⟩
      rw [Checked.modulo, Checked.operand_eq, Checked.operand_eq, ha, hb, Arithmetic.modulo,
        operands, ha, hb]
      rfl
    | ok n =>
      rw [modulo_of_ofValue settings ha hb]
      simp only [Checked.modulo_of_ofValue _ settings ha hb]
      exact Checked.exists_remainder_eq settings m n

/-- Both strategies give the decimal text of the remainder of the two numbers, which is below the
divisor, whatever the other settings are as long as no cap stops repeated subtraction. No loop goes
on forever and no check fails on the way. A divisor that denotes zero is refused under all settings,
and the failure names the dividend without its leading zeros. -/
theorem modulo_agree {shift repeated : Settings} (hshift : shift.remainder = .shiftSubtract)
    (hrepeated : repeated.remainder = .repeatedSubtraction) (hcap : repeated.cap = none)
    {a b : String} (ha : IsValid a) (hb : IsValid b) :
    (0 < value b →
      (Arithmetic.modulo shift (.str a) (.str b)).outcome.map Numeral.text
        = .ok (Nat.repr (value a % value b)) ∧
      (Arithmetic.modulo repeated (.str a) (.str b)).outcome.map Numeral.text
        = .ok (Nat.repr (value a % value b)) ∧
      value (Nat.repr (value a % value b)) < value b ∧
      ∃ enough, ∀ rounds, enough ≤ rounds →
        Checked.modulo rounds shift (.str a) (.str b)
          = some ((Arithmetic.modulo shift (.str a) (.str b)).map Numeral.text) ∧
        Checked.modulo rounds repeated (.str a) (.str b)
          = some ((Arithmetic.modulo repeated (.str a) (.str b)).map Numeral.text)) ∧
    (value b = 0 → ∀ settings : Settings,
      Fails (Arithmetic.modulo settings (.str a) (.str b)).outcome .divisionByZero
        ("Modulo by zero: " ++ strip a ++ " mod 0") ∧
      ∀ rounds, Checked.modulo rounds settings (.str a) (.str b)
        = some ((Arithmetic.modulo settings (.str a) (.str b)).map Numeral.text)) := by
  obtain ⟨m, hm, hma, hmt⟩ := ha.exists_numeral
  obtain ⟨n, hn, hnb, -⟩ := hb.exists_numeral
  simp only [modulo_of_ofValue _ hm hn, Checked.modulo_of_ofValue _ _ hm hn, ← hma, ← hnb, ← hmt]
  constructor
  · intro hpos
    have hne := Numeral.ne_zero_of_value_pos hpos
    have hnone : ∀ cap ∈ repeated.cap, m.value / n.value ≤ cap := fun cap hc => by
      rw [hcap] at hc
      cases hc
    refine ⟨?_, ?_, ?_, max 10 (m.value / n.value + 1), fun rounds hr => ⟨?_, ?_⟩⟩
    · rw [Numeral.modulo_shift hshift m hne, Except.map, Numeral.text_eq_repr, Numeral.value_ofNat]
    · rw [Numeral.outcome_modulo_of_le hrepeated hne hnone, Except.map, Numeral.text_eq_repr,
        Numeral.value_ofNat]
    · rw [DigitText.value_repr]
      exact Nat.mod_lt _ hpos
    · exact Checked.remainder_shift hshift hne (Nat.le_trans (Nat.le_max_left _ _) hr)
    · rw [Checked.remainder_repeated hrepeated m hne, if_neg (Settings.not_goesOn_of_div_lt hpos
        (Nat.le_trans (Nat.le_max_right _ _) hr))]
  · intro hzero settings
    have hn0 : n = .zero := Numeral.ext_value (hzero.trans Numeral.value_zero.symm)
    subst hn0
    refine ⟨?_, fun rounds => Checked.remainder_zero rounds settings m⟩
    rw [Numeral.modulo, dif_pos rfl]
    exact fails_engine (.divisionByZero m.text)

/-- A cap does not matter to long division, nor leading zeros to either strategy. -/
theorem modulo_agree_padded :
    IsValid "0100" ∧ IsValid "07" ∧ 0 < value "07" ∧
    (Arithmetic.modulo { remainder := .shiftSubtract, cap := some 3 } (.str "0100")
      (.str "07")).outcome.map Numeral.text = .ok "2" ∧
    (Arithmetic.modulo {} (.str "0100") (.str "07")).outcome.map Numeral.text = .ok "2" ∧
    IsValid "00" ∧ value "00" = 0 ∧
    Fails (Arithmetic.modulo {} (.str "0100") (.str "00")).outcome .divisionByZero
      "Modulo by zero: 100 mod 0" :=
  have hagree := (@modulo_agree { remainder := .shiftSubtract, cap := some 3 } {} rfl rfl rfl
    "0100" "07" (by decide) (by decide)).1 (by decide)
  have hzero := (@modulo_agree { remainder := .shiftSubtract } {} rfl rfl rfl
    "0100" "00" (by decide) (by decide)).2 (by decide) {}
  ⟨by decide, by decide, by decide, hagree.1, hagree.2.1, by decide, by decide, hzero.1⟩

/-- An account of repeated subtraction for a divisor that is not zero. The loop fails exactly if a
cap is set below the quotient; otherwise it returns the remainder after as many successful
subtractions as the quotient says. The log has a line for the start, one warning if the threshold
is reached within the quotient and the cap and something is left there, and a line for the end if
the loop returns. With every check made, the loop goes on after so many rounds exactly if they were
all within the cap and left something; it comes to the same. -/
theorem modulo_account {settings : Settings} (hs : settings.remainder = .repeatedSubtraction)
    {a b : String} (ha : IsValid a) (hb : IsValid b) (hpos : 0 < value b) :
    (∀ cap ∈ settings.cap, cap < value a / value b →
      Fails (Arithmetic.modulo settings (.str a) (.str b)).outcome .precondition
        ("modulo exceeded max_modulo_iterations=" ++ Nat.repr cap)) ∧
    ((∀ cap ∈ settings.cap, value a / value b ≤ cap) →
      (Arithmetic.modulo settings (.str a) (.str b)).outcome.map Numeral.text
        = .ok (Nat.repr (value a % value b)) ∧
      Subtractions settings (strip b) (strip a) (value a / value b)
        (Nat.repr (value a % value b))) ∧
    (Arithmetic.modulo settings (.str a) (.str b)).lines
      = [(.debug, "modulo: strategy=repeated_subtraction dividend=" ++ Nat.repr (strip a).length
          ++ " digits divisor=" ++ Nat.repr (strip b).length ++ " digits")]
        ++ (if settings.warnAt ≤ value a / value b ∧
              (∀ cap ∈ settings.cap, settings.warnAt ≤ cap) ∧
              value a ≠ settings.warnAt * value b then
            [(.warning, "modulo by repeated subtraction passed " ++ Nat.repr settings.warnAt
              ++ " iterations (dividend=" ++ Nat.repr (strip a).length ++ " digits, divisor="
              ++ Nat.repr (strip b).length ++ " digits); consider ModuloStrategy.SHIFT_SUBTRACT")]
          else [])
        ++ (if ∀ cap ∈ settings.cap, value a / value b ≤ cap then
            [(.debug, "modulo by repeated subtraction finished after "
              ++ Nat.repr (value a / value b) ++ " iterations")]
          else []) ∧
    ∀ rounds, Checked.modulo rounds settings (.str a) (.str b)
      = if rounds = 0 ∨ rounds * value b < value a ∧ ∀ cap ∈ settings.cap, rounds ≤ cap then none
        else some ((Arithmetic.modulo settings (.str a) (.str b)).map Numeral.text) := by
  obtain ⟨m, hm, hma, hmt⟩ := ha.exists_numeral
  obtain ⟨n, hn, hnb, hnt⟩ := hb.exists_numeral
  rw [← hnb] at hpos
  have hne := Numeral.ne_zero_of_value_pos hpos
  simp only [modulo_of_ofValue _ hm hn, Checked.modulo_of_ofValue _ _ hm hn, ← hma, ← hnb, ← hmt,
    ← hnt]
  refine ⟨fun cap hc hlt => ?_, fun hle => ⟨?_, ?_⟩, ?_, fun rounds => ?_⟩
  · rw [Numeral.outcome_modulo_of_lt hs hne hc hlt]
    exact fails_engine (.precondition (.iterations cap))
  · rw [Numeral.outcome_modulo_of_le hs hne hle, Except.map, Numeral.text_eq_repr,
      Numeral.value_ofNat]
  · have hrun := Numeral.subtractions_of_le m hne hle
    rwa [Numeral.text_eq_repr (.ofNat _), Numeral.value_ofNat] at hrun
  · have hwarn : settings.Warns 0 m.value n.value ↔
        settings.warnAt ≤ m.value / n.value ∧ (∀ cap ∈ settings.cap, settings.warnAt ≤ cap) ∧
          m.value ≠ settings.warnAt * n.value := by
      rw [Settings.Warns, Nat.zero_add, Nat.sub_zero, and_iff_right settings.warnAt_pos]
    simp only [Numeral.lines_modulo hs m hne, Settings.lines_ending, hwarn, Numeral.length_text]
  · rw [Checked.remainder_repeated hs m hne]
    simp only [Settings.GoesOn, Nat.zero_add]

/-- The cap and the threshold may both be the quotient. -/
theorem modulo_account_at_cap :
    IsValid "017" ∧ IsValid "5" ∧ 0 < value "5" ∧
    (Arithmetic.modulo { warnAt := 3, cap := some 3 } (.str "017") (.str "5")).outcome.map
      Numeral.text = .ok "2" ∧
    (Arithmetic.modulo { warnAt := 3, cap := some 3 } (.str "017") (.str "5")).lines
      = [(.debug, "modulo: strategy=repeated_subtraction dividend=2 digits divisor=1 digits"),
        (.warning, "modulo by repeated subtraction passed 3 iterations (dividend=2 digits, "
          ++ "divisor=1 digits); consider ModuloStrategy.SHIFT_SUBTRACT"),
        (.debug, "modulo by repeated subtraction finished after 3 iterations")] ∧
    Fails (Arithmetic.modulo { warnAt := 3, cap := some 2 } (.str "017") (.str "5")).outcome
      .precondition "modulo exceeded max_modulo_iterations=2" := by
  obtain ⟨-, hreturns, hlines, -⟩ := @modulo_account { warnAt := 3, cap := some 3 } rfl
    "017" "5" (by decide) (by decide) (by decide)
  obtain ⟨hfails, -⟩ := @modulo_account { warnAt := 3, cap := some 2 } rfl
    "017" "5" (by decide) (by decide) (by decide)
  exact ⟨by decide, by decide, by decide, (hreturns (by decide)).1, hlines.trans (by decide),
    hfails 2 rfl (by decide)⟩

end Arithmetic

end Longhand
