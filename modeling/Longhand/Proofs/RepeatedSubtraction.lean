import Longhand.Arithmetic.Remainder
import Longhand.Proofs.Difference

/-!
Remainders by repeated subtraction: when the cap ends the loop, when it warns and how often it
subtracts (`Numeral.repeatedRemainder_eq`). The loop on texts, in which every subtraction reads its
operands anew, comes to the same, after exactly the rounds that `Settings.GoesOn` tells
(`Checked.takeAway_text`).
-/

namespace Longhand

namespace Settings

/-- Whether a loop that is to take a divisor away from a number, and has done so `count` times
before, warns: the threshold lies ahead and not beyond the cap, and something is left there. -/
def Warns (settings : Settings) (count current divisor : Nat) : Prop :=
  count < settings.warnAt ∧ settings.warnAt ≤ count + current / divisor ∧
    (∀ cap ∈ settings.cap, settings.warnAt ≤ cap) ∧
    current ≠ (settings.warnAt - count) * divisor

instance (settings : Settings) (count current divisor : Nat) :
    Decidable (settings.Warns count current divisor) :=
  inferInstanceAs (Decidable (_ ∧ _ ∧ _ ∧ _))

/-- How a loop ends that could subtract so many times in all. -/
def ending (settings : Settings) (total : Nat) (r : Numeral) : Traced Numeral :=
  match settings.cap.filter (· < total) with
  | some cap => .fail (.engine (.precondition (.iterations cap)))
  | none => ⟨.ok r, [.remainderFinished total]⟩

variable {settings : Settings}

theorem ending_of_le {total : Nat} (r : Numeral) (h : ∀ cap ∈ settings.cap, total ≤ cap) :
    settings.ending total r = ⟨.ok r, [.remainderFinished total]⟩ := by
  have hnone : settings.cap.filter (· < total) = none :=
    Option.filter_eq_none_iff.2 fun cap hc => by simpa using h cap hc
  rw [ending, hnone]

theorem ending_of_lt {total cap : Nat} (r : Numeral) (hc : cap ∈ settings.cap)
    (h : cap < total) :
    settings.ending total r = .fail (.engine (.precondition (.iterations cap))) := by
  have hsome : settings.cap.filter (· < total) = some cap :=
    Option.filter_eq_some_iff.2 ⟨hc, decide_eq_true h⟩
  rw [ending, hsome]

theorem lines_ending (total : Nat) (r : Numeral) :
    (settings.ending total r).lines
      = if ∀ cap ∈ settings.cap, total ≤ cap then
          [(.debug, "modulo by repeated subtraction finished after " ++ Nat.repr total
            ++ " iterations")]
        else [] := by
  rw [ending]
  cases hover : settings.cap.filter (· < total) with
  | some cap =>
    obtain ⟨hc, hlt⟩ := Option.filter_eq_some_iff.1 hover
    exact (if_neg fun h => Nat.not_lt.2 (h cap hc) (of_decide_eq_true hlt)).symm
  | none =>
    have hle : ∀ cap ∈ settings.cap, total ≤ cap := fun cap hc => by
      simpa using Option.filter_eq_none_iff.1 hover cap hc
    exact (if_pos hle).symm

/-- A loop that the cap lets go on may subtract once more. -/
theorem succ_le_of_filter_eq_none {count : Nat} (h : settings.cap.filter (· ≤ count) = none) :
    ∀ cap ∈ settings.cap, count + 1 ≤ cap := fun cap hc =>
  Nat.succ_le_of_lt (by simpa using Option.filter_eq_none_iff.1 h cap hc)

theorem not_warns_of_le {count current divisor : Nat} (h : settings.warnAt ≤ count) :
    ¬settings.Warns count current divisor := fun hw => Nat.not_lt.2 h hw.1

theorem not_warns_of_lt {count current divisor : Nat} (h : current < divisor) :
    ¬settings.Warns count current divisor := fun hw => by
  have hle := hw.2.1
  rw [Nat.div_eq_of_lt h] at hle
  exact Nat.not_lt.2 hle hw.1

/-- A subtraction that does not reach the threshold leaves the warning to the rest of the loop. -/
theorem warns_succ {count rest divisor : Nat} (hpos : 0 < divisor)
    (h : count + 1 ≠ settings.warnAt) :
    settings.Warns count (rest + divisor) divisor ↔ settings.Warns (count + 1) rest divisor := by
  have hahead : count < settings.warnAt ↔ count + 1 < settings.warnAt := by omega
  rw [Warns, Warns, Nat.add_div_right _ hpos, Nat.succ_add_eq_add_succ, hahead]
  refine and_congr_right fun hahead => and_congr_right fun _ => and_congr_right fun _ => ?_
  obtain ⟨k, hk⟩ := Nat.exists_eq_add_of_lt hahead
  have hcount : settings.warnAt - count = k + 1 + 1 := by omega
  have hnext : settings.warnAt - (count + 1) = k + 1 := by omega
  rw [hcount, hnext, Nat.succ_mul (k + 1)]
  exact not_congr Nat.add_right_cancel_iff

/-- The subtraction that reaches the threshold warns if it leaves something. -/
theorem warns_last {count rest divisor : Nat} (hpos : 0 < divisor)
    (h : count + 1 = settings.warnAt) (hcap : ∀ cap ∈ settings.cap, count + 1 ≤ cap) :
    settings.Warns count (rest + divisor) divisor ↔ rest ≠ 0 := by
  have hone : settings.warnAt - count = 1 := by omega
  rw [Warns, hone, Nat.one_mul, Nat.add_div_right _ hpos, ← h]
  constructor
  · rintro ⟨-, -, -, hne⟩ h0
    exact hne (by rw [h0, Nat.zero_add])
  · intro hne
    exact ⟨Nat.lt_succ_self _, Nat.add_le_add_left (Nat.le_add_left 1 _) count, hcap, by omega⟩

/-- Whether a loop is still to go on after so many more rounds, each with one subtraction: it has
done none of them, or they left something and the cap allows them. -/
def GoesOn (settings : Settings) (count current divisor rounds : Nat) : Prop :=
  rounds = 0 ∨ rounds * divisor < current ∧ ∀ cap ∈ settings.cap, count + rounds ≤ cap

instance (settings : Settings) (count current divisor rounds : Nat) :
    Decidable (settings.GoesOn count current divisor rounds) :=
  inferInstanceAs (Decidable (_ ∨ _ ∧ _))

theorem not_goesOn_of_le {count current divisor rounds : Nat}
    (h : current ≤ (rounds + 1) * divisor) :
    ¬settings.GoesOn count current divisor (rounds + 1) := by
  rintro (h0 | ⟨hlt, -⟩)
  · exact Nat.succ_ne_zero rounds h0
  · exact Nat.not_lt.2 h hlt

theorem not_goesOn_of_cap {count current divisor rounds cap : Nat} (hc : cap ∈ settings.cap)
    (h : cap ≤ count) : ¬settings.GoesOn count current divisor (rounds + 1) := by
  rintro (h0 | ⟨-, hcap⟩)
  · exact Nat.succ_ne_zero rounds h0
  · have hle := hcap cap hc
    omega

/-- More rounds than the divisor goes into the number end the loop. -/
theorem not_goesOn_of_div_lt {count current divisor rounds : Nat} (hpos : 0 < divisor)
    (h : current / divisor < rounds) : ¬settings.GoesOn count current divisor rounds := by
  obtain ⟨rounds, rfl⟩ := Nat.exists_eq_add_one_of_ne_zero (Nat.ne_zero_of_lt h)
  exact not_goesOn_of_le (Nat.le_of_lt ((Nat.div_lt_iff_lt_mul hpos).1 h))

/-- A round that leaves something leaves the decision to the other rounds. -/
theorem goesOn_succ {count rest divisor rounds : Nat} (hleft : 0 < rest)
    (hcap : ∀ cap ∈ settings.cap, count + 1 ≤ cap) :
    settings.GoesOn count (rest + divisor) divisor (rounds + 1)
      ↔ settings.GoesOn (count + 1) rest divisor rounds := by
  have hfits : (rounds + 1) * divisor < rest + divisor ↔ rounds * divisor < rest := by
    rw [Nat.succ_mul, Nat.add_lt_add_iff_right]
  rw [GoesOn, GoesOn, hfits, Nat.succ_add_eq_add_succ]
  constructor
  · rintro (h0 | h)
    · exact absurd h0 (Nat.succ_ne_zero rounds)
    · exact .inr h
  · rintro (rfl | h)
    · exact .inr ⟨by rwa [Nat.zero_mul], hcap⟩
    · exact .inr h

end Settings

namespace Numeral

/-- The loop takes the divisor away as often as it goes into the number, unless the cap ends it
before, and warns once if at all. `count` subtractions that the cap allows came before. -/
theorem repeatedRemainder_eq (settings : Settings) (dividend : Nat) {b : Numeral} (hb : b ≠ zero)
    (current : Numeral) (count : Nat) (hcap : ∀ cap ∈ settings.cap, count ≤ cap) :
    repeatedRemainder settings dividend b hb current count
      = if settings.Warns count current.value b.value then
          (settings.ending (count + current.value / b.value)
            (ofNat (current.value % b.value))).after
              (.remainderSlow settings.warnAt dividend b.length)
        else settings.ending (count + current.value / b.value)
          (ofNat (current.value % b.value)) := by
  have hpos := value_pos hb
  fun_induction repeatedRemainder settings dividend b hb current count with
  | case1 current count hd =>
    have hlt := subtract?_eq_none_iff.1 hd
    rw [if_neg (Settings.not_warns_of_lt hlt), Nat.div_eq_of_lt hlt, Nat.mod_eq_of_lt hlt,
      ofNat_value]
    exact (Settings.ending_of_le current hcap).symm
  | case2 current count d hd cap hover =>
    obtain ⟨hc, hle⟩ := Option.filter_eq_some_iff.1 hover
    have hle : cap ≤ count := of_decide_eq_true hle
    have hwarn : ¬settings.Warns count current.value b.value := fun hw =>
      Nat.not_lt.2 (Nat.le_trans (hw.2.2.1 cap hc) hle) hw.1
    rw [if_neg hwarn, ← value_subtract? hd, Nat.add_div_right _ hpos]
    exact (Settings.ending_of_lt _ hc (Nat.lt_of_le_of_lt hle (Nat.lt_add_of_pos_right
      (Nat.succ_pos _)))).symm
  | case3 current count hover total hd =>
    have hcap := Settings.succ_le_of_filter_eq_none hover
    have hwarn : ¬settings.Warns count (zero.value + b.value) b.value := fun hw => by
      by_cases hlast : count + 1 = settings.warnAt
      · exact (Settings.warns_last hpos hlast hcap).1 hw value_zero
      · exact Settings.not_warns_of_lt (value_zero ▸ hpos) ((Settings.warns_succ hpos hlast).1 hw)
    rw [← value_subtract? hd, if_neg hwarn, Nat.add_div_right _ hpos, Nat.add_mod_right, value_zero,
      Nat.zero_div, Nat.zero_mod, ofNat_zero]
    exact (Settings.ending_of_le zero hcap).symm
  | case4 current count d hd hover total hz hw ih =>
    have hcap := Settings.succ_le_of_filter_eq_none hover
    have hleft : d.value ≠ 0 := Nat.ne_of_gt (value_pos hz)
    have hwarn := (Settings.warns_last hpos hw hcap).2 hleft
    rw [ih hcap, if_neg (Settings.not_warns_of_le (Nat.le_of_eq hw.symm)), ← value_subtract? hd,
      if_pos hwarn, Nat.add_div_right _ hpos, Nat.add_mod_right, ← hw, Nat.add_right_comm]
    rfl
  | case5 current count d hd hover total hz hw ih =>
    have hcap := Settings.succ_le_of_filter_eq_none hover
    rw [ih hcap, ← value_subtract? hd, Nat.add_div_right _ hpos, Nat.add_mod_right,
      Nat.add_right_comm]
    simp only [Settings.warns_succ hpos hw]
    rfl

end Numeral

/-- So many successful subtractions of `b`, one after the other, lead from one text to another. -/
inductive Subtractions (settings : Settings) (b : String) : String → Nat → String → Prop
  | done (a : String) : Subtractions settings b a 0 a
  | step {a d r : String} {n : Nat} :
      (Arithmetic.subtract settings (.str a) (.str b)).map Numeral.text = .ok d →
      Subtractions settings b d n r → Subtractions settings b a (n + 1) r

/-- A loop that returns has subtracted as often as its last record says. -/
theorem Numeral.subtractions_repeatedRemainder (settings : Settings) (dividend : Nat) {b : Numeral}
    (hb : b ≠ zero) (current : Numeral) (count : Nat) {r : Numeral}
    (h : (repeatedRemainder settings dividend b hb current count).outcome = .ok r) :
    ∃ n, Subtractions settings b.text current.text n r.text ∧
      .remainderFinished (count + n)
        ∈ (repeatedRemainder settings dividend b hb current count).log := by
  have hstep : ∀ {current d : Numeral}, current.subtract? settings.digits b = some d →
      (Arithmetic.subtract settings (.str current.text) (.str b.text)).map text
        = .ok d.text := by
    intro current d hd
    rw [Arithmetic.subtract, Arithmetic.operands, ofValue_numeral, ofValue_numeral]
    simp only [bind, Except.bind, pure, Except.pure, subtract, hd]
    rfl
  fun_induction repeatedRemainder settings dividend b hb current count with
  | case1 current count hd =>
    cases h
    exact ⟨0, .done _, List.mem_singleton.2 rfl⟩
  | case2 current count d hd cap hover => cases h
  | case3 current count hover total hd =>
    cases h
    exact ⟨1, .step (hstep hd) (.done _), List.mem_singleton.2 rfl⟩
  | case4 current count d hd hover total hz hw ih =>
    obtain ⟨n, hn, hlog⟩ := ih h
    rw [Nat.add_right_comm] at hlog
    exact ⟨n + 1, .step (hstep hd) hn, List.mem_cons_of_mem _ hlog⟩
  | case5 current count d hd hover total hz hw ih =>
    obtain ⟨n, hn, hlog⟩ := ih h
    rw [Nat.add_right_comm] at hlog
    exact ⟨n + 1, .step (hstep hd) hn, hlog⟩

/-- As often as the divisor goes into the number if the cap allows it. -/
theorem Numeral.subtractions_of_le {settings : Settings} (a : Numeral) {b : Numeral}
    (hb : b ≠ zero) (hcap : ∀ cap ∈ settings.cap, a.value / b.value ≤ cap) :
    Subtractions settings b.text a.text (a.value / b.value) (ofNat (a.value % b.value)).text := by
  have heq := repeatedRemainder_eq settings a.length hb a 0 fun _ _ => Nat.zero_le _
  rw [Nat.zero_add, Settings.ending_of_le _ hcap] at heq
  have hok : (repeatedRemainder settings a.length b hb a 0).outcome
      = .ok (ofNat (a.value % b.value)) := by
    rw [heq]
    split <;> rfl
  obtain ⟨n, hn, hlog⟩ := subtractions_repeatedRemainder settings a.length hb a 0 hok
  have hcount : n = a.value / b.value := by
    rw [heq, Nat.zero_add] at hlog
    split at hlog <;> simpa [Traced.after] using hlog
  rwa [hcount] at hn

namespace Checked

/-- Takes the divisor away until it no longer fits or nothing is left; none if the rounds do not
suffice. Of the failures of a subtraction only that of a larger subtrahend ends the loop well. -/
def takeAway (settings : Settings) (dividend : Nat) (b : String) :
    Nat → String → Nat → Option (Traced String)
  | 0, _, _ => none
  | rounds + 1, current, count =>
    match subtract settings (.str current) (.str b) with
    | .error e =>
      if e.fault? = some .negativeResult then some ⟨.ok current, [.remainderFinished count]⟩
      else some (.fail e)
    | .ok d =>
      match settings.cap.filter (· ≤ count) with
      | some cap => some (.fail (.engine (.precondition (.iterations cap))))
      | none =>
        let count := count + 1
        if d = "0" then some ⟨.ok "0", [.remainderFinished count]⟩
        else if count = settings.warnAt then
          (takeAway settings dividend b rounds d count).map
            (Traced.after (.remainderSlow count dividend b.length))
        else takeAway settings dividend b rounds d count

theorem subtract_of_some {settings : Settings} {a b d : Numeral}
    (h : a.subtract? settings.digits b = some d) :
    subtract settings (.str a.text) (.str b.text) = .ok d.text := by
  rw [subtract_text, Numeral.subtract, h]
  rfl

/-- The rounds suffice unless the loop goes on after them. -/
theorem takeAway_text (settings : Settings) (dividend : Nat) {b : Numeral} (hb : b ≠ .zero)
    (current : Numeral) (count rounds : Nat) :
    takeAway settings dividend b.text rounds current.text count
      = if settings.GoesOn count current.value b.value rounds then none
        else some ((Numeral.repeatedRemainder settings dividend b hb current count).map
          Numeral.text) := by
  induction rounds generalizing current count with
  | zero => rw [takeAway, if_pos (.inl rfl)]
  | succ rounds ih =>
    fun_cases Numeral.repeatedRemainder settings dividend b hb current count with
    | case1 hd =>
      have hfits := Nat.le_mul_of_pos_left b.value (Nat.succ_pos rounds)
      have hle := Nat.le_of_lt (Numeral.subtract?_eq_none_iff.1 hd)
      rw [if_neg (Settings.not_goesOn_of_le (Nat.le_trans hle hfits)), takeAway, subtract_text,
        Numeral.subtract, hd]
      rfl
    | case2 d hd cap hover =>
      obtain ⟨hc, hle⟩ := Option.filter_eq_some_iff.1 hover
      rw [if_neg (Settings.not_goesOn_of_cap hc (of_decide_eq_true hle)), takeAway,
        subtract_of_some hd]
      simp only [hover]
      rfl
    | case3 hover total hd =>
      have hle : current.value ≤ (rounds + 1) * b.value := by
        rw [← Numeral.value_subtract? hd, Numeral.value_zero, Nat.zero_add]
        exact Nat.le_mul_of_pos_left b.value (Nat.succ_pos rounds)
      rw [if_neg (Settings.not_goesOn_of_le hle), takeAway, subtract_of_some hd]
      simp only [hover]
      exact if_pos Numeral.text_zero
    | case4 d hd hover total hz hw =>
      have hcap := Settings.succ_le_of_filter_eq_none hover
      rw [takeAway, subtract_of_some hd]
      simp only [hover]
      rw [if_neg (mt Numeral.text_eq_zero_iff.1 hz), if_pos hw, ih, ← Numeral.value_subtract? hd]
      simp only [Settings.goesOn_succ (Numeral.value_pos hz) hcap, Numeral.length_text]
      split <;> rfl
    | case5 d hd hover total hz hw =>
      have hcap := Settings.succ_le_of_filter_eq_none hover
      rw [takeAway, subtract_of_some hd]
      simp only [hover]
      rw [if_neg (mt Numeral.text_eq_zero_iff.1 hz), if_neg hw, ih, ← Numeral.value_subtract? hd]
      simp only [Settings.goesOn_succ (Numeral.value_pos hz) hcap]
      rfl

end Checked

end Longhand
