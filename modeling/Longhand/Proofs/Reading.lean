import Longhand.Arithmetic.Natural
import Longhand.Proofs.Rendering

/-!
How reading an operand fails. A natural number that cannot be read is malformed, or the message
about it would show an integer beyond the conversion limit (`Natural.unreadable_parse`). A check
against a contract fails with a violation, or likewise because the violation cannot be shown
(`Schema.failsOnly_check`).
-/

namespace Longhand

namespace Error

/-- An operand is malformed. -/
def IsMalformed (e : Error) : Prop := ∃ why, e = .engine (.malformed why)

/-- An operand cannot be read: it is malformed, or holds an integer too large to be shown. -/
def IsUnreadable (e : Error) : Prop := e.IsMalformed ∨ e = .limit .printing

end Error

theorem Breach.limited_message (b : Breach) : Limited b.message := by
  cases b with
  | wrongType v _ | tooShort v _ | noMatch v _ => exact v.limited_shown.bind fun _ => .ok _
  | notChoice v _ | forbidden v _ =>
    exact v.limited_shown.bind fun _ => (Value.limited_shown _).bind fun _ => .ok _
  | notConst l => exact (Value.limited_shown _).bind fun _ => .ok _
  | missing _ | unexpected _ => exact .ok _

/-- A check fails with a violation, or because the violation cannot be shown. -/
theorem Schema.failsOnly_check (s : Schema) (v : Value) :
    FailsOnly (fun e => (∃ violation, e = .contract violation) ∨ e = .limit .printing)
      (s.check v) := by
  rw [check]
  split
  · exact .ok _
  · rename_i first _ _
    exact (first.breach.limited_message.mono fun _ => .inr).bind fun m => .error (.inl ⟨m, rfl⟩)

theorem Digits.malformed_ofChars (i : Nat) (cs : List Char) :
    FailsOnly Error.IsMalformed (ofChars i cs) := by
  induction cs generalizing i with
  | nil => exact .ok _
  | cons c cs ih =>
    rw [ofChars]
    split
    · exact (ih (i + 1)).bind fun _ => .ok _
    · exact .error ⟨_, rfl⟩

theorem Digits.malformed_ofValue (v : Value) : FailsOnly Error.IsMalformed (ofValue v) := by
  unfold ofValue
  split
  · split
    · exact .error ⟨_, rfl⟩
    · exact malformed_ofChars 0 _
  · exact .error ⟨_, rfl⟩

theorem Numeral.malformed_ofValue (v : Value) : FailsOnly Error.IsMalformed (ofValue v) :=
  (Digits.malformed_ofValue v).bind fun _ => .ok _

theorem Numeral.unreadable_ofInteger (n : Int) :
    FailsOnly Error.IsUnreadable (ofInteger (.int n)) := by
  rw [ofInteger]
  split
  · exact ((limited_intText n).mono fun _ => .inr).bind fun _ => .error (.inl ⟨_, rfl⟩)
  · by_cases hn : n.toNat < tenPow digitLimit
    · rw [if_pos hn]
      exact .ok _
    · rw [if_neg hn]
      exact .error (.inl ⟨_, rfl⟩)

theorem Natural.unreadable_parse (v : Value) : FailsOnly Error.IsUnreadable (parse v) := by
  unfold parse
  split
  · exact Numeral.unreadable_ofInteger _
  · split
    · exact (Numeral.malformed_ofValue v).mono fun _ => .inl
    · exact (v.limited_shown.mono fun _ => .inr).bind fun _ => .error (.inl ⟨_, rfl⟩)
    · rename_i e hother hcheck
      rcases Schema.failsOnly_check _ _ e hcheck with ⟨violation, rfl⟩ | rfl
      · exact absurd rfl (hother violation)
      · exact .error (.inr rfl)

end Longhand
