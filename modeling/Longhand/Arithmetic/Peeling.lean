import Longhand.Arithmetic.Operand

/-!
Sum and difference of digit texts as recursions that peel one column after another off the right
end of both. Their steps are the views of a text alone: its last digit and the text before it.
Each step shortens a text that is not exhausted (`DigitText.length_peel_add`), which bounds both
recursions.
-/

namespace Longhand

namespace DigitText

/-- The last digit of a text and the text before it. An exhausted text gives zeros forever. -/
def peel (s : String) : Except Error (Digit × String) :=
  if s.toList = [] then .ok (.zero, s)
  else do
    let d ← last s
    return (d, ← dropLast s)

theorem length_dropLast {s t : String} (h : dropLast s = .ok t) : t.length + 1 = s.length := by
  unfold dropLast at h
  split at h
  · cases h
  · rename_i hs
    cases h
    have := List.length_pos_iff.2 hs
    rw [String.length_ofList, List.length_dropLast, ← String.length_toList]
    omega

theorem length_peel {s t : String} {d : Digit} (h : peel s = .ok (d, t)) :
    t.length ≤ s.length ∧ (s.toList ≠ [] → t.length < s.length) := by
  unfold peel at h
  split at h
  · rename_i hs
    cases h
    exact ⟨Nat.le_refl _, fun hne => absurd hs hne⟩
  · cases hl : last s with
    | error e => rw [hl] at h; cases h
    | ok x =>
      cases hd : dropLast s with
      | error e => rw [hl, hd] at h; cases h
      | ok u =>
        rw [hl, hd] at h
        cases h
        have := length_dropLast hd
        omega

/-- One column less is left of two texts that are not both exhausted. -/
theorem length_peel_add {s t s' t' : String} {x y : Digit} (hs : peel s = .ok (x, s'))
    (ht : peel t = .ok (y, t')) (h : ¬(s.toList = [] ∧ t.toList = [])) :
    s'.length + t'.length < s.length + t.length := by
  have h1 := length_peel hs
  have h2 := length_peel ht
  by_cases hx : s.toList = []
  · have := h2.2 fun hy => h ⟨hx, hy⟩
    omega
  · have := h1.2 hx
    omega

/-- Adds two digit texts with an incoming carry in front of `acc`. A last carry becomes one more
digit. -/
def add (strategy : DigitStrategy) (a b : String) (carry : Bool) (acc : String) :
    Except Error String :=
  if a.toList = [] ∧ b.toList = [] then .ok (if carry then Digit.one.text ++ acc else acc)
  else
    match _ha : peel a, _hb : peel b with
    | .ok (x, a'), .ok (y, b') =>
      let column := strategy.add x y carry
      add strategy a' b' column.carry (column.digit.text ++ acc)
    | .error e, _ => .error e
    | .ok _, .error e => .error e
termination_by a.length + b.length
decreasing_by exact length_peel_add _ha _hb ‹_›

/-- Subtracts the second digit text from the first with an incoming borrow in front of `acc`.
There is no difference if a borrow is left at the end; otherwise leading zeros are dropped. -/
def subtract? (strategy : DigitStrategy) (a b : String) (borrow : Bool) (acc : String) :
    Except Error (Option String) :=
  if a.toList = [] ∧ b.toList = [] then .ok (if borrow then none else some (strip acc))
  else
    match _ha : peel a, _hb : peel b with
    | .ok (x, a'), .ok (y, b') =>
      let column := strategy.subtract x y borrow
      subtract? strategy a' b' column.carry (column.digit.text ++ acc)
    | .error e, _ => .error e
    | .ok _, .error e => .error e
termination_by a.length + b.length
decreasing_by exact length_peel_add _ha _hb ‹_›

end DigitText

end Longhand
