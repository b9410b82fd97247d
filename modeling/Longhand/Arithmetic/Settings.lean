import Longhand.Digit
import Longhand.Value.Shown

/-!
The settings of the arithmetic. Counts are positive by construction (`Settings.make` refuses
others).
-/

namespace Longhand

namespace DigitStrategy

def name : DigitStrategy → String
  | .table => "table"
  | .counting => "counting"

def ofName (name : String) : Except Error DigitStrategy :=
  match [table, counting].find? fun s => s.name == name with
  | some s => .ok s
  | none => .error (.setting (.unknown (Quoted.string name) "DigitStrategy"))

end DigitStrategy

inductive RemainderStrategy where
  /-- Takes the divisor away until it no longer fits. -/
  | repeatedSubtraction
  /-- Long division, at most nine subtractions for each digit of the dividend. -/
  | shiftSubtract
deriving DecidableEq, Repr, Inhabited

namespace RemainderStrategy

def name : RemainderStrategy → String
  | .repeatedSubtraction => "repeated_subtraction"
  | .shiftSubtract => "shift_subtract"

def ofName (name : String) : Except Error RemainderStrategy :=
  match [repeatedSubtraction, shiftSubtract].find? fun s => s.name == name with
  | some s => .ok s
  | none => .error (.setting (.unknown (Quoted.string name) "ModuloStrategy"))

end RemainderStrategy

/-- The settings of an operation: how columns and remainders are computed, the count of repeated
subtractions that is worth a warning, and the most that are allowed. -/
structure Settings where
  digits : DigitStrategy := .table
  remainder : RemainderStrategy := .repeatedSubtraction
  warnAt : Nat := 10000
  cap : Option Nat := none
  warnAt_pos : 0 < warnAt := by decide
  cap_pos : ∀ n, cap = some n → 0 < n := by
    rintro _ ⟨⟩ <;> decide

instance : Inhabited Settings := ⟨{}⟩

namespace Settings

/-- A positive count as given for a setting. -/
def positive (setting : String) (n : Int) : Except Error { k : Nat // 0 < k } :=
  if h : 0 < n then .ok ⟨n.toNat, by omega⟩
  else do throw (.setting (.notPositive setting (← intText n)))

/-- Settings from given values; the warning threshold is checked before the cap. -/
def make (digits : DigitStrategy) (remainder : RemainderStrategy) (warnAt : Int)
    (cap : Option Int) : Except Error Settings := do
  let warn ← positive "modulo_warn_iterations" warnAt
  match cap with
  | none => return { digits, remainder, warnAt := warn.val, warnAt_pos := warn.property }
  | some n =>
    let most ← positive "max_modulo_iterations" n
    return {
      digits, remainder
      warnAt := warn.val, cap := some most.val
      warnAt_pos := warn.property
      cap_pos := fun _ h => Option.some.inj h ▸ most.property }

/-- Settings by name, where an absent name or count keeps its default. The digit strategy is
looked up first. -/
def ofNames (digits remainder : Option String) (warnAt : Option Int) (cap : Option Int) :
    Except Error Settings := do
  let digits ← match digits with
    | some name => DigitStrategy.ofName name
    | none => pure .table
  let remainder ← match remainder with
    | some name => RemainderStrategy.ofName name
    | none => pure .repeatedSubtraction
  make digits remainder (warnAt.getD 10000) cap

end Settings

end Longhand
