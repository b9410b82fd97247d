import Longhand.Proofs.Parsing
import Longhand.Proofs.Product
import Longhand.Proofs.Remainder

/-!
What cannot be told from outside: how columns are computed (`Settings.digits_unobservable`), and
how an operand is written (`Natural.spelling_unobservable`). Two runs that differ in nothing else
come to the same, failures and logs included, for all operations at once (`Arithmetic.runs`,
`Natural.runs`), also with every check made (`Checked.runs`).
-/

namespace Longhand

/-! All runs on two operands -/

/-- What the operations on two operands come to. -/
structure Arithmetic.Runs where
  compare : Except Error Ordering
  add : Except Error Numeral
  subtract : Except Error Numeral
  multiply : Except Error Numeral
  modulo : Traced Numeral

/-- The run of every operation on two operands. Only a remainder is logged. -/
def Arithmetic.runs (settings : Settings) (a b : Value) : Runs where
  compare := compare a b
  add := add settings a b
  subtract := subtract settings a b
  multiply := multiply settings a b
  modulo := modulo settings a b

structure Natural.Runs where
  add : Except Error Numeral
  multiply : Except Error Numeral
  subtract : Traced Result
  modulo : Traced Result

/-- The run of every operation on two natural numbers, given in any form. -/
def Natural.runs (settings : Settings) (a b : Value) : Runs where
  add := add settings a b
  multiply := multiply settings a b
  subtract := subtract settings a b
  modulo := modulo settings a b

structure Checked.Runs where
  compare : Except Error Ordering
  add : Except Error String
  subtract : Except Error String
  multiply : Except Error String
  modulo : Nat → Option (Traced String)

/-- The run of every operation on two operands, with every check made. -/
def Checked.runs (settings : Settings) (a b : Value) : Runs where
  compare := compare a b
  add := add settings a b
  subtract := subtract settings a b
  multiply := multiply settings a b
  modulo rounds := modulo rounds settings a b

/-! Settings that differ in how columns are computed -/

namespace Settings

/-- Settings that differ at most in how columns are computed. -/
structure AgreeBesideDigits (s t : Settings) : Prop where
  remainder : s.remainder = t.remainder
  warnAt : s.warnAt = t.warnAt
  cap : s.cap = t.cap

variable {s t : Settings}

theorem AgreeBesideDigits.warns_iff (h : s.AgreeBesideDigits t) {count current divisor : Nat} :
    s.Warns count current divisor ↔ t.Warns count current divisor := by
  rw [Warns, Warns, h.warnAt, h.cap]

theorem AgreeBesideDigits.ending_eq (h : s.AgreeBesideDigits t) (total : Nat) (r : Numeral) :
    s.ending total r = t.ending total r := by
  rw [ending, ending, h.cap]

end Settings

namespace Numeral

variable {s t : Settings}

/-- Repeated subtraction is told by the values, the threshold and the cap. -/
theorem modulo_congr (h : s.AgreeBesideDigits t) (a b : Numeral) :
    modulo s a b = modulo t a b := by
  by_cases hb : b = zero
  · rw [modulo, modulo, dif_pos hb, dif_pos hb]
  · cases ht : t.remainder with
    | shiftSubtract =>
      rw [modulo_shift ht a hb, modulo_shift (h.remainder.trans ht) a hb]
    | repeatedSubtraction =>
      have hcap : ∀ {settings : Settings}, ∀ cap ∈ settings.cap, 0 ≤ cap := fun _ _ =>
        Nat.zero_le _
      rw [modulo_repeated ht a hb, modulo_repeated (h.remainder.trans ht) a hb,
        repeatedRemainder_eq s a.length hb a 0 hcap, repeatedRemainder_eq t a.length hb a 0 hcap,
        h.ending_eq, h.warnAt]
      simp only [h.warns_iff]

end Numeral

namespace Arithmetic

variable {s t : Settings}

theorem add_congr (s t : Settings) (a b : Value) : add s a b = add t a b := by
  simp only [add, Numeral.add_eq]

theorem subtract_congr (s t : Settings) (a b : Value) : subtract s a b = subtract t a b := by
  simp only [subtract, Numeral.subtract_eq]

theorem multiply_congr (s t : Settings) (a b : Value) : multiply s a b = multiply t a b := by
  simp only [multiply, Numeral.multiply_eq]

theorem runs_congr_settings (h : s.AgreeBesideDigits t) (a b : Value) :
    runs s a b = runs t a b := by
  rw [runs, runs, add_congr s t, subtract_congr s t, multiply_congr s t]
  simp only [modulo, Numeral.modulo_congr h]

end Arithmetic

theorem Natural.runs_congr_settings {s t : Settings} (h : s.AgreeBesideDigits t) (a b : Value) :
    runs s a b = runs t a b := by
  simp only [runs, add, multiply, subtract, modulo, Numeral.add_eq, Numeral.multiply_eq,
    Numeral.subtract_eq, Numeral.modulo_congr h]

namespace Checked

variable {s t : Settings}

theorem subtract_congr (s t : Settings) (a b : Value) : subtract s a b = subtract t a b := by
  rw [subtract_eq, subtract_eq, Arithmetic.subtract_congr s t]

theorem reduce_congr (s t : Settings) (b : String) (rounds : Nat) (r : String) :
    reduce s b rounds r = reduce t b rounds r := by
  induction rounds generalizing r with
  | zero => rfl
  | succ rounds ih => simp only [reduce, subtract_congr s t, ih]

theorem divide_congr (s t : Settings) (rounds : Nat) (b : String) (ds : List Char) (r : String) :
    divide s rounds b ds r = divide t rounds b ds r := by
  induction ds generalizing r with
  | nil => rfl
  | cons d ds ih => simp only [divide, reduce_congr s t, ih]

/-- Both loops subtract alike in a round, so they stop, warn and fail in the same one. -/
theorem takeAway_congr (h : s.AgreeBesideDigits t) (dividend : Nat) (b : String) (rounds : Nat)
    (current : String) (count : Nat) :
    takeAway s dividend b rounds current count = takeAway t dividend b rounds current count := by
  induction rounds generalizing current count with
  | zero => rfl
  | succ rounds ih => simp only [takeAway, subtract_congr s t, h.cap, h.warnAt, ih]

theorem modulo_congr (h : s.AgreeBesideDigits t) (rounds : Nat) (a b : Value) :
    modulo rounds s a b = modulo rounds t a b := by
  simp only [modulo, remainder, h.remainder, divide_congr s t, takeAway_congr h]

theorem runs_congr_settings (h : s.AgreeBesideDigits t) (a b : Value) :
    runs s a b = runs t a b := by
  simp only [runs, add_eq, multiply_eq, Arithmetic.add_congr s t, Arithmetic.multiply_congr s t,
    subtract_congr s t, modulo_congr h]

end Checked

/-- Settings that differ only in how columns are computed cannot be told apart. On any two operands,
malformed ones included, every operation comes to the same value or the same failure, with the same
log, also with every check made and every loop cut off after the same number of rounds. -/
theorem Settings.digits_unobservable {s t : Settings} (h : s.AgreeBesideDigits t) (a b : Value) :
    Arithmetic.runs s a b = Arithmetic.runs t a b ∧
    Natural.runs s a b = Natural.runs t a b ∧
    Checked.runs s a b = Checked.runs t a b :=
  ⟨Arithmetic.runs_congr_settings h a b, Natural.runs_congr_settings h a b,
    Checked.runs_congr_settings h a b⟩

/-- A remainder of natural numbers that is stopped by the cap, and an integer that is malformed as a
digit string. -/
theorem Settings.digits_unobservable_at_cap :
    AgreeBesideDigits { digits := .counting, warnAt := 2, cap := some 2 }
      { warnAt := 2, cap := some 2 } ∧
    Arithmetic.runs { digits := .counting, warnAt := 2, cap := some 2 } (.str "0100") (.int 9)
      = Arithmetic.runs { warnAt := 2, cap := some 2 } (.str "0100") (.int 9) ∧
    Natural.runs { digits := .counting, warnAt := 2, cap := some 2 } (.str "0100") (.int 9)
      = Natural.runs { warnAt := 2, cap := some 2 } (.str "0100") (.int 9) ∧
    Checked.runs { digits := .counting, warnAt := 2, cap := some 2 } (.str "0100") (.int 9)
      = Checked.runs { warnAt := 2, cap := some 2 } (.str "0100") (.int 9) :=
  have hagree : AgreeBesideDigits { digits := .counting, warnAt := 2, cap := some 2 }
      { warnAt := 2, cap := some 2 } := ⟨rfl, rfl, rfl⟩
  ⟨hagree, digits_unobservable hagree (.str "0100") (.int 9)⟩

/-! Operands that are written in two ways -/

/-- The operations depend on what is read from their operands. -/
theorem Arithmetic.runs_congr (settings : Settings) {a a' b b' : Value}
    (ha : Numeral.ofValue a = Numeral.ofValue a') (hb : Numeral.ofValue b = Numeral.ofValue b') :
    runs settings a b = runs settings a' b' := by
  have h : operands a b = operands a' b' := by rw [operands, operands, ha, hb]
  simp only [runs, compare, add, subtract, multiply, modulo, h]

theorem Checked.runs_congr (settings : Settings) {a a' b b' : Value}
    (ha : Numeral.ofValue a = Numeral.ofValue a') (hb : Numeral.ofValue b = Numeral.ofValue b') :
    runs settings a b = runs settings a' b' := by
  simp only [runs, compare, add, subtract, multiply, modulo, operand_eq, ha, hb]

theorem Natural.runs_congr (settings : Settings) {a a' b b' : Value} (ha : parse a = parse a')
    (hb : parse b = parse b') : runs settings a b = runs settings a' b' := by
  have h : operands a b = operands a' b' := by rw [operands, operands, ha, hb]
  simp only [runs, add, multiply, subtract, modulo, h]

open DigitText (IsValid value) in
/-- Leading zeros of an operand cannot be told from what an operation does: on digit strings that
denote the same numbers it comes to the same value or the same failure, with the same log, also
with every check made. The operations on natural numbers do the same for operands in any form,
digit strings or integers within the conversion limit. -/
theorem Natural.spelling_unobservable (settings : Settings) {a a' b b' : String} (ha : IsValid a)
    (ha' : IsValid a') (hb : IsValid b) (hb' : IsValid b') (hva : value a = value a')
    (hvb : value b = value b') :
    Arithmetic.runs settings (.str a) (.str b) = Arithmetic.runs settings (.str a') (.str b') ∧
    Checked.runs settings (.str a) (.str b) = Checked.runs settings (.str a') (.str b') ∧
    ∀ x x' y y' : Value, Denotes x (value a) → Denotes x' (value a') → Denotes y (value b) →
      Denotes y' (value b') → runs settings x y = runs settings x' y' := by
  have hreada : Numeral.ofValue (.str a) = Numeral.ofValue (.str a') := by
    rw [ha.ofValue_eq, ha'.ofValue_eq, hva]
  have hreadb : Numeral.ofValue (.str b) = Numeral.ofValue (.str b') := by
    rw [hb.ofValue_eq, hb'.ofValue_eq, hvb]
  refine ⟨Arithmetic.runs_congr settings hreada hreadb, Checked.runs_congr settings hreada hreadb,
    fun x x' y y' hx hx' hy hy' => Natural.runs_congr settings ?_ ?_⟩
  · rw [hx.parse_eq, hx'.parse_eq, hva]
  · rw [hy.parse_eq, hy'.parse_eq, hvb]

/-- Operands with zeros before them, and an integer for a text. -/
theorem Natural.spelling_unobservable_padded :
    Arithmetic.runs { remainder := .shiftSubtract } (.str "0017") (.str "5")
      = Arithmetic.runs { remainder := .shiftSubtract } (.str "17") (.str "05") ∧
    Natural.runs { remainder := .shiftSubtract } (.str "0017") (.str "05")
      = Natural.runs { remainder := .shiftSubtract } (.int 17) (.str "5") := by
  have hlimit : 17 < tenPow digitLimit := by
    have hten : tenPow 2 ≤ tenPow digitLimit := tenPow_le (by decide)
    exact Nat.lt_of_lt_of_le (by decide) hten
  have hruns := @spelling_unobservable { remainder := .shiftSubtract } "0017" "17" "5" "05"
    (by decide) (by decide) (by decide) (by decide) (by decide) (by decide)
  exact ⟨hruns.1, hruns.2.2 _ _ _ _ (.text (by decide)) (.integer hlimit) (.text (by decide))
    (.text (by decide))⟩

end Longhand
