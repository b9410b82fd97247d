import Longhand.Proofs.Unobservable

/-!
What is wrong with an operand (`Digits.Flaw`), and that a malformed operand comes before everything
else. `Digits.fails_ofValue_iff` says that reading fails with the wording of the flaw and with no
other, `Arithmetic.fails_operands_iff` that the first of two operands is reported first. No
operation fails in that way after reading, so each of them reports exactly what reading does
(`Arithmetic.malformed_first`).
-/

namespace Longhand

theorem FailsOnly.not_fails {α : Type} {x : Except Error α} (h : FailsOnly Error.NotMalformed x)
    (text : String) : ¬Fails x .malformedInput text := by
  rintro ⟨e, he, hkind, -⟩
  exact h e he hkind

/-- A text of one or more ASCII digits. -/
def Value.IsDigits (v : Value) : Prop := ∃ s, v = .str s ∧ DigitText.IsValid s

/-! What is wrong with one operand -/

namespace Digits

/-- What is wrong with an operand that is no digit string, and how it is worded. -/
inductive Flaw : Value → String → Prop
  | notText {v : Value} : (∀ s, v ≠ .str s) →
      Flaw v ("Digit sequence must be a string, got " ++ v.typeName)
  | empty : Flaw (.str "") "Digit sequence must not be empty"
  /-- The first character that is no digit, after digits only. -/
  | character {front : List Char} {c : Char} {rest : List Char} :
      (∀ d ∈ front, d.isDigit = true) → c.isDigit = false →
      Flaw (.str (String.ofList (front ++ c :: rest)))
        ("Invalid character " ++ Quoted.string (String.singleton c) ++ " at position "
          ++ Nat.repr front.length ++ " in digit sequence")

/-- Reading passes over the digits in front, whose number is added to the position. -/
theorem ofChars_append_cons {front : List Char} (hfront : ∀ d ∈ front, d.isDigit = true) {c : Char}
    (hc : c.isDigit = false) (rest : List Char) (position : Nat) :
    ofChars position (front ++ c :: rest) = .error (.engine (.malformed
      (.character (Quoted.string (String.singleton c)) (position + front.length)))) := by
  induction front generalizing position with
  | nil =>
    rw [List.nil_append, ofChars, Digit.ofChar?_eq_none hc]
    rfl
  | cons x front ih =>
    obtain ⟨d, rfl⟩ := Digit.exists_of_isDigit (hfront x List.mem_cons_self)
    rw [List.cons_append, ofChars, Digit.ofChar?_toChar,
      ih (fun y hy => hfront y (List.mem_cons_of_mem _ hy)), List.length_cons,
      Nat.add_right_comm, Nat.add_assoc]
    rfl

theorem Flaw.fails {v : Value} {text : String} (h : Flaw v text) :
    Fails (ofValue v) .malformedInput text := by
  cases h with
  | notText hv =>
    cases v with
    | str s => exact absurd rfl (hv s)
    | _ => exact fails_engine (.malformed (.notText _))
  | empty => exact fails_engine (.malformed .empty)
  | @character front c rest hfront hc =>
    have hne : ¬(String.ofList (front ++ c :: rest)).toList = [] := by
      rw [String.toList_ofList]
      exact List.append_ne_nil_of_right_ne_nil _ (List.cons_ne_nil _ _)
    rw [ofValue, if_neg hne, String.toList_ofList, ofChars_append_cons hfront hc, Nat.zero_add]
    exact fails_engine (.malformed (.character _ _))

/-- A text is one of digits, or it has a first character that is none. -/
theorem forall_isDigit_or_exists (cs : List Char) :
    (∀ c ∈ cs, c.isDigit = true) ∨ ∃ front c rest, cs = front ++ c :: rest ∧
      (∀ d ∈ front, d.isDigit = true) ∧ c.isDigit = false := by
  induction cs with
  | nil => exact .inl nofun
  | cons x cs ih =>
    cases hx : x.isDigit with
    | false => exact .inr ⟨[], x, cs, rfl, nofun, hx⟩
    | true =>
      obtain hall | ⟨front, c, rest, rfl, hfront, hc⟩ := ih
      · exact .inl (List.forall_mem_cons.2 ⟨hx, hall⟩)
      · exact .inr ⟨x :: front, c, rest, rfl, List.forall_mem_cons.2 ⟨hx, hfront⟩, hc⟩

/-- Everything but digit strings has a flaw. -/
theorem isDigits_or_exists_flaw (v : Value) : v.IsDigits ∨ ∃ text, Flaw v text := by
  by_cases htext : ∃ s, v = .str s
  · obtain ⟨s, rfl⟩ := htext
    by_cases hempty : s = ""
    · subst hempty
      exact .inr ⟨_, .empty⟩
    · obtain hall | ⟨front, c, rest, hs, hfront, hc⟩ := forall_isDigit_or_exists s.toList
      · exact .inl ⟨s, rfl, hempty, hall⟩
      · rw [← String.ofList_toList (s := s), hs]
        exact .inr ⟨_, .character hfront hc⟩
  · exact .inr ⟨_, .notText fun s hs => htext ⟨s, hs⟩⟩

/-- Reading an operand fails as malformed with the wording of its flaw. -/
theorem fails_ofValue_iff {v : Value} {text : String} :
    Fails (ofValue v) .malformedInput text ↔ Flaw v text := by
  refine ⟨fun h => ?_, Flaw.fails⟩
  obtain hdigits | ⟨word, hflaw⟩ := isDigits_or_exists_flaw v
  · obtain ⟨ds, hds⟩ := exists_ofValue_iff.2 hdigits
    exact absurd hds (h.ne_ok ds)
  · rw [h.text_unique hflaw.fails]
    exact hflaw

theorem exists_fails_ofValue_iff {v : Value} :
    (∃ text, Fails (ofValue v) .malformedInput text) ↔ ¬v.IsDigits := by
  constructor
  · rintro ⟨text, h⟩ hdigits
    obtain ⟨ds, hds⟩ := exists_ofValue_iff.2 hdigits
    exact h.ne_ok ds hds
  · intro h
    obtain ⟨text, hflaw⟩ := (isDigits_or_exists_flaw v).resolve_left h
    exact ⟨text, hflaw.fails⟩

end Digits

/-! What an operation reports of two operands -/

namespace Arithmetic

variable {α β : Type} {a b : Value}

/-- The first operand is read first, and a flaw of the second is found only after it. -/
theorem fails_operands_iff {text : String} :
    Fails (operands a b) .malformedInput text ↔
      Fails (Digits.ofValue a) .malformedInput text ∨
        a.IsDigits ∧ Fails (Digits.ofValue b) .malformedInput text := by
  -- Numerals are made of what is read, and making them fails on nothing.
  have hread : operands a b = Digits.ofValue a >>= fun ds => (Digits.ofValue b).map fun es =>
      (Numeral.ofDigits ds, Numeral.ofDigits es) := by
    rw [operands, Numeral.ofValue, Numeral.ofValue]
    cases Digits.ofValue a <;> cases Digits.ofValue b <;> rfl
  rw [hread, fails_bind]
  simp only [fails_map, exists_and_right, Digits.exists_ofValue_iff]
  exact Iff.rfl

theorem isDigits_of_operands {p : Numeral × Numeral} (h : operands a b = .ok p) :
    a.IsDigits ∧ b.IsDigits := by
  obtain ⟨m, ha, h⟩ := exists_of_bind_ok h
  obtain ⟨n, hb, -⟩ := exists_of_bind_ok h
  obtain ⟨ds, hds, -⟩ := exists_of_bind_ok ha
  obtain ⟨es, hes, -⟩ := exists_of_bind_ok hb
  exact ⟨Digits.exists_ofValue_iff.1 ⟨ds, hds⟩, Digits.exists_ofValue_iff.1 ⟨es, hes⟩⟩

/-- A run on two operands reports a malformed one before anything else: it fails as malformed
exactly if one of them is, with the text that reading the first malformed one fails with, and
nothing is logged then. -/
structure ReportsFirst (a b : Value) (run : Traced α) : Prop where
  malformed_iff : (∃ text, Fails run.outcome .malformedInput text) ↔ ¬(a.IsDigits ∧ b.IsDigits)
  text_iff : ∀ text, Fails run.outcome .malformedInput text ↔
    Fails (Digits.ofValue a) .malformedInput text ∨
      a.IsDigits ∧ Fails (Digits.ofValue b) .malformedInput text
  silent : ¬(a.IsDigits ∧ b.IsDigits) → run.log = []

namespace ReportsFirst

/-- What is made of the operands after reading must not fail as malformed again. -/
theorem of_operands {f : Numeral × Numeral → Traced α}
    (hf : ∀ p, FailsOnly Error.NotMalformed (f p).outcome) :
    ReportsFirst a b (Traced.ofExcept (operands a b) >>= f) := by
  have houtcome : (Traced.ofExcept (operands a b) >>= f).outcome
      = operands a b >>= fun p => (f p).outcome := by
    cases operands a b <;> rfl
  have htext : ∀ text, Fails (Traced.ofExcept (operands a b) >>= f).outcome .malformedInput text ↔
      Fails (Digits.ofValue a) .malformedInput text ∨
        a.IsDigits ∧ Fails (Digits.ofValue b) .malformedInput text := fun text => by
    rw [houtcome, fails_bind, or_iff_left fun ⟨p, _, hfails⟩ => (hf p).not_fails text hfails,
      fails_operands_iff]
  refine ⟨?_, htext, fun hdigits => ?_⟩
  · simp only [htext, exists_or, exists_and_left, Digits.exists_fails_ofValue_iff]
    by_cases ha : a.IsDigits
    · rw [or_iff_right (not_not_intro ha), and_iff_right ha, and_iff_right ha]
    · exact iff_of_true (.inl ha) fun h => ha h.1
  · cases h : operands a b with
    | error e => rfl
    | ok p => exact absurd (isDigits_of_operands h) hdigits

theorem ofExcept {f : Numeral × Numeral → Except Error α}
    (hf : ∀ p, FailsOnly Error.NotMalformed (f p)) :
    ReportsFirst a b (.ofExcept (operands a b >>= f)) := by
  have hbind : Traced.ofExcept (operands a b >>= f)
      = Traced.ofExcept (operands a b) >>= fun p => .ofExcept (f p) := by
    cases operands a b <;> rfl
  rw [hbind]
  exact of_operands hf

theorem map {run : Traced α} (h : ReportsFirst a b run) (f : α → β) :
    ReportsFirst a b (run.map f) where
  malformed_iff := (exists_congr fun _ => fails_map).trans h.malformed_iff
  text_iff text := fails_map.trans (h.text_iff text)
  silent := h.silent

end ReportsFirst

/-- A property of the runs of all operations. -/
structure Runs.Each (p : ∀ {α : Type}, Traced α → Prop) (runs : Runs) : Prop where
  compare : p (.ofExcept runs.compare)
  add : p (.ofExcept runs.add)
  subtract : p (.ofExcept runs.subtract)
  multiply : p (.ofExcept runs.multiply)
  modulo : p runs.modulo

theorem reportsFirst_runs (settings : Settings) (a b : Value) :
    (runs settings a b).Each (ReportsFirst a b) where
  compare := .ofExcept fun _ => .ok _
  add := .ofExcept fun _ => .ok _
  subtract := .ofExcept fun p => Numeral.failsOnly_subtract settings.digits p.1 p.2
  multiply := .ofExcept fun _ => .ok _
  modulo := .of_operands fun p => Numeral.failsOnly_modulo settings p.1 p.2

end Arithmetic

/-- A property of the runs of all operations with every check made, once the rounds suffice. -/
structure Checked.Runs.Each (p : ∀ {α : Type}, Traced α → Prop) (runs : Runs) : Prop where
  compare : p (.ofExcept runs.compare)
  add : p (.ofExcept runs.add)
  subtract : p (.ofExcept runs.subtract)
  multiply : p (.ofExcept runs.multiply)
  modulo : ∃ enough, ∀ rounds, enough ≤ rounds → ∃ run, runs.modulo rounds = some run ∧ p run

theorem Checked.reportsFirst_runs (settings : Settings) (a b : Value) :
    (runs settings a b).Each (Arithmetic.ReportsFirst a b) := by
  have h := Arithmetic.reportsFirst_runs settings a b
  refine ⟨?_, ?_, ?_, ?_, ?_⟩
  · rw [runs, compare_eq]
    exact h.compare
  · rw [runs, add_eq]
    exact h.add.map Numeral.text
  · rw [runs, subtract_eq]
    exact h.subtract.map Numeral.text
  · rw [runs, multiply_eq]
    exact h.multiply.map Numeral.text
  · obtain ⟨enough, heq⟩ := Arithmetic.exists_checked_modulo_eq settings a b
    exact ⟨enough, fun rounds hr => ⟨_, heq rounds hr, h.modulo.map Numeral.text⟩⟩

/-- A malformed operand is reported first, exactly and silently. Whatever the operands and the
settings are, every operation fails as malformed exactly if one of its operands is no digit string,
with the text that reading the first such operand fails with, and logs nothing then; so neither a
zero divisor or factor, a larger subtrahend nor the cap comes before it. The same holds with every
check made, also of the calls that the operations make. Reading fails with the wording of the flaw,
which names the first character that is no digit by its position. -/
theorem Arithmetic.malformed_first (settings : Settings) (a b : Value) :
    (runs settings a b).Each (ReportsFirst a b) ∧
    (Checked.runs settings a b).Each (ReportsFirst a b) ∧
    ∀ v text, Fails (Digits.ofValue v) .malformedInput text ↔ Digits.Flaw v text :=
  ⟨reportsFirst_runs settings a b, Checked.reportsFirst_runs settings a b, fun _ _ =>
    Digits.fails_ofValue_iff⟩

end Longhand
