import Longhand.Text.EquivalenceTable
import Longhand.Text.Parts
import Longhand.Text.Radix

/-!
One spelling for names that look or mean the same. A name is taken apart into the plainest
characters that it is compatible with, its marks are put in order, and what can be composed is
composed. Names in ASCII are spelled as they are.
-/

namespace Longhand

namespace Equivalent

/-- An entry of a table: a range of code points, and what stands for the first of them. -/
structure Entry where
  first : Nat
  last : Nat
  target : List Nat

def Entry.ofChars (cs : List Char) : Entry :=
  let (left, right) := cs.span (· ≠ '=')
  let bounds := (partsBetween '-' left).map (Radix.value 16)
  ⟨bounds.headD 0, bounds.getLastD 0, (partsBetween '+' (right.drop 1)).map (Radix.value 16)⟩

def entries (lines : List String) : List Entry :=
  lines.flatMap fun l => (partsBetween ' ' l.toList).map Entry.ofChars

def find? (table : List Entry) (n : Nat) : Option (List Nat) :=
  (table.find? fun e => e.first ≤ n && n ≤ e.last).map fun e =>
    match e.target with
    | [m] => [m + (n - e.first)]
    | ms => ms

/-- The plainest characters by character. -/
def compatibilities : List Entry := entries compatibilityEntries

def combining : List Entry := entries combiningEntries

def compositions : List ((Nat × Nat) × Nat) :=
  compositionEntries.flatMap fun l => (partsBetween ' ' l.toList).map fun cs =>
    let (pair, composed) := cs.span (· ≠ '=')
    let parts := (partsBetween '+' pair).map (Radix.value 16)
    ((parts.headD 0, parts.getLastD 0), Radix.value 16 (composed.drop 1))

/-- The class of a mark; all other characters have class zero. -/
def markClass (n : Nat) : Nat :=
  match combining.find? fun e => e.first ≤ n && n ≤ e.last with
  | some e => e.target.headD 0
  | none => 0

/-- A character taken apart. A composed syllable has a lead, a vowel, and perhaps a trail. -/
def apart (n : Nat) : List Nat :=
  if n < 0x80 then [n]
  else if 0xac00 ≤ n ∧ n < 0xac00 + 11172 then
    let s := n - 0xac00
    let trail := s % 28
    [0x1100 + s / 588, 0x1161 + s % 588 / 28] ++ if trail = 0 then [] else [0x11a7 + trail]
  else (find? compatibilities n).getD [n]

/-- Puts a character in front, behind the marks of lower classes if it is a mark itself. -/
def insertMark (c : Nat) : List Nat → List Nat
  | [] => [c]
  | d :: rest =>
    if 0 < markClass d ∧ markClass d < markClass c then d :: insertMark c rest else c :: d :: rest

def pair? (a b : Nat) : Option Nat :=
  if 0x1100 ≤ a ∧ a < 0x1113 ∧ 0x1161 ≤ b ∧ b < 0x1176 then
    some (0xac00 + ((a - 0x1100) * 21 + (b - 0x1161)) * 28)
  else if 0xac00 ≤ a ∧ a < 0xac00 + 11172 ∧ (a - 0xac00) % 28 = 0 ∧ 0x11a7 < b ∧ b < 0x11c3 then
    some (a + (b - 0x11a7))
  else compositions.lookup (a, b)

/-- Composes what follows a base. The `marks` after it, in reverse, stay marks, and the last of
them has the class `last`; a mark is composed only past marks of lower classes. -/
def compose (base : Nat) (marks : List Nat) (last : Nat) : List Nat → List Nat
  | [] => base :: marks.reverse
  | c :: rest =>
    let k := markClass c
    match (if marks.isEmpty ∨ last < k then pair? base c else none) with
    | some d => compose d marks last rest
    | none =>
      if k = 0 then (base :: marks.reverse) ++ compose c [] 0 rest
      else compose base (c :: marks) k rest

end Equivalent

def commonSpelling (name : List Char) : List Char :=
  if name.all (·.toNat < 0x80) then name
  else
    match ((name.flatMap fun c => Equivalent.apart c.toNat).foldr Equivalent.insertMark []) with
    | [] => []
    | base :: rest => (Equivalent.compose base [] 0 rest).map Char.ofNat

end Longhand
