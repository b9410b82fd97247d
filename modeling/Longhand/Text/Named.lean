import Longhand.Text.Named.Aliases
import Longhand.Text.Named.Alphabets
import Longhand.Text.Named.Ancient
import Longhand.Text.Named.MoreScripts
import Longhand.Text.Named.Pictures
import Longhand.Text.Named.Run
import Longhand.Text.Named.Scripts
import Longhand.Text.Named.Signs
import Longhand.Text.Named.Syllables
import Longhand.Text.Named.Symbols
import Longhand.Text.Radix

/-!
Characters and their names, by which patterns and the texts in annotations can call for a
character. Unified ideographs and composed syllables have names by rule, which are read in capitals
only. All other names are read in any case: some end in the number of their character, and the rest
stand in tables. No theorem depends on which names there are.
-/

namespace Longhand

namespace Named

/-! ### Names that end in a number -/

/-- Characters whose names are a common lead and their code points in hexadecimal digits. -/
structure Numbered where
  lead : String
  /-- The first and the last code points of the ranges of characters. -/
  ranges : List (Nat × Nat)

namespace Numbered

def covers (f : Numbered) (n : Nat) : Bool := f.ranges.any fun r => r.1 ≤ n && n ≤ r.2

def name? (f : Numbered) (n : Nat) : Option (List Char) :=
  if f.covers n then some (f.lead.toList ++ (Nat.toDigits 16 n).map Char.toUpper) else none

/-- The code point of a name with four or five digits, which may be more than it takes. -/
def find? (f : Numbered) (name : List Char) : Option Nat := do
  let ds ← rest? f.lead.toList name
  let n := Radix.value 16 ds
  if (ds.length = 4 ∨ ds.length = 5) ∧ ds.all (fun c => Radix.isDigit 16 c && !c.isLower)
    ∧ f.covers n
  then some n else none

/-- The code point of a name with just the digits that it takes. -/
def findExact? (f : Numbered) (name : List Char) : Option Nat :=
  (f.find? name).filter fun n => f.name? n = some name

end Numbered

def ideographs : Numbered where
  lead := "CJK UNIFIED IDEOGRAPH-"
  ranges := [(0x3400, 0x4dbf), (0x4e00, 0x9fff), (0x20000, 0x2a6df), (0x2a700, 0x2b738),
    (0x2b740, 0x2b81d), (0x2b820, 0x2cea1), (0x2ceb0, 0x2ebe0), (0x30000, 0x3134a)]

def numbered : List Numbered := [
  ⟨"CJK COMPATIBILITY IDEOGRAPH-", [(0xf900, 0xfa6d), (0xfa70, 0xfad9), (0x2f800, 0x2fa1d)]⟩,
  ⟨"KHITAN SMALL SCRIPT CHARACTER-", [(0x18b00, 0x18cd5)]⟩,
  ⟨"NUSHU CHARACTER-", [(0x1b170, 0x1b2fb)]⟩]

/-! ### Composed syllables -/

/-- The parts of composed syllables in order: leading consonants, then vowels, then trailing
consonants. -/
def leads : List String :=
  ["G", "GG", "N", "D", "DD", "R", "M", "B", "BB", "S", "SS", "", "J", "JJ", "C", "K", "T", "P",
    "H"]

def vowels : List String :=
  ["A", "AE", "YA", "YAE", "EO", "E", "YEO", "YE", "O", "WA", "WAE", "OE", "YO", "U", "WEO", "WE",
    "WI", "YU", "EU", "YI", "I"]

def trails : List String :=
  ["", "G", "GG", "GS", "N", "NJ", "NH", "D", "L", "LG", "LM", "LB", "LS", "LT", "LP", "LH", "M",
    "B", "BS", "S", "SS", "NG", "J", "C", "K", "T", "P", "H"]

/-- The place of the longest part that a text begins with, and the text after it. -/
def longest (parts : List String) (cs : List Char) : Option (Nat × List Char) :=
  let fits := parts.zipIdx.filter fun p => p.1.toList.isPrefixOf cs
  let best := fits.foldl (fun b p => if b.any fun q => p.1.length ≤ q.1.length then b else some p)
    (none : Option (String × Nat))
  best.map fun (s, i) => (i, cs.drop s.length)

/-- What the names of composed syllables begin with. -/
def syllable : List Char := "HANGUL SYLLABLE ".toList

def findSyllable? (name : List Char) : Option Nat := do
  let rest ← rest? syllable name
  let (l, rest) ← longest leads rest
  let (v, rest) ← longest vowels rest
  let (t, rest) ← longest trails rest
  if rest.isEmpty then some (0xac00 + (l * 21 + v) * 28 + t) else none

def syllableName? (n : Nat) : Option (List Char) :=
  if 0xac00 ≤ n ∧ n ≤ 0xd7a3 then do
    let n := n - 0xac00
    let l ← leads[n / 28 / 21]?
    let v ← vowels[n / 28 % 21]?
    let t ← trails[n % 28]?
    some (syllable ++ l.toList ++ v.toList ++ t.toList)
  else none

/-! ### All names -/

/-- The names that stand in tables, by ranges of characters. -/
def tables : List (List Run) :=
  [alphabets, scripts, moreScripts, symbols, syllables, ancient, signs, pictures]

/-- The code point of the character with a name. -/
def find? (name : String) : Option Nat :=
  let cs := name.toList
  let capitals := cs.map Char.toUpper
  findSyllable? cs <|> ideographs.find? cs <|> numbered.findSome? (·.findExact? capitals)
    <|> tables.findSome? (·.findSome? (·.find? capitals)) <|> aliases.findSome? (·.find? capitals)

/-- The name of a code point. A character without one may still have further names. -/
def name? (n : Nat) : Option String :=
  (syllableName? n <|> ideographs.name? n <|> numbered.findSome? (·.name? n)
    <|> tables.findSome? (·.findSome? (·.name? n))).map String.ofList

end Named

end Longhand
