import Longhand.Text.Parts

/-!
Runs of names: consecutive characters whose names begin alike.
-/

namespace Longhand

namespace Named

/-- What follows a lead in a name that begins with it. -/
def rest? (lead name : List Char) : Option (List Char) :=
  if lead.isPrefixOf name then some (name.drop lead.length) else none

/-- The names of consecutive characters. The lines hold what follows the lead of each name, with
semicolons between the characters of a line, and nothing for a character without a name. -/
structure Run where
  /-- The code point of the first character. -/
  first : Nat
  /-- What all the names begin with. -/
  lead : String
  lines : List String

namespace Run

/-- What follows the lead, for each character in turn. -/
def rests (r : Run) : List (List Char) := r.lines.flatMap fun l => partsBetween ';' l.toList

def name? (r : Run) (n : Nat) : Option (List Char) :=
  if r.first ≤ n then
    (r.rests[n - r.first]?.filter (· ≠ [])).map (r.lead.toList ++ ·)
  else none

def find? (r : Run) (name : List Char) : Option Nat := do
  let rest ← rest? r.lead.toList name
  if rest = [] then none else (r.rests.idxOf? rest).map (r.first + ·)

end Run

end Named

end Longhand
