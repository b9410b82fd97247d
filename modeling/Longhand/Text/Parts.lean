/-!
A text as parts with a separator between them.
-/

namespace Longhand

/-- The parts of a text between separators, of which there is at least one. -/
def partsBetween (separator : Char) : List Char → List (List Char)
  | [] => [[]]
  | c :: rest =>
    match partsBetween separator rest with
    | [] => [[c]]
    | part :: parts => if c = separator then [] :: part :: parts else (c :: part) :: parts

end Longhand
