/-!
Blank characters of any script, and texts without the blanks around them.
-/

namespace Longhand

/-- Whether a character is blank: the separators of all scripts, and the controls that separate. -/
def isBlank (c : Char) : Bool :=
  let n := c.toNat
  (0x9 ≤ n && n ≤ 0xd) || (0x1c ≤ n && n ≤ 0x20) || n = 0x85 || n = 0xa0 || n = 0x1680
    || (0x2000 ≤ n && n ≤ 0x200a) || n = 0x2028 || n = 0x2029 || n = 0x202f || n = 0x205f
    || n = 0x3000

namespace Blank

/-- Drops the characters of a kind at the end. -/
def trimEndBy (p : Char → Bool) (cs : List Char) : List Char := (cs.reverse.dropWhile p).reverse

def trimBy (p : Char → Bool) (cs : List Char) : List Char := trimEndBy p (cs.dropWhile p)

/-- Drops the blanks at both ends. -/
def trim (cs : List Char) : List Char := trimBy isBlank cs

end Blank

end Longhand
