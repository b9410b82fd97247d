/-!
Digits of a base as characters, and the numbers that they spell. Letters of either case follow
the ten digits.
-/

namespace Longhand

namespace Radix

/-- The value of a digit or letter, where the base is large enough for it. -/
def rank? (c : Char) : Option Nat :=
  if '0' ≤ c ∧ c ≤ '9' then some (c.toNat - '0'.toNat)
  else if 'a' ≤ c ∧ c ≤ 'z' then some (c.toNat - 'a'.toNat + 10)
  else if 'A' ≤ c ∧ c ≤ 'Z' then some (c.toNat - 'A'.toNat + 10)
  else none

def digit? (base : Nat) (c : Char) : Option Nat := (rank? c).filter (· < base)

def isDigit (base : Nat) (c : Char) : Bool := (digit? base c).isSome

/-- The number that digits of a base spell, the first of them weighing most. -/
def value (base : Nat) (ds : List Char) : Nat :=
  ds.foldl (fun n c => base * n + (digit? base c).getD 0) 0

end Radix

end Longhand
