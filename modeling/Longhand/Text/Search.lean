/-!
Finding a row of items within another: where it stands first and last, how often it stands there
without overlaps, and what is left when it is cut out or replaced.
-/

namespace Longhand

namespace Search

variable {α : Type} [BEq α]

/-- The first place where a row stands in another. -/
def find? (row : List α) : List α → Option Nat
  | [] => if row.isEmpty then some 0 else none
  | x :: xs => if row.isPrefixOf (x :: xs) then some 0 else (find? row xs).map (· + 1)

/-- The last place where a row stands in another. -/
def findLast? (row : List α) : List α → Option Nat
  | [] => if row.isEmpty then some 0 else none
  | x :: xs =>
    match findLast? row xs with
    | some i => some (i + 1)
    | none => if row.isPrefixOf (x :: xs) then some 0 else none

def isWithin (row xs : List α) : Bool := (find? row xs).isSome

/-- The pieces between the places of a row that is not empty, at most so many cuts from the left. -/
def split (row : List α) : (fuel : Nat) → (cuts : Nat) → List α → List (List α)
  | 0, _, xs => [xs]
  | _, 0, xs => [xs]
  | fuel + 1, cuts + 1, xs =>
    match find? row xs with
    | some i => xs.take i :: split row fuel cuts (xs.drop (i + row.length))
    | none => [xs]

def pieces (row : List α) (cuts : Option Nat) (xs : List α) : List (List α) :=
  split row (xs.length + 1) (cuts.getD (xs.length + 1)) xs

def piecesFromRight (row : List α) (cuts : Option Nat) (xs : List α) : List (List α) :=
  ((pieces row.reverse cuts xs.reverse).map List.reverse).reverse

/-- How often a row stands in another without overlaps. An empty row stands at every end. -/
def count (row xs : List α) : Nat :=
  if row.isEmpty then xs.length + 1 else (pieces row none xs).length - 1

/-- Each item with something in front of it, for as many items as asked. -/
def spaced (between : List α) : (times : Nat) → List α → List α
  | 0, xs => xs
  | _, [] => between
  | n + 1, x :: xs => between ++ x :: spaced between n xs

/-- A row replaced by another, at most so many times. -/
def replace (row new : List α) (times : Option Nat) (xs : List α) : List α :=
  if row.isEmpty then spaced new (times.getD (xs.length + 1)) xs
  else List.intercalate new (pieces row times xs)

end Search

end Longhand
