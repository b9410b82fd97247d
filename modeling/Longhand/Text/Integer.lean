import Longhand.Error
import Longhand.Text.Blank
import Longhand.Text.Radix

/-!
Integers as people type them: blanks around them, a sign, the decimal digits of any script, and
single underscores between digits.
-/

namespace Longhand

namespace IntegerText

/-- The code points of the digit zero of each script, in increasing order. Nine digits follow each
of them. -/
def zeros : List Nat :=
  [0x30, 0x660, 0x6f0, 0x7c0, 0x966, 0x9e6, 0xa66, 0xae6, 0xb66, 0xbe6, 0xc66, 0xce6, 0xd66, 0xde6,
    0xe50, 0xed0, 0xf20, 0x1040, 0x1090, 0x17e0, 0x1810, 0x1946, 0x19d0, 0x1a80, 0x1a90, 0x1b50,
    0x1bb0, 0x1c40, 0x1c50, 0xa620, 0xa8d0, 0xa900, 0xa9d0, 0xa9f0, 0xaa50, 0xabf0, 0xff10,
    0x104a0, 0x10d30, 0x11066, 0x110f0, 0x11136, 0x111d0, 0x112f0, 0x11450, 0x114d0, 0x11650,
    0x116c0, 0x11730, 0x118e0, 0x11950, 0x11c50, 0x11d50, 0x11da0, 0x16a60, 0x16ac0, 0x16b50,
    0x1d7ce, 0x1d7d8, 0x1d7e2, 0x1d7ec, 0x1d7f6, 0x1e140, 0x1e2f0, 0x1e950, 0x1fbf0]

/-- The value of a decimal digit of any script. -/
def decimal? (c : Char) : Option Nat :=
  (zeros.find? fun z => z ≤ c.toNat && c.toNat < z + 10).map fun z => c.toNat - z

/-- A character with the digits of all scripts as ASCII digits. -/
def plain (c : Char) : Char :=
  if c.toNat < 0x80 then c
  else
    match decimal? c with
    | some d => Char.ofNat ('0'.toNat + d)
    | none => c

/-- Whether digits of a base stand in a text, with single underscores between them only. -/
def areDigits (base : Nat) : List Char → Bool
  | [] => false
  | [c] => Radix.isDigit base c
  | c :: '_' :: rest => Radix.isDigit base c && areDigits base rest
  | c :: rest => Radix.isDigit base c && areDigits base rest

/-- The base that a marker after a leading zero names. -/
def markedBase? (c : Char) : Option Nat :=
  match c with
  | 'x' | 'X' => some 16
  | 'o' | 'O' => some 8
  | 'b' | 'B' => some 2
  | _ => none

/-- The digits without a marker of their base, and the base. A base of zero is told by the marker,
and without one is ten, where leading zeros stand before a zero only. -/
def unmarked (base : Nat) (cs : List Char) : Option (Nat × List Char) :=
  match cs with
  | '0' :: m :: rest =>
    match markedBase? m with
    | some b =>
      if base = 0 ∨ base = b then
        match rest with
        | '_' :: rest => some (b, rest)
        | rest => some (b, rest)
      else some (base, cs)
    | none =>
      if base = 0 then
        if (m :: rest).all fun c => c = '0' || c = '_' then some (10, cs) else none
      else some (base, cs)
  | cs => some (if base = 0 then 10 else base, cs)

/-- Why a text is no integer. -/
inductive Unreadable where
  | form
  | limit (digits : Nat)

/-- The integer that a text spells in a base. Only bases that are no powers of two have a limit. -/
def read (base : Nat) (s : String) : Except Unreadable Int :=
  let cs := (Blank.trim s.toList).map plain
  let (negative, cs) := match cs with
    | '-' :: rest => (true, rest)
    | '+' :: rest => (false, rest)
    | cs => (false, cs)
  match unmarked base cs with
  | none => .error .form
  | some (b, cs) =>
    if areDigits b cs then
      let ds := cs.filter (· ≠ '_')
      if digitLimit < ds.length ∧ !([2, 4, 8, 16, 32].contains b) then .error (.limit ds.length)
      else
        let n : Int := Radix.value b ds
        .ok (if negative then -n else n)
    else .error .form

end IntegerText

end Longhand
