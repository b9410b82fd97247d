import Longhand.Error
import Longhand.Text.Identifier
import Longhand.Text.Integer
import Longhand.Text.Named

/-!
The symbols of a regular expression, and what is known while they are read from left to right: the
groups, the flags, and facts that are judged at the end. A backslash and the character after it are
one symbol, and a backslash at the end is a defect as soon as it is the next symbol.
-/

namespace Longhand

namespace Pattern

/-- The least and the greatest number of characters that a part can match; `none` is unbounded. -/
structure Width where
  least : Nat
  most : Option Nat
deriving Inhabited, DecidableEq

namespace Width

def fixed (n : Nat) : Width := ⟨n, some n⟩

def followedBy (v w : Width) : Width :=
  ⟨v.least + w.least, do return (← v.most) + (← w.most)⟩

def or (v w : Width) : Width :=
  ⟨min v.least w.least, do return max (← v.most) (← w.most)⟩

def times (v : Width) (lo : Nat) (hi : Option Nat) : Width :=
  ⟨v.least * lo,
    if v.most = some 0 ∨ hi = some 0 then some 0 else do return (← v.most) * (← hi)⟩

/-- Whether a part has one width, and one that a matcher can step back by. -/
def isFixed (w : Width) : Bool := w.most = some w.least && w.least ≤ 0xffffffff

end Width

/-- Why a text is no regular expression, or not a usable one. -/
inductive Defect where
  | malformed
  | unusable (why : PatternLimit)
deriving DecidableEq, Repr, Inhabited

inductive Symbol where
  | plain (c : Char)
  | escaped (c : Char)
  /-- A backslash that ends the text. -/
  | broken
deriving DecidableEq, Inhabited

def symbols : List Char → List Symbol
  | [] => []
  | ['\\'] => [.broken]
  | '\\' :: c :: rest => .escaped c :: symbols rest
  | c :: rest => .plain c :: symbols rest

def Symbol.chars : Symbol → List Char
  | .plain c => [c]
  | .escaped c => ['\\', c]
  | .broken => ['\\']

/-- What is known while a regular expression is read. -/
structure State where
  rest : List Symbol
  /-- The names of groups. -/
  names : List (String × Nat) := []
  /-- The widths of the groups in the order in which they open; an open group has none yet. -/
  widths : List (Option Width) := []
  /-- How many groups had opened where the outermost look-behind began. -/
  before : Option Nat := none
  /-- The groups that conditions ask about by number; they may open later. -/
  asked : List Nat := []
  /-- The flags of the whole expression. -/
  flags : List Char := []
  hasCopies : Bool := false
  /-- Some look-behind has no fixed width. -/
  isUneven : Bool := false

abbrev Scan := StateT State (Except Defect)

def malformed {α : Type} : Scan α := throw .malformed

/-- Goes on with some symbols, unless the first of them is broken. -/
def moveTo (rest : List Symbol) : Scan Unit :=
  match rest with
  | .broken :: _ => malformed
  | rest => modify ({ · with rest })

def peek : Scan (Option Symbol) := return (← get).rest.head?

def advance : Scan Unit := do moveTo (← get).rest.tail

def take : Scan (Option Symbol) := do
  let s ← peek
  if s.isSome then advance
  return s

def accept (c : Char) : Scan Bool := do
  if (← peek) = some (.plain c) then
    advance
    return true
  else return false

def expect (c : Char) : Scan Unit := do
  if !(← accept c) then malformed

def takeWhile (p : Char → Bool) : (most : Nat) → Scan (List Char)
  | 0 => return []
  | most + 1 => do
    match ← peek with
    | some (.plain c) =>
      if p c then
        advance
        return c :: (← takeWhile p most)
      else return []
    | _ => return []

/-- The characters before a closing one, which is gone past. There must be some. -/
def takeUntil (close : Char) : Scan (List Char) := do
  let cs ← collect (← get).rest.length
  if cs.isEmpty then malformed else return cs
where
  collect : Nat → Scan (List Char)
  | 0 => malformed
  | fuel + 1 => do
    match ← take with
    | none => malformed
    | some s => if s = .plain close then return [] else return s.chars ++ (← collect fuel)

def hexadecimal (count : Nat) : Scan Nat := do
  let ds ← takeWhile (Radix.isDigit 16) count
  if ds.length = count then return Radix.value 16 ds else malformed

def isName : List Char → Bool
  | [] => false
  | c :: rest => beginsName c && rest.all continuesName

/-- An ASCII letter. -/
def isLetter (c : Char) : Bool := ('a' ≤ c && c ≤ 'z') || ('A' ≤ c && c ≤ 'Z')

/-- The controls that letters stand for after a backslash. -/
def controls : List (Char × Nat) :=
  [('a', 7), ('f', 12), ('n', 10), ('r', 13), ('t', 9), ('v', 11)]

/-- The letters of the classes of characters. -/
def isClassLetter (c : Char) : Bool := "dDsSwW".toList.contains c

/-- The code point that a backslash and a character stand for, where they mean the same in a class
and outside, and are no class themselves. -/
def codePoint (c : Char) : Scan Nat := do
  match controls.lookup c with
  | some n => return n
  | none =>
    if c = 'x' then hexadecimal 2
    else if c = 'u' then hexadecimal 4
    else if c = 'U' then do
      let n ← hexadecimal 8
      if n < 0x110000 then return n else malformed
    else if c = 'N' then do
      expect '\x7b'
      match Named.find? (String.ofList (← takeUntil '\x7d')) with
      | some n => return n
      | none => malformed
    else if isLetter c then malformed
    else return c.toNat

def octal (c : Char) : Scan Nat := do
  return Radix.value 8 (c :: (← takeWhile (Radix.isDigit 8) 2))

/-- One member of a class: its code point, or nothing for a class within the class. -/
def member : Symbol → Scan (Option Nat)
  | .plain c => return some c.toNat
  | .escaped c => do
    if isClassLetter c then return none
    else if c = 'b' then return some 8
    else if Radix.isDigit 8 c then do
      let n ← octal c
      if n ≤ 0xff then return some n else malformed
    else if Radix.isDigit 10 c then malformed
    else return some (← codePoint c)
  | .broken => malformed

/-- The members of a class up to its bracket, which is a member itself in the first place. A range
must not run backwards. -/
def members : (fuel : Nat) → (first : Bool) → Scan Unit
  | 0, _ => malformed
  | fuel + 1, first => do
    match ← take with
    | none => malformed
    | some s =>
      if s = .plain ']' && !first then return
      let low ← member s
      if ← accept '-' then
        match ← take with
        | none => malformed
        | some t =>
          if t = .plain ']' then return
          match low, ← member t with
          | some a, some b => if a ≤ b then members fuel false else malformed
          | _, _ => malformed
      else members fuel false

/-- A class after its opening bracket. -/
def characterClass : Scan Unit := do
  let _ ← accept '^'
  members ((← get).rest.length + 1) true

/-- The count from which on copies cannot be counted. -/
def copyLimit : Nat := 0xffffffff

def countOf (ds : List Char) : Scan Nat := do
  let n := Radix.value 10 ds
  if n < copyLimit then return n else throw (.unusable .copies)

/-- The counts in braces after the opening one, if the braces hold counts; otherwise the brace
stands for itself. -/
def braces : Scan (Option (Nat × Option Nat)) := do
  let start := (← get).rest
  if (← peek) = some (.plain '\x7d') then return none
  let low ← takeWhile (Radix.isDigit 10) start.length
  let high ← if ← accept ',' then takeWhile (Radix.isDigit 10) start.length else pure low
  if ← accept '\x7d' then
    let lo ← countOf low
    if high.isEmpty then return some (lo, none)
    let hi ← countOf high
    if hi < lo then malformed else return some (lo, some hi)
  else
    moveTo start
    return none

def groupCount : Scan Nat := return (← get).widths.length + 1

/-- The width of a group that is closed and not of the same look-behind. -/
def closedGroup (index : Nat) : Scan Width := do
  let s ← get
  match s.widths[index - 1]? with
  | some (some w) => if s.before.any (· < index) then malformed else return w
  | _ => malformed

/-- A number after a backslash: an octal character, or the text of a group again. -/
def numbered (c : Char) : Scan Width := do
  if c = '0' then
    let _ ← octal c
    return .fixed 1
  match ← takeWhile (Radix.isDigit 10) 1 with
  | [d] =>
    let isOctal := Radix.isDigit 8 c && Radix.isDigit 8 d
    match ← takeWhile (fun e => isOctal && Radix.isDigit 8 e) 1 with
    | [e] => if Radix.value 8 [c, d, e] ≤ 0xff then return .fixed 1 else malformed
    | _ => closedGroup (Radix.value 10 [c, d])
  | _ => closedGroup (Radix.value 10 [c])

/-- Checks what a condition asks about: a group by name, or by number, which may open later but not
within a look-behind. -/
def askAbout (cs : List Char) : Scan Unit := do
  let s ← get
  let index ←
    if isName cs then
      match s.names.lookup (String.ofList cs) with
      | some n => pure n
      | none => malformed
    else
      match IntegerText.read 10 (String.ofList cs) with
      | .ok (.ofNat (n + 1)) =>
        if n + 1 < 0x3fffffff then do
          modify fun s => { s with asked := (n + 1) :: s.asked }
          pure (n + 1)
        else malformed
      | _ => malformed
  if s.before.isSome then
    let _ ← closedGroup index

def isFlag (c : Char) : Bool := "iLmsxatu".toList.contains c

/-- The flags that a group or the whole expression turns on, the first of which was read, and the
character after them. Classes follow one alphabet only. -/
def flagsOn : (fuel : Nat) → (c : Char) → (on : List Char) → Scan (List Char × Char)
  | 0, _, _ => malformed
  | fuel + 1, c, on => do
    let on := c :: on
    if c = 'L' || (on.contains 'a' && on.contains 'u') then malformed
    match ← take with
    | some (.plain d) =>
      if d = ')' || d = '-' || d = ':' then return (on, d)
      else if isFlag d then flagsOn fuel d on
      else malformed
    | _ => malformed

/-- The flags that a group turns off, up to its colon. -/
def flagsOff : (fuel : Nat) → (off : List Char) → Scan (List Char)
  | 0, _ => malformed
  | fuel + 1, off => do
    match ← take with
    | some (.plain ':') => if off.isEmpty then malformed else return off
    | some (.plain c) => if "imsxt".toList.contains c then flagsOff fuel (c :: off) else malformed
    | _ => malformed

inductive FlagPart where
  /-- The flags are for the whole expression. -/
  | whole (on : List Char)
  /-- The flags are for the group. -/
  | group (on off : List Char)

def flagPart (c : Char) : Scan FlagPart := do
  let fuel := (← get).rest.length + 1
  let (on, next) ← if c = '-' then pure ([], '-') else flagsOn fuel c []
  if next = ')' then return .whole on
  let off ← if next = '-' then flagsOff fuel [] else pure []
  if on.contains 't' || off.contains 't' || on.any off.contains then malformed
  return .group on off

end Pattern

end Longhand
