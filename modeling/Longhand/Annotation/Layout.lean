import Longhand.Annotation.Number
import Longhand.Annotation.Shown
import Longhand.Text.Integer

/-!
The layout of texts and numbers in a field: fill and alignment, sign, base, grouping, precision and
the kind of notation. `Layout.ofText` reads a layout, and `Entity.laidOut` applies one.
-/

namespace Longhand

namespace Annotation

variable [Home]

/-! ### Decimal digits -/

namespace RealText

/-- The significand of a positive number: the integer nearest to it in units of `10 ^ e`. -/
def units (num den : Nat) (e : Int) : Nat := Ratio.roundAt num den (-e)

/-- The exponent of the first digit of a number and its digits, so many after the first. -/
def significant (x : Float) (places : Nat) : List Char × Int :=
  let t := Shortest.Target.ofBits (x.toBits.toNat % signBound)
  if t.num = 0 then (List.replicate (places + 1) '0', 0)
  else
    let e := t.magnitude - 1
    let n := units t.num t.den (e - places)
    let ds := Nat.toDigits 10 n
    if places + 1 < ds.length then (ds.dropLast, e + 1) else (ds, e)

def exponentText (mark : Char) (e : Int) : List Char :=
  let ds := Nat.toDigits 10 e.natAbs
  mark :: (if e < 0 then '-' else '+') :: (if ds.length < 2 then '0' :: ds else ds)

def fraction (keepsPoint : Bool) (ds : List Char) : List Char :=
  if ds.isEmpty && !keepsPoint then [] else '.' :: ds

/-- A number with so many places after the point: its whole digits, and the rest. -/
def fixed (x : Float) (places : Nat) (keepsPoint : Bool) : List Char × List Char :=
  let t := Shortest.Target.ofBits (x.toBits.toNat % signBound)
  let ds := Nat.toDigits 10 (Ratio.roundAt t.num t.den places)
  let ds := List.replicate (places + 1 - ds.length) '0' ++ ds
  let whole := ds.length - places
  (ds.take whole, fraction keepsPoint (ds.drop whole))

/-- A number with one digit before the point and an exponent. -/
def scientific (mark : Char) (x : Float) (places : Nat) (keepsPoint : Bool) :
    List Char × List Char :=
  let (ds, e) := significant x places
  (ds.take 1, fraction keepsPoint (ds.drop 1) ++ exponentText mark e)

/-- A number with so many digits, by its exponent in the one or the other way; zeros at the end
are left out unless they are asked for. A whole number may get a fraction. -/
def general (mark : Char) (x : Float) (digits : Nat) (keepsZeros isFractional : Bool) :
    List Char × List Char :=
  let digits := max digits 1
  let (ds, e) := significant x (digits - 1)
  let trimmed (ds : List Char) := if keepsZeros then ds else Blank.trimEndBy (· = '0') ds
  if -4 ≤ e ∧ e < digits - (if isFractional then 1 else 0) then
    let ds := if e < 0 then List.replicate (-e).toNat '0' ++ ds else ds
    let whole := if e < 0 then 1 else e.toNat + 1
    let rest := trimmed (ds.drop whole)
    let rest := if isFractional && rest.isEmpty then ['0'] else rest
    (ds.take whole, fraction keepsZeros rest)
  else (ds.take 1, fraction keepsZeros (trimmed (ds.drop 1)) ++ exponentText mark e)

/-- A number with the fewest digits that read back. -/
def shortest (style : Shortest.Style) (x : Float) : List Char × List Char :=
  let cs := (Shortest.text style x.abs).toList
  (cs.takeWhile Char.isDigit, cs.dropWhile Char.isDigit)

/-- A number in the notation of a letter. -/
def text (kind : Char) (precision : Nat) (alternate : Bool) (x : Float) :
    List Char × List Char :=
  let isUpper := kind.isUpper
  let mark := if isUpper then 'E' else 'e'
  if x.isNaN then ([], (if isUpper then "NAN" else "nan").toList)
  else if x.isInf then ([], (if isUpper then "INF" else "inf").toList)
  else
    match kind.toLower with
    | 'e' => scientific mark x precision alternate
    | 'g' | 'n' => general mark x precision alternate false
    | _ => fixed x precision alternate

end RealText

/-! ### Layouts -/

structure Layout where
  fill : Char := ' '
  align : Option Char := none
  sign : Option Char := none
  /-- Whether a negative zero loses its sign. -/
  isUnsignedZero : Bool := false
  isAlternate : Bool := false
  isPadded : Bool := false
  width : Nat := 0
  grouping : Option Char := none
  precision : Option Nat := none
  kind : Option Char := none

namespace Layout

def named (c : Char) : String :=
  if 0x20 < c.toNat ∧ c.toNat < 0x80 then String.singleton c
  else "\\x" ++ String.ofList (Nat.toDigits 16 c.toNat)

def isAlign (c : Char) : Bool := c = '<' || c = '>' || c = '=' || c = '^'

def count (cs : List Char) : Answer (Option Nat × List Char) :=
  let ds := cs.takeWhile fun c => (IntegerText.decimal? c).isSome
  let n := Radix.value 10 (ds.map IntegerText.plain)
  if ds.isEmpty then .ok (none, cs)
  else if (n : Int) < signBound then .ok (some n, cs.drop ds.length)
  else fail .value "Too many decimal digits in format string"

/-- A mark at the front, if it is there. -/
def flag (c : Char) (cs : List Char) : Bool × List Char :=
  if cs.head? = some c then (true, cs.drop 1) else (false, cs)

def bothGroupings {α : Type} : Answer α := fail .value "Cannot specify both ',' and '_'."

/-- The layout that a text tells for a member of a class. -/
def ofText (cls : String) (default : Option Char) (text : String) : Answer Layout := do
  let cs := text.toList
  let (fill, align, cs) := match cs with
    | f :: a :: rest =>
      if isAlign a then (some f, some a, rest)
      else if isAlign f then (none, some f, a :: rest) else (none, none, cs)
    | [a] => if isAlign a then (none, some a, []) else (none, none, cs)
    | [] => (none, none, [])
  let (sign, cs) := match cs with
    | c :: rest => if c = '+' || c = '-' || c = ' ' then (some c, rest) else (none, cs)
    | [] => (none, [])
  let (isUnsignedZero, cs) := flag 'z' cs
  let (isAlternate, cs) := flag '#' cs
  let (isPadded, cs) := if fill.isNone then flag '0' cs else (false, cs)
  let (width, cs) ← count cs
  let (hasComma, cs) := flag ',' cs
  let (hasUnderscore, cs) := flag '_' cs
  if hasComma && hasUnderscore then bothGroupings
  if hasUnderscore && cs.head? = some ',' then bothGroupings
  let (hasPoint, cs) := flag '.' cs
  let (precision, cs) ← if hasPoint then count cs else pure (none, cs)
  if hasPoint && precision.isNone then fail .value "Format specifier missing precision"
  if 1 < cs.length then
    fail .value ("Invalid format specifier '" ++ text ++ "' for object of type '" ++ cls ++ "'")
  let kind := cs.head?.or default
  let grouping := if hasComma then some ',' else if hasUnderscore then some '_' else none
  match grouping with
  | none => pure ()
  | some g =>
    let numeric := "defgEG%F".toList ++ (if g = '_' then "boxX".toList else [])
    match kind with
    | none => pure ()
    | some k =>
      if !numeric.contains k then
        fail .value ("Cannot specify '" ++ named g ++ "' with '" ++ named k ++ "'.")
  return {
    fill := fill.getD (if isPadded then '0' else ' '), align, sign, isUnsignedZero, isAlternate,
    isPadded, width := width.getD 0, grouping, precision, kind }

def unknownKind {α : Type} (kind : Char) (cls : String) : Answer α :=
  fail .value ("Unknown format code '" ++ named kind ++ "' for object of type '" ++ cls ++ "'")

def widest : Nat := 1000000

/-- A text within the width: its head stays in front of a fill that goes after the sign. -/
def padded (l : Layout) (default : Char) (head body : List Char) : Answer String :=
  let missing := l.width - (head.length + body.length)
  let fill (n : Nat) := List.replicate n l.fill
  if widest < missing then fail .memory ""
  else
    .ok (String.ofList (match l.align.getD default with
      | '<' => head ++ body ++ fill missing
      | '=' => head ++ fill missing ++ body
      | '^' => fill (missing / 2) ++ head ++ body ++ fill (missing - missing / 2)
      | _ => fill missing ++ head ++ body))

def inGroups (separator : Char) (size : Nat) (ds : List Char) : List Char :=
  ((ds.reverse.zipIdx.flatMap fun (d, i) =>
    if 0 < i ∧ i % size = 0 then [separator, d] else [d])).reverse

def digits (l : Layout) (size room : Nat) (ds : List Char) : List Char :=
  match l.grouping with
  | none => ds
  | some separator =>
    let isFilled := l.fill = '0' && (l.align.getD (if l.isPadded then '=' else '>')) = '='
    let least := if isFilled then room else 0
    let count := max ds.length (least - ((least - 1) / (size + 1)))
    inGroups separator size (List.replicate (count - ds.length) '0' ++ ds)

/-- A number from its sign, the mark of its base, its whole digits and the rest. -/
def number (l : Layout) (isNegative : Bool) (mark : List Char) (size : Nat)
    (whole rest : List Char) : Answer String :=
  let sign : List Char := if isNegative then ['-'] else
    match l.sign with
    | some '+' => ['+']
    | some ' ' => [' ']
    | _ => []
  let head := sign ++ mark
  if widest < l.width then fail .memory ""
  else
    let whole := l.digits size (l.width - head.length - rest.length) whole
    l.padded (if l.isPadded then '=' else '>') head (whole ++ rest)

def ofString (l : Layout) (s : String) : Answer String :=
  match l.sign with
  | some ' ' => fail .value "Space not allowed in string format specifier"
  | some _ => fail .value "Sign not allowed in string format specifier"
  | none =>
    if l.isUnsignedZero then
      fail .value "Negative zero coercion (z) not allowed in string format specifier"
    else if l.isAlternate then
      fail .value "Alternate form (#) not allowed in string format specifier"
    else if l.align = some '=' then
      fail .value "'=' alignment not allowed in string format specifier"
    else l.padded '<' [] (match l.precision with
      | some n => s.toList.take n
      | none => s.toList)

def ofReal (l : Layout) (x : Float) : Answer String :=
  let y := if l.kind = some '%' then x * 100.0 else x
  let (whole, rest) := match l.kind, l.precision with
    | none, none => if y.isNaN || y.isInf then RealText.text 'g' 0 false y.abs
        else RealText.shortest .plain y
    | none, some p =>
      if y.isNaN || y.isInf then RealText.text 'g' 0 false y.abs
      else RealText.general 'e' y p l.isAlternate true
    | some k, p => RealText.text k (p.getD 6) l.isAlternate y
  let rest := if l.kind = some '%' then rest ++ ['%'] else rest
  let isZero := (whole ++ rest.takeWhile (fun c => c ≠ 'e' && c ≠ 'E')).all fun c =>
    c = '0' || c = '.' || c = '%'
  let isNegative := Number.isSigned y && !y.isNaN && !(l.isUnsignedZero && isZero)
  l.number isNegative [] 3 whole rest

def ofInt (l : Layout) (cls : String) (n : Int) : Answer String := do
  let kind := l.kind.getD 'd'
  if "eEfFgG%".toList.contains kind then l.ofReal (← Number.real n)
  else if !"bcdoxXn".toList.contains kind then unknownKind kind cls
  else if l.precision.isSome then
    fail .value "Precision not allowed in integer format specifier"
  else if l.isUnsignedZero then
    fail .value "Negative zero coercion (z) not allowed in integer format specifier"
  else if kind = 'c' then
    if l.sign.isSome then fail .value "Sign not allowed with integer format specifier 'c'"
    else if l.isAlternate then
      fail .value "Alternate form (#) not allowed with integer format specifier 'c'"
    else if n < 0 ∨ 0x110000 ≤ n then fail .overflow "%c arg not in range(0x110000)"
    else l.number false [] 3 [] [Char.ofNat n.toNat]
  else
    let base := match kind with
      | 'b' => 2
      | 'o' => 8
      | 'x' | 'X' => 16
      | _ => 10
    if base = 10 then
      l.number (n < 0) [] 3 (← integerText n.natAbs).toList []
    else
      let ds := Nat.toDigits base n.natAbs
      let mark := if l.isAlternate then ['0', kind] else []
      l.number (n < 0) mark 4 (if kind = 'X' then ds.map Char.toUpper else ds) []

def ofComplex (l : Layout) (re im : Float) : Answer String := do
  if l.isPadded then fail .value "Zero padding is not allowed in complex format specifier"
  if l.align = some '=' then
    fail .value "'=' alignment flag is not allowed in complex format specifier"
  let digits (x : Float) : List Char × List Char := match l.kind, l.precision with
    | none, none => if x.isNaN || x.isInf then RealText.text 'g' 0 false x.abs
        else RealText.shortest .part x
    | none, some p => RealText.text 'g' p l.isAlternate x
    | some k, p => RealText.text k (p.getD 6) l.isAlternate x
  let single : Layout := { l with width := 0, align := none, fill := ' ' }
  let part (m : Layout) (x : Float) : Answer String :=
    let (whole, rest) := digits x
    m.number (Number.isSigned x && !x.isNaN) [] 3 whole rest
  let isLone := l.kind.isNone && re.toBits = 0
  if isLone then l.padded '>' [] ((← part single im).toList ++ ['j'])
  else
    let body := (← part single re).toList
      ++ (← part { single with sign := some '+' } im).toList ++ ['j']
    l.padded '>' [] (if l.kind.isNone then '(' :: body ++ [')'] else body)

end Layout

namespace Entity

def plainText : Entity → Answer String
  | .str s => .ok s
  | .made c args => do
    if (lineage c).contains "BaseException" then
      match c, args with
      | _, [] => return ""
      | "KeyError", [v] => v.shown
      | _, [.str s] => return s
      | _, [v] => v.shown
      | _, args => (Entity.tuple args).shown
    else (Entity.made c args).shown
  | v => v.shown

def laidOut (v : Entity) (layout : String) : Answer String := do
  if layout.isEmpty then v.plainText
  else
    match v with
    | .str s => do
      let l ← Layout.ofText "str" (some 's') layout
      match l.kind with
      | some 's' => l.ofString s
      | some k => Layout.unknownKind k "str"
      | none => l.ofString s
    | .bool b => do (← Layout.ofText "bool" (some 'd') layout).ofInt "bool" b.toNat
    | .int n => do (← Layout.ofText "int" (some 'd') layout).ofInt "int" n
    | .float x => do
      let l ← Layout.ofText "float" none layout
      match l.kind with
      | some k => if "eEfFgGn%".toList.contains k then l.ofReal x else Layout.unknownKind k "float"
      | none => l.ofReal x
    | .complex re im => do
      let l ← Layout.ofText "complex" none layout
      match l.kind with
      | some k =>
        if "eEfFgGn".toList.contains k then l.ofComplex re im else Layout.unknownKind k "complex"
      | none => l.ofComplex re im
    | _ => meaningless

end Entity

end Annotation

end Longhand
