import Longhand.Decimal.Shortest
import Longhand.Error
import Longhand.Text.Equivalent
import Longhand.Text.Identifier
import Longhand.Text.Named
import Longhand.Text.Radix

/-!
The tokens of a textual annotation. A text is one logical line, which is not indented: line breaks
count as blanks only inside brackets and after a backslash, and blank lines may stand around it.
-/

namespace Longhand

namespace Annotation

/-- A token. Adjacent quoted texts stay apart here. -/
inductive Token where
  /-- A name in its common spelling. -/
  | name (s : String)
  /-- A word that is no name. -/
  | word (s : String)
  | number (v : Value)
  | text (s : String)
  /-- The characters between the quotes of a text with fields. -/
  | formatted (raw : Bool) (cs : List Char)
  | bytes (bs : List UInt8)
  | symbol (s : String)
deriving Inhabited

namespace Lexeme

/-- The symbols that are tokens, longer ones before those they begin with. -/
def symbols : List String :=
  ["...", "**", "//", "<<", ">>", "<=", ">=", "==", "!=", "->", ":=",
    "(", ")", "[", "]", "\x7b", "\x7d", ",", ":", ".", ";", "@", "=", "+", "-", "*", "/", "%",
    "&", "|", "^", "~", "<", ">"]

def reserved : List String :=
  ["False", "None", "True", "and", "as", "assert", "async", "await", "break", "class", "continue",
    "def", "del", "elif", "else", "except", "finally", "for", "from", "global", "if", "import",
    "in", "is", "lambda", "nonlocal", "not", "or", "pass", "raise", "return", "try", "while",
    "with", "yield"]

def isSpace (c : Char) : Bool := c = ' ' || c = '\t' || c = '\x0c'

def unifyLines : List Char → List Char
  | '\r' :: '\n' :: rest => '\n' :: unifyLines rest
  | '\r' :: rest => '\n' :: unifyLines rest
  | c :: rest => c :: unifyLines rest
  | [] => []

def skipLine (cs : List Char) : List Char := cs.dropWhile (· ≠ '\n')

/-- Drops blanks, and a remark if one follows. -/
def skipRemark (cs : List Char) : List Char :=
  match cs.dropWhile isSpace with
  | '#' :: rest => skipLine rest
  | rest => rest

/-- The column at which a line begins, and its characters from there on. A form feed starts the
column again, and where a backslash continues the blanks, the first one found tells the column. -/
def indentation : (column continued : Nat) → List Char → Option (Nat × List Char)
  | column, continued, ' ' :: rest => indentation (column + 1) continued rest
  | column, continued, '\t' :: rest => indentation ((column / 8 + 1) * 8) continued rest
  | _, continued, '\x0c' :: rest => indentation 0 continued rest
  | column, continued, '\\' :: '\n' :: c :: rest =>
    indentation column (if continued = 0 then column else continued) (c :: rest)
  | _, _, '\\' :: _ => none
  | column, continued, cs => some (if continued = 0 then column else continued, cs)

/-- Drops blank lines. The line after them must not be indented, even if it is the end. -/
def skipBlankLines : (fuel : Nat) → List Char → Option (List Char)
  | 0, _ => none
  | fuel + 1, cs => do
    let (column, rest) ← indentation 0 0 cs
    match rest with
    | '\n' :: rest => skipBlankLines fuel rest
    | '#' :: rest =>
      match skipLine rest with
      | _ :: rest => skipBlankLines fuel rest
      | [] => some []
    | rest => if column = 0 then some rest else none

/-! ### Numbers -/

def digits (base : Nat) : List Char → List Char × List Char
  | [] => ([], [])
  | [c] => if Radix.isDigit base c then ([c], []) else ([], [c])
  | c :: d :: rest =>
    if Radix.isDigit base c then
      if d = '_' ∧ (rest.head?.any (Radix.isDigit base)) then
        let (ds, after) := digits base rest
        (c :: ds, after)
      else
        let (ds, after) := digits base (d :: rest)
        (c :: ds, after)
    else ([], c :: d :: rest)

def based (base : Nat) (cs : List Char) : Option (Value × List Char) :=
  let cs := match cs with
    | '_' :: rest => rest
    | cs => cs
  match digits base cs with
  | ([], _) => none
  | (ds, rest) => some (.int (Radix.value base ds), rest)

def fraction : List Char → Option (List Char) × List Char
  | '.' :: rest =>
    let (ds, rest) := digits 10 rest
    (some ds, rest)
  | cs => (none, cs)

def exponent (cs : List Char) : Option Int × List Char :=
  match cs with
  | c :: rest =>
    if c = 'e' ∨ c = 'E' then
      let (negative, unsigned) := match rest with
        | '-' :: r => (true, r)
        | '+' :: r => (false, r)
        | r => (false, r)
      match digits 10 unsigned with
      | ([], _) => (none, cs)
      | (ds, after) =>
        let n : Int := Radix.value 10 ds
        (some (if negative then -n else n), after)
    else (none, cs)
  | [] => (none, [])

/-- A decimal number: an integer, which has no leading zeros, a fraction, or an imaginary part. -/
def decimal (cs : List Char) : Option (Value × List Char) :=
  let (whole, rest) := digits 10 cs
  let (places, rest) := fraction rest
  let (power, rest) := exponent rest
  let x := nearestFloat (Radix.value 10 (whole ++ places.getD []))
    (power.getD 0 - (places.getD []).length)
  match rest with
  | 'j' :: rest | 'J' :: rest => some (.complex 0.0 x, rest)
  | rest =>
    if places.isSome || power.isSome then some (.float x, rest)
    else if whole.head? = some '0' ∧ whole.any (· ≠ '0') then none
    else if whole.length ≤ digitLimit then some (.int (Radix.value 10 whole), rest)
    else none

/-- The words that may follow a number without a blank. -/
def joiningWords : List String := ["and", "else", "for", "if", "in", "is", "not", "or"]

/-- A number, and what follows it, which must not look like more of it. -/
def number (cs : List Char) : Option (Value × List Char) := do
  let (v, rest) ← match cs with
    | '0' :: 'x' :: rest | '0' :: 'X' :: rest => based 16 rest
    | '0' :: 'o' :: rest | '0' :: 'O' :: rest => based 8 rest
    | '0' :: 'b' :: rest | '0' :: 'B' :: rest => based 2 rest
    | cs => decimal cs
  let word := rest.takeWhile continuesName
  if word.isEmpty || joiningWords.contains (String.ofList word) then some (v, rest) else none

/-! ### Quoted texts -/

/-- How a quoted text is marked: as bytes, as one without escapes, and as one with fields. -/
structure Marks where
  bytes : Bool := false
  raw : Bool := false
  formatted : Bool := false

def marks? (letters : List Char) : Option Marks :=
  match letters.map Char.toLower with
  | [] | ['u'] => some {}
  | ['r'] => some { raw := true }
  | ['b'] => some { bytes := true }
  | ['b', 'r'] | ['r', 'b'] => some { bytes := true, raw := true }
  | ['f'] => some { formatted := true }
  | ['f', 'r'] | ['r', 'f'] => some { raw := true, formatted := true }
  | _ => none

def numbered (n : Nat) (cs : List Char) : Option (List Char × List Char) :=
  let ds := cs.take n
  if ds.length = n ∧ ds.all (Radix.isDigit 16) ∧ Radix.value 16 ds < 0x110000 then
    some ([Char.ofNat (Radix.value 16 ds)], cs.drop n)
  else none

def named : List Char → Option (List Char × List Char)
  | '\x7b' :: rest => do
    let (name, rest) := rest.span (· ≠ '\x7d')
    let n ← Named.find? (String.ofList name)
    if rest.isEmpty then none else some ([Char.ofNat n], rest.tail)
  | _ => none

/-- The characters that an escape stands for, after its backslash, and what follows it. -/
def escaped (bytes : Bool) : List Char → Option (List Char × List Char)
  | [] => none
  | c :: rest =>
    match c with
    | '\n' => some ([], rest)
    | '\\' | '\'' | '"' => some ([c], rest)
    | 'a' => some (['\x07'], rest)
    | 'b' => some (['\x08'], rest)
    | 'f' => some (['\x0c'], rest)
    | 'n' => some (['\n'], rest)
    | 'r' => some (['\r'], rest)
    | 't' => some (['\t'], rest)
    | 'v' => some (['\x0b'], rest)
    | 'x' => numbered 2 rest
    | 'N' => if bytes then some (['\\', 'N'], rest) else named rest
    | 'u' => if bytes then some (['\\', 'u'], rest) else numbered 4 rest
    | 'U' => if bytes then some (['\\', 'U'], rest) else numbered 8 rest
    | c =>
      if Radix.isDigit 8 c then
        let ds := ((c :: rest).take 3).takeWhile (Radix.isDigit 8)
        some ([Char.ofNat (Radix.value 8 ds)], (c :: rest).drop ds.length)
      else some (['\\', c], rest)

def unescape (bytes : Bool) : (fuel : Nat) → List Char → Option (List Char)
  | 0, _ => none
  | _, [] => some []
  | fuel + 1, '\\' :: rest => do
    let (cs, rest) ← escaped bytes rest
    return cs ++ (← unescape bytes fuel rest)
  | fuel + 1, c :: rest => (unescape bytes fuel rest).map (c :: ·)

def decoded (marks : Marks) (cs : List Char) : Option (List Char) :=
  if marks.bytes ∧ cs.any (0x80 ≤ ·.toNat) then none
  else if marks.raw then some cs
  else unescape marks.bytes (cs.length + 1) cs

/-- The characters up to the closing quotes, of which there are one or three, and what follows. A
backslash keeps the character after it from closing. -/
def quoted (quote : Char) (triple : Bool) : List Char → Option (List Char × List Char)
  | [] => none
  | ['\\'] => none
  | '\\' :: c :: rest => (quoted quote triple rest).map fun (cs, rest) => ('\\' :: c :: cs, rest)
  | c :: rest =>
    if c = quote ∧ (!triple ∨ [quote, quote].isPrefixOf rest) then
      some ([], rest.drop (if triple then 2 else 0))
    else if c = '\n' ∧ !triple then none
    else (quoted quote triple rest).map fun (cs, rest) => (c :: cs, rest)

def literal (marks : Marks) (quote : Char) (cs : List Char) : Option (Token × List Char) := do
  let triple := [quote, quote, quote].isPrefixOf cs
  let (content, rest) ← quoted quote triple (cs.drop (if triple then 3 else 1))
  if marks.formatted then return (.formatted marks.raw content, rest)
  let content ← decoded marks content
  if marks.bytes then return (.bytes (content.map fun c => UInt8.ofNat c.toNat), rest)
  else return (.text (String.ofList content), rest)

/-- A name or other word of some letters. -/
def named? (letters : List Char) : Option Token :=
  let s := String.ofList letters
  if reserved.contains s then some (.word s)
  else if letters.head?.any beginsName ∧ letters.all continuesName then
    some (.name (String.ofList (commonSpelling letters)))
  else none

/-- A word, or a quoted text with the letters in front of it as marks. -/
def word (cs : List Char) : Option (Token × List Char) := do
  let (letters, rest) := cs.span continuesName
  match rest.head? with
  | some quote =>
    if quote = '\'' ∨ quote = '"' then
      match marks? letters with
      | some marks => literal marks quote rest
      | none => return (← named? letters, rest)
    else return (← named? letters, rest)
  | none => return (← named? letters, rest)

/-! ### The whole line -/

def deepest : Nat := 200

def depthAfter (depth : Nat) (s : String) : Option Nat :=
  if s = "(" || s = "[" || s = "\x7b" then if depth < deepest then some (depth + 1) else none
  else if s = ")" || s = "]" || s = "\x7d" then some (depth - 1)
  else some depth

/-- One token that starts at a character other than a blank. -/
def one (cs : List Char) : Option (Token × List Char) :=
  match cs with
  | [] => none
  | c :: rest =>
    if beginsName c || c = '\'' || c = '"' then word cs
    else if Radix.isDigit 10 c || (c = '.' && rest.head?.any (Radix.isDigit 10)) then
      (number cs).map fun (v, rest) => (.number v, rest)
    else
      match symbols.find? fun s => s.toList.isPrefixOf cs with
      | some s => some (.symbol s, cs.drop s.length)
      | none => none

def line : (fuel : Nat) → (depth : Nat) → List Char → Option (List Token)
  | 0, _, _ => none
  | fuel + 1, depth, cs =>
    match skipRemark cs with
    | [] => some []
    | '\n' :: rest =>
      if depth = 0 then
        match skipBlankLines (rest.length + 1) rest with
        | some [] => some []
        | _ => none
      else line fuel depth rest
    | '\\' :: '\n' :: c :: rest => line fuel depth (c :: rest)
    | cs => do
      let (t, rest) ← one cs
      let depth ← match t with
        | .symbol s => depthAfter depth s
        | _ => some depth
      return t :: (← line fuel depth rest)

def ofEnclosed (cs : List Char) : Option (List Token) := line (cs.length + 1) 1 cs

/-- The tokens of a text, if it has the form of one line that is not indented. -/
def ofText (s : String) : Option (List Token) := do
  let cs := unifyLines s.toList
  line (cs.length + 1) 0 (← skipBlankLines (cs.length + 1) cs)

end Lexeme

end Annotation

end Longhand
