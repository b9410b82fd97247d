import Longhand.Decimal.Shortest
import Longhand.Error
import Longhand.Text.Radix

/-!
Reading JSON text. Every step is a function from the remaining characters to a part and the
characters after it; nesting is bounded by the length of the text.
-/

namespace Longhand

namespace Json

/-- A part that was read, and the characters after it. -/
abbrev Before (α : Type) := α × List Char

def malformed {α : Type} : Except Error α := .error (.schema .unreadable)

/-- The blanks of JSON. -/
def isSpace (c : Char) : Bool := c = ' ' || c = '\t' || c = '\n' || c = '\r'

def unit : List Char → Except Error (Before Nat)
  | a :: b :: c :: d :: rest =>
    if [a, b, c, d].all (Radix.isDigit 16) then .ok (Radix.value 16 [a, b, c, d], rest)
    else malformed
  | _ => malformed

/-- The character of a numbered escape. Two units of a pair make one character; a half by itself
has none and is replaced. -/
def numbered (cs : List Char) : Except Error (Before Char) := do
  let (high, rest) ← unit cs
  if 0xd800 ≤ high ∧ high < 0xdc00 then
    match rest with
    | '\\' :: 'u' :: rest' =>
      let (low, rest'') ← unit rest'
      if 0xdc00 ≤ low ∧ low < 0xe000 then
        return (Char.ofNat (0x10000 + (high - 0xd800) * 0x400 + (low - 0xdc00)), rest'')
      else return (Char.ofNat 0xfffd, rest)
    | _ => return (Char.ofNat 0xfffd, rest)
  else if 0xdc00 ≤ high ∧ high < 0xe000 then return (Char.ofNat 0xfffd, rest)
  else return (Char.ofNat high, rest)

/-- The characters of a text up to its closing quote, after the characters `acc` in reverse. -/
def string : (fuel : Nat) → List Char → List Char → Except Error (Before String)
  | 0, _, _ => malformed
  | fuel + 1, acc, cs =>
    match cs with
    | [] => malformed
    | '"' :: rest => .ok (String.ofList acc.reverse, rest)
    | '\\' :: c :: rest =>
      match c with
      | '"' | '\\' | '/' => string fuel (c :: acc) rest
      | 'b' => string fuel (Char.ofNat 8 :: acc) rest
      | 'f' => string fuel (Char.ofNat 12 :: acc) rest
      | 'n' => string fuel ('\n' :: acc) rest
      | 'r' => string fuel ('\r' :: acc) rest
      | 't' => string fuel ('\t' :: acc) rest
      | 'u' => do
        let (c, rest) ← numbered rest
        string fuel (c :: acc) rest
      | _ => malformed
    | c :: rest => if c.toNat < 0x20 then malformed else string fuel (c :: acc) rest

def digits (cs : List Char) : List Char × List Char := cs.span (Radix.isDigit 10)

def fraction : List Char → List Char × List Char
  | '.' :: rest =>
    match digits rest with
    | ([], _) => ([], '.' :: rest)
    | found => found
  | cs => ([], cs)

def exponent : List Char → Option Int × List Char
  | c :: rest =>
    if c = 'e' ∨ c = 'E' then
      let (negative, unsigned) := match rest with
        | '-' :: r => (true, r)
        | '+' :: r => (false, r)
        | r => (false, r)
      match digits unsigned with
      | ([], _) => (none, c :: rest)
      | (ds, after) =>
        let n : Int := Radix.value 10 ds
        (some (if negative then -n else n), after)
    else (none, c :: rest)
  | [] => (none, [])

/-- A number without its sign: an integer, or a fraction rounded to the nearest. -/
def number (negative : Bool) (cs : List Char) : Except Error (Before Value) :=
  let (whole, rest) := digits cs
  let (whole, rest) := match whole with
    | '0' :: more => (['0'], more ++ rest)
    | ds => (ds, rest)
  if whole.isEmpty then malformed
  else
    let (places, rest) := fraction rest
    let (power, rest) := exponent rest
    if places.isEmpty && power.isNone then
      if whole.length ≤ digitLimit then
        let n : Int := Radix.value 10 whole
        .ok (.int (if negative then -n else n), rest)
      else .error (.limit (.reading whole.length))
    else
      let x := nearestFloat (Radix.value 10 (whole ++ places)) (power.getD 0 - places.length)
      .ok (.float (if negative then -x else x), rest)

/-- Stores an entry of a mapping; a repeated key keeps its place and takes the new value. -/
def store (entries : List (String × Value)) (key : String) (v : Value) : List (String × Value) :=
  if entries.any (·.1 == key) then
    entries.map fun e => if e.1 == key then (key, v) else e
  else entries ++ [(key, v)]

def expect (word : String) (v : Value) (cs : List Char) : Except Error (Before Value) :=
  if word.toList.isPrefixOf cs then .ok (v, cs.drop word.length) else malformed

mutual

/-- A value, after blanks. -/
def value : (fuel : Nat) → List Char → Except Error (Before Value)
  | 0, _ => malformed
  | fuel + 1, cs =>
    match cs.dropWhile isSpace with
    | [] => malformed
    | '"' :: rest => do
      let (s, rest) ← string (rest.length + 1) [] rest
      return (.str s, rest)
    | '[' :: rest =>
      match rest.dropWhile isSpace with
      | ']' :: rest => .ok (.list [], rest)
      | rest => do
        let (vs, rest) ← items fuel rest
        return (.list vs, rest)
    | '\x7b' :: rest =>
      match rest.dropWhile isSpace with
      | '\x7d' :: rest => .ok (.dict [], rest)
      | rest => do
        let (entries, rest) ← members fuel [] rest
        return (.dict entries, rest)
    | '-' :: 'I' :: rest => expect "nfinity" (.float (-1.0 / 0.0)) rest
    | '-' :: rest => number true rest
    | 'n' :: rest => expect "ull" .null rest
    | 't' :: rest => expect "rue" (.bool true) rest
    | 'f' :: rest => expect "alse" (.bool false) rest
    | 'N' :: rest => expect "aN" (.float (0.0 / 0.0)) rest
    | 'I' :: rest => expect "nfinity" (.float (1.0 / 0.0)) rest
    | rest => number false rest

def items : (fuel : Nat) → List Char → Except Error (Before (List Value))
  | 0, _ => malformed
  | fuel + 1, cs => do
    let (v, rest) ← value fuel cs
    match rest.dropWhile isSpace with
    | ',' :: rest => do
      let (vs, rest) ← items fuel rest
      return (v :: vs, rest)
    | ']' :: rest => return ([v], rest)
    | _ => malformed

/-- The members of a mapping up to its closing brace, after those already stored. -/
def members : (fuel : Nat) → List (String × Value) → List Char →
    Except Error (Before (List (String × Value)))
  | 0, _, _ => malformed
  | fuel + 1, entries, cs =>
    match cs.dropWhile isSpace with
    | '"' :: rest => do
      let (key, rest) ← string (rest.length + 1) [] rest
      match rest.dropWhile isSpace with
      | ':' :: rest => do
        let (v, rest) ← value fuel rest
        let entries := store entries key v
        match rest.dropWhile isSpace with
        | ',' :: rest => members fuel entries rest
        | '\x7d' :: rest => return (entries, rest)
        | _ => malformed
      | _ => malformed
    | _ => malformed

end

/-- Reads a text that holds one JSON value and nothing else. -/
def read (text : String) : Except Error Value := do
  let cs := text.toList
  let (v, rest) ← value (cs.length + 1) cs
  if rest.all isSpace then return v else malformed

end Json

end Longhand
