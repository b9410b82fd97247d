import Longhand.Annotation.Call
import Longhand.Annotation.Template
import Longhand.Text.Encoding
import Longhand.Text.Identifier
import Longhand.Text.Letter
import Longhand.Text.Named

/-!
The methods of texts and of rows of bytes. Most are the same for both: bytes are taken as the
characters with their numbers, of which only the ASCII ones are letters, digits or blanks.
-/

namespace Longhand

namespace Annotation

variable [Home]

namespace Entity

/-- A row of characters as a text or as bytes. -/
def ofChars (inBytes : Bool) (cs : List Char) : Entity :=
  if inBytes then .bytes (cs.map fun c => c.toNat.toUInt8) else .str (String.ofList cs)

def toChars (inBytes : Bool) : Entity → Answer (List Char)
  | .str s => if inBytes then meaningless else .ok s.toList
  | .bytes bs => if inBytes then .ok (Directive.charsOf bs) else meaningless
  | _ => meaningless

/-- The characters to look for; among bytes, a number is a byte. -/
def toSought (inBytes : Bool) (v : Entity) : Answer (List Char) :=
  match inBytes, v.index? with
  | true, some n =>
    if 0 ≤ n ∧ n < 256 then .ok [Char.ofNat n.toNat]
    else fail .value "byte must be in range(0, 256)"
  | inBytes, _ => v.toChars inBytes

end Entity

namespace TextMethod

/-! ### Classes of characters -/

def isLetter (inBytes : Bool) (c : Char) : Bool :=
  if inBytes || c.toNat < 0x80 then c.isAlpha else beginsName c

/-- Whether a character is a digit, perhaps a raised one. -/
def isDigit (inBytes : Bool) (c : Char) : Bool :=
  let n := c.toNat
  c.isDigit || (!inBytes && ((IntegerText.decimal? c).isSome || n = 0xb2 || n = 0xb3 || n = 0xb9
    || n = 0x2070 || (0x2074 ≤ n && n ≤ 0x2079) || (0x2080 ≤ n && n ≤ 0x2089)
    || (0x2460 ≤ n && n ≤ 0x2468) || (0x2474 ≤ n && n ≤ 0x247c) || (0x2488 ≤ n && n ≤ 0x2490)))

def isNumeric (c : Char) : Bool :=
  let n := c.toNat
  isDigit false c || (0xbc ≤ n && n ≤ 0xbe) || (0x2150 ≤ n && n ≤ 0x2182)
    || (0x2185 ≤ n && n ≤ 0x2189) || (0x2460 ≤ n && n ≤ 0x249b)
    || [0x3007, 0x4e00, 0x4e03, 0x4e09, 0x4e5d, 0x4e8c, 0x4e94, 0x516b, 0x516d, 0x5341, 0x56db,
      0x767e, 0x5343, 0x4e07].contains n

def isSpace (inBytes : Bool) (c : Char) : Bool :=
  if inBytes then c = ' ' || (0x9 ≤ c.toNat && c.toNat ≤ 0xd) else isBlank c

def isCapital (inBytes : Bool) (c : Char) : Bool :=
  if inBytes then c.isUpper else Letter.isCapital c

def isSmall (inBytes : Bool) (c : Char) : Bool :=
  if inBytes then c.isLower else Letter.isSmall c

/-! ### Letter case -/

/-- The small form of a row. A sigma at the end of a word has a form of its own. -/
def lower (inBytes : Bool) (cs : List Char) : List Char :=
  if inBytes then cs.map Char.toLower else go false cs
where
  isCased (c : Char) : Bool := Letter.isCapital c || Letter.isSmall c
  go (afterLetter : Bool) : List Char → List Char
  | [] => []
  | c :: rest =>
    let isLast := !((rest.head?.map isCased).getD false)
    let form := if c.toNat = 0x3a3 && afterLetter && isLast then [Char.ofNat 0x3c2]
      else Letter.small c
    form ++ go (isCased c) rest

def upper (inBytes : Bool) (cs : List Char) : List Char :=
  if inBytes then cs.map Char.toUpper else cs.flatMap Letter.capital

/-- The form of a character at the beginning of a word. -/
def initial (inBytes : Bool) (c : Char) : List Char :=
  if inBytes then [c.toUpper] else Letter.initial c

def title (inBytes : Bool) (cs : List Char) : List Char := go false cs
where
  go (afterLetter : Bool) : List Char → List Char
  | [] => []
  | c :: rest =>
    let form := if afterLetter then (if inBytes then [c.toLower] else Letter.small c)
      else initial inBytes c
    form ++ go (isCapital inBytes c || isSmall inBytes c) rest

def capitalize (inBytes : Bool) : List Char → List Char
  | [] => []
  | c :: rest => initial inBytes c ++ lower inBytes rest

def swapCase (inBytes : Bool) (cs : List Char) : List Char :=
  cs.flatMap fun c =>
    if isCapital inBytes c then lower inBytes [c]
    else if isSmall inBytes c then upper inBytes [c] else [c]

/-- The form in which letter case does not count. -/
def folded (cs : List Char) : List Char :=
  (lower false cs).flatMap fun c =>
    if c.toNat = 0xdf then ['s', 's'] else if c.toNat = 0x3c2 then [Char.ofNat 0x3c3] else [c]

/-- Whether each word begins with a capital and goes on without. -/
def isTitle (inBytes : Bool) (cs : List Char) : Bool :=
  go false cs && cs.any fun c => isCapital inBytes c || isSmall inBytes c
where
  go (afterLetter : Bool) : List Char → Bool
  | [] => true
  | c :: rest =>
    if isCapital inBytes c then !afterLetter && go true rest
    else if isSmall inBytes c then afterLetter && go true rest
    else go false rest

/-! ### Pieces -/

/-- The words of a row, with at most so many cuts from the left; after the last cut the rest stays
as it is. -/
def words (inBytes : Bool) : (fuel : Nat) → (cuts : Option Nat) → List Char → List (List Char)
  | 0, _, _ => []
  | fuel + 1, cuts, cs =>
    match cs.dropWhile (isSpace inBytes) with
    | [] => []
    | cs =>
      if cuts = some 0 then [cs]
      else
        let word := cs.takeWhile fun c => !isSpace inBytes c
        word :: words inBytes fuel (cuts.map (· - 1)) (cs.drop word.length)

def wordsFromRight (inBytes : Bool) (cuts : Option Nat) (cs : List Char) : List (List Char) :=
  ((words inBytes (cs.length + 1) cuts cs.reverse).map List.reverse).reverse

def endsLine (inBytes : Bool) (c : Char) : Bool :=
  let n := c.toNat
  c = '\n' || c = '\r' || (!inBytes && (n = 0xb || n = 0xc || (0x1c ≤ n && n ≤ 0x1e) || n = 0x85
    || n = 0x2028 || n = 0x2029))

/-- The lines of a row, perhaps with their ends. -/
def lines (inBytes keepsEnds : Bool) : (fuel : Nat) → List Char → List (List Char)
  | 0, _ | _, [] => []
  | fuel + 1, cs =>
    let line := cs.takeWhile fun c => !endsLine inBytes c
    let rest := cs.drop line.length
    let ending := match rest with
      | '\r' :: '\n' :: _ => 2
      | [] => 0
      | _ => 1
    (if keepsEnds then line ++ rest.take ending else line)
      :: lines inBytes keepsEnds fuel (rest.drop ending)

/-- A row with tabs as blanks up to the next stop. -/
def expandTabs (size : Nat) : (column : Nat) → List Char → List Char
  | _, [] => []
  | column, '\t' :: rest =>
    if size = 0 then expandTabs size column rest
    else
      let n := size - column % size
      List.replicate n ' ' ++ expandTabs size (column + n) rest
  | column, c :: rest =>
    c :: expandTabs size (if c = '\n' ∨ c = '\r' then 0 else column + 1) rest

/-- A row within a width, with a fill before and after. -/
def padded (width : Int) (fill : Char) (cs : List Char) (before : Nat → Nat) :
    Answer (List Char) :=
  let missing := (width - cs.length).toNat
  if Layout.widest < missing then fail .memory ""
  else .ok (List.replicate (before missing) fill ++ cs
    ++ List.replicate (missing - before missing) fill)

/-- How many fills stand before a row in the middle of a width. -/
def half (width missing : Nat) : Nat :=
  missing / 2 + (if missing % 2 = 1 ∧ width % 2 = 1 then 1 else 0)

def zeroFilled (width : Int) (cs : List Char) : Answer (List Char) :=
  match cs with
  | c :: rest =>
    if c = '+' ∨ c = '-' then do
      return c :: (← padded (width - 1) '0' rest id)
    else padded width '0' cs id
  | [] => padded width '0' [] id

/-! ### Encodings -/

/-- How characters that an encoding lacks stand in a complaint. -/
def missingText (fault : Encoding.Fault) (run : List Char) : String :=
  match run with
  | [c] => "character '" ++ String.ofList (Quoted.numbered c.toNat) ++ "' in position "
      ++ toString fault.start
  | _ => "characters in position " ++ toString fault.start ++ "-"
      ++ toString (fault.start + fault.length - 1)

/-- How bytes that spell nothing stand in a complaint. -/
def spoiltText (fault : Encoding.Fault) (run : List UInt8) : String :=
  match run with
  | [b] => "byte 0x" ++ String.ofList (Quoted.hex 2 b.toNat) ++ " in position "
      ++ toString fault.start
  | _ => "bytes in position " ++ toString fault.start ++ "-"
      ++ toString (fault.start + fault.length - 1)

def complaint (e : Encoding) (verb what reason : String) : String :=
  "'" ++ e.name ++ "' codec can't " ++ verb ++ " " ++ what ++ ": " ++ reason

def encodeRepair (e : Encoding) (way : String) (fault : Encoding.Fault) (run : List Char) :
    Answer (List UInt8) :=
  let ascii (f : Char → String) : Answer (List UInt8) :=
    .ok ((run.flatMap fun c => (f c).toList).map fun c => c.toNat.toUInt8)
  match way with
  | "strict" =>
    fail .unencodable (complaint e "encode" (missingText fault run) fault.reason)
  | "ignore" => .ok []
  | "replace" => ascii fun _ => "?"
  | "backslashreplace" => ascii fun c => String.ofList (Quoted.numbered c.toNat)
  | "xmlcharrefreplace" => ascii fun c => "&#" ++ toString c.toNat ++ ";"
  | "namereplace" => ascii fun c =>
    match Named.name? c.toNat with
    | some name => "\\N\x7b" ++ name ++ "\x7d"
    | none => String.ofList (Quoted.numbered c.toNat)
  | "surrogateescape" | "surrogatepass" =>
    fail .unencodable (complaint e "encode" (missingText fault run) fault.reason)
  | way => fail .lookup ("unknown error handler name '" ++ way ++ "'")

def decodeRepair (e : Encoding) (way : String) (fault : Encoding.Fault) (run : List UInt8) :
    Answer (List Char) :=
  match way with
  | "strict" =>
    fail .undecodable (complaint e "decode" (spoiltText fault run) fault.reason)
  | "ignore" => .ok []
  | "replace" => .ok [Char.ofNat 0xfffd]
  | "backslashreplace" =>
    .ok (run.flatMap fun b => "\\x".toList ++ Quoted.hex 2 b.toNat)
  | "surrogateescape" | "surrogatepass" => meaningless
  | way => fail .lookup ("unknown error handler name '" ++ way ++ "'")

def encodingOf (v : Option Entity) : Answer Encoding :=
  match v with
  | none => .ok .utf8
  | some (.str s) =>
    match Encoding.ofName? s with
    | some e => .ok e
    | none => fail .lookup ("unknown encoding: " ++ s)
  | some _ => meaningless

def wayOf (v : Option Entity) : Answer String :=
  match v with
  | none => .ok "strict"
  | some (.str s) => .ok s
  | some _ => meaningless

def encoded (s : String) (encoding way : Option Entity) : Answer Entity := do
  let way ← wayOf way
  let e ← encodingOf encoding
  return .bytes (← e.encode (encodeRepair e way) (s.length + 1) 0 s.toList)

/-- The text of bytes. No bytes are no text in any encoding. -/
def decoded (bs : List UInt8) (encoding way : Option Entity) : Answer Entity := do
  let way ← wayOf way
  match encoding, bs with
  | some (.str _), [] => return .str ""
  | _, _ => pure ()
  let e ← encodingOf encoding
  return .str (String.ofList (← e.decode (decodeRepair e way) (bs.length + 1) 0 bs))

/-! ### Tables -/

/-- A text with each character as a table tells: a number, a text, or nothing. -/
def translated (table : Entity) : List Char → Answer (List Char)
  | [] => .ok []
  | c :: rest => do
    let form ← match table.part (.int c.toNat) with
      | .ok (.str s) => pure s.toList
      | .ok .null => pure []
      | .ok v =>
        match v.index? with
        | some n =>
          if 0 ≤ n ∧ n < 0x110000 then pure [Char.ofNat n.toNat]
          else fail .value "character mapping must be in range(0x110000)"
        | none => meaningless
      | .error (.failed (.evaluation .key _)) | .error (.failed (.evaluation .position _)) =>
        pure [c]
      | .error why => throw why
    return form ++ (← translated table rest)

/-- A table for texts: from a mapping, or from two rows of one length and characters to drop. -/
def table (args : List Entity) : Answer Entity := do
  let number (c : Char) : Entity := .int c.toNat
  match args with
  | [.dict entries] => do
    let entries ← entries.mapM fun (k, v) => do
      match k with
      | .str s =>
        match s.toList with
        | [c] => return (number c, v)
        | _ => fail .value "string keys in translate table must be of length 1"
      | k => if k.index?.isSome then return (k, v) else meaningless
    return .dict (entries.foldl (fun es (k, v) => Entity.put es k v) [])
  | .str s :: .str t :: rest => do
    if s.length ≠ t.length then
      fail .value "the first two maketrans arguments must have equal length"
    let dropped ← match rest with
      | [] => pure []
      | [.str u] => pure u.toList
      | _ => meaningless
    let pairs := (s.toList.zip t.toList).map (fun (a, b) => (number a, number b))
      ++ dropped.map fun c => (number c, .null)
    return .dict (pairs.foldl (fun es (k, v) => Entity.put es k v) [])
  | _ => meaningless

/-- Bytes as pairs of hexadecimal digits, perhaps with a separator between groups. -/
def hexadecimal (bs : List UInt8) (separator group : Option Entity) : Answer Entity := do
  let pairs := bs.map fun b => Quoted.hex 2 b.toNat
  match separator with
  | none => return .str (String.ofList pairs.flatten)
  | some v => do
    let n ← Entity.toSizeOr 1 group
    if (← v.length) ≠ 1 then fail .value "sep must be length 1."
    let cs ← match v with
      | .str s => pure s.toList
      | .bytes bs => pure (Directive.charsOf bs)
      | _ => meaningless
    match cs with
    | [c] => do
      if 0x80 ≤ c.toNat then fail .value "sep must be ASCII."
      if n = 0 then return .str (String.ofList pairs.flatten)
      let size := n.natAbs
      let between (i : Nat) : Bool :=
        0 < i && (if 0 < n then (pairs.length - i) % size = 0 else i % size = 0)
      return .str (String.ofList (pairs.zipIdx.flatMap fun (p, i) =>
        if between i then c :: p else p))
    | _ => meaningless

/-- The bytes that pairs of hexadecimal digits spell, with blanks between pairs. -/
def ofHexadecimal : (position : Nat) → List Char → Answer (List UInt8)
  | _, [] => .ok []
  | position, c :: rest =>
    if isSpace true c then ofHexadecimal (position + 1) rest
    else
      let wrong {α : Type} (n : Nat) : Answer α :=
        fail .value ("non-hexadecimal number found in fromhex() arg at position " ++ toString n)
      match Radix.digit? 16 c, rest with
      | none, _ => wrong position
      | some _, [] => wrong (position + 1)
      | some a, d :: rest =>
        match Radix.digit? 16 d with
        | some b => do return (16 * a + b).toUInt8 :: (← ofHexadecimal (position + 2) rest)
        | none => wrong (position + 1)

/-! ### Calls -/

/-- Where a row stands within the span that a call gives. -/
def found (inBytes fromRight : Bool) (cs : List Char) (c : Call) : Answer (Option Nat) := do
  match ← c.plain 1 3 with
  | v :: bounds => do
    let (lower, upper) ← Entity.span cs.length bounds[0]? bounds[1]?
    let row ← v.toSought inBytes
    if upper < lower then return none
    let within := (cs.take upper).drop lower
    let place := if fromRight then Search.findLast? row within else Search.find? row within
    return place.map (· + lower)
  | [] => meaningless

/-- Whether a row begins or ends, within the span that a call gives, with one of some rows. -/
def meets (inBytes atEnd : Bool) (cs : List Char) (c : Call) : Answer Entity := do
  match ← c.plain 1 3 with
  | v :: bounds => do
    let (lower, upper) ← Entity.span cs.length bounds[0]? bounds[1]?
    let within := (cs.take upper).drop lower
    let test (row : List Char) : Bool :=
      lower ≤ upper && (if atEnd then row.isSuffixOf within else row.isPrefixOf within)
    match v with
    | .tuple vs => do return .bool ((← vs.mapM (Entity.toChars inBytes)).any test)
    | v => do return .bool (test (← v.toChars inBytes))
  | [] => meaningless

def split (inBytes fromRight : Bool) (cs : List Char) (c : Call) : Answer Entity := do
  match ← c.bind ["sep", "maxsplit"] 0 with
  | [separator, cuts] => do
    let cuts ← Entity.toSizeOr (-1) cuts
    let cuts := if cuts < 0 then none else some cuts.toNat
    match Entity.orNull separator with
    | .null =>
      let found := if fromRight then wordsFromRight inBytes cuts cs
        else words inBytes (cs.length + 1) cuts cs
      return .list (found.map (Entity.ofChars inBytes))
    | v => do
      let row ← v.toChars inBytes
      if row.isEmpty then fail .value "empty separator"
      let found := if fromRight then Search.piecesFromRight row cuts cs
        else Search.pieces row cuts cs
      return .list (found.map (Entity.ofChars inBytes))
  | _ => meaningless

/-- The parts before, at and after the first or last place of a row. -/
def partition (inBytes fromRight : Bool) (cs : List Char) (c : Call) : Answer Entity := do
  let row ← (← c.single).toChars inBytes
  if row.isEmpty then fail .value "empty separator"
  let parts := match if fromRight then Search.findLast? row cs else Search.find? row cs with
    | some i => [cs.take i, row, cs.drop (i + row.length)]
    | none => if fromRight then [[], [], cs] else [cs, [], []]
  return .tuple (parts.map (Entity.ofChars inBytes))

def strip (inBytes atStart atEnd : Bool) (cs : List Char) (c : Call) : Answer Entity := do
  let p : Char → Bool ← match ← c.plain 0 1 with
    | [] | [.null] => pure (isSpace inBytes)
    | v :: _ => do
      let row ← v.toChars inBytes
      pure row.contains
  let cs := if atStart then cs.dropWhile p else cs
  return Entity.ofChars inBytes (if atEnd then Blank.trimEndBy p cs else cs)

def aligned (inBytes : Bool) (cs : List Char) (c : Call) (before : Nat → Nat → Nat) :
    Answer Entity := do
  match ← c.plain 1 2 with
  | width :: fill => do
    let width ← width.toSize
    match ← (fill.mapM (Entity.toChars inBytes)) with
    | [] => do return Entity.ofChars inBytes (← padded width ' ' cs (before width.toNat))
    | [f] :: _ => do return Entity.ofChars inBytes (← padded width f cs (before width.toNat))
    | _ => meaningless
  | [] => meaningless

def joined (inBytes : Bool) (cs : List Char) (c : Call) : Answer Entity := do
  let rows ← (← (← c.single).allItems).mapM (Entity.toChars inBytes)
  return Entity.ofChars inBytes (List.intercalate cs rows)

/-- Whether all characters are of a class, and there are some. -/
def each (cs : List Char) (p : Char → Bool) : Answer Entity :=
  .ok (.bool (!cs.isEmpty && cs.all p))

/-- A method that both texts and bytes have. -/
def common (inBytes : Bool) (cs : List Char) (name : String) (c : Call) : Answer Entity := do
  let done (cs : List Char) : Answer Entity := do
    let _ ← c.plain 0 0
    return Entity.ofChars inBytes cs
  let tested (p : Char → Bool) : Answer Entity := do
    let _ ← c.plain 0 0
    each cs p
  match name with
  | "upper" => done (upper inBytes cs)
  | "lower" => done (lower inBytes cs)
  | "title" => done (title inBytes cs)
  | "capitalize" => done (capitalize inBytes cs)
  | "swapcase" => done (swapCase inBytes cs)
  | "isalpha" => tested (isLetter inBytes)
  | "isdigit" => tested (isDigit inBytes)
  | "isalnum" =>
    tested fun c => isLetter inBytes c || isDigit inBytes c || (!inBytes && isNumeric c)
  | "isspace" => tested (isSpace inBytes)
  | "isascii" => do
    let _ ← c.plain 0 0
    return .bool (cs.all fun c => c.toNat < 0x80)
  | "islower" => do
    let _ ← c.plain 0 0
    return .bool (cs.any (isSmall inBytes) && !cs.any (isCapital inBytes))
  | "isupper" => do
    let _ ← c.plain 0 0
    return .bool (cs.any (isCapital inBytes) && !cs.any (isSmall inBytes))
  | "istitle" => do
    let _ ← c.plain 0 0
    return .bool (isTitle inBytes cs)
  | "find" | "rfind" => do
    let place ← found inBytes (name = "rfind") cs c
    return .int ((place.map Int.ofNat).getD (-1))
  | "index" | "rindex" =>
    match ← found inBytes (name = "rindex") cs c with
    | some n => return .int n
    | none => fail .value (if inBytes then "subsection not found" else "substring not found")
  | "count" => do
    match ← c.plain 1 3 with
    | v :: bounds => do
      let (lower, upper) ← Entity.span cs.length bounds[0]? bounds[1]?
      let row ← v.toSought inBytes
      return .int (if upper < lower then 0 else Search.count row ((cs.take upper).drop lower))
    | [] => meaningless
  | "startswith" => meets inBytes false cs c
  | "endswith" => meets inBytes true cs c
  | "split" => split inBytes false cs c
  | "rsplit" => split inBytes true cs c
  | "splitlines" => do
    match ← c.bind ["keepends"] 0 with
    | [keepsEnds] => do
      let keepsEnds := (← Entity.toSizeOr 0 keepsEnds) ≠ 0
      return .list ((lines inBytes keepsEnds (cs.length + 1) cs).map (Entity.ofChars inBytes))
    | _ => meaningless
  | "partition" => partition inBytes false cs c
  | "rpartition" => partition inBytes true cs c
  | "strip" => strip inBytes true true cs c
  | "lstrip" => strip inBytes true false cs c
  | "rstrip" => strip inBytes false true cs c
  | "center" => aligned inBytes cs c half
  | "ljust" => aligned inBytes cs c fun _ _ => 0
  | "rjust" => aligned inBytes cs c fun _ n => n
  | "zfill" => do
    return Entity.ofChars inBytes (← zeroFilled (← (← c.single).toSize) cs)
  | "expandtabs" => do
    match ← c.bind ["tabsize"] 0 with
    | [size] => do
      return Entity.ofChars inBytes (expandTabs (← Entity.toSizeOr 8 size).toNat 0 cs)
    | _ => meaningless
  | "join" => joined inBytes cs c
  | "replace" => do
    match ← c.plain 2 3 with
    | old :: new :: count => do
      let old ← old.toChars inBytes
      let new ← new.toChars inBytes
      let times ← Entity.toSizeOr (-1) count.head?
      let times := if times < 0 then none else some times.toNat
      return Entity.ofChars inBytes (Search.replace old new times cs)
    | _ => meaningless
  | "removeprefix" => do
    let row ← (← c.single).toChars inBytes
    return Entity.ofChars inBytes (if row.isPrefixOf cs then cs.drop row.length else cs)
  | "removesuffix" => do
    let row ← (← c.single).toChars inBytes
    return Entity.ofChars inBytes
      (if row.isSuffixOf cs then cs.take (cs.length - row.length) else cs)
  | _ => meaningless

def ofText (s : String) (name : String) (c : Call) : Answer Entity := do
  let cs := s.toList
  let tested (p : Char → Bool) : Answer Entity := do
    let _ ← c.plain 0 0
    each cs p
  match name with
  | "casefold" => do
    let _ ← c.plain 0 0
    return .str (String.ofList (folded cs))
  | "isdecimal" => tested fun c => (IntegerText.decimal? c).isSome
  | "isnumeric" => tested isNumeric
  | "isidentifier" => do
    let _ ← c.plain 0 0
    return .bool (match cs with
      | a :: rest => beginsName a && rest.all continuesName
      | [] => false)
  | "isprintable" => do
    let _ ← c.plain 0 0
    return .bool (cs.all isPrintable)
  | "encode" =>
    match ← c.bind ["encoding", "errors"] 0 with
    | [encoding, way] => encoded s encoding way
    | _ => meaningless
  | "format" => Field.format ⟨some c.args, .dict (c.named.map fun (k, v) => (.str k, v))⟩ s
  | "format_map" =>
    match ← c.single with
    | v => Field.format ⟨none, v⟩ s
  | "translate" => do return .str (String.ofList (← translated (← c.single) cs))
  | "maketrans" => do table (← c.plain 1 3)
  | name => common false cs name c

def ofBytes (bs : List UInt8) (name : String) (c : Call) : Answer Entity := do
  match name with
  | "decode" =>
    match ← c.bind ["encoding", "errors"] 0 with
    | [encoding, way] => decoded bs encoding way
    | _ => meaningless
  | "hex" =>
    match ← c.bind ["sep", "bytes_per_sep"] 0 with
    | [separator, group] => hexadecimal bs separator group
    | _ => meaningless
  | "translate" =>
    match ← c.bind ["", "delete"] 1 with
    | [some table, dropped] => do
      let translate : UInt8 → Option UInt8 ← match table with
        | .null => pure some
        | .bytes t =>
          if t.length = 256 then pure fun b => t[b.toNat]?
          else fail .value "translation table must be 256 characters long"
        | _ => meaningless
      let dropped ← match dropped with
        | some (.bytes ds) => pure ds
        | none => pure []
        | some _ => meaningless
      return .bytes ((bs.filter fun b => !dropped.contains b).filterMap translate)
    | _ => meaningless
  | name => common true (Directive.charsOf bs) name c

end TextMethod

end Annotation

end Longhand
