import Longhand.Annotation.Method
import Longhand.Annotation.Token

/-!
What calls of classes make: numbers from texts, texts from anything, rows, sets and mappings from
items, ranges and slices from bounds, and iterators.
-/

namespace Longhand

namespace Annotation

variable [Home]

namespace Construct

/-! ### Numbers -/

/-- The fractional number that a text spells: digits with a point and an exponent, or a word. -/
def real? (cs : List Char) : Option Float :=
  let (isNegative, cs) := match cs with
    | '-' :: rest => (true, rest)
    | '+' :: rest => (false, rest)
    | cs => (false, cs)
  let word := String.ofList (cs.map Char.toLower)
  let magnitude : Option Float :=
    if word = "inf" || word = "infinity" then some (1.0 / 0.0)
    else if word = "nan" then some (0.0 / 0.0)
    else
      let (whole, rest) := Lexeme.digits 10 cs
      let (places, rest) := Lexeme.fraction rest
      let (power, rest) := Lexeme.exponent rest
      let ds := whole ++ places.getD []
      if ds.isEmpty || !rest.isEmpty then none
      else some (nearestFloat (Radix.value 10 ds) (power.getD 0 - (places.getD []).length))
  magnitude.map fun x => if isNegative then -x else x

def numeral? : Entity → Option (List Char)
  | .str s => some s.toList
  | .bytes bs => some (Directive.charsOf bs)
  | .made "bytearray" [.bytes bs] => some (Directive.charsOf bs)
  | _ => none

def real (v : Entity) : Answer Float := do
  match numeral? v with
  | some cs =>
    match real? ((Blank.trim cs).map IntegerText.plain) with
    | some x => return x
    | none => fail .value ("could not convert string to float: " ++ (← v.shown))
  | none =>
    match (Number.ofEntity? v).bind Number.float? with
    | some x => x
    | none => meaningless

/-- The natural number and the power of two that hexadecimal digits with a point and an exponent
spell. -/
def hexParts? (cs : List Char) : Option (Nat × Int) :=
  let cs := match cs with
    | '0' :: 'x' :: rest | '0' :: 'X' :: rest => rest
    | cs => cs
  let isDigit (c : Char) : Bool := (Radix.digit? 16 c).isSome
  let whole := cs.takeWhile isDigit
  let rest := cs.drop whole.length
  let (places, rest) := match rest with
    | '.' :: rest => (rest.takeWhile isDigit, rest.dropWhile isDigit)
    | rest => ([], rest)
  let digits := whole ++ places
  let power : Option Int := match rest with
    | [] => some 0
    | c :: rest =>
      if c ≠ 'p' ∧ c ≠ 'P' then none
      else
        let (isNegative, ds) := match rest with
          | '-' :: ds => (true, ds)
          | '+' :: ds => (false, ds)
          | ds => (false, ds)
        if ds.isEmpty || !ds.all Char.isDigit then none
        else
          let n : Int := Radix.value 10 ds
          some (if isNegative then -n else n)
  if digits.isEmpty then none
  else power.map fun p => (Radix.value 16 digits, p - 4 * (places.length : Int))

/-- How far powers of two go: below there is zero, above there is no number. -/
def farthestPower : Int := 100000

def realOfHex (cs : List Char) : Answer Entity := do
  let (isNegative, cs) := match Blank.trim cs with
    | '-' :: rest => (true, rest)
    | '+' :: rest => (false, rest)
    | cs => (false, cs)
  let word := String.ofList (cs.map Char.toLower)
  let x ← if word = "inf" || word = "infinity" then pure (1.0 / 0.0)
    else if word = "nan" then pure (0.0 / 0.0)
    else
      match hexParts? cs with
      | none => fail .value "invalid hexadecimal floating-point string"
      | some (n, power) =>
        let power := max (-farthestPower) (min power farthestPower)
        match Ratio.toFloat? (n <<< power.toNat) (1 <<< (-power).toNat) with
        | some x => pure x
        | none => fail .overflow "hexadecimal value too large to represent as a float"
  return .float (if isNegative then -x else x)

def shownLength : Nat := 200

/-- The integer that a text spells in a base. -/
def integerOf (v : Entity) (cs : List Char) (base : Nat) : Answer Int := do
  match IntegerText.read base (String.ofList cs) with
  | .ok n => return n
  | .error (.limit digits) => .error (.failed (.limit (.reading digits)))
  | .error .form =>
    let shown := String.ofList ((← v.shown).toList.take shownLength)
    fail .value ("invalid literal for int() with base " ++ toString base ++ ": " ++ shown)

def integer (c : Call) : Answer Entity := do
  match ← c.bind ["", "base"] 0 with
  | [none, none] => return .int 0
  | [some v, none] =>
    match numeral? v with
    | some cs => return .int (← integerOf v cs 10)
    | none => Method.toInt v
  | [some v, some base] =>
    let base ← base.toIndex
    if !(base = 0 ∨ (2 ≤ base ∧ base ≤ 36)) then
      fail .value "int() base must be >= 2 and <= 36, or 0"
    match numeral? v with
    | some cs => return .int (← integerOf v cs base.toNat)
    | none => meaningless
  | _ => meaningless

/-- The complex number that a text spells: one or two parts without blanks between them. -/
def complexOf? (cs : List Char) : Option (Float × Float) :=
  let cs := Blank.trim cs
  let cs := match cs with
    | '(' :: rest =>
      if rest.getLast? = some ')' then Blank.trim rest.dropLast else cs
    | cs => cs
  let unit (cs : List Char) : Option Float :=
    match cs with
    | [] | ['+'] => some 1.0
    | ['-'] => some (-1.0)
    | cs => real? cs
  match cs.getLast? with
  | some 'j' | some 'J' =>
    let body := cs.dropLast
    let cut := (List.range body.length).reverse.find? fun i =>
      0 < i && (body[i]? = some '+' || body[i]? = some '-')
        && !(body[i - 1]? = some 'e' || body[i - 1]? = some 'E')
    match cut with
    | some i => do return (← real? (body.take i), ← unit (body.drop i))
    | none => do return (0.0, ← unit body)
  | _ => do return (← real? cs, 0.0)

def complex (c : Call) : Answer Entity := do
  match ← c.bind ["real", "imag"] 0 with
  | [some (.str s), none] =>
    match complexOf? (s.toList.map IntegerText.plain) with
    | some (re, im) => return .complex re im
    | none => fail .value "complex() arg is a malformed string"
  | [re, im] =>
    let parts (v : Option Entity) : Answer (Float × Float) :=
      match v with
      | none => .ok (0.0, 0.0)
      | some v =>
        match Number.ofEntity? v with
        | some n => n.parts
        | none => meaningless
    let (a, b) ← parts re
    let (d, e) ← parts im
    let isWhole := match im with
      | some (.complex _ _) => false
      | _ => true
    return .complex (if isWhole then a else a - e) (if im.isNone then b else b + d)
  | _ => meaningless

/-! ### Rows -/

def text (c : Call) : Answer Entity := do
  match ← c.bind ["object", "encoding", "errors"] 0 with
  | [none, none, none] => return .str ""
  | [some v, none, none] => return .str (← v.plainText)
  | [some (.bytes bs), encoding, way] => TextMethod.decoded bs encoding way
  | [none, _, _] => return .str ""
  | _ => meaningless

def bytes (c : Call) : Answer (List UInt8) := do
  match ← c.bind ["source", "encoding", "errors"] 0 with
  | [none, none, none] => return []
  | [some (.str s), some encoding, way] =>
    match ← TextMethod.encoded s (some encoding) way with
    | .bytes bs => return bs
    | _ => meaningless
  | [some v, none, none] =>
    match v.index? with
    | some n =>
      if sizeLimit ≤ n ∨ n < -sizeLimit then
        fail .overflow "cannot fit 'int' into an index-sized integer"
      else if n < 0 then fail .value "negative count"
      else if (5000000 : Int) < n then fail .memory ""
      else return List.replicate n.toNat 0
    | none => Method.bytesOf v
  | _ => meaningless

def itemsOf (c : Call) : Answer (List Entity) := do
  match ← c.plain 0 1 with
  | v :: _ => v.allItems
  | [] => return []

/-- A mapping: from another or from pairs, and from named arguments. -/
def mapping (c : Call) : Answer Entity := do
  let first ← match c.args with
    | [] => pure []
    | [v] => Method.pairsOf v
    | _ => meaningless
  return .dict (Method.putAll (Method.putAll [] first) (c.named.map fun (k, v) => (.str k, v)))

def range (c : Call) : Answer Entity := do
  match ← (← c.plain 1 3).mapM Entity.toIndex with
  | [stop] => return .range 0 stop 1
  | [start, stop] => return .range start stop 1
  | [start, stop, step] =>
    if step = 0 then fail .value "range() arg 3 must not be zero"
    return .range start stop step
  | _ => meaningless

def slice (c : Call) : Answer Entity := do
  match ← c.plain 1 3 with
  | [stop] => return .slice .null stop .null
  | [start, stop] => return .slice start stop .null
  | [start, stop, step] => return .slice start stop step
  | _ => meaningless

/-! ### Iterators -/

/-- The items of an entity with their numbers. -/
def enumeration (c : Call) : Answer Entity := do
  match ← c.bind ["iterable", "start"] 1 with
  | [some v, start] =>
    let first ← match start with
      | some n => n.toIndex
      | none => pure 0
    let (vs, ending) ← v.items
    return .iterator "enumerate" (vs.zipIdx.map fun (v, i) => .tuple [.int (first + i), v]) ending
  | _ => meaningless

/-- What is wrong with rows that should be of one length: the first that ends before or after the
ones before it. -/
def unequal (lengths : List Nat) : Failure :=
  let first := lengths.headD 0
  let others := lengths.drop 1
  let shortest := lengths.foldl min first
  let describe (i : Nat) (what : String) : Failure :=
    let before := if i = 1 then "argument 1" else "arguments 1-" ++ toString i
    .failed (.evaluation .value ("zip() argument " ++ toString (i + 1) ++ " is " ++ what ++ " than "
      ++ before))
  if first = shortest then
    match others.findIdx? (· ≠ first) with
    | some i => describe (i + 1) "longer"
    | none => .meaningless
  else
    match others.findIdx? (· = shortest) with
    | some i => describe (i + 1) "shorter"
    | none => .meaningless

/-- The items of rows side by side. The first row to end ends them all, and a failure of a row
counts where all rows before it go on. -/
def sideBySide (c : Call) : Answer Entity := do
  if !c.named.all fun (name, _) => name = "strict" then meaningless
  let rows ← c.args.mapM Entity.items
  let lengths := rows.map fun r => r.1.length
  let isStrict := (c.named.head?.map fun (_, v) => v.holds).getD false
  match lengths with
  | [] => return .iterator "zip" [] none
  | n :: more =>
    let count := more.foldl min n
    let items := (List.range count).map fun i => .tuple (rows.filterMap fun r => r.1[i]?)
    let ending := (rows.find? fun r => r.1.length = count).bind Prod.snd
    let ending := if ending.isNone && isStrict && lengths.any (· ≠ n) then some (unequal lengths)
      else ending
    return .iterator "zip" items ending

def backwards (c : Call) : Answer Entity := do
  let v ← c.single
  match v with
  | .list vs => return .iterator "list_reverseiterator" vs.reverse none
  | .range a b step =>
    let n : Int := rangeLength a b step
    let (vs, ending) := rangeItems (a + (n - 1) * step) (a - step) (-step)
    return .iterator "range_iterator" vs ending
  | .dict _ | .view _ _ => do
    return .iterator "dict_reversekeyiterator" (← v.allItems).reverse none
  | .str _ | .bytes _ | .tuple _ => do return .iterator "reversed" (← v.allItems).reverse none
  | _ => meaningless

/-! ### Classes -/

def classOf (v : Entity) : Entity := .cls v.className

def call (cls : String) (c : Call) : Answer Entity := do
  match cls with
  | "int" => integer c
  | "bool" =>
    match ← c.plain 0 1 with
    | v :: _ => return .bool v.holds
    | [] => return .bool false
  | "float" =>
    match ← c.plain 0 1 with
    | v :: _ => return .float (← real v)
    | [] => return .float 0.0
  | "complex" => complex c
  | "str" => text c
  | "bytes" => return .bytes (← bytes c)
  | "bytearray" => return .made "bytearray" [.bytes (← bytes c)]
  | "list" => return .list (← itemsOf c)
  | "tuple" => return .tuple (← itemsOf c)
  | "set" => Entity.setOf false (← itemsOf c)
  | "frozenset" => Entity.setOf true (← itemsOf c)
  | "dict" => mapping c
  | "range" => range c
  | "slice" => slice c
  | "enumerate" => enumeration c
  | "zip" => sideBySide c
  | "reversed" => backwards c
  | "type" =>
    match ← c.plain 1 3 with
    | [v] => return classOf v
    | [.str name, .tuple _, .dict _] => return .defined ⟨"", name, "type", 0⟩
    | _ => meaningless
  | "NoneType" => do
    let _ ← c.plain 0 0
    return .null
  | "object" => do
    let _ ← c.plain 0 0
    return .made "object" []
  | "ForwardRef" =>
    match c.args with
    | .str s :: _ => Entity.reference s
    | _ => meaningless
  | "NewType" =>
    match ← c.bind ["name", "tp"] 2 with
    | [some (.str name), some v] => return .newType name v
    | _ => meaningless
  | "TypeVar" => typeVariable c
  | cls => do
    if Home.defines cls then
      let _ ← c.plain 0 0
      return .made cls []
    else if (lineage cls).contains "BaseException" && c.named.isEmpty then return .made cls c.args
    else meaningless
where
  typeVariable (c : Call) : Answer Entity := do
    let option (name : String) : Entity := (c.named.lookup name).getD .null
    if !c.named.all fun (name, _) => ["bound", "covariant", "contravariant"].contains name then
      meaningless
    match c.args with
    | .str name :: constraints =>
      let isRising := (option "covariant").holds
      let isFalling := (option "contravariant").holds
      if isRising && isFalling then fail .value "Bivariant types are not supported."
      let bound ← if (option "bound").holds then Entity.asType false (option "bound")
        else pure .null
      if !constraints.isEmpty && (c.named.lookup "bound").isSome then meaningless
      if constraints.length = 1 then meaningless
      let sign := if isRising then "+" else if isFalling then "-" else "~"
      return .variable sign name (← Entity.asTypes constraints) bound
    | _ => meaningless

end Construct

end Annotation

end Longhand
