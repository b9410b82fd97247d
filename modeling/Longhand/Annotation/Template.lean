import Longhand.Annotation.Attribute
import Longhand.Annotation.Layout
import Longhand.Annotation.Sequence

/-!
Texts with places for values. In one kind of template a percent sign begins a place, and the values
come in order or by key (`Directive`); in the other a place is a field in braces, which names a
value and perhaps its attributes and items (`Field`).
-/

namespace Longhand

namespace Annotation

variable [Home]

/-! ### Places with a percent sign -/

/-- A place in a template, as the characters after its percent sign tell. -/
structure Directive where
  key : Option (List Char) := none
  isLeft : Bool := false
  hasPlus : Bool := false
  hasBlank : Bool := false
  isAlternate : Bool := false
  isPadded : Bool := false
  width : Option Nat := none
  precision : Option Nat := none

/-- The values that a template has left: those in order, and what keys are looked up in. -/
structure Supply where
  inOrder : List Entity
  mapping : Option Entity

namespace Directive

def incomplete {α : Type} : Answer α := fail .value "incomplete format"

def readKey : (depth : Nat) → List Char → Answer (List Char × List Char)
  | _, [] => fail .value "incomplete format key"
  | depth, c :: rest =>
    if c = ')' ∧ depth = 0 then .ok ([], rest)
    else do
      let depth := if c = '(' then depth + 1 else if c = ')' then depth - 1 else depth
      let (key, rest) ← readKey depth rest
      return (c :: key, rest)

def readMarks (d : Directive) : List Char → Directive × List Char
  | '-' :: rest => readMarks { d with isLeft := true } rest
  | '+' :: rest => readMarks { d with hasPlus := true } rest
  | ' ' :: rest => readMarks { d with hasBlank := true } rest
  | '#' :: rest => readMarks { d with isAlternate := true } rest
  | '0' :: rest => readMarks { d with isPadded := true } rest
  | cs => (d, cs)

def readCount (what : String) (values : List Entity) (cs : List Char) :
    Answer (Option Int × List Entity × List Char) :=
  match cs with
  | '*' :: rest =>
    match values with
    | v :: values =>
      match v.index? with
      | some n => .ok (some n, values, rest)
      | none => meaningless
    | [] => meaningless
  | cs =>
    let ds := cs.takeWhile Char.isDigit
    let n := Radix.value 10 ds
    if ds.isEmpty then .ok (none, values, cs)
    else if n < 0x80000000 then .ok (some n, values, cs.drop ds.length)
    else fail .value (what ++ " too big")

def padded (d : Directive) (isNumber : Bool) (head body : List Char) : Answer (List Char) :=
  let missing := d.width.getD 0 - (head.length + body.length)
  if Layout.widest < missing then fail .memory ""
  else if d.isLeft then .ok (head ++ body ++ List.replicate missing ' ')
  else if d.isPadded && isNumber then .ok (head ++ List.replicate missing '0' ++ body)
  else .ok (List.replicate missing ' ' ++ head ++ body)

def sign (d : Directive) (isNegative : Bool) : List Char :=
  if isNegative then ['-'] else if d.hasPlus then ['+'] else if d.hasBlank then [' '] else []

def ofInt (d : Directive) (kind : Char) (n : Int) : Answer (List Char) := do
  let base := if kind = 'o' then 8 else if kind = 'x' ∨ kind = 'X' then 16 else 10
  let ds ← if base = 10 then do pure (← integerText n.natAbs).toList
    else pure (Nat.toDigits base n.natAbs)
  let ds := if kind = 'X' then ds.map Char.toUpper else ds
  let mark := if d.isAlternate && base ≠ 10 then ['0', kind] else []
  let zeros := d.precision.getD 0 - ds.length
  if Layout.widest < zeros then fail .memory ""
  else d.padded true (d.sign (n < 0) ++ mark) (List.replicate zeros '0' ++ ds)

def ofReal (d : Directive) (kind : Char) (x : Float) : Answer (List Char) :=
  let (whole, rest) := RealText.text kind (d.precision.getD 6) d.isAlternate x
  d.padded true (d.sign (Number.isSigned x && !x.isNaN)) (whole ++ rest)

/-- A text, of which the precision keeps the beginning. -/
def ofChars (d : Directive) (cs : List Char) : Answer (List Char) :=
  d.padded false [] (match d.precision with
    | some n => cs.take n
    | none => cs)

def charsOf (bs : List UInt8) : List Char := bs.map fun b => Char.ofNat b.toNat

def shown (d : Directive) (inBytes : Bool) (kind : Char) (index : Nat) (v : Entity) :
    Answer (List Char) := do
  match kind with
  | 's' | 'b' =>
    if inBytes then
      match v with
      | .bytes bs => d.ofChars (charsOf bs)
      | _ => meaningless
    else if kind = 'b' then unsupported kind
    else d.ofChars (← v.plainText).toList
  | 'r' => do
    let s ← v.shown
    d.ofChars (if inBytes then inAscii s else s).toList
  | 'a' => do d.ofChars (inAscii (← v.shown)).toList
  | 'd' | 'i' | 'u' =>
    match Number.ofEntity? v with
    | some (.int n) => d.ofInt 'd' n
    | some (.float x) => do d.ofInt 'd' (← Number.truncated x)
    | _ => meaningless
  | 'o' | 'x' | 'X' =>
    match Number.ofEntity? v with
    | some (.int n) => d.ofInt kind n
    | _ => meaningless
  | 'e' | 'E' | 'f' | 'F' | 'g' | 'G' =>
    match (Number.ofEntity? v).bind Number.float? with
    | some x => do d.ofReal kind (← x)
    | none => meaningless
  | 'c' =>
    let bound := if inBytes then 256 else 0x110000
    match v, v.index? with
    | .str s, _ => if s.length = 1 && !inBytes then d.padded false [] s.toList else meaningless
    | .bytes [b], _ => if inBytes then d.padded false [] (charsOf [b]) else meaningless
    | _, some n =>
      if 0 ≤ n ∧ n < bound then d.padded false [] [Char.ofNat n.toNat]
      else fail .overflow (if inBytes then "%c arg not in range(256)"
        else "%c arg not in range(0x110000)")
    | _, none => meaningless
  | kind => unsupported kind
where
  unsupported (kind : Char) : Answer (List Char) :=
    let named := if 31 < kind.toNat ∧ kind.toNat < 127 then kind else '?'
    fail .value ("unsupported format character '" ++ String.singleton named ++ "' (0x"
      ++ String.ofList (Nat.toDigits 16 kind.toNat) ++ ") at index " ++ toString index)

/-- The place at the front of a template, after its percent sign: its text and what is left. -/
def take (inBytes : Bool) (total : Nat) (supply : Supply) (cs : List Char) :
    Answer (List Char × Supply × List Char) := do
  let (supply, cs) ← match cs with
    | '(' :: rest =>
      match supply.mapping with
      | none => meaningless
      | some m => do
        let (key, rest) ← readKey 0 rest
        let key : Entity := if inBytes then .bytes (key.map fun c => c.toNat.toUInt8)
          else .str (String.ofList key)
        pure (({ supply with inOrder := [← m.part key] } : Supply), rest)
    | cs => pure (supply, cs)
  let (d, cs) := readMarks {} cs
  let (width, values, cs) ← readCount "width" supply.inOrder cs
  let w := width.getD 0
  let d := { d with width := width.map Int.natAbs, isLeft := d.isLeft || w < 0 }
  let (d, values, cs) ← match cs with
    | '.' :: rest => do
      let (precision, values, rest) ← readCount "precision" values rest
      pure ({ d with precision := some (precision.getD 0).toNat }, values, rest)
    | cs => pure (d, values, cs)
  let cs := match cs with
    | c :: rest => if c = 'h' ∨ c = 'l' ∨ c = 'L' then rest else cs
    | [] => []
  match cs, values with
  | [], _ => incomplete
  | _, [] => meaningless
  | kind :: rest, v :: values => do
    let index := total - cs.length
    return (← d.shown inBytes kind index v, { supply with inOrder := values }, rest)

def fill (inBytes : Bool) (total : Nat) : (fuel : Nat) → Supply → List Char →
    Answer (List Char × Supply)
  | 0, supply, _ | _, supply, [] => .ok ([], supply)
  | fuel + 1, supply, '%' :: '%' :: rest => do
    let (text, supply) ← fill inBytes total fuel supply rest
    return ('%' :: text, supply)
  | fuel + 1, supply, '%' :: rest => do
    let (shown, supply, rest) ← take inBytes total supply rest
    let (text, supply) ← fill inBytes total fuel supply rest
    return (shown ++ text, supply)
  | fuel + 1, supply, c :: rest => do
    let (text, supply) ← fill inBytes total fuel supply rest
    return (c :: text, supply)

/-- A template with the places filled from an entity: the items of a tuple, or the entity itself.
All values in order must be used, unless keys can be looked up. -/
def format (inBytes : Bool) (template : List Char) (v : Entity) : Answer (List Char) := do
  let mapping := match v with
    | .list _ | .dict _ | .range _ _ _ | .form _ | .bare _ | .applied _ _ | .annotated _ _
    | .generic _ _ _ | .union _ => some v
    | .bytes _ => if inBytes then none else some v
    | _ => none
  let supply : Supply := match v with
    | .tuple vs => ⟨vs, none⟩
    | v => ⟨[v], mapping⟩
  let (text, rest) ← fill inBytes template.length (template.length + 1) supply template
  if rest.inOrder.isEmpty || mapping.isSome then return text else meaningless

end Directive

/-! ### Fields in braces -/

/-- How the fields of a template name values in order: not yet told, by themselves, or by number. -/
inductive Numbering where
  | open | counted (next : Nat) | given
deriving Inhabited

/-- The values that fields name. A template may have no values in order at all; what has names is
looked up. -/
structure FieldValues where
  inOrder : Option (List Entity)
  named : Entity

/-- A field: what it names, the form of the value, and its layout with or without fields inside. -/
structure Field where
  name : List Char
  form : Option Char
  layout : List Char
  isNested : Bool

namespace Field

def readText : List Char → Answer (List Char × Bool × List Char)
  | [] => .ok ([], false, [])
  | '{' :: '{' :: rest => .ok (['{'], false, rest)
  | '}' :: '}' :: rest => .ok (['}'], false, rest)
  | '}' :: _ => fail .value "Single '\x7d' encountered in format string"
  | ['{'] => fail .value "Single '\x7b' encountered in format string"
  | '{' :: rest => .ok ([], true, rest)
  | c :: rest => do
    let (text, follows, rest) ← readText rest
    return (c :: text, follows, rest)

def readName : (inBrackets : Bool) → List Char → Answer (List Char × Option Char × List Char)
  | _, [] => .ok ([], none, [])
  | true, c :: rest => do
    let (name, stop, rest) ← readName (c ≠ ']') rest
    return (c :: name, stop, rest)
  | false, c :: rest =>
    if c = '{' then fail .value "unexpected '\x7b' in field name"
    else if c = '}' ∨ c = ':' ∨ c = '!' then .ok ([], some c, rest)
    else do
      let (name, stop, rest) ← readName (c = '[') rest
      return (c :: name, stop, rest)

/-- The layout of a field, up to the brace that closes the field, and whether it has fields. -/
def readLayout : (depth : Nat) → List Char → Answer (List Char × Bool × List Char)
  | _, [] => fail .value "unmatched '\x7b' in format spec"
  | depth, c :: rest =>
    if c = '}' ∧ depth = 0 then .ok ([], false, rest)
    else do
      let depth := if c = '{' then depth + 1 else if c = '}' then depth - 1 else depth
      let (layout, nested, rest) ← readLayout depth rest
      return (c :: layout, nested || c = '{', rest)

def read (cs : List Char) : Answer (Field × List Char) := do
  let (name, stop, rest) ← readName false cs
  match stop with
  | some '}' => return (⟨name, none, [], false⟩, rest)
  | some ':' => do
    let (layout, nested, rest) ← readLayout 0 rest
    return (⟨name, none, layout, nested⟩, rest)
  | some _ =>
    match rest with
    | [] => fail .value "end of string while looking for conversion specifier"
    | form :: '}' :: rest => return (⟨name, some form, [], false⟩, rest)
    | form :: ':' :: rest => do
      let (layout, nested, rest) ← readLayout 0 rest
      return (⟨name, some form, layout, nested⟩, rest)
    | [_] => fail .value "unmatched '\x7b' in format spec"
    | _ => fail .value "expected ':' after conversion specifier"
  | none => fail .value "expected '\x7d' before end of string"

/-- The number that digits of any script tell. -/
def number? (cs : List Char) : Answer (Option Nat) :=
  if cs.isEmpty || !cs.all fun c => (IntegerText.decimal? c).isSome then .ok none
  else
    let n := Radix.value 10 (cs.map IntegerText.plain)
    if (n : Int) < signBound then .ok (some n)
    else fail .value "Too many decimal digits in format string"

def inOrder (values : FieldValues) (n : Nat) : Answer Entity :=
  match values.inOrder with
  | none => fail .value "Format string contains positional fields"
  | some vs =>
    match vs[n]? with
    | some v => .ok v
    | none => fail .position ("Replacement index " ++ toString n
        ++ " out of range for positional args tuple")

/-- The value that the first part of a name stands for. -/
def first (values : FieldValues) (numbering : Numbering) (name : List Char) :
    Answer (Entity × Numbering) := do
  match name, ← number? name, numbering with
  | [], _, .given =>
    fail .value "cannot switch from manual field specification to automatic field numbering"
  | [], _, .counted n => return (← inOrder values n, .counted (n + 1))
  | [], _, .open => return (← inOrder values 0, .counted 1)
  | _, some _, .counted _ =>
    fail .value "cannot switch from automatic field numbering to manual field specification"
  | _, some n, _ => return (← inOrder values n, .given)
  | name, none, numbering => do
    return (← values.named.part (.str (String.ofList name)), numbering)

/-- The attributes and items that the rest of a name asks for. -/
def follow : (fuel : Nat) → Entity → List Char → Answer Entity
  | 0, v, _ | _, v, [] => .ok v
  | fuel + 1, v, '.' :: rest => do
    let name := rest.takeWhile fun c => c ≠ '.' && c ≠ '['
    if name.isEmpty then fail .value "Empty attribute in format string"
    follow fuel (← v.attributeNamed (String.ofList name)) (rest.drop name.length)
  | fuel + 1, v, '[' :: rest => do
    let key := rest.takeWhile (· ≠ ']')
    if key.length = rest.length then fail .value "Missing ']' in format string"
    if key.isEmpty then fail .value "Empty attribute in format string"
    let length := key.length
    let key : Entity ← match ← number? key with
      | some n => pure (.int n)
      | none => pure (.str (String.ofList key))
    follow fuel (← v.part key) (rest.drop (length + 1))
  | _, _, _ => fail .value "Only '.' or '[' may follow ']' in format field specifier"

def formed (form : Option Char) (v : Entity) : Answer Entity :=
  match form with
  | none => .ok v
  | some 's' => do return .str (← v.plainText)
  | some 'r' => do return .str (← v.shown)
  | some 'a' => do return .str (inAscii (← v.shown))
  | some c => fail .value ("Unknown conversion specifier " ++ Layout.named c)

/-- A template with all fields filled, where `inner` fills the fields of layouts. -/
def fill (values : FieldValues) (inner : Numbering → List Char → Answer (List Char × Numbering)) :
    (fuel : Nat) → Numbering → List Char → Answer (List Char × Numbering)
  | 0, numbering, _ | _, numbering, [] => .ok ([], numbering)
  | fuel + 1, numbering, cs => do
    let (text, follows, rest) ← readText cs
    if follows then do
      let (field, rest) ← read rest
      let name := field.name.takeWhile fun c => c ≠ '.' && c ≠ '['
      let (v, numbering) ← first values numbering name
      let v ← follow (field.name.length + 1) v (field.name.drop name.length)
      let v ← formed field.form v
      let (layout, numbering) ← if field.isNested then inner numbering field.layout
        else pure (field.layout, numbering)
      let shown ← v.laidOut (String.ofList layout)
      let (more, numbering) ← fill values inner fuel numbering rest
      return (text ++ shown.toList ++ more, numbering)
    else do
      let (more, numbering) ← fill values inner fuel numbering rest
      return (text ++ more, numbering)

/-- A template with all fields filled. Layouts have fields themselves, to a depth. -/
def expand (values : FieldValues) : (depth : Nat) → Numbering → List Char →
    Answer (List Char × Numbering)
  | 0, _, _ => fail .value "Max string recursion exceeded"
  | depth + 1, numbering, cs => fill values (expand values depth) (cs.length + 1) numbering cs

def format (values : FieldValues) (template : String) : Answer Entity := do
  let (cs, _) ← expand values 2 .open template.toList
  return .str (String.ofList cs)

end Field

end Annotation

end Longhand
