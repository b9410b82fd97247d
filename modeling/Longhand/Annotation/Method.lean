import Longhand.Annotation.Operation
import Longhand.Annotation.TextMethod

/-!
The methods of lists, tuples, mappings, sets, ranges and numbers, and those that stand behind
operators. What would change an entity gives its answer only.
-/

namespace Longhand

namespace Annotation

variable [Home]

namespace Entity

def missingKey {α : Type} (key : Entity) : Answer α := do fail .key (← key.shown)

def hash (v : Entity) : Answer Entity :=
  let modulus : Int := 0x1fffffffffffffff
  let ofInt (n : Int) : Int :=
    let r : Int := (n.natAbs : Int) % modulus
    let r := if n < 0 then -r else r
    if r = -1 then -2 else r
  if !v.isHashable then meaningless
  else
    match v with
    | .bool b => .ok (.int b.toNat)
    | .int n => .ok (.int (ofInt n))
    | .float x =>
      match exactRatio? x with
      | some (num, den) =>
        match Number.intPowerModulo den (modulus - 2) modulus with
        | .ok inverse => .ok (.int (ofInt (num.sign * ((num.natAbs : Int) * inverse % modulus))))
        | .error why => .error why
      | none => .ok (.int (if x.isNaN then 0 else if x < 0.0 then -314159 else 314159))
    | v => .ok (.sealed "int" (placed ("hash of " ++ v.className)))

end Entity

namespace Method

/-- The place of an item in a row, between bounds. -/
def place? (vs : List Entity) (bounds : List Entity) (v : Entity) : Answer (Option Nat) := do
  if bounds.any fun b => b matches .null then meaningless
  let (lower, upper) ← Entity.span vs.length bounds[0]? bounds[1]?
  return (((vs.take upper).drop lower).findIdx? v.same).map (· + lower)

def ofRow (isList : Bool) (vs : List Entity) (name : String) (c : Call) : Answer Entity := do
  match name with
  | "count" => do
    let v ← c.single
    return .int (vs.filter v.same).length
  | "index" =>
    match ← c.plain 1 3 with
    | v :: bounds =>
      match ← place? vs bounds v with
      | some n => return .int n
      | none =>
        if isList then fail .value ((← v.shown) ++ " is not in list")
        else fail .value "tuple.index(x): x not in tuple"
    | [] => meaningless
  | "copy" => do
    let _ ← c.plain 0 0
    return .list vs
  | "append" => do
    let _ ← c.single
    return .null
  | "extend" => do
    let _ ← (← c.single).allItems
    return .null
  | "insert" =>
    match ← c.plain 2 2 with
    | n :: _ => do
      let _ ← n.toSize
      return .null
    | [] => meaningless
  | "clear" | "reverse" => do
    let _ ← c.plain 0 0
    return .null
  | "remove" => do
    if vs.any (← c.single).same then return .null
    else fail .value "list.remove(x): x not in list"
  | "pop" =>
    let index ← Entity.toSizeOr (-1) (← c.plain 0 1).head?
    if vs.isEmpty then fail .position "pop from empty list"
    match (Entity.place? vs.length index).bind (vs[·]?) with
    | some v => return v
    | none => fail .position "pop index out of range"
  | _ => meaningless

/-- The pairs that an entity gives for a mapping: its entries, or items that are pairs. -/
def pairsOf (v : Entity) : Answer (List (Entity × Entity)) := do
  match v with
  | .dict entries => return entries
  | v => do
    if (v.attributeNamed "keys").toBool then meaningless
    let items ← v.allItems
    items.zipIdx.mapM fun (item, i) => do
      let parts ← item.allItems
      match parts with
      | [k, w] => if k.isHashable then return (k, w) else meaningless
      | parts => fail .value ("dictionary update sequence element #" ++ toString i
          ++ " has length " ++ toString parts.length ++ "; 2 is required")

def putAll (entries pairs : List (Entity × Entity)) : List (Entity × Entity) :=
  pairs.foldl (fun es (k, v) => Entity.put es k v) entries

def ofDict (entries : List (Entity × Entity)) (name : String) (c : Call) : Answer Entity := do
  match name with
  | "keys" => do
    let _ ← c.plain 0 0
    return .view "dict_keys" (entries.map Prod.fst)
  | "values" => do
    let _ ← c.plain 0 0
    return .view "dict_values" (entries.map Prod.snd)
  | "items" => do
    let _ ← c.plain 0 0
    return .view "dict_items" (entries.map fun (k, v) => .tuple [k, v])
  | "get" | "setdefault" =>
    match ← c.plain 1 2 with
    | key :: default =>
      if key.isHashable then
        return (Entity.lookup? entries key).getD (default.headD .null)
      else meaningless
    | [] => meaningless
  | "pop" =>
    match ← c.plain 1 2 with
    | key :: default =>
      if key.isHashable || entries.isEmpty then
        match (Entity.lookup? entries key).or default.head? with
        | some v => return v
        | none => Entity.missingKey key
      else meaningless
    | [] => meaningless
  | "popitem" => do
    let _ ← c.plain 0 0
    match entries.getLast? with
    | some (k, v) => return .tuple [k, v]
    | none => fail .key "'popitem(): dictionary is empty'"
  | "copy" => do
    let _ ← c.plain 0 0
    return .dict entries
  | "clear" => do
    let _ ← c.plain 0 0
    return .null
  | "update" =>
    match c.args with
    | [] => return .null
    | [v] => do
      let _ ← pairsOf v
      return .null
    | _ => meaningless
  | _ => meaningless

/-- The items of an entity, all of which must be hashable. -/
def membersOf (v : Entity) : Answer (List Entity) := do
  let vs ← v.allItems
  if vs.all Entity.isHashable then return vs else meaningless

/-- A method of a set. Most take anything with items. -/
def ofSet (isFrozen : Bool) (vs : List Entity) (name : String) (c : Call) : Answer Entity := do
  let operators : List (String × Operator) :=
    [("union", .alternative), ("intersection", .both), ("difference", .subtract),
      ("symmetric_difference", .exclusive)]
  match operators.lookup name with
  | some op => do
    let others ← (← c.plain 0 100).mapM Entity.allItems
    if name = "symmetric_difference" && others.length ≠ 1 then meaningless
    if !others.all fun ws => ws.all Entity.isHashable then meaningless
    Entity.setOf isFrozen (others.foldl (fun vs ws =>
      (Entity.combineMembers op vs (Entity.distinct ws)).getD vs) vs)
  | none =>
    match name with
    | "copy" => do
      let _ ← c.plain 0 0
      return .set isFrozen vs
    | "issubset" => do
      let ws ← membersOf (← c.single)
      return .bool (vs.all fun v => ws.any v.same)
    | "issuperset" => do
      let ws ← membersOf (← c.single)
      return .bool (ws.all fun w => vs.any w.same)
    | "isdisjoint" => do
      let ws ← (← c.single).allItems
      let before := ws.takeWhile fun w => !vs.any w.same
      if before.all Entity.isHashable then return .bool (before.length = ws.length)
      else meaningless
    | "add" => do
      if (← c.single).isHashable then return .null else meaningless
    | "discard" => do
      if (← c.single).isSought then return .null else meaningless
    | "remove" => do
      let v ← c.single
      if !v.isSought then meaningless
      if vs.any v.same then return .null else Entity.missingKey v
    | "pop" => do
      let _ ← c.plain 0 0
      match vs with
      | v :: _ => return v
      | [] => fail .key "'pop from an empty set'"
    | "clear" => do
      let _ ← c.plain 0 0
      return .null
    | "update" | "intersection_update" | "difference_update" | "symmetric_difference_update" => do
      let _ ← (← c.plain 0 100).mapM membersOf
      return .null
    | _ => meaningless

def ofRange (start stop step : Int) (name : String) (c : Call) : Answer Entity := do
  let v ← c.single
  let isIn ← (Entity.range start stop step).contains v
  match name, v.index? with
  | "count", _ => return .int isIn.toNat
  | "index", some n =>
    if isIn then return .int ((n - start).fdiv step)
    else fail .value ((← v.shown) ++ " is not in range")
  | "index", none => fail .value "sequence.index(x): x not in sequence"
  | _, _ => meaningless

/-! ### Numbers -/

/-- The bytes of a natural number, the last ones first. -/
def lastBytes : (count : Nat) → Nat → List UInt8
  | 0, _ => []
  | k + 1, n => (n % 256).toUInt8 :: lastBytes k (n / 256)

/-- Whether an argument names the order that begins with the last byte. -/
def beginsLast (order : Option Entity) : Answer Bool :=
  match order with
  | none => .ok false
  | some (.str "big") => .ok false
  | some (.str "little") => .ok true
  | some (.str _) => fail .value "byteorder must be either 'little' or 'big'"
  | some _ => meaningless

def toBytes (n : Int) (c : Call) : Answer Entity := do
  match ← c.bind ["length", "byteorder", "*signed"] 0 with
  | [length, order, isSigned] => do
    let length ← Entity.toSizeOr 1 length
    let reversed ← beginsLast order
    let isSigned := (isSigned.map Entity.holds).getD false
    if length < 0 then fail .value "length argument must be non-negative"
    if n < 0 ∧ !isSigned then fail .overflow "can't convert negative int to unsigned"
    let bits := 8 * length.toNat
    if 1000000 < length then fail .memory ""
    let most : Int := ((1 <<< (if isSigned then bits - 1 else bits) : Nat) : Int)
    let fits := if isSigned then (if bits = 0 then n = 0 else -most ≤ n ∧ n < most) else n < most
    if !fits then fail .overflow "int too big to convert"
    let bound : Nat := 1 <<< bits
    let m : Nat := (if n < 0 then n + (bound : Int) else n).toNat
    let bs := lastBytes length.toNat m
    return .bytes (if reversed then bs else bs.reverse)
  | _ => meaningless

/-- The bytes that an entity gives: bytes, or numbers of bytes. -/
def bytesOf (v : Entity) : Answer (List UInt8) := do
  match v with
  | .bytes bs => return bs
  | .str _ => meaningless
  | .made "bytearray" [.bytes bs] => return bs
  | v => do
    (← v.allItems).mapM fun item => do
      let n ← item.toIndex
      if 0 ≤ n ∧ n < 256 then return n.toNat.toUInt8
      else fail .value "bytes must be in range(0, 256)"

def ofBytes (c : Call) : Answer Entity := do
  match ← c.bind ["bytes", "byteorder", "*signed"] 1 with
  | [some v, order, isSigned] => do
    let reversed ← beginsLast order
    let bs ← bytesOf v
    let bs := if reversed then bs.reverse else bs
    let n : Nat := bs.foldl (fun n b => 256 * n + b.toNat) 0
    let isNegative := (isSigned.map Entity.holds).getD false
      && bs.head?.any fun b => (128 : UInt8) ≤ b
    return .int (if isNegative then (n : Int) - ((1 <<< (8 * bs.length) : Nat) : Int) else n)
  | _ => meaningless

def bitCount : (fuel : Nat) → Nat → Nat
  | 0, _ => 0
  | fuel + 1, n => n % 2 + bitCount fuel (n / 2)

def ofInt (n : Int) (name : String) (c : Call) : Answer Entity := do
  match name with
  | "to_bytes" => toBytes n c
  | name => do
    let _ ← c.plain 0 0
    match name with
    | "bit_length" => return .int (if n = 0 then 0 else n.natAbs.log2 + 1 : Nat)
    | "bit_count" => return .int (bitCount (n.natAbs.log2 + 1) n.natAbs)
    | "conjugate" => return .int n
    | "as_integer_ratio" => return .tuple [.int n, .int 1]
    | _ => meaningless

/-- A fractional number in hexadecimal digits. -/
def hexText (x : Float) : String :=
  let bits := x.toBits.toNat % signBound
  let fraction := bits % fractionBound
  let biased := bits / fractionBound
  let sign := if Number.isSigned x then "-" else ""
  if x.isNaN then "nan"
  else if x.isInf then sign ++ "inf"
  else if bits = 0 then sign ++ "0x0.0p+0"
  else
    let e : Int := (if biased = 0 then 1 else biased : Nat) - 1023
    sign ++ (if biased = 0 then "0x0." else "0x1.") ++ String.ofList (Quoted.hex 13 fraction)
      ++ "p" ++ (if e < 0 then "-" else "+") ++ toString e.natAbs

def ofFloat (x : Float) (name : String) (c : Call) : Answer Entity := do
  let _ ← c.plain 0 0
  match name with
  | "is_integer" => return .bool (match exactRatio? x with
      | some (num, den) => num % (den : Int) = 0
      | none => false)
  | "conjugate" => return .float x
  | "hex" => return .str (hexText x)
  | "as_integer_ratio" =>
    match exactRatio? x with
    | some (num, den) =>
      let g : Nat := Nat.gcd num.natAbs den
      return .tuple [.int (num / g), .int (den / g : Nat)]
    | none =>
      if x.isNaN then fail .value "cannot convert NaN to integer ratio"
      else fail .overflow "cannot convert Infinity to integer ratio"
  | _ => meaningless

/-! ### Methods behind operators -/

def operatorNames : List (String × Operator) :=
  [("add", .add), ("sub", .subtract), ("mul", .multiply), ("truediv", .divide),
    ("floordiv", .floor), ("mod", .remainder), ("pow", .power), ("lshift", .shiftLeft),
    ("rshift", .shiftRight), ("or", .alternative), ("xor", .exclusive), ("and", .both)]

def comparisonNames : List (String × Comparison) :=
  [("eq", .equal), ("ne", .different), ("lt", .less), ("le", .atMost), ("gt", .greater),
    ("ge", .atLeast)]

/-- The name of a method without the marks around it. -/
def coreName (name : String) : String :=
  String.ofList (Blank.trimBy (· = '_') name.toList)

/-- Whether the method of an entity behind an operator takes the other operand. -/
def takes (v w : Entity) : Bool :=
  match v with
  | .bool _ | .int _ => w.index?.isSome
  | .float _ => (Number.ofEntity? w).isSome && !(w matches .complex _ _)
  | .complex _ _ => (Number.ofEntity? w).isSome
  | .null | .ellipsis | .made _ _ => v.same w
  | v => v.className = w.className || v.members?.isSome && w.members?.isSome || v.isTyping

def toInt (v : Entity) : Answer Entity :=
  match Number.ofEntity? v with
  | some (.int n) => .ok (.int n)
  | some (.float x) => do return .int (← Number.truncated x)
  | _ => meaningless

def rounded (v : Entity) (places : Option Entity) : Answer Entity := do
  match Number.ofEntity? v, Entity.orNull places with
  | some (.int n), .null => return .int n
  | some (.float x), .null => return .int (← Number.nearest x)
  | some (.int n), p => return .int (Number.intRoundedAt n (← p.toIndex))
  | some (.float x), p => return .float (← Number.roundedAt x (← p.toSize))
  | _, _ => meaningless

def divided (v w : Entity) : Answer Entity := do
  match Number.ofEntity? v, Number.ofEntity? w with
  | some (.int _), some (.int n) =>
    if n = 0 then fail .zeroDivision "integer division or modulo by zero"
  | some (.complex _ _), _ | _, some (.complex _ _) => meaningless
  | some _, some w => do
    if (← w.parts).1 == 0.0 then fail .zeroDivision "float divmod()"
  | _, _ => meaningless
  return .tuple [← Entity.combine .floor v w, ← Entity.combine .remainder v w]

def power (v w : Entity) (modulus : Entity) : Answer Entity :=
  match v.index?, w.index?, modulus with
  | _, _, .null => Entity.combine .power v w
  | some m, some n, modulus =>
    match modulus.index? with
    | some k => do return .int (← Number.intPowerModulo m n k)
    | none => meaningless
  | _, _, _ => meaningless

/-- What an entity gives for the method behind a language construct. -/
def special (v : Entity) (name : String) (c : Call) : Answer Entity := do
  let core := coreName name
  let reversed := String.ofList (core.toList.drop 1)
  match operatorNames.lookup core, comparisonNames.lookup core,
      if core.toList.head? = some 'r' then operatorNames.lookup reversed else none with
  | some op, _, _ =>
    match ← c.plain 1 2, op with
    | [w], op =>
      if takes v w || op = .remainder || (op = .multiply && (Number.ofEntity? v).isNone) then
        Entity.combine op v w
      else if op = .add && v.isRow then meaningless
      else return .notImplemented
    | [w, modulus], .power => power v w modulus
    | _, _ => meaningless
  | _, some op, _ => do
    let w ← c.single
    if takes v w then return .bool (← Entity.compare op v w) else return .notImplemented
  | _, _, some op => do
    let w ← c.single
    if takes v w then Entity.combine op w v else return .notImplemented
  | none, none, none =>
    match name, ← c.plain 0 1 with
    | "__len__", [] => do return .int (← v.length)
    | "__getitem__", [i] => v.indexed i
    | "__contains__", [i] => do return .bool (← v.contains i)
    | "__bool__", [] => return .bool v.holds
    | "__str__", [] => do return .str (← v.plainText)
    | "__repr__", [] => do return .str (← v.shown)
    | "__format__", [.str layout] => do return .str (← v.laidOut layout)
    | "__hash__", [] => v.hash
    | "__neg__", [] => v.signed .minus
    | "__pos__", [] => v.signed .plus
    | "__invert__", [] => v.signed .complement
    | "__abs__", [] =>
      match Number.ofEntity? v with
      | some n => do return (← n.size).toEntity
      | none => meaningless
    | "__int__", [] | "__trunc__", [] => toInt v
    | "__index__", [] => do return .int (← v.toIndex)
    | "__float__", [] =>
      match (Number.ofEntity? v).bind Number.float? with
      | some x => do return .float (← x)
      | none => meaningless
    | "__complex__", [] =>
      match v with
      | .complex re im => return .complex re im
      | _ => meaningless
    | "__floor__", [] =>
      match Number.ofEntity? v with
      | some (.float x) => do return .int (← Number.truncated x.floor)
      | _ => toInt v
    | "__ceil__", [] =>
      match Number.ofEntity? v with
      | some (.float x) => do return .int (← Number.truncated x.ceil)
      | _ => toInt v
    | "__round__", places => rounded v places.head?
    | "__divmod__", [w] => if takes v w then divided v w else return .notImplemented
    | "__rdivmod__", [w] => if takes v w then divided w v else return .notImplemented
    | "__class_getitem__", [i] => (Entity.cls v.className).indexed i
    | "__sizeof__", [] => return .sealed "int" (placed "size")
    | _, _ => meaningless

def call (v : Entity) (name : String) (c : Call) : Answer Entity :=
  if isReserved name then special v name c
  else
    match v with
    | .str s => TextMethod.ofText s name c
    | .bytes bs => TextMethod.ofBytes bs name c
    | .list vs => ofRow true vs name c
    | .tuple vs => ofRow false vs name c
    | .dict entries => ofDict entries name c
    | .set isFrozen vs => ofSet isFrozen vs name c
    | .view _ vs => ofSet false vs name c
    | .range a b step => ofRange a b step name c
    | .bool b => ofInt b.toNat name c
    | .int n => ofInt n name c
    | .float x => ofFloat x name c
    | .complex re im =>
      if name = "conjugate" && c.args.isEmpty then .ok (.complex re (-im)) else meaningless
    | .slice a b step => do
      if name ≠ "indices" then meaningless
      let n ← (← c.single).toIndex
      if n < 0 then fail .value "length should not be negative"
      let (i, j, k) ← Entity.sliceBounds a b step n.toNat
      return .tuple [.int i, .int j, .int k]
    | .made e args => if name = "with_traceback" then .ok (.made e args) else meaningless
    | .applied word args => do
      if name ≠ "copy_with" then meaningless
      Entity.rebuilt (.applied word args) (← (← c.single).allItems)
    | _ => meaningless

end Method

end Annotation

end Longhand
