import Longhand.Annotation.Entity
import Longhand.Decimal.Ratio

/-!
Arithmetic in annotations. The result of two numbers is of the wider kind: integers have any size,
fractional numbers are binary floating-point numbers, and complex numbers are pairs of them.
-/

namespace Longhand

namespace Annotation

/-- A number of one of three kinds, the narrower first. -/
inductive Number where
  | int (n : Int)
  | float (x : Float)
  | complex (re im : Float)

namespace Number

/-- The number that an entity is; truth values are integers. -/
def ofEntity? : Entity → Option Number
  | .bool b => some (.int b.toNat)
  | .int n => some (.int n)
  | .float x => some (.float x)
  | .complex re im => some (.complex re im)
  | _ => none

def toEntity : Number → Entity
  | .int n => .int n
  | .float x => .float x
  | .complex re im => .complex re im

/-! ### Integers -/

/-- The bits that two integers have in common, where all higher bits of an integer tell its
sign. -/
def bitsBoth (m n : Int) : Int :=
  match m, n with
  | .ofNat a, .ofNat b => (a &&& b : Nat)
  | .ofNat a, .negSucc b => (a - (a &&& b) : Nat)
  | .negSucc a, .ofNat b => (b - (b &&& a) : Nat)
  | .negSucc a, .negSucc b => .negSucc (a ||| b)

/-- The bits that either of two integers has. -/
def bitsEither (m n : Int) : Int := -1 - bitsBoth (-1 - m) (-1 - n)

/-- The bits that one of two integers has. -/
def bitsOne (m n : Int) : Int := bitsEither m n - bitsBoth m n

def mostBits : Nat := 20000000

def shiftUp (m n : Int) : Answer Int :=
  if n < 0 then fail .value "negative shift count"
  else if m = 0 then .ok 0
  else if (signBound : Int) ≤ n then fail .overflow "too many digits in integer"
  else if (mostBits : Int) < n then fail .memory ""
  else .ok (m * ((1 <<< n.toNat : Nat) : Int))

def shiftDown (m n : Int) : Answer Int :=
  if n < 0 then fail .value "negative shift count"
  else
    let most : Int := m.natAbs.log2 + 1
    .ok (m.fdiv ((1 <<< (min n most).toNat : Nat) : Int))

def intPower (m : Int) (n : Nat) : Answer Int :=
  if mostBits < m.natAbs.log2 * n then fail .memory ""
  else
    let p : Int := Nat.pow m.natAbs n
    .ok (if m < 0 ∧ n % 2 = 1 then -p else p)

/-- The greatest common divisor `g` of two numbers, and an `x` with `a * x = g` modulo `b`. -/
def inverse : (fuel : Nat) → (a b x y : Int) → Int × Int
  | 0, a, _, x, _ => (a, x)
  | fuel + 1, a, b, x, y =>
    if b = 0 then (a, x) else inverse fuel b (a.fmod b) y (x - a.fdiv b * y)

/-- A power modulo a positive number, by repeated squaring. -/
def powerModulo : (fuel : Nat) → (m : Int) → (n : Nat) → (modulus : Int) → Int
  | 0, _, _, modulus => (1 : Int).fmod modulus
  | fuel + 1, m, n, modulus =>
    if n = 0 then (1 : Int).fmod modulus
    else
      let half := powerModulo fuel (m * m % modulus) (n / 2) modulus
      if n % 2 = 1 then half * m % modulus else half

/-- A power modulo a number whose sign the result takes. -/
def intPowerModulo (m n modulus : Int) : Answer Int := do
  if modulus = 0 then fail .value "pow() 3rd argument cannot be 0"
  let positive : Int := modulus.natAbs
  let base ← if n < 0 then
      let reduced := m.fmod positive
      let (g, x) := inverse (2 * positive.natAbs.log2 + 4) reduced positive 1 0
      if g = 1 ∨ positive = 1 then pure (x.fmod positive)
      else fail .value "base is not invertible for the given modulus"
    else pure (m.fmod positive)
  let r := powerModulo (n.natAbs.log2 + 2) base n.natAbs positive
  return if modulus < 0 ∧ r ≠ 0 then r + modulus else r

/-! ### Fractional numbers -/

def isSigned (x : Float) : Bool := signBound ≤ x.toBits.toNat

def withSign (x y : Float) : Float := if isSigned x = isSigned y then x else -x

def real (n : Int) : Answer Float :=
  match Ratio.toFloat? n.natAbs 1 with
  | some x => .ok (if n < 0 then -x else x)
  | none => fail .overflow "int too large to convert to float"

def intQuotient (m n : Int) : Answer Float :=
  if n = 0 then fail .zeroDivision "division by zero"
  else
    match Ratio.toFloat? m.natAbs n.natAbs with
    | some x => .ok (if (m < 0) = (n < 0) then x else -x)
    | none => fail .overflow "integer division result too large for a float"

/-- The remainder of a division that cuts toward zero. -/
def cutRemainder (x y : Float) : Float :=
  match exactRatio? x, exactRatio? y with
  | some (a, b), some (c, d) =>
    if c = 0 then 0.0 / 0.0
    else
      let r := (a.natAbs * d) % (c.natAbs * b)
      withSign ((Ratio.toFloat? r (b * d)).getD 0.0) x
  | some _, none => if y.isNaN then y else x
  | none, _ => 0.0 / 0.0

/-- The remainder that has the sign of the divisor. -/
def floorRemainder (x y : Float) : Float :=
  let r := cutRemainder x y
  if r == 0.0 then withSign 0.0 y
  else if (r < 0.0) ≠ (y < 0.0) then r + y
  else r

/-- The quotient without its fraction, toward the lesser side. -/
def floorQuotient (x y : Float) : Float :=
  let cut := cutRemainder x y
  let q := (x - cut) / y
  let q := if cut == 0.0 then q else if (cut < 0.0) ≠ (y < 0.0) then q - 1.0 else q
  if q == 0.0 then withSign 0.0 (x / y)
  else
    let f := q.floor
    if 0.5 < q - f then f + 1.0 else f

def complexTimes (a b c d : Float) : Float × Float := (a * c - b * d, a * d + b * c)

def complexQuotient (a b c d : Float) : Float × Float :=
  if d.abs ≤ c.abs then
    let ratio := d / c
    let denom := c + d * ratio
    ((a + b * ratio) / denom, (b - a * ratio) / denom)
  else if c.abs ≤ d.abs then
    let ratio := c / d
    let denom := c * ratio + d
    ((a * ratio + b) / denom, (b * ratio - a) / denom)
  else (0.0 / 0.0, 0.0 / 0.0)

/-- The length of a complex number. -/
def length (a b : Float) : Float :=
  if a.isInf || b.isInf then 1.0 / 0.0
  else
    let big := max a.abs b.abs
    if big == 0.0 then 0.0
    else if big < 1e150 ∧ 1e-150 < big then (a * a + b * b).sqrt
    else big * ((a / big) * (a / big) + (b / big) * (b / big)).sqrt

/-- A complex power with a natural exponent, by repeated squaring. -/
def complexPower : (fuel : Nat) → Float × Float → (result : Float × Float) → (n mask : Nat) →
    Float × Float
  | 0, _, r, _, _ => r
  | fuel + 1, p, r, n, mask =>
    if n < mask then r
    else
      let r := if n / mask % 2 = 1 then complexTimes r.1 r.2 p.1 p.2 else r
      complexPower fuel (complexTimes p.1 p.2 p.1 p.2) r n (2 * mask)

/-- A complex power by angle and length. -/
def polarPower (a b c d : Float) : Float × Float :=
  let size := length a b
  let angle := Float.atan2 b a
  let len := Float.pow size c
  let phase := angle * c
  let (len, phase) := if d == 0.0 then (len, phase)
    else (len * Float.exp (-angle * d), phase + d * Float.log size)
  (len * Float.cos phase, len * Float.sin phase)

def complexRaised (a b c d : Float) : Answer Number := do
  let r ← if c == 0.0 && d == 0.0 then pure (1.0, 0.0)
    else if a == 0.0 && b == 0.0 then
      if d != 0.0 || c < 0.0 then
        fail .zeroDivision "0.0 to a negative or complex power"
      else pure (0.0, 0.0)
    else if d == 0.0 && c == c.floor && c.abs ≤ 100.0 then
      let n := c.abs.toUInt64.toNat
      let p := complexPower 8 (a, b) (1.0, 0.0) n 1
      pure (if 0.0 < c then p else complexQuotient 1.0 0.0 p.1 p.2)
    else pure (polarPower a b c d)
  if r.1.isInf || r.2.isInf then fail .overflow "complex exponentiation"
  return .complex r.1 r.2

/-- A power of fractional numbers. A negative number has complex powers only, unless the exponent
is whole. -/
def floatPower (x y : Float) : Answer Number := do
  if x == 0.0 && y < 0.0 && !y.isInf then
    fail .zeroDivision "0.0 cannot be raised to a negative power"
  if x < 0.0 && !x.isInf && !y.isInf && !y.isNaN && y != y.floor then complexRaised x 0.0 y 0.0
  else
    let p := Float.pow x y
    if p.isInf && !x.isInf && !y.isInf then
      fail .overflow "(34, 'Numerical result out of range')"
    return .float p

/-! ### Operations -/

def float? : Number → Option (Answer Float)
  | .int n => some (real n)
  | .float x => some (.ok x)
  | .complex _ _ => none

/-- The parts of a number as a complex one. -/
def parts : Number → Answer (Float × Float)
  | .int n => do return (← real n, 0.0)
  | .float x => .ok (x, 0.0)
  | .complex re im => .ok (re, im)

def ofInts (op : Operator) (m n : Int) : Answer Number :=
  match op with
  | .add => .ok (.int (m + n))
  | .subtract => .ok (.int (m - n))
  | .multiply => .ok (.int (m * n))
  | .divide => do return .float (← intQuotient m n)
  | .floor =>
    if n = 0 then fail .zeroDivision "integer division or modulo by zero" else .ok (.int (m.fdiv n))
  | .remainder =>
    if n = 0 then fail .zeroDivision "integer modulo by zero" else .ok (.int (m.fmod n))
  | .power => do
    if n < 0 then floatPower (← real m) (← real n) else return .int (← intPower m n.toNat)
  | .shiftLeft => do return .int (← shiftUp m n)
  | .shiftRight => do return .int (← shiftDown m n)
  | .alternative => .ok (.int (bitsEither m n))
  | .exclusive => .ok (.int (bitsOne m n))
  | .both => .ok (.int (bitsBoth m n))
  | _ => meaningless

def ofFloats (op : Operator) (x y : Float) : Answer Number :=
  match op with
  | .add => .ok (.float (x + y))
  | .subtract => .ok (.float (x - y))
  | .multiply => .ok (.float (x * y))
  | .divide =>
    if y == 0.0 then fail .zeroDivision "float division by zero" else .ok (.float (x / y))
  | .floor =>
    if y == 0.0 then fail .zeroDivision "float floor division by zero"
    else .ok (.float (floorQuotient x y))
  | .remainder =>
    if y == 0.0 then fail .zeroDivision "float modulo" else .ok (.float (floorRemainder x y))
  | .power => floatPower x y
  | _ => meaningless

def ofComplexes (op : Operator) (a b c d : Float) : Answer Number :=
  let pair (p : Float × Float) : Answer Number := .ok (.complex p.1 p.2)
  match op with
  | .add => pair (a + c, b + d)
  | .subtract => pair (a - c, b - d)
  | .multiply => pair (complexTimes a b c d)
  | .divide =>
    if c == 0.0 && d == 0.0 then fail .zeroDivision "complex division by zero"
    else pair (complexQuotient a b c d)
  | .power => complexRaised a b c d
  | _ => meaningless

/-- An operation on two numbers, in the wider of their kinds. -/
def combine (op : Operator) (v w : Number) : Answer Number :=
  match v, w with
  | .int m, .int n => ofInts op m n
  | .complex _ _, _ | _, .complex _ _ => do
    let (a, b) ← v.parts
    let (c, d) ← w.parts
    ofComplexes op a b c d
  | _, _ => do
    let (x, _) ← v.parts
    let (y, _) ← w.parts
    ofFloats op x y

def signed (op : Sign) : Number → Answer Number
  | .int n =>
    match op with
    | .minus => .ok (.int (-n))
    | .plus => .ok (.int n)
    | .complement => .ok (.int (-1 - n))
    | .not => meaningless
  | .float x =>
    match op with
    | .minus => .ok (.float (-x))
    | .plus => .ok (.float x)
    | _ => meaningless
  | .complex re im =>
    match op with
    | .minus => .ok (.complex (-re) (-im))
    | .plus => .ok (.complex re im)
    | _ => meaningless

/-- The distance of a number from zero. -/
def size : Number → Answer Number
  | .int n => .ok (.int n.natAbs)
  | .float x => .ok (.float x.abs)
  | .complex re im =>
    let r := length re im
    if r.isInf && !re.isInf && !im.isInf then fail .overflow "absolute value too large"
    else .ok (.float r)

def truncated (x : Float) : Answer Int :=
  match exactRatio? x with
  | some (num, den) => .ok (Int.tdiv num den)
  | none =>
    if x.isNaN then fail .value "cannot convert float NaN to integer"
    else fail .overflow "cannot convert float infinity to integer"

/-- The integer that is nearest to a fractional number; of two the even one. -/
def nearest (x : Float) : Answer Int := do
  let _ ← truncated x
  match exactRatio? x with
  | some (num, den) =>
    let n : Int := Ratio.round num.natAbs den
    return if num < 0 then -n else n
  | none => return 0

def roundedAt (x : Float) (places : Int) : Answer Float :=
  match exactRatio? x with
  | none => .ok x
  | some (num, den) =>
    if 400 < places then .ok x
    else if places < -400 then .ok (withSign 0.0 x)
    else
      let y := nearestFloat (Ratio.roundAt num.natAbs den places) (-places)
      if y.isInf then fail .overflow "rounded value too large to represent"
      else .ok (withSign y x)

def intRoundedAt (n places : Int) : Int :=
  if 0 ≤ places then n
  else if places < -((Nat.toDigits 10 n.natAbs).length : Int) then 0
  else
    let weight : Int := tenPow (-places).toNat
    let r : Int := Ratio.roundAt n.natAbs 1 places
    if n < 0 then -(r * weight) else r * weight

end Number

end Annotation

end Longhand
