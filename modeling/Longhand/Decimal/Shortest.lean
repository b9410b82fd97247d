import Longhand.Decimal.Power

/-!
The shortest decimal that reads back as a given binary floating-point number, and its two
written forms. All arithmetic is on natural numbers: a number is `num / den`, and so are the ends
of the interval of reals that round to it.
-/

namespace Longhand

/-- The fraction of a floating-point number is below this bound, 52 bits wide. -/
def fractionBound : Nat := 0x10000000000000

/-- The bits of a number without its sign are below this bound, 63 bits wide. -/
def signBound : Nat := 0x8000000000000000

namespace Shortest

/-- A positive real `num / den` with the reals that round to it: from `low / den` to
`high / den`, the ends themselves only if `closed`. -/
structure Target where
  num : Nat
  den : Nat
  low : Nat
  high : Nat
  closed : Bool

/-- The target of the bits of a positive finite number. Below a power of two the next number is
half as far away as above it. -/
def Target.ofBits (bits : Nat) : Target :=
  let fraction := bits % fractionBound
  let biased := bits / fractionBound % 0x800
  let m := if biased = 0 then fraction else fraction + fractionBound
  let q : Int := (if biased = 0 then 1 else biased : Nat) - 1075
  let scale := 1 <<< q.toNat
  let below := if fraction = 0 ∧ 1 < biased then 1 else 2
  { num := 4 * m * scale, den := 4 <<< (-q).toNat, low := (4 * m - below) * scale,
    high := (4 * m + 2) * scale, closed := m % 2 = 0 }

/-- Whether `n * 10 ^ e` rounds to the target. -/
def Target.holds (t : Target) (n : Nat) (e : Int) : Bool :=
  let x := n * tenPow e.toNat * t.den
  let unit := tenPow (-e).toNat
  if t.closed then t.low * unit ≤ x && x ≤ t.high * unit
  else t.low * unit < x && x < t.high * unit

/-- The least `e` with the target below `10 ^ e`. -/
def Target.magnitude (t : Target) : Int :=
  if t.den ≤ t.num then (Nat.toDigits 10 (t.num / t.den)).length
  else below 400 0 t.num
where
  below : Nat → Nat → Nat → Int
  | 0, k, _ => -k
  | fuel + 1, k, n => if t.den ≤ n * 10 then -k else below fuel (k + 1) (n * 10)

/-- The neighbours of the target on the grid of multiples of `10 ^ e`; of two hits the nearer
one, and of two equally near the even one. -/
def Target.onGrid (t : Target) (e : Int) : Option Nat :=
  let num := t.num * tenPow (-e).toNat
  let den := t.den * tenPow e.toNat
  let n := num / den
  let twice := 2 * (num % den)
  match t.holds n e, t.holds (n + 1) e with
  | true, true => some (if twice < den ∨ (twice = den ∧ n % 2 = 0) then n else n + 1)
  | true, false => some n
  | false, true => some (n + 1)
  | false, false => none

/-- Tries grids of more and more digits. Seventeen always suffice. -/
def Target.search (t : Target) (p : Int) : Nat → Nat → Nat × Int
  | 0, _ => (t.num / t.den, 0)
  | fuel + 1, k =>
    match t.onGrid (p - k) with
    | some n => (n, p - k)
    | none => t.search p fuel (k + 1)

def digits (bits : Nat) : List Char × Int :=
  let t := Target.ofBits bits
  let (n, e) := t.search t.magnitude 18 1
  let ds := Nat.toDigits 10 n
  let kept := (ds.reverse.dropWhile (· = '0')).reverse
  (kept, e + ds.length - 1)

/-- The decisions of a written form: exponents from `least` to below `bound` are written
positionally, `point` keeps a fraction on whole numbers. -/
structure Style where
  least : Int
  bound : Int
  point : Bool

/-- A number by itself. -/
def Style.plain : Style := ⟨-4, 16, true⟩

/-- A part of a complex number: whole numbers have no fraction. -/
def Style.part : Style := ⟨-4, 16, false⟩

/-- A number without an exponent, whatever its size. -/
def Style.positional : Style := ⟨-400, 400, false⟩

/-- Significant digits with the exponent of the first, in a style. An exponent has a sign and at
least two digits. -/
def layout (style : Style) (ds : List Char) (e : Int) : List Char :=
  if style.least ≤ e ∧ e < style.bound then
    if e < 0 then "0.".toList ++ List.replicate (-e - 1).toNat '0' ++ ds
    else
      let whole := ds.take (e.toNat + 1)
      let whole := whole ++ List.replicate (e.toNat + 1 - whole.length) '0'
      match ds.drop (e.toNat + 1) with
      | [] => whole ++ (if style.point then ".0".toList else [])
      | rest => whole ++ '.' :: rest
  else
    let exponent := Nat.toDigits 10 e.natAbs
    let exponent := if exponent.length < 2 then '0' :: exponent else exponent
    let mantissa := match ds with
      | d :: rest@(_ :: _) => d :: '.' :: rest
      | ds => ds
    mantissa ++ 'e' :: (if e < 0 then '-' else '+') :: exponent

def text (style : Style) (x : Float) : String :=
  let bits := x.toBits.toNat
  let magnitude := bits % signBound
  if 0x7ff0000000000000 < magnitude then "nan"
  else
    let body :=
      if magnitude = 0x7ff0000000000000 then "inf"
      else if magnitude = 0 then (if style.point then "0.0" else "0")
      else
        let (ds, e) := digits magnitude
        String.ofList (layout style ds e)
    if bits = magnitude then body else "-" ++ body

end Shortest

/-- The floating-point number nearest to `m * 10 ^ e`. -/
def nearestFloat (m : Nat) (e : Int) : Float :=
  let places := (Nat.toDigits 10 m).length
  if m = 0 then 0.0
  else if 400 < e + places then 1.0 / 0.0
  else if e + places < -400 then 0.0
  else Float.ofScientific m (e < 0) e.natAbs

/-- The exact value of a finite number, as an integer over a power of two. -/
def exactRatio? (x : Float) : Option (Int × Nat) :=
  let bits := x.toBits.toNat
  let magnitude := bits % signBound
  if 0x7ff0000000000000 ≤ magnitude then none
  else
    let fraction := magnitude % fractionBound
    let biased := magnitude / fractionBound
    let m : Nat := if biased = 0 then fraction else fraction + fractionBound
    let q : Int := (if biased = 0 then 1 else biased : Nat) - 1075
    let n : Int := (m <<< q.toNat : Nat)
    some (if bits = magnitude then n else -n, 1 <<< (-q).toNat)

end Longhand
