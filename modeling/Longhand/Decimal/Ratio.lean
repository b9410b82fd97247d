import Longhand.Decimal.Shortest

/-!
Quotients of natural numbers, rounded: to the nearest natural number, to a number of decimal
places, and to the nearest binary floating-point number. Ties go to the even neighbour.
-/

namespace Longhand

namespace Ratio

def round (num den : Nat) : Nat :=
  let n := num / den
  let twice := 2 * (num % den)
  if twice < den ∨ (twice = den ∧ n % 2 = 0) then n else n + 1

/-- The multiple of a tenth of so many places nearest to `num / den`, in those tenths. Negative
places count before the point. -/
def roundAt (num den : Nat) (places : Int) : Nat :=
  round (num * tenPow places.toNat) (den * tenPow (-places).toNat)

/-- The greatest power of two that is not above `num / den`, by its exponent. -/
def exponent (num den : Nat) : Int :=
  let e : Int := (num.log2 : Int) - den.log2
  if den <<< e.toNat ≤ num <<< (-e).toNat then e else e - 1

/-- The floating-point number nearest to a positive `num / den`, if it is not too large. -/
def toFloat? (num den : Nat) : Option Float :=
  if num = 0 then some 0.0
  else
    let q := max (exponent num den - 52) (-1074)
    let m := round (num <<< (-q).toNat) (den <<< q.toNat)
    let (m, q) := if m = 2 * fractionBound then (fractionBound, q + 1) else (m, q)
    if m < fractionBound then some (Float.ofBits m.toUInt64)
    else
      let biased := (q + 1075).toNat
      if biased < 0x7ff then
        some (Float.ofBits (biased * fractionBound + (m - fractionBound)).toUInt64)
      else none

end Ratio

end Longhand
