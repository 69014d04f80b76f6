/-! # Binary floating-point magnitudes

The finite magnitudes of the 64-bit binary format, `significand * 2 ^ exponent`, held as exact
numbers.  `ofQuotient` rounds an exact quotient to the nearest of them, a half going to the even
neighbour; the products and quotients of two magnitudes are rounded the same way.  Every
operation that can leave the range answers with nothing. -/

namespace CloudApi.Decimal

/-- A finite magnitude: zero, or a significand of at most 53 bits scaled by a power of two.
Nonzero magnitudes have 53 bits unless the exponent is the least one. -/
structure Binary64 where
  significand : Nat
  exponent : Int
deriving DecidableEq, Repr

namespace Binary64

/-- The power of two with this exponent. -/
def twoTo (k : Nat) : Nat := Nat.pow 2 k

/-- The power of ten with this exponent. -/
def tenTo (k : Nat) : Nat := Nat.pow 10 k

/-- The number of bits of a significand. -/
def precision : Nat := 53

/-- The exponent of the smallest step. -/
def leastExponent : Int := -1074

/-- The exponent from which on a magnitude is out of range. -/
def exponentLimit : Int := 972

/-- The magnitude zero. -/
def zero : Binary64 := ⟨0, leastExponent⟩

/-- `num / den` rounded to a whole number, a half going to the even neighbour. -/
def roundHalfEven (num den : Nat) : Nat :=
  let q := num / den
  let r := num % den
  if 2 * r < den then q
  else if den < 2 * r then q + 1
  else if q % 2 = 0 then q else q + 1

/-- The exponent of the leading bit of a positive quotient: the largest `l` with
`2 ^ l ≤ num / den`. -/
def leadingBit (num den : Nat) : Int :=
  -- the difference of the leading bits is right or one too large
  let l : Int := num.log2 - den.log2
  if num * twoTo (-l).toNat < den * twoTo l.toNat then l - 1 else l

/-- The magnitude nearest to `num / den`, or nothing beyond the largest one. -/
def ofQuotient (num den : Nat) : Option Binary64 :=
  if num = 0 then some zero
  else
    let e := max (leadingBit num den - (precision - 1 : Nat)) leastExponent
    let m := roundHalfEven (num * twoTo (-e).toNat) (den * twoTo e.toNat)
    -- rounding up can reach the next power of two, which has one bit too many
    let (m, e) := if m = twoTo precision then (twoTo (precision - 1), e + 1) else (m, e)
    if e < exponentLimit then some ⟨m, e⟩ else none

/-- The magnitude nearest to a whole number. -/
def ofNat (n : Nat) : Option Binary64 := ofQuotient n 1

/-- The numerator of the exact value. -/
def num (x : Binary64) : Nat := x.significand * twoTo x.exponent.toNat

/-- The denominator of the exact value. -/
def den (x : Binary64) : Nat := twoTo (-x.exponent).toNat

/-- The magnitude nearest to the product. -/
def mul (x y : Binary64) : Option Binary64 := ofQuotient (x.num * y.num) (x.den * y.den)

/-- The magnitude nearest to the quotient by a nonzero magnitude. -/
def div (x y : Binary64) : Option Binary64 := ofQuotient (x.num * y.den) (x.den * y.num)

/-- The magnitude nearest to a power of ten. -/
def powerOfTen (k : Nat) : Option Binary64 := ofNat (tenTo k)

/-- The largest power of ten within the range. -/
def largestPowerOfTen : Nat := 308

/-- Divide `n` times by the largest power of ten; a magnitude that has become zero stays. -/
def stepDown : Nat → Binary64 → Option Binary64
  | 0, x => some x
  | n + 1, x =>
    if x.significand = 0 then some x else do
      let p ← powerOfTen largestPowerOfTen
      let y ← x.div p
      stepDown n y

/-- `x * 10 ^ e`, where powers of ten are themselves rounded and each product or quotient by one
is rounded again.  An exponent below the range of powers is first taken off in steps of the
largest power. -/
def scale (x : Binary64) (e : Int) : Option Binary64 :=
  if x.significand = 0 then some x
  else if 0 ≤ e then
    if e ≤ largestPowerOfTen then do
      let p ← powerOfTen e.toNat
      x.mul p
    else none
  else do
    -- the last division is by a power within the range, and by one at least
    let steps := ((-e).toNat - 1) / largestPowerOfTen
    let y ← stepDown steps x
    let p ← powerOfTen ((-e).toNat - steps * largestPowerOfTen)
    y.div p

end Binary64

end CloudApi.Decimal
