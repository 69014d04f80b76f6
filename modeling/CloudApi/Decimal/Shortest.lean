import CloudApi.Decimal.Binary64

/-! # The fewest digits that identify a binary magnitude

A decimal `digits * 10 ^ exponent` reads back as a magnitude if it lies among the numbers that
round to it.  `shortest` tries one digit, two digits, and so on, up to seventeen; for each number
of digits it tests the two neighbours of the magnitude on that decimal grid.  The first grid with
a hit wins; of two hits the nearer one is taken, and at equal distance the even one. -/

namespace CloudApi.Decimal

/-- The decimal number `digits * 10 ^ exponent`. -/
structure Scientific where
  digits : Nat
  exponent : Int
deriving DecidableEq, Repr

namespace Binary64

/-- Compare `a * 10 ^ i` with `n * 2 ^ j`, exactly. -/
def compareScaled (a : Nat) (i : Int) (n : Nat) (j : Int) : Ordering :=
  compare (a * tenTo i.toNat * twoTo (-j).toNat) (n * twoTo j.toNat * tenTo (-i).toNat)

/-- The magnitude below is half as far away as the one above: the magnitude is a power of two and
not among those of the least exponent. -/
def narrowBelow (x : Binary64) : Bool :=
  x.significand = twoTo (precision - 1) && decide (leastExponent < x.exponent)

/-- The decimal lies among the numbers that round to the magnitude.  The ends, half-way to the
neighbours, belong to it exactly if the significand is even. -/
def readsBack (x : Binary64) (d : Scientific) : Bool :=
  -- everything is measured in quarters of the last place
  let low := if x.narrowBelow then 4 * x.significand - 1 else 4 * x.significand - 2
  let high := 4 * x.significand + 2
  let withEnds := x.significand % 2 = 0
  let above := compareScaled d.digits d.exponent low (x.exponent - 2)
  let below := compareScaled d.digits d.exponent high (x.exponent - 2)
  (above == .gt || (withEnds && above == .eq)) && (below == .lt || (withEnds && below == .eq))

/-- The least `k` with `x < 10 ^ k`, searched upwards from `k` for at most `fuel` steps. -/
def scaleFrom (x : Binary64) : Nat → Int → Int
  | 0, k => k
  | fuel + 1, k =>
    if compareScaled 1 k x.significand x.exponent == .gt then k else scaleFrom x fuel (k + 1)

/-- The least `k` with `x < 10 ^ k`.  The search starts below it: a magnitude with leading bit `l`
is at least `2 ^ l`, and a factor two is at least three tenths of a power of ten. -/
def decimalScale (x : Binary64) : Int :=
  let leading := (x.significand.log2 : Int) + x.exponent
  let start := if 0 ≤ leading then leading * 3 / 10 else leading * 31 / 100 - 1
  scaleFrom x 400 start

/-- The largest whole multiple of `10 ^ e` that is at most `x`. -/
def floorAt (x : Binary64) (e : Int) : Nat :=
  (x.num * tenTo (-e).toNat) / (x.den * tenTo e.toNat)

/-- The neighbour on the grid `10 ^ e` that reads back, if one does. -/
def onGrid (x : Binary64) (e : Int) : Option Scientific :=
  let n := x.floorAt e
  let low : Scientific := ⟨n, e⟩
  let high : Scientific := ⟨n + 1, e⟩
  match x.readsBack low, x.readsBack high with
  | true, false => some low
  | false, true => some high
  | true, true =>
    -- which side of the middle between the two the magnitude is on
    match compareScaled (2 * n + 1) e (2 * x.significand) x.exponent with
    | .gt => some low
    | .lt => some high
    | .eq => some (if n % 2 = 0 then low else high)
  | false, false => none

/-- Move the zeros at the end of the digits into the exponent. -/
def stripZeros : Nat → Scientific → Scientific
  | 0, d => d
  | fuel + 1, d =>
    if d.digits ≠ 0 ∧ d.digits % 10 = 0 then stripZeros fuel ⟨d.digits / 10, d.exponent + 1⟩ else d

/-- The fewest digits that read back as a nonzero magnitude, the nearest such digits. -/
def shortest (x : Binary64) : Scientific :=
  let k := x.decimalScale
  match (List.range 17).findSome? fun n => x.onGrid (k - (n + 1 : Nat)) with
  | some d => stripZeros 17 d
  -- seventeen digits are always enough, so the row of all digits is never written
  | none => ⟨x.num * tenTo (-x.exponent).toNat / x.den, -((-x.exponent).toNat : Int)⟩

end Binary64

end CloudApi.Decimal
