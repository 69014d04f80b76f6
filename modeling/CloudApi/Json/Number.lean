import CloudApi.Decimal.Shortest
import CloudApi.Text.Numeral

/-! # Numbers of a document

A number without fraction and exponent is whole as long as it fits 64 bits: without a sign up to
`2 ^ 64 - 1`, with one down to `-2 ^ 63`.  Every other number, and `-0`, is a binary magnitude
with a sign.

Reading gathers the digits into a 64-bit number as long as they fit.  Digits of the integer part
that no longer fit count as factors of ten; digits of the fraction that no longer fit are
dropped. -/

namespace CloudApi

/-- A number: whole, or a binary magnitude with a sign. -/
inductive Number where
  | whole (n : Int)
  | binary (negative : Bool) (magnitude : Decimal.Binary64)
deriving DecidableEq, Repr

namespace Number

/-- The numbers below this limit fit 64 bits. -/
def wordLimit : Nat := 0x10000000000000000

/-- The least whole number is `-signedLimit`. -/
def signedLimit : Nat := 0x8000000000000000

/-- Append digits to `acc` as long as the result fits 64 bits; the digits left over. -/
def gather (acc : Nat) : List Nat → Nat × List Nat
  | [] => (acc, [])
  | d :: ds => if acc * 10 + d < wordLimit then gather (acc * 10 + d) ds else (acc, d :: ds)

/-- The magnitude that integer digits, fraction digits and an exponent stand for, or nothing if
it is out of range. -/
def magnitude (integer fraction : List Nat) (exponent : Int) : Option Decimal.Binary64 := do
  let (m, more) := gather 0 integer
  -- the fraction starts where the integer part has stopped, even if that part did not fit
  let (m, dropped) := gather m fraction
  let taken := fraction.length - dropped.length
  (← Decimal.Binary64.ofNat m).scale (more.length - taken + exponent)

/-- The number written by a sign and integer digits alone. -/
def ofDigits (negative : Bool) (integer : List Nat) : Option Number :=
  let (m, more) := gather 0 integer
  if more = [] then
    if !negative then some (.whole m)
    -- a negative zero has no whole form
    else if 0 < m ∧ m ≤ signedLimit then some (.whole (-m))
    else (Decimal.Binary64.ofNat m).map (.binary true)
  else (magnitude integer [] 0).map (.binary negative)

/-! ### Reading -/

/-- The longest row of digits at the front, and the rest. -/
def takeDigits (cs : List Char) : List Nat × List Char :=
  ((cs.takeWhile (Text.digitValue? · |>.isSome)).filterMap Text.digitValue?,
    cs.dropWhile (Text.digitValue? · |>.isSome))

/-- A point and the digits that must follow it; no point is no fraction. -/
def takeFraction : List Char → Option (Option (List Nat) × List Char)
  | '.' :: cs =>
    match takeDigits cs with
    | ([], _) => none
    | (ds, rest) => some (some ds, rest)
  | cs => some (none, cs)

/-- The mark of an exponent, a sign, and the digits that must follow; no mark is no exponent. -/
def takeExponent (cs : List Char) : Option (Option Int × List Char) :=
  match cs with
  | c :: cs' =>
    if c = 'e' ∨ c = 'E' then
      let (negative, cs') :=
        match cs' with
        | '-' :: r => (true, r)
        | '+' :: r => (false, r)
        | r => (false, r)
      match takeDigits cs' with
      | ([], _) => none
      | (ds, rest) =>
        let n : Nat := ds.foldl (fun acc d => acc * 10 + d) 0
        some (some (if negative then -n else n), rest)
    else some (none, cs)
  | [] => some (none, [])

/-- Integer digits: at least one, and none before a leading zero's end. -/
def takeInteger (cs : List Char) : Option (List Nat × List Char) :=
  match takeDigits cs with
  | ([], _) => none
  | (0 :: _ :: _, _) => none
  | (ds, rest) => some (ds, rest)

/-- The number at the front of a text, and the rest. -/
def read (cs : List Char) : Option (Number × List Char) := do
  let (negative, cs) :=
    match cs with
    | '-' :: r => (true, r)
    | r => (false, r)
  let (integer, cs) ← takeInteger cs
  let (fraction, cs) ← takeFraction cs
  let (exponent, cs) ← takeExponent cs
  if fraction.isNone && exponent.isNone then
    return (← ofDigits negative integer, cs)
  else
    return (.binary negative (← magnitude integer (fraction.getD []) (exponent.getD 0)), cs)

/-! ### Writing -/

/-- The exponents of the leading digit that are written positionally: from `leastPlain` … -/
def leastPlain : Int := -5

/-- … to `largestPlain`. -/
def largestPlain : Int := 15

/-- Zeros in a row. -/
def zeros (n : Nat) : List Char := List.replicate n '0'

/-- A decimal with a point and at least one digit after it, or with one digit before the point
and a signed exponent. -/
def layout (d : Decimal.Scientific) : List Char :=
  let ds := (Text.decimal d.digits).toList
  let leading := d.exponent + (ds.length - 1 : Nat)
  if leastPlain ≤ leading ∧ leading ≤ largestPlain then
    -- without an exponent there is always a point, even if the number is whole
    if 0 ≤ d.exponent then ds ++ zeros d.exponent.toNat ++ ['.', '0']
    else if 0 ≤ leading then
      let before := (leading + 1).toNat
      ds.take before ++ '.' :: ds.drop before
    else '0' :: '.' :: zeros (-leading - 1).toNat ++ ds
  else
    let sign := if leading < 0 then '-' else '+'
    let exponent := (Text.decimal leading.natAbs).toList
    match ds with
    | [] => []
    | [c] => c :: 'e' :: sign :: exponent
    | c :: rest => c :: '.' :: rest ++ 'e' :: sign :: exponent

/-- The text of a magnitude: its fewest digits. -/
def magnitudeText (x : Decimal.Binary64) : List Char :=
  if x.significand = 0 then ['0', '.', '0'] else layout x.shortest

/-- The text of a number. -/
def text : Number → String
  | .whole n => toString n
  | .binary negative x =>
    String.ofList (if negative then '-' :: magnitudeText x else magnitudeText x)

end Number

end CloudApi
