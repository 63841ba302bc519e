import Candidacy.Binary64

/-!
The shortest decimal text of a double: the fewest digits that read back as the same number, of
those the nearest, and a layout for them.
-/

namespace Candidacy.Binary64

/-- A positive decimal: the digits as one number, and the place of the last digit. -/
structure Digits where
  value : Nat
  place : Int
deriving DecidableEq

/-- Reading rounds exactly the magnitudes from `low` to `high` to the number, all four times
enlarged; the ends belong to it if its mantissa is even. -/
structure Basin where
  low : Nat
  centre : Nat
  high : Nat
  closed : Bool

/-- Just above a power of two the numbers below lie half as far apart. -/
def basin (x : Binary64) : Basin :=
  let step := 1 <<< scaleOf x.rank
  let below := if x.rank % (1 <<< 52) = 0 ∧ 1 <<< 52 < x.rank then step else 2 * step
  { low := 4 * x.units - below
    centre := 4 * x.units
    high := 4 * x.units + 2 * step
    closed := mantissaOf x.rank % 2 == 0 }

/-- `10 ^ e` as a ratio. -/
def tenRatio (e : Int) : Nat × Nat :=
  (Nat.pow 10 e.toNat, Nat.pow 10 (-e).toNat)

/-- The multiple `n` of `10 ^ place`, enlarged like a basin, lies in it. -/
def Basin.holds (b : Basin) (n : Nat) (place : Int) : Bool :=
  let (num, den) := tenRatio place
  let point := 4 * n * num * perOne
  if b.closed then b.low * den ≤ point && point ≤ b.high * den
  else b.low * den < point && point < b.high * den

/-- The two multiples of `10 ^ place` around the centre. If both lie in the basin the nearer one
counts, and halfway the even one. -/
def Basin.onGrid? (b : Basin) (place : Int) : Option Nat :=
  let (num, den) := tenRatio place
  let top := b.centre * den
  let bottom := 4 * num * perOne
  let floor := top / bottom
  match b.holds floor place, b.holds (floor + 1) place with
  | true, true => some (nearest floor (top % bottom) bottom)
  | true, false => some floor
  | false, true => some (floor + 1)
  | false, false => none

/-- The place of the first digit of `units` smallest units below one. -/
def placeBelowOne : Nat → Nat → Int
  | 0, _ => 0
  | fuel + 1, units => if perOne ≤ units then 0 else placeBelowOne fuel (10 * units) - 1

/-- The place of the first digit. -/
def leadingPlace (x : Binary64) : Int :=
  if perOne ≤ x.units then ((Nat.toDigits 10 (x.units / perOne)).length : Int) - 1
  else placeBelowOne 400 x.units

/-- The coarsest grid that meets the basin, from one digit to seventeen. -/
def shortest (x : Binary64) : Digits :=
  let b := x.basin
  let places := (List.range 17).map fun (n : Nat) => x.leadingPlace - n
  (places.findSome? fun place => (b.onGrid? place).map (Digits.mk · place)).getD ⟨0, 0⟩

/-! The layout. Where the first digit stands from five places behind the point to fifteen before
it, the number is written out, with at least one digit behind the point; otherwise one digit
stands before the point and a signed exponent follows. -/

/-- The digits without the zeros at their end, and the place of the first one. -/
def Digits.leading (d : Digits) : List Char × Int :=
  let all := Nat.toDigits 10 d.value
  ((all.reverse.dropWhile (· == '0')).reverse, d.place + all.length - 1)

def positional (digits : List Char) (first : Int) : List Char :=
  if first < 0 then
    ['0', '.'] ++ List.replicate ((-first).toNat - 1) '0' ++ digits
  else
    let before := first.toNat + 1
    if digits.length ≤ before then
      digits ++ List.replicate (before - digits.length) '0' ++ ['.', '0']
    else digits.take before ++ '.' :: digits.drop before

def scientific (digits : List Char) (first : Int) : List Char :=
  digits.take 1 ++ (if digits.length ≤ 1 then [] else '.' :: digits.drop 1) ++
    ['e', if first < 0 then '-' else '+'] ++ Nat.toDigits 10 first.natAbs

def magnitudeText (x : Binary64) : List Char :=
  if x.isZero then ['0', '.', '0']
  else
    let (digits, first) := x.shortest.leading
    if -5 ≤ first ∧ first ≤ 15 then positional digits first else scientific digits first

/-- The shortest decimal text that reads back as the number. -/
def text (x : Binary64) : List Char :=
  if x.negative then '-' :: x.magnitudeText else x.magnitudeText

end Candidacy.Binary64
