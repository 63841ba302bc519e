/-!
Finite double precision numbers, exactly. A magnitude is kept as its rank among all finite
magnitudes, zero first, so the order of ranks is the order of values and a number has one
representation; only zero has two signs.
-/

namespace Candidacy

/-- A finite double: a sign, and the place of the magnitude among the finite ones. -/
structure Binary64 where
  negative : Bool
  rank : Nat
  rank_lt : rank < 2047 <<< 52
deriving DecidableEq

namespace Binary64

/-- All magnitudes are multiples of `2 ^ -1074`; this is how many of them one unit holds. -/
def perOne : Nat := 1 <<< 1074

/-- The power of two that divides every magnitude of this rank's binade, in smallest units. -/
def scaleOf (rank : Nat) : Nat :=
  (rank >>> 52) - 1

def mantissaOf (rank : Nat) : Nat :=
  if rank < 1 <<< 52 then rank else (1 <<< 52) + rank % (1 <<< 52)

/-- The magnitude in smallest units. -/
def units (x : Binary64) : Nat :=
  mantissaOf x.rank <<< scaleOf x.rank

/-- The value in smallest units. -/
def signedUnits (x : Binary64) : Int :=
  if x.negative then -x.units else x.units

def zero : Binary64 := ⟨false, 0, by decide⟩

/-- The signs of zero do not tell numbers apart. -/
def sameValue (x y : Binary64) : Bool :=
  x.signedUnits == y.signedUnits

def neg (x : Binary64) : Binary64 :=
  { x with negative := !x.negative }

def isZero (x : Binary64) : Bool :=
  x.rank == 0

/-- Of `q` and `q + 1` the nearer to `q + r / d`; halfway, the even one. -/
def nearest (q r d : Nat) : Nat :=
  if 2 * r > d || (2 * r == d && q % 2 == 1) then q + 1 else q

/-- The rank nearest to the ratio `num / den`, halfway the even one. Past the largest finite
magnitude it names no double. -/
def rankOfRatio (num den : Nat) : Nat :=
  let total := num * perOne
  let scale := (total / den).log2 - 52
  let step := den <<< scale
  (scale <<< 52) + nearest (total / step) (total % step) step

/-- The double of a rank, if that rank is finite. -/
def ofRank? (negative : Bool) (rank : Nat) : Option Binary64 :=
  if isFinite : rank < 2047 <<< 52 then some ⟨negative, rank, isFinite⟩ else none

/-- The double nearest to a ratio, or `none` if that would be an infinity. -/
def ofRatio? (negative : Bool) (num den : Nat) : Option Binary64 :=
  ofRank? negative (rankOfRatio num den)

def ofNat? (n : Nat) : Option Binary64 :=
  ofRatio? false n 1

/-- The double nearest to an integer, or zero if that would be an infinity. -/
def ofInt (n : Int) : Binary64 :=
  (ofRatio? (n < 0) n.natAbs 1).getD zero

/-- Rounded product; `none` is an infinity. -/
def mul? (x y : Binary64) : Option Binary64 :=
  ofRatio? (x.negative != y.negative) (x.units * y.units) (perOne * perOne)

/-- Rounded quotient by a number other than zero; `none` is an infinity. -/
def div? (x y : Binary64) : Option Binary64 :=
  if y.isZero then none else ofRatio? (x.negative != y.negative) x.units y.units

/-- The integer part, toward zero. -/
def truncate (x : Binary64) : Int :=
  let whole : Nat := x.units / perOne
  if x.negative then -whole else whole

/-! The order of values. -/

def lt (x y : Binary64) : Bool :=
  x.signedUnits < y.signedUnits

@[simp] theorem neg_neg (x : Binary64) : x.neg.neg = x := by
  simp [neg]

@[simp] theorem units_neg (x : Binary64) : x.neg.units = x.units := rfl

@[simp] theorem ofRank?_rank (x : Binary64) : ofRank? x.negative x.rank = some x :=
  dif_pos x.rank_lt

end Binary64

end Candidacy
