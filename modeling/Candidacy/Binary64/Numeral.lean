import Candidacy.Binary64

/-!
Numerals: the parts of a decimal number as it is written, and the double nearest to them.
-/

namespace Candidacy

/-- The value of a row of digits, read on from `start`. -/
def digitsValue (start : Nat) (digits : List Char) : Nat :=
  digits.foldl (fun n c => 10 * n + (c.toNat - '0'.toNat)) start

/-- Cuts off the digits that a text starts with. -/
def spanDigits (cs : List Char) : List Char × List Char :=
  (cs.takeWhile Char.isDigit, cs.dropWhile Char.isDigit)

/-- Cuts off a leading sign; only a minus makes negative. -/
def takeSign : List Char → Bool × List Char
  | [] => (false, [])
  | c :: rest =>
      if c = '-' then (true, rest)
      else if c = '+' then (false, rest)
      else (false, c :: rest)

/-- Digits before the point, digits behind it, and the exponent. -/
structure Numeral where
  whole : List Char
  fraction : List Char
  exponent : Int
deriving DecidableEq

namespace Numeral

/-- The exponent of an `e`, with an optional sign before at least one digit. -/
def exponent? (cs : List Char) : Option Int :=
  let (negative, digits) := takeSign cs
  if digits.isEmpty || !digits.all Char.isDigit then none
  else
    let n : Nat := digitsValue 0 digits
    some (if negative then -n else n)

/-- Digits with at most one point, at least one digit in all, and an optional exponent. -/
def ofChars? (cs : List Char) : Option Numeral :=
  let (whole, rest) := spanDigits cs
  let (fraction, rest) := match rest with
    | '.' :: behind => spanDigits behind
    | _ => ([], rest)
  if whole.isEmpty && fraction.isEmpty then none
  else
    match rest with
    | [] => some ⟨whole, fraction, 0⟩
    | e :: digits =>
        if e = 'e' ∨ e = 'E' then (exponent? digits).map (⟨whole, fraction, ·⟩) else none

/-- All digits as one number; its last digit stands at `place`. -/
def digits (n : Numeral) : Nat :=
  digitsValue (digitsValue 0 n.whole) n.fraction

def place (n : Numeral) : Int :=
  n.exponent - n.fraction.length

end Numeral

/-- A double, finite or not. -/
inductive Extended
  | finite (x : Binary64)
  | infinite (negative : Bool)
  | nan
deriving DecidableEq

namespace Extended

/-- Whether the value lies above a finite bound. -/
def exceeds (x : Extended) (bound : Binary64) : Bool :=
  match x with
  | .finite x => bound.lt x
  | .infinite negative => !negative
  | .nan => false

/-- The double nearest to `digits * 10 ^ place`. The number of digits alone settles the magnitudes
far outside the finite range. -/
def ofDecimal (negative : Bool) (digits : Nat) (place : Int) : Extended :=
  let width : Int := (Nat.toDigits 10 digits).length
  if digits = 0 ∨ width + place < -330 then .finite { Binary64.zero with negative }
  else if 320 < width + place then .infinite negative
  else
    match Binary64.ofRatio? negative (digits * Nat.pow 10 place.toNat)
        (Nat.pow 10 (-place).toNat) with
    | some x => .finite x
    | none => .infinite negative

/-- Words for the values that have no digits, in lower case. -/
def ofWord? (negative : Bool) (word : List Char) : Option Extended :=
  if word = ['i', 'n', 'f'] ∨ word = ['i', 'n', 'f', 'i', 'n', 'i', 't', 'y'] then
    some (.infinite negative)
  else if word = ['n', 'a', 'n'] then some .nan
  else none

/-- A number written as text: an optional sign, then a numeral or a word in any case. -/
def ofChars? (cs : List Char) : Option Extended :=
  let (negative, rest) := takeSign cs
  match Numeral.ofChars? rest with
  | some n => some (ofDecimal negative n.digits n.place)
  | none => ofWord? negative (rest.map Char.toLower)

end Extended

end Candidacy
