import Candidacy.Binary64.Numeral
import Candidacy.Instant

/-!
Instants in the form of RFC 3339: `2025-12-10T15:00:00.5+02:00`.
-/

namespace Candidacy.Instant

/-! Writing. -/

/-- A number with zeros in front, up to `width` digits. -/
def padded (width n : Nat) : List Char :=
  let digits := Nat.toDigits 10 n
  List.replicate (width - digits.length) '0' ++ digits

/-- Years of four digits have no sign. -/
def yearText (year : Int) : List Char :=
  if 0 ≤ year ∧ year ≤ 9999 then padded 4 year.toNat
  else (if year < 0 then '-' else '+') :: padded 4 year.natAbs

/-- The fewest of no, three, six and nine digits that lose nothing. -/
def fractionText (nanos : Nat) : List Char :=
  if nanos = 0 then []
  else if nanos % 1000000 = 0 then '.' :: padded 3 (nanos / 1000000)
  else if nanos % 1000 = 0 then '.' :: padded 6 (nanos / 1000)
  else '.' :: padded 9 nanos

/-- A moment without its zone. -/
def localText (date : Date) (second : Nat) (leap : Bool) (nanos : Nat) : List Char :=
  yearText date.year ++ '-' :: padded 2 date.month ++ '-' :: padded 2 date.day ++
    'T' :: padded 2 (second / 3600) ++ ':' :: padded 2 (second / 60 % 60) ++
    ':' :: padded 2 (second % 60 + if leap then 1 else 0) ++ fractionText nanos

/-- `Z`, or the sign, hours and minutes of an offset. -/
def offsetText (minutes : Int) : List Char :=
  if minutes = 0 then ['Z']
  else
    (if minutes < 0 then '-' else '+') :: padded 2 (minutes.natAbs / 60) ++
      ':' :: padded 2 (minutes.natAbs % 60)

/-- The text of an instant on a clock that is so many minutes ahead. -/
def textAt (minutes : Int) (instant : Instant) : List Char :=
  let secs := instant.secs + minutes * 60
  localText (Date.ofDays (secs / 86400)) (secs % 86400).toNat
    (1000000000 ≤ instant.nanos) (instant.nanos % 1000000000) ++ offsetText minutes

/-- The text of an instant in universal time. -/
def text (instant : Instant) : String :=
  String.ofList (textAt 0 instant)

/-! Reading. -/

/-- Between `least` and `most` digits. -/
def takeNumber (least most : Nat) (cs : List Char) : Option (Nat × List Char) :=
  let digits := (cs.take most).takeWhile Char.isDigit
  if digits.length < least then none
  else some (digitsValue 0 digits, cs.drop digits.length)

/-- A character that has to stand here. -/
def takeMark (mark : Char → Bool) : List Char → Option (List Char)
  | [] => none
  | c :: rest => if mark c then some rest else none

/-- Digits behind a point. The ninth is the last that counts. -/
def takeFraction : List Char → Option (Nat × List Char)
  | '.' :: rest => do
      let (digits, rest) := spanDigits rest
      if digits.isEmpty then none
      else
        let nine := digits.take 9
        return (digitsValue 0 (nine ++ List.replicate (9 - nine.length) '0'), rest)
  | cs => some (0, cs)

/-- An offset in seconds, at the end of the text. The minus may be the hyphen or U+2212. -/
def takeOffset : List Char → Option Int
  | [c] => if c == 'Z' || c == 'z' then some 0 else none
  | sign :: rest => do
      let (hours, rest) ← takeNumber 2 2 rest
      let rest ← takeMark (· == ':') rest
      let (minutes, rest) ← takeNumber 2 2 rest
      let seconds : Nat := hours * 3600 + minutes * 60
      if minutes < 60 && rest.isEmpty then
        if sign == '+' then return seconds
        else if sign == '-' || sign == '−' then return -seconds
        else none
      else none
  | [] => none

def takeDate (cs : List Char) : Option (Date × List Char) := do
  let (year, cs) ← takeNumber 4 4 cs
  let cs ← takeMark (· == '-') cs
  let (month, cs) ← takeNumber 2 2 cs
  let cs ← takeMark (· == '-') cs
  let (day, cs) ← takeNumber 2 2 cs
  return (⟨year, month, day⟩, cs)

/-- A text in the form of RFC 3339. Letters may be small, and a blank may stand between date and
time. -/
def ofRfc3339? (cs : List Char) : Option Instant := do
  let (date, cs) ← takeDate cs
  let cs ← takeMark (fun c => c == 'T' || c == 't' || c == ' ') cs
  let (hour, cs) ← takeNumber 2 2 cs
  let cs ← takeMark (· == ':') cs
  let (minute, cs) ← takeNumber 2 2 cs
  let cs ← takeMark (· == ':') cs
  let (second, cs) ← takeNumber 2 2 cs
  let (nanos, cs) ← takeFraction cs
  let offset ← takeOffset cs
  ofLocal? ⟨date, hour, minute, second, nanos, offset⟩

end Candidacy.Instant
