import Candidacy.Instant.Rfc3339
import Candidacy.Text.Blank

/-!
Instants in a looser form of RFC 3339: `+2025 - 1 - 5T3 : 4 : 5.5 UTC`. White space may stand before
most parts, parts may have one digit, and years of any length have a sign.
-/

namespace Candidacy.Instant

open Text (isBlank trimStart)

/-- One or two digits, with white space before them. -/
def takePart (cs : List Char) : Option (Nat × List Char) :=
  takeNumber 1 2 (trimStart cs)

/-- A mark, with white space before it. -/
def takeSeparator (mark : Char) (cs : List Char) : Option (List Char) :=
  takeMark (· == mark) (trimStart cs)

/-- A year of up to four digits, or a sign and a year of any number of digits. -/
def takeSignedYear (cs : List Char) : Option (Int × List Char) := do
  match trimStart cs with
  | '+' :: rest =>
      let (year, rest) ← takeNumber 1 rest.length rest
      return ((year : Int), rest)
  | '-' :: rest =>
      let (year, rest) ← takeNumber 1 rest.length rest
      return (-(year : Int), rest)
  | cs =>
      let (year, rest) ← takeNumber 1 4 cs
      return ((year : Int), rest)

def takeLooseDate (cs : List Char) : Option (Date × List Char) := do
  let (year, cs) ← takeSignedYear cs
  let cs ← takeSeparator '-' cs
  let (month, cs) ← takePart cs
  let cs ← takeSeparator '-' cs
  let (day, cs) ← takePart cs
  return (⟨year, month, day⟩, cs)

/-- Colons and white space, which may stand between the hours and minutes of an offset. -/
def isOffsetGap (c : Char) : Bool :=
  c == ':' || isBlank c

/-- An offset in seconds. Universal time is `UTC` or `Z`, in any case; a minus may be the hyphen or
U+2212. -/
def takeLooseOffset (cs : List Char) : Option (Int × List Char) :=
  if (cs.take 3).map Char.toUpper = ['U', 'T', 'C'] then some (0, cs.drop 3)
  else
    match cs with
    | [] => none
    | sign :: rest =>
        if sign == 'Z' || sign == 'z' then some (0, rest)
        else do
          let (hours, rest) ← takeNumber 2 2 rest
          let (minutes, rest) ← takeNumber 2 2 (rest.dropWhile isOffsetGap)
          let seconds : Nat := hours * 3600 + minutes * 60
          if 60 ≤ minutes then none
          else if sign == '+' then return ((seconds : Int), rest)
          else if sign == '-' || sign == '−' then return (-(seconds : Int), rest)
          else none

/-- A text in the looser form. The date and the time are joined without white space before the mark
between them, and so is a fraction to its seconds. -/
def ofLoose? (cs : List Char) : Option Instant := do
  let (date, cs) ← takeLooseDate cs
  let cs ← takeMark (fun c => c == 'T' || c == 't' || c == ' ') cs
  let (hour, cs) ← takePart cs
  let cs ← takeSeparator ':' cs
  let (minute, cs) ← takePart cs
  let cs ← takeSeparator ':' cs
  let (second, cs) ← takePart cs
  let (nanos, cs) ← takeFraction cs
  let (offset, cs) ← takeLooseOffset (trimStart cs)
  if cs.all isBlank then ofLocal? ⟨date, hour, minute, second, nanos, offset⟩ else none

end Candidacy.Instant
