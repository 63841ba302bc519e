import Candidacy.Instant.Rfc3339
import Candidacy.Text.Blank

/-!
Instants in the form of RFC 2822: `Wed, 10 Dec 2025 15:00:00 +0200 (a comment)`.
-/

namespace Candidacy.Instant

open Text (isBlank trimStart)

/-- White space that has to be there. -/
def takeBlanks : List Char → Option (List Char)
  | [] => none
  | c :: rest => if isBlank c then some (trimStart rest) else none

/-- The place in `names` of the three letters that the text starts with, in any case. -/
def takeName (names : List (List Char)) (cs : List Char) : Option (Nat × List Char) :=
  (names.findIdx? (· == (cs.take 3).map Char.toLower)).map (·, cs.drop 3)

def dayNames : List (List Char) :=
  [['m', 'o', 'n'], ['t', 'u', 'e'], ['w', 'e', 'd'], ['t', 'h', 'u'], ['f', 'r', 'i'],
    ['s', 'a', 't'], ['s', 'u', 'n']]

def monthNames : List (List Char) :=
  [['j', 'a', 'n'], ['f', 'e', 'b'], ['m', 'a', 'r'], ['a', 'p', 'r'], ['m', 'a', 'y'],
    ['j', 'u', 'n'], ['j', 'u', 'l'], ['a', 'u', 'g'], ['s', 'e', 'p'], ['o', 'c', 't'],
    ['n', 'o', 'v'], ['d', 'e', 'c']]

/-- The day of the week, if the text starts with one; a comma has to follow it. -/
def takeWeekday (cs : List Char) : Option (Option Nat × List Char) :=
  match takeName dayNames cs with
  | some (day, ',' :: rest) => some (some day, rest)
  | some _ => none
  | none => some (none, cs)

/-- Years of two digits lie between 1950 and 2049; those of three count from 1900. -/
def takeYear (cs : List Char) : Option (Nat × List Char) := do
  let (year, rest) ← takeNumber 2 cs.length cs
  match cs.length - rest.length with
  | 2 => return (if year < 50 then year + 2000 else year + 1900, rest)
  | 3 => return (year + 1900, rest)
  | _ => return (year, rest)

/-- Seconds may be left out. Blanks may stand before their colon, not after it. -/
def takeSeconds (cs : List Char) : Option (Nat × List Char) :=
  match trimStart cs with
  | ':' :: rest => takeNumber 2 2 rest
  | _ => some (0, cs)

/-- Named zones, in hours. -/
def zoneHours? (name : List Char) : Option Int :=
  match String.ofList name with
  | "gmt" | "ut" | "z" => some 0
  | "edt" => some (-4)
  | "est" | "cdt" => some (-5)
  | "cst" | "mdt" => some (-6)
  | "mst" | "pdt" => some (-7)
  | "pst" => some (-8)
  | _ =>
      match name with
      | [c] => if c == 'j' then none else some 0
      | _ => none

/-- A named zone, or a sign with hours and minutes; in seconds. -/
def takeZone (cs : List Char) : Option (Int × List Char) := do
  match cs.takeWhile Char.isAlpha with
  | [] =>
      match cs with
      | [] => none
      | sign :: rest =>
          let (hours, rest) ← takeNumber 2 2 rest
          let (minutes, rest) ← takeNumber 2 2 rest
          let seconds : Nat := hours * 3600 + minutes * 60
          if 60 ≤ minutes then none
          else if sign == '+' then return (seconds, rest)
          else if sign == '-' then return (-seconds, rest)
          else none
  | name =>
      let hours ← zoneHours? (name.map Char.toLower)
      return (hours * 3600, cs.drop name.length)

/-- Comments in parentheses, with white space before each and nothing behind the last. Inside they
nest, and a backslash takes the character after it. -/
def onlyComments : (depth : Nat) → (flag : Bool) → List Char → Bool
  | 0, afterBlank, [] => !afterBlank
  | 0, _, c :: rest =>
      if c == '(' then onlyComments 1 false rest else isBlank c && onlyComments 0 true rest
  | _ + 1, _, [] => false
  | depth + 1, true, _ :: rest => onlyComments (depth + 1) false rest
  | depth + 1, false, c :: rest =>
      if c == '\\' then onlyComments (depth + 1) true rest
      else if c == '(' then onlyComments (depth + 2) false rest
      else if c == ')' then onlyComments depth false rest
      else onlyComments (depth + 1) false rest

/-- A text in the form of RFC 2822. A wrong day of the week is no date. -/
def ofRfc2822? (cs : List Char) : Option Instant := do
  let (weekday, cs) ← takeWeekday (trimStart cs)
  let (day, cs) ← takeNumber 1 2 (trimStart cs)
  let cs ← takeBlanks cs
  let (month, cs) ← takeName monthNames cs
  let cs ← takeBlanks cs
  let (year, cs) ← takeYear cs
  let cs ← takeBlanks cs
  let (hour, cs) ← takeNumber 2 2 cs
  let cs ← takeMark (· == ':') (trimStart cs)
  let (minute, cs) ← takeNumber 2 2 (trimStart cs)
  let (second, cs) ← takeSeconds cs
  let cs ← takeBlanks cs
  let (offset, cs) ← takeZone cs
  let date : Date := ⟨year, month + 1, day⟩
  if onlyComments 0 false cs && (weekday.isNone || weekday == some date.weekday) then
    ofLocal? ⟨date, hour, minute, second, 0, offset⟩
  else none

end Candidacy.Instant
