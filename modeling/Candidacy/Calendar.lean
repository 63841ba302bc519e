/-!
The Gregorian calendar, extended to all years. Days are counted from 1970-01-01.
-/

namespace Candidacy

structure Date where
  year : Int
  month : Nat
  day : Nat
deriving DecidableEq

namespace Date

def isLeap (year : Int) : Bool :=
  year % 4 == 0 && (year % 100 != 0 || year % 400 == 0)

def monthLengths (leap : Bool) : List Nat :=
  [31, if leap then 29 else 28, 31, 30, 31, 30, 31, 31, 30, 31, 30, 31]

/-- The calendar has this day. -/
def exists? (date : Date) : Bool :=
  match (monthLengths (isLeap date.year))[date.month - 1]? with
  | some length => 1 ≤ date.month && 1 ≤ date.day && date.day ≤ length
  | none => false

/-- Leap days in the years from 1 to `year`. -/
def leapDays (year : Int) : Int :=
  year / 4 - year / 100 + year / 400

/-- The number of the first day of a year. -/
def yearStart (year : Int) : Int :=
  365 * (year - 1970) + leapDays (year - 1) - leapDays 1969

/-- The days of a year before the first of a month. -/
def monthStart (leap : Bool) (month : Nat) : Nat :=
  ((monthLengths leap).take (month - 1)).foldl (· + ·) 0

def toDays (date : Date) : Int :=
  yearStart date.year + monthStart (isLeap date.year) date.month + (date.day - 1 : Nat)

/-- The year a day lies in: the year by the mean length, or one of its neighbours. -/
def yearOf (days : Int) : Int :=
  let mean := days * 400 / 146097 + 1970
  if days < yearStart mean then mean - 1
  else if yearStart (mean + 1) ≤ days then mean + 1
  else mean

/-- The month that holds a day of the year, and the place of the day in it, both from zero. -/
def monthAndDay : List Nat → Nat → Nat × Nat
  | [], day => (0, day)
  | length :: rest, day =>
      if day < length then (0, day)
      else
        let (month, day) := monthAndDay rest (day - length)
        (month + 1, day)

def ofDays (days : Int) : Date :=
  let year := yearOf days
  let (month, day) := monthAndDay (monthLengths (isLeap year)) (days - yearStart year).toNat
  ⟨year, month + 1, day + 1⟩

/-- The day of the week, Monday first. -/
def weekday (date : Date) : Nat :=
  ((date.toDays + 3) % 7).toNat

end Date

end Candidacy
