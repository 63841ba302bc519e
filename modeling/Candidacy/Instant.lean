import Candidacy.Calendar

/-!
Instants: seconds since 1970-01-01T00:00:00Z and nanoseconds. A second beyond the fifty-ninth of its
minute is kept as nanoseconds from one thousand million on.
-/

namespace Candidacy

structure Instant where
  secs : Int
  nanos : Nat
deriving DecidableEq

namespace Instant

/-- The seconds of the years from -262143 to 262142. -/
def inRange (secs : Int) : Bool :=
  -8334601228800 ≤ secs && secs ≤ 8210266876799

def ofSecs? (secs : Int) : Option Instant :=
  if inRange secs then some ⟨secs, 0⟩ else none

def ofMillis? (millis : Int) : Option Instant :=
  if inRange (millis / 1000) then some ⟨millis / 1000, (millis % 1000).toNat * 1000000⟩ else none

/-- A moment on a wall clock, and how many seconds that clock is ahead. -/
structure Local where
  date : Date
  hour : Nat
  minute : Nat
  second : Nat
  nanos : Nat
  offset : Int
deriving DecidableEq

/-- The clock can show it, and is less than a day ahead or behind. A minute may have a sixtieth
second. -/
def Local.exists? (moment : Local) : Bool :=
  moment.date.exists? && -262143 ≤ moment.date.year && moment.date.year ≤ 262142 &&
    moment.hour < 24 && moment.minute < 60 && moment.second ≤ 60 && moment.offset.natAbs < 86400

/-- The instant of a moment that exists. -/
def ofLocal? (moment : Local) : Option Instant :=
  let secs := moment.date.toDays * 86400 +
    (moment.hour * 3600 + moment.minute * 60 + min moment.second 59 : Nat) - moment.offset
  let nanos := moment.nanos + if moment.second = 60 then 1000000000 else 0
  if moment.exists? && inRange secs then some ⟨secs, nanos⟩ else none

end Instant

end Candidacy
