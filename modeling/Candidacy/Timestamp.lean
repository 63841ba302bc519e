import Candidacy.Instant.Rfc2822
import Candidacy.Json.Value

/-!
The instant that a payload names. What cannot be read stands for the present.
-/

namespace Candidacy

/-- What is submitted for a task: the members of an object. -/
abbrev Payload := Json.Members

namespace Timestamp

/-- The member of a payload that names its instant. -/
def field : String := "timestamp"

/-- The year 2000 in milliseconds. Numbers below it are seconds, the others milliseconds. -/
def firstMillis : Int := 946684800000

def ofEpochNumber? (n : Int) : Option Instant :=
  if n < firstMillis then Instant.ofSecs? n else Instant.ofMillis? n

/-- The nearest integer of 64 bits, toward zero inside their range. -/
def clamp (n : Int) : Int :=
  max Int64.minValue.toInt (min n Int64.maxValue.toInt)

/-- Integers beyond 63 bits are taken as doubles. -/
def epochNumber : Json.Number → Int
  | .int n => if n ≤ Int64.maxValue.toInt then n else clamp (Binary64.ofInt n).truncate
  | .double x => clamp x.truncate

/-- The word for the present, with white space around it and in any case. -/
def isNow (text : String) : Bool :=
  (Text.trim text).toList.map Char.toLower == ['n', 'o', 'w']

/-- A signed offset with a colon at the end, told by the last six bytes. -/
def endsInOffset (bytes : List UInt8) : Bool :=
  match bytes.reverse with
  | _ :: _ :: colon :: _ :: _ :: sign :: _ =>
      (sign == '+'.toUInt8 || sign == '-'.toUInt8) && colon == ':'.toUInt8
  | _ => false

/-- The strict form of an instant: a capital T behind the date, and a capital Z or a signed offset at
the end. It is told by the bytes at these places. -/
def isStrict (text : String) : Bool :=
  let bytes := text.toUTF8.data.toList
  bytes[10]? == some 'T'.toUInt8 &&
    (bytes.getLast? == some 'Z'.toUInt8 || endsInOffset bytes)

/-- The two written forms, the strict one first. -/
def ofText? (text : String) : Option Instant :=
  if isNow text then none
  else
    (if isStrict text then Instant.ofRfc3339? text.toList else none).or
      (Instant.ofRfc2822? text.toList)

/-- The instant that a value names, if it names one. -/
def read? : Option Json.Value → Option Instant
  | some (.string text) => ofText? text
  | some (.number n) => ofEpochNumber? (epochNumber n)
  | _ => none

/-- The instant that a value names, or else `now`. -/
def resolve (value : Option Json.Value) (now : Instant) : Instant :=
  (read? value).getD now

end Timestamp

end Candidacy
