import Candidacy.Binary64.Numeral
import Candidacy.Json.Printer
import Candidacy.Text.Blank
import Candidacy.Dossier

/-!
When a task is passed, and when it is shown.
-/

namespace Candidacy

/-- The number that a JSON value holds: a number, or a text that reads as one. -/
def Json.Value.number? : Json.Value → Option Extended
  | .number n => some (.finite n.toDouble)
  | .string s => Extended.ofChars? (Text.trim s).toList
  | _ => none

/-- The text by which values are compared: of a string its content, of other values their compact
JSON. Null has none. -/
def Json.Value.comparedText? : Json.Value → Option String
  | .null => none
  | .string s => some s
  | v => some v.compact

/-- What a payload must hold for its task to be passed. -/
inductive Criterion
  | always
  /-- The member is a number above the threshold. -/
  | scoreAbove (field : String) (threshold : Binary64)
  /-- The member has this text. -/
  | equals (field : String) (text : String)
deriving DecidableEq

namespace Criterion

def passes (payload : Payload) : Criterion → Bool
  | .always => true
  | .scoreAbove field threshold =>
      ((payload.get? field).bind Json.Value.number?).any (·.exceeds threshold)
  | .equals field text =>
      match payload.get? field with
      | none | some .null => false
      | some (.string s) => s == text
      | some v => v.compact == text

/-- The same criterion, with thresholds compared as numbers. -/
def sameAs : Criterion → Criterion → Bool
  | .always, .always => true
  | .scoreAbove field threshold, .scoreAbove field' threshold' =>
      field == field' && threshold.sameValue threshold'
  | .equals field text, .equals field' text' => field == field' && text == text'
  | _, _ => false

end Criterion

/-- When a task is shown to an applicant. -/
inductive Visibility
  | always
deriving DecidableEq

/-- Whether a task is shown to the applicant with these verdicts. -/
def Visibility.shows (_ : Dossier) : Visibility → Bool
  | .always => true

end Candidacy
