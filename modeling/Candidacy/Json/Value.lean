import Candidacy.Binary64
import Candidacy.Keyed

/-!
JSON values. Integers and doubles are kept apart. The members of an object stand in the order in
which they are shown; an object that was read has them in the order of their keys, each key once.
-/

namespace Candidacy.Json

/-- A number: an integer from `-2 ^ 63` to below `2 ^ 64`, or a finite double. -/
inductive Number
  | int (value : Int)
  | double (value : Binary64)
deriving DecidableEq

/-- The number as a double, rounded if it is a large integer. -/
def Number.toDouble : Number → Binary64
  | .int n => Binary64.ofInt n
  | .double x => x

inductive Value
  | null
  | bool (b : Bool)
  | number (n : Number)
  | string (s : String)
  | array (items : List Value)
  | object (members : List (String × Value))

/-- The members of an object. -/
abbrev Members := Keyed Value

end Candidacy.Json
