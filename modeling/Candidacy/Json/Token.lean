import Candidacy.Binary64.Numeral
import Candidacy.Json.Value

/-!
The tokens of JSON text. A token that the text breaks off or spoils is kept as such: whether that is
a fault depends on where it stands, and on whether its content is wanted.
-/

namespace Candidacy.Json

/-- What can be wrong with a text: it breaks a rule of the grammar, or it ends too soon. -/
inductive Fault
  | malformed
  | cutShort
deriving DecidableEq

/-- A spoilt place: the fault for a reader that wants the content, and for one that skips it. -/
structure Spoilt where
  wanted : Fault
  skipped : Fault
deriving DecidableEq

/-- The same fault for every reader. -/
def Spoilt.always (fault : Fault) : Spoilt :=
  ⟨fault, fault⟩

inductive Token
  | openBrace
  | closeBrace
  | openBracket
  | closeBracket
  | colon
  | comma
  | null
  | bool (b : Bool)
  /-- A well-formed number; `none` lies beyond the doubles. -/
  | number (value : Option Number)
  /-- A closed string; `none` holds half of a surrogate pair. -/
  | string (content : Option String)
  /-- A string with a fault inside. -/
  | spoiltString (spoilt : Spoilt)
  /-- Anything else that no value can start or go on with. -/
  | spoilt (spoilt : Spoilt)

/-! Strings. -/

/-- The content read so far, last character first, and the first half of a surrogate pair that
waits for its second. There is no content once a half stood alone. -/
structure Content where
  reversed : Option (List Char)
  half : Option Nat

namespace Content

def empty : Content := ⟨some [], none⟩

/-- A character, which no waiting half survives. -/
def push (content : Content) (c : Char) : Content :=
  match content.half with
  | none => ⟨content.reversed.map (c :: ·), none⟩
  | some _ => ⟨none, none⟩

/-- A unit of four hexadecimal digits: a character or half of a surrogate pair. -/
def pushUnit (content : Content) (n : Nat) : Content :=
  match content.half with
  | none =>
      if 0xD800 ≤ n ∧ n < 0xDC00 then ⟨content.reversed, some n⟩
      else if 0xDC00 ≤ n ∧ n < 0xE000 then ⟨none, none⟩
      else content.push (Char.ofNat n)
  | some high =>
      if 0xDC00 ≤ n ∧ n < 0xE000 then
        ⟨content.reversed.map
          (Char.ofNat (0x10000 + (high - 0xD800) * 0x400 + (n - 0xDC00)) :: ·), none⟩
      else ⟨none, none⟩

/-- The whole content, at the closing quote. -/
def close (content : Content) : Option String :=
  match content.half with
  | none => content.reversed.map fun cs => String.ofList cs.reverse
  | some _ => none

/-- A fault met after a half stood alone comes too late for a reader that wants the content. -/
def spoil (content : Content) (fault : Fault) : Spoilt :=
  match content.reversed with
  | some _ => .always fault
  | none => ⟨.malformed, fault⟩

end Content

def hexDigit? (c : Char) : Option Nat :=
  if '0' ≤ c ∧ c ≤ '9' then some (c.toNat - '0'.toNat)
  else if 'a' ≤ c ∧ c ≤ 'f' then some (c.toNat - 'a'.toNat + 10)
  else if 'A' ≤ c ∧ c ≤ 'F' then some (c.toNat - 'A'.toNat + 10)
  else none

def hexUnit? (a b c d : Char) : Option Nat := do
  let a ← hexDigit? a
  let b ← hexDigit? b
  let c ← hexDigit? c
  let d ← hexDigit? d
  return ((a * 16 + b) * 16 + c) * 16 + d

def simpleEscape? (c : Char) : Option Char :=
  if c = '"' ∨ c = '\\' ∨ c = '/' then some c
  else if c = 'b' then some '\x08'
  else if c = 'f' then some '\x0c'
  else if c = 'n' then some '\n'
  else if c = 'r' then some '\r'
  else if c = 't' then some '\t'
  else none

/-- The bytes of the first characters of a text, in UTF-8. -/
def bytesOf (cs : List Char) : Nat :=
  (String.ofList cs).utf8ByteSize

/-- A token and the text after it. -/
abbrev Lexeme := Token × List Char

/-- Reads a string on from inside its quotes. A unit that is not given four bytes ends too soon. -/
def lexString (content : Content) : List Char → Lexeme
  | [] => (.spoiltString (content.spoil .cutShort), [])
  | '"' :: rest => (.string content.close, rest)
  | '\\' :: 'u' :: a :: b :: c :: d :: rest =>
      match hexUnit? a b c d with
      | some n => lexString (content.pushUnit n) rest
      | none => (.spoiltString (content.spoil .malformed), [])
  | '\\' :: 'u' :: rest =>
      (.spoiltString (content.spoil (if bytesOf rest < 4 then .cutShort else .malformed)), [])
  | '\\' :: e :: rest =>
      match simpleEscape? e with
      | some c => lexString (content.push c) rest
      | none => (.spoiltString (content.spoil .malformed), [])
  | ['\\'] => (.spoiltString (content.spoil .cutShort), [])
  | c :: rest =>
      if c.toNat < 0x20 then (.spoiltString (content.spoil .malformed), [])
      else lexString (content.push c) rest

/-! Numbers. -/

/-- The digits that a significand below `2 ^ 64` takes up, and those left over. -/
def takeUp (significand : Nat) : List Char → Nat × List Char
  | [] => (significand, [])
  | c :: rest =>
      if digitsValue significand [c] < UInt64.size then takeUp (digitsValue significand [c]) rest
      else (significand, c :: rest)

def powerOfTen (n : Nat) : Binary64 :=
  (Binary64.ofNat? (Nat.pow 10 n)).getD .zero

/-- Divides by `10 ^ n`, each time by at most `10 ^ 308`, rounding after every division. -/
def divideByTens (x : Binary64) (n : Nat) : Binary64 :=
  if small : n ≤ 308 then (x.div? (powerOfTen n)).getD .zero
  else if x.isZero then x
  else divideByTens ((x.div? (powerOfTen 308)).getD .zero) (n - 308)
termination_by n

/-- `x * 10 ^ place`, if that is finite. -/
def scaleByTens? (x : Binary64) (place : Int) : Option Binary64 :=
  if place < 0 then some (divideByTens x place.natAbs)
  else if place ≤ 308 then x.mul? (powerOfTen place.natAbs)
  else if x.isZero then some x
  else none

/-- The value of a numeral. A significand rounded to a double is scaled by a power of ten and
rounded again. Whole numbers stay exact where 64 bits hold them; minus zero is a double. -/
def Number.ofNumeral? (negative hasPoint hasExponent : Bool) (n : Numeral) : Option Number :=
  let (whole, left) := takeUp 0 n.whole
  let held := left.isEmpty && (!negative || (0 < whole && whole ≤ 1 <<< 63))
  if !hasPoint && !hasExponent && held then
    some (.int (if negative then -whole else whole))
  else
    let (significand, ignored) := takeUp whole n.fraction
    let place := n.exponent + left.length - (n.fraction.length - ignored.length)
    match (Binary64.ofNat? significand).bind (scaleByTens? · place) with
    | some x => some (.double (if negative then x.neg else x))
    | none => none

/-- A number that stops where a digit has to follow. -/
def lexStop : List Char → Lexeme
  | [] => (.spoilt ⟨.cutShort, .malformed⟩, [])
  | _ => (.spoilt (.always .malformed), [])

/-- The exponent of a number, from behind its `e`. -/
def lexExponent (negative hasPoint : Bool) (whole fraction cs : List Char) : Lexeme :=
  let (down, rest) := takeSign cs
  let (digits, rest) := spanDigits rest
  if digits.isEmpty then lexStop rest
  else
    let n : Nat := digitsValue 0 digits
    (.number (Number.ofNumeral? negative hasPoint true ⟨whole, fraction, if down then -n else n⟩),
      rest)

/-- What follows the last digit before an exponent. -/
def lexEnd (negative hasPoint : Bool) (whole fraction : List Char) : List Char → Lexeme
  | [] => (.number (Number.ofNumeral? negative hasPoint false ⟨whole, fraction, 0⟩), [])
  | c :: rest =>
      if c = 'e' ∨ c = 'E' then lexExponent negative hasPoint whole fraction rest
      else (.number (Number.ofNumeral? negative hasPoint false ⟨whole, fraction, 0⟩), c :: rest)

/-- A number from behind its point. -/
def lexFraction (negative : Bool) (whole cs : List Char) : Lexeme :=
  let (fraction, rest) := spanDigits cs
  if fraction.isEmpty then lexStop rest else lexEnd negative true whole fraction rest

/-- A number after its digits before the point. -/
def lexPoint (negative : Bool) (whole : List Char) : List Char → Lexeme
  | '.' :: rest => lexFraction negative whole rest
  | rest => lexEnd negative false whole [] rest

/-- A number after its sign. Of several digits the first is not a zero. -/
def lexNumber (negative : Bool) (cs : List Char) : Lexeme :=
  let (whole, rest) := spanDigits cs
  match whole with
  | [] => lexStop rest
  | '0' :: _ :: _ => (.spoilt (.always .malformed), [])
  | _ => lexPoint negative whole rest

/-! All tokens. -/

/-- A fixed word whose first letter was read. -/
def lexWord (token : Token) : List Char → List Char → Lexeme
  | [], rest => (token, rest)
  | _ :: _, [] => (.spoilt (.always .cutShort), [])
  | w :: word, c :: rest =>
      if c = w then lexWord token word rest else (.spoilt (.always .malformed), [])

/-- The token that starts with `c`. -/
def lexToken (c : Char) (rest : List Char) : Lexeme :=
  if c = '\x7b' then (.openBrace, rest)
  else if c = '\x7d' then (.closeBrace, rest)
  else if c = '[' then (.openBracket, rest)
  else if c = ']' then (.closeBracket, rest)
  else if c = ':' then (.colon, rest)
  else if c = ',' then (.comma, rest)
  else if c = '"' then lexString .empty rest
  else if c = '-' then lexNumber true rest
  else if c.isDigit then lexNumber false (c :: rest)
  else if c = 'n' then lexWord .null ['u', 'l', 'l'] rest
  else if c = 't' then lexWord (.bool true) ['r', 'u', 'e'] rest
  else if c = 'f' then lexWord (.bool false) ['a', 'l', 's', 'e'] rest
  else (.spoilt (.always .malformed), [])

/-- The white space between tokens. -/
def isSpace (c : Char) : Bool :=
  c = ' ' || c = '\t' || c = '\n' || c = '\r'

/-! Every token takes up at least its first character, so the rest of the text is shorter. -/

theorem length_lexString_le (content : Content) (cs : List Char) :
    (lexString content cs).2.length ≤ cs.length := by
  fun_induction lexString content cs <;> simp_all <;> omega

private theorem length_dropWhile_le (p : Char → Bool) (cs : List Char) :
    (cs.dropWhile p).length ≤ cs.length :=
  (List.dropWhile_sublist p).length_le

private theorem length_ite_le {p : Prop} [Decidable p] {a b : Lexeme} {n : Nat}
    (ofTrue : p → a.2.length ≤ n) (ofFalse : ¬p → b.2.length ≤ n) :
    (if p then a else b).2.length ≤ n := by
  by_cases holds : p
  · rw [if_pos holds]; exact ofTrue holds
  · rw [if_neg holds]; exact ofFalse holds

private theorem length_takeSign_le (cs : List Char) :
    (takeSign cs).2.length ≤ cs.length := by
  cases cs with
  | nil => simp [takeSign]
  | cons c rest => simp only [takeSign]; split <;> (try split) <;> simp

private theorem length_lexStop_le (cs : List Char) : (lexStop cs).2.length ≤ cs.length := by
  cases cs <;> simp [lexStop]

theorem length_lexExponent_le (negative hasPoint : Bool) (whole fraction cs : List Char) :
    (lexExponent negative hasPoint whole fraction cs).2.length ≤ cs.length := by
  have signLength := length_takeSign_le cs
  have dropLength := length_dropWhile_le Char.isDigit (takeSign cs).2
  have digitsLength := Nat.le_trans dropLength signLength
  exact length_ite_le (fun _ => Nat.le_trans (length_lexStop_le _) digitsLength)
    (fun _ => digitsLength)

theorem length_lexEnd_le (negative hasPoint : Bool) (whole fraction cs : List Char) :
    (lexEnd negative hasPoint whole fraction cs).2.length ≤ cs.length := by
  cases cs with
  | nil => simp [lexEnd]
  | cons c rest =>
      have exponentLength := length_lexExponent_le negative hasPoint whole fraction rest
      simp only [lexEnd]
      split
      · exact Nat.le_succ_of_le exponentLength
      · simp

theorem length_lexFraction_le (negative : Bool) (whole cs : List Char) :
    (lexFraction negative whole cs).2.length ≤ cs.length := by
  have dropLength := length_dropWhile_le Char.isDigit cs
  exact length_ite_le (fun _ => Nat.le_trans (length_lexStop_le _) dropLength)
    (fun _ => Nat.le_trans (length_lexEnd_le _ _ _ _ _) dropLength)

theorem length_lexPoint_le (negative : Bool) (whole cs : List Char) :
    (lexPoint negative whole cs).2.length ≤ cs.length := by
  unfold lexPoint
  split
  · exact Nat.le_succ_of_le (length_lexFraction_le _ _ _)
  · exact length_lexEnd_le _ _ _ _ _

theorem length_lexNumber_le (negative : Bool) (cs : List Char) :
    (lexNumber negative cs).2.length ≤ (cs.dropWhile Char.isDigit).length := by
  simp only [lexNumber, spanDigits]
  split
  · exact length_lexStop_le _
  · simp
  · exact length_lexPoint_le _ _ _

theorem length_lexWord_le (token : Token) (word cs : List Char) :
    (lexWord token word cs).2.length ≤ cs.length := by
  fun_induction lexWord token word cs <;> simp_all
  omega

theorem length_lexToken_le (c : Char) (rest : List Char) :
    (lexToken c rest).2.length ≤ rest.length := by
  unfold lexToken
  iterate 6 refine length_ite_le (fun _ => Nat.le_refl _) (fun _ => ?_)
  refine length_ite_le (fun _ => length_lexString_le _ _) (fun _ => ?_)
  refine length_ite_le (fun _ => ?_) (fun _ => ?_)
  · exact Nat.le_trans (length_lexNumber_le _ _) (length_dropWhile_le _ _)
  refine length_ite_le (fun isDigit => ?_) (fun _ => ?_)
  · refine Nat.le_trans (length_lexNumber_le _ _) ?_
    rw [List.dropWhile_cons, if_pos isDigit]
    exact length_dropWhile_le _ _
  iterate 3 refine length_ite_le (fun _ => length_lexWord_le _ _ _) (fun _ => ?_)
  exact Nat.zero_le _

/-- The tokens of a text, up to the first spoilt one. -/
def tokens : List Char → List Token
  | [] => []
  | c :: rest =>
      if isSpace c then tokens rest
      else (lexToken c rest).1 :: tokens (lexToken c rest).2
termination_by cs => cs.length
decreasing_by
  · simp
  · exact Nat.lt_succ_of_le (length_lexToken_le c rest)

end Candidacy.Json
