import Candidacy.Json.Token

/-!
A JSON document as it was written, up to its first fault: members in their order with their
repetitions, and the fault at the place where it was met. Reading a document from the front thus
meets its faults and its contents in the order of the text.
-/

namespace Candidacy.Json

/-- How the entries of an array or object end. -/
inductive Ending
  | closed
  | spoilt (spoilt : Spoilt)
deriving DecidableEq

inductive Document
  | null
  | bool (b : Bool)
  | number (value : Option Number)
  | string (content : Option String)
  | array (items : List Document) (ending : Ending)
  | object (members : List (Option String × Document)) (ending : Ending)
  | spoilt (spoilt : Spoilt)

namespace Document

/-- An array or object around the place of reading, with the entries before that place, the last one
first. -/
inductive Frame
  | items (before : List Document)
  | members (before : List (Option String × Document)) (key : Option String)

/-- What has to come next. The frames hold what stands around it. -/
inductive Want
  /-- A value, or the end of an array that has no items yet. -/
  | value (mayClose : Bool)
  /-- A key, or the end of an object that has no members yet. -/
  | key (before : List (Option String × Document)) (mayClose : Bool)
  | colon (before : List (Option String × Document)) (key : Option String)
  /-- A comma or the end of the array. -/
  | afterItem (before : List Document)
  /-- A comma or the end of the object. -/
  | afterMember (before : List (Option String × Document))

/-- Closes the frames around a document that ends in a fault. -/
def abandon (spoilt : Spoilt) : List Frame → Document → Document
  | [], d => d
  | .items before :: outer, d =>
      abandon spoilt outer (.array (d :: before).reverse (.spoilt spoilt))
  | .members before key :: outer, d =>
      abandon spoilt outer (.object ((key, d) :: before).reverse (.spoilt spoilt))

/-- The document read so far, with a fault where something else was wanted. -/
def Want.fail (outer : List Frame) (spoilt : Spoilt) : Want → Document
  | .value _ => abandon spoilt outer (.spoilt spoilt)
  | .key before _ => abandon spoilt outer (.object before.reverse (.spoilt spoilt))
  | .colon before name =>
      abandon spoilt outer (.object ((name, .spoilt spoilt) :: before).reverse (.spoilt spoilt))
  | .afterItem before => abandon spoilt outer (.array before.reverse (.spoilt spoilt))
  | .afterMember before => abandon spoilt outer (.object before.reverse (.spoilt spoilt))

/-- Reading goes on in a new place, or has come to the end of the document. -/
inductive Progress
  | going (outer : List Frame) (want : Want)
  | finished (d : Document)

/-- Puts a complete value in its frame. -/
def place (d : Document) : List Frame → Progress
  | [] => .finished d
  | .items before :: outer => .going outer (.afterItem (d :: before))
  | .members before key :: outer => .going outer (.afterMember ((key, d) :: before))

/-- One token further. -/
def advance (outer : List Frame) (want : Want) (token : Token) : Progress :=
  match want, token with
  | .value _, .null => place .null outer
  | .value _, .bool b => place (.bool b) outer
  | .value _, .number n => place (.number n) outer
  | .value _, .string s => place (.string s) outer
  | .value _, .openBracket => .going (.items [] :: outer) (.value true)
  | .value _, .openBrace => .going outer (.key [] true)
  | .value true, .closeBracket =>
      match outer with
      | .items before :: outer => place (.array before.reverse .closed) outer
      | _ => .finished (want.fail outer (.always .malformed))
  | .value _, .spoiltString s => .finished (want.fail outer s)
  | .value _, .spoilt s => .finished (want.fail outer s)
  | .key before _, .string s => .going outer (.colon before s)
  | .key _ _, .spoiltString s => .finished (want.fail outer s)
  | .key before true, .closeBrace => place (.object before.reverse .closed) outer
  | .colon before key, .colon => .going (.members before key :: outer) (.value false)
  | .afterItem before, .comma => .going (.items before :: outer) (.value false)
  | .afterItem before, .closeBracket => place (.array before.reverse .closed) outer
  | .afterMember before, .comma => .going outer (.key before false)
  | .afterMember before, .closeBrace => place (.object before.reverse .closed) outer
  | _, _ => .finished (want.fail outer (.always .malformed))

/-- Reads one value; the tokens behind it are left. -/
def readOn (outer : List Frame) (want : Want) : List Token → Document × List Token
  | [] => (want.fail outer (.always .cutShort), [])
  | token :: rest =>
      match advance outer want token with
      | .going outer want => readOn outer want rest
      | .finished d => (d, rest)

/-- The document that the tokens start with. -/
def ofTokens (ts : List Token) : Document × List Token :=
  readOn [] (.value false) ts

/-! A parsed value is a document without faults. -/

mutual
def ofValue : Value → Document
  | .null => .null
  | .bool b => .bool b
  | .number n => .number (some n)
  | .string s => .string (some s)
  | .array items => .array (ofItems items) .closed
  | .object members => .object (ofMembers members) .closed

def ofItems : List Value → List Document
  | [] => []
  | v :: rest => ofValue v :: ofItems rest

def ofMembers : List (String × Value) → List (Option String × Document)
  | [] => []
  | (k, v) :: rest => (some k, ofValue v) :: ofMembers rest
end

/-! Skipping. A value that nobody wants is only checked for its grammar. -/

def endingFault : Ending → Option Fault
  | .closed => none
  | .spoilt s => some s.skipped

mutual
/-- The first fault that a reader meets who skips the document. -/
def skip : Document → Option Fault
  | .null | .bool _ | .number _ | .string _ => none
  | .array items ending => (skipItems items).or (endingFault ending)
  | .object members ending => (skipMembers members).or (endingFault ending)
  | .spoilt s => some s.skipped

def skipItems : List Document → Option Fault
  | [] => none
  | d :: rest => d.skip.or (skipItems rest)

def skipMembers : List (Option String × Document) → Option Fault
  | [] => none
  | (_, d) :: rest => d.skip.or (skipMembers rest)
end

end Document

end Candidacy.Json
