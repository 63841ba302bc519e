import Candidacy.Binary64.Shortest
import Candidacy.Json.Document
import Candidacy.Text.Quoted

/-!
Decoding documents into values and records. A document is read from its front, and the first problem
met is the one reported: a fault of the text, or a content that does not fit.
-/

namespace Candidacy.Json

/-- What stands where something else was expected. -/
inductive Found
  | null
  | bool (b : Bool)
  | int (n : Int)
  | double (x : Binary64)
  | string (s : String)
  | array
  | object
deriving DecidableEq

def Found.text : Found → String
  | .null => "null"
  | .bool true => "boolean `true`"
  | .bool false => "boolean `false`"
  | .int n => "integer `" ++ toString n ++ "`"
  | .double x => "floating point `" ++ String.ofList x.text ++ "`"
  | .string s => "string " ++ Text.quote s
  | .array => "sequence"
  | .object => "map"

/-- Why a well-formed document does not fit. -/
inductive Mismatch
  | wrongType (found : Found) (wanted : String)
  | missingField (name : String)
  | duplicateField (name : String)
  | wrongLength (length : Nat) (wanted : String)
  | unknownVariant (name : String) (known : List String)
  | notAnInstant
deriving DecidableEq

def ticked (s : String) : String :=
  "`" ++ s ++ "`"

def Mismatch.message : Mismatch → String
  | .wrongType found wanted => "invalid type: " ++ found.text ++ ", expected " ++ wanted
  | .missingField name => "missing field " ++ ticked name
  | .duplicateField name => "duplicate field " ++ ticked name
  | .wrongLength length wanted =>
      "invalid length " ++ toString length ++ ", expected " ++ wanted
  | .unknownVariant name known =>
      "unknown variant " ++ ticked name ++ ", expected one of " ++
        ", ".intercalate (known.map ticked)
  | .notAnInstant => "input contains invalid characters"

inductive Problem
  | fault (fault : Fault)
  | mismatch (reason : Mismatch)
deriving DecidableEq

def Problem.message : Problem → String
  | .fault .malformed => "malformed document"
  | .fault .cutShort => "the document ends too soon"
  | .mismatch reason => reason.message

/-- Where a document comes from. Text has room for so many arrays and objects inside one another;
a value that was parsed before has no such limit. -/
inductive Source
  | text (room : Nat)
  | value
deriving DecidableEq

/-- The depth to which arrays and objects in a text may be nested. -/
def Source.newText : Source := .text 127

/-- Goes into an array or object. -/
def Source.enter : Source → Except Problem Source
  | .text 0 => .error (.fault .malformed)
  | .text (room + 1) => .ok (.text room)
  | .value => .ok .value

namespace Document

/-- The problem with a document that is not of the kind wanted. Its content, unless it has entries,
is read first. -/
def mismatch (wanted : String) : Document → Problem
  | .null => .mismatch (.wrongType .null wanted)
  | .bool b => .mismatch (.wrongType (.bool b) wanted)
  | .number (some (.int n)) => .mismatch (.wrongType (.int n) wanted)
  | .number (some (.double x)) => .mismatch (.wrongType (.double x) wanted)
  | .number none => .fault .malformed
  | .string (some s) => .mismatch (.wrongType (.string s) wanted)
  | .string none => .fault .malformed
  | .array _ _ => .mismatch (.wrongType .array wanted)
  | .object _ _ => .mismatch (.wrongType .object wanted)
  | .spoilt s => .fault s.wanted

def readEnding : Ending → Except Problem Unit
  | .closed => .ok ()
  | .spoilt s => .error (.fault s.wanted)

def readStringAs (wanted : String) : Document → Except Problem String
  | .string (some s) => .ok s
  | d => .error (d.mismatch wanted)

def readString : Document → Except Problem String :=
  readStringAs "a string"

def readBool : Document → Except Problem Bool
  | .bool b => .ok b
  | d => .error (d.mismatch "a boolean")

def readDouble : Document → Except Problem Binary64
  | .number (some n) => .ok n.toDouble
  | d => .error (d.mismatch "f64")

def readUnit : Document → Except Problem Unit
  | .null => .ok ()
  | d => .error (d.mismatch "unit")

/-- A value that may be left out by writing `null`. -/
def readOptional (read : Document → Except Problem α) : Document → Except Problem (Option α)
  | .null => .ok none
  | d => (read d).map some

def readEach (read : Document → Except Problem α) : List Document → Except Problem (List α)
  | [] => .ok []
  | d :: rest => do
      let a ← read d
      let others ← readEach read rest
      return a :: others

/-- An array whose items are all of one kind. -/
def readList (source : Source) (read : Source → Document → Except Problem α) :
    Document → Except Problem (List α)
  | .array items ending => do
      let inner ← source.enter
      let found ← readEach (read inner) items
      readEnding ending
      return found
  | d => .error (d.mismatch "a sequence")

/-! Any value. -/

mutual
def readValue (source : Source) : Document → Except Problem Value
  | .null => .ok .null
  | .bool b => .ok (.bool b)
  | .number (some n) => .ok (.number n)
  | .number none => .error (.fault .malformed)
  | .string (some s) => .ok (.string s)
  | .string none => .error (.fault .malformed)
  | .array items ending => do
      let inner ← source.enter
      let found ← readItems inner items
      readEnding ending
      return .array found
  | .object members ending => do
      let inner ← source.enter
      let found ← readMembers inner members
      readEnding ending
      return .object (Keyed.ofList found)
  | .spoilt s => .error (.fault s.wanted)

def readItems (source : Source) : List Document → Except Problem (List Value)
  | [] => .ok []
  | d :: rest => do
      let v ← readValue source d
      let others ← readItems source rest
      return v :: others

def readMembers (source : Source) :
    List (Option String × Document) → Except Problem (List (String × Value))
  | [] => .ok []
  | (none, _) :: _ => .error (.fault .malformed)
  | (some k, d) :: rest => do
      let v ← readValue source d
      let others ← readMembers source rest
      return (k, v) :: others
end

/-- An object of any values, sorted by key. -/
def readObject (source : Source) : Document → Except Problem Members
  | .object members ending => do
      let inner ← source.enter
      let found ← readMembers inner members
      readEnding ending
      return Keyed.ofList found
  | d => .error (d.mismatch "a map")

end Document

/-! Records. A record is written as an object, in any order and among other members, or as an array
of its fields. -/

/-- A field of a record under construction. -/
structure Field (σ : Type) where
  name : String
  /-- An array may end before this field. -/
  optional : Bool
  seen : σ → Bool
  store : Source → Document → σ → Except Problem σ

/-- A field that keeps what was read in a place of its own. -/
def Field.slot (name : String) (optional : Bool) (get : σ → Option α) (set : σ → α → σ)
    (read : Source → Document → Except Problem α) : Field σ where
  name := name
  optional := optional
  seen record := (get record).isSome
  store source d record := (read source d).map (set record)

structure Record (σ α : Type) where
  name : String
  fields : List (Field σ)
  empty : σ
  /-- The record, once no further member follows. -/
  finish : σ → Except Problem α

namespace Record

/-- Unknown members are skipped; a field that was seen before is refused before its value is
read. -/
def readMembers (fields : List (Field σ)) (source : Source) (ending : Ending) :
    List (Option String × Document) → σ → Except Problem σ
  | [], record => do
      Document.readEnding ending
      return record
  | (none, _) :: _, _ => .error (.fault .malformed)
  | (some key, d) :: rest, record =>
      match fields.find? (·.name = key) with
      | none =>
          match d.skip with
          | some fault => .error (.fault fault)
          | none => readMembers fields source ending rest record
      | some field =>
          if field.seen record then .error (.mismatch (.duplicateField key))
          else do
            let record ← field.store source d record
            readMembers fields source ending rest record

/-- Items beyond the last field. -/
def readSurplus (source : Source) (length : Nat) (ending : Ending) :
    List Document → Except Problem Unit
  | [] => Document.readEnding ending
  | _ :: _ =>
      match source with
      | .text _ => .error (.fault .malformed)
      | .value => .error (.mismatch (.wrongLength length "fewer elements in array"))

/-- Fields in their order, from the one at `index`. -/
def readItems (wanted : String) (source : Source) (ending : Ending) (length : Nat) :
    Nat → List (Field σ) → List Document → σ → Except Problem σ
  | _, [], items, record => do
      readSurplus source length ending items
      return record
  | index, field :: fields, [], record => do
      Document.readEnding ending
      if field.optional then readItems wanted source ending length (index + 1) fields [] record
      else .error (.mismatch (.wrongLength index wanted))
  | index, field :: fields, d :: items, record => do
      let record ← field.store source d record
      readItems wanted source ending length (index + 1) fields items record

def title (r : Record σ α) : String :=
  "struct " ++ r.name

def read (r : Record σ α) (source : Source) : Document → Except Problem α
  | .object members ending => do
      let inner ← source.enter
      let record ← readMembers r.fields inner ending members r.empty
      r.finish record
  | .array items ending => do
      let inner ← source.enter
      let wanted := r.title ++ " with " ++ toString r.fields.length ++ " elements"
      let record ← readItems wanted inner ending items.length 0 r.fields items r.empty
      r.finish record
  | d => .error (d.mismatch r.title)

/-- A field that has to be there. -/
def require (name : String) : Option α → Except Problem α
  | some a => .ok a
  | none => .error (.mismatch (.missingField name))

end Record

/-! Whole texts. -/

/-- Decodes a text that holds one document and nothing else. -/
def decodeText (read : Source → Document → Except Problem α) (text : String) :
    Except Problem α := do
  let (d, rest) := Document.ofTokens (tokens text.toList)
  let a ← read .newText d
  match rest with
  | [] => return a
  | _ :: _ => .error (.fault .malformed)

/-- Decodes a value that was parsed before. -/
def decodeValue (read : Source → Document → Except Problem α) (v : Value) : Except Problem α :=
  read .value (Document.ofValue v)

/-- The value that a text holds. -/
def Value.ofText (text : String) : Except Problem Value :=
  decodeText (fun source d => d.readValue source) text

end Candidacy.Json
