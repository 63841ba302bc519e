import Candidacy.Text.Alphanumeric
import Candidacy.Text.Blank

/-!
Files of settings: lines of the form `NAME=value`. Values may be quoted, over several lines too, and
may take up settings made before. The first line that cannot be read ends the file.
-/

namespace Candidacy.EnvFile

open Text (isBlank trimStart trimEnd)

/-! Lines. A line goes on in the next one while a quote is open. -/

inductive Quoting
  | plain
  | afterBlank
  | escaped
  | strong
  | strongEscaped
  | weak
  | weakEscaped
deriving DecidableEq

/-- A quote, a backslash or something else, outside quotes. -/
def Quoting.start (c : Char) : Quoting :=
  if c = '\\' then .escaped
  else if c = '"' then .weak
  else if c = '\'' then .strong
  else .plain

def Quoting.next (quoting : Quoting) (c : Char) : Quoting :=
  match quoting with
  | .plain => if isBlank c ∧ c ≠ '\n' ∧ c ≠ '\r' then .afterBlank else .start c
  | .afterBlank => .start c
  | .escaped => .plain
  | .strong => if c = '\\' then .strongEscaped else if c = '\'' then .plain else .strong
  | .strongEscaped => .strong
  | .weak => if c = '\\' then .weakEscaped else if c = '"' then .plain else .weak
  | .weakEscaped => .weak

/-- The line up to a comment, and the quoting at its end if there is none. -/
def beforeComment : Quoting → List Char → List Char × Option Quoting
  | quoting, [] => ([], some quoting)
  | quoting, c :: rest =>
      if quoting = .afterBlank ∧ c = '#' then ([], none)
      else
        let (kept, ending) := beforeComment (quoting.next c) rest
        (c :: kept, ending)

/-- Lines with their line ends. -/
def splitLines : List Char → List (List Char)
  | [] => []
  | c :: rest =>
      if c = '\n' then [c] :: splitLines rest
      else
        match splitLines rest with
        | [] => [[c]]
        | line :: lines => (c :: line) :: lines

def withoutLineEnd (line : List Char) : List Char :=
  match line.reverse with
  | '\n' :: '\r' :: rest => rest.reverse
  | '\n' :: rest => rest.reverse
  | _ => line

/-- Whole entries; `none` is one that is still open at the end of the file. -/
def joinLines (open_ : List Char) (quoting : Quoting) :
    List (List Char) → List (Option (List Char))
  | [] => if quoting = .plain then [] else [none]
  | line :: rest =>
      if (trimStart (open_ ++ line)).head? = some '#' then joinLines [] .plain rest
      else
        match beforeComment quoting line with
        | (kept, none) => some (open_ ++ kept) :: joinLines [] .plain rest
        | (_, some .plain) => some (withoutLineEnd (open_ ++ line)) :: joinLines [] .plain rest
        | (_, some quoting) => joinLines (open_ ++ line) quoting rest

/-! Values. -/

/-- Settings that a value can take up. -/
abbrev Environment := String → Option String

/-- Where the reading of a value is. -/
inductive Mode
  | plain
  | escaped
  | strong
  /-- A name behind a dollar sign, the last character first. -/
  | name (reversed : List Char)
  /-- The same in braces. -/
  | braced (reversed : List Char)
  | ended
deriving DecidableEq

structure Reading where
  reversed : List Char
  weak : Bool
  mode : Mode

def Reading.push (reading : Reading) (c : Char) : Reading :=
  { reading with reversed := c :: reading.reversed }

/-- What is set under a name. Settings are kept as texts of the form `NAME=value`, so a name with an
equals sign in it also finds the end of a value: `A=b` stands for `c` if `A` is set to `b=c`. -/
def find (environment : Environment) (name : List Char) : Option (List Char) := do
  let value ← environment (String.ofList (name.takeWhile (· ≠ '=')))
  match name.dropWhile (· ≠ '=') with
  | [] => return value.toList
  | _ :: start => (start ++ ['=']).isPrefixOf? value.toList

/-- Puts in what is set under a name; nothing if nothing is. -/
def Reading.take (environment : Environment) (reading : Reading) (name : List Char) : Reading :=
  let value := (find environment name.reverse).getD []
  { reading with reversed := value.reverse ++ reading.reversed }

def escapedChar? (c : Char) : Option Char :=
  if c = '\\' ∨ c = '\'' ∨ c = '"' ∨ c = '$' ∨ c = ' ' then some c
  else if c = 'n' then some '\n'
  else none

/-- A character outside of names, escapes and strong quotes. -/
def Reading.plainChar (reading : Reading) (c : Char) : Reading :=
  if c = '$' then { reading with mode := .name [] }
  else if c = '\\' then { reading with mode := .escaped }
  else if reading.weak then
    if c = '"' then { reading with weak := false } else reading.push c
  else if c = '\'' then { reading with mode := .strong }
  else if c = '"' then { reading with weak := true }
  else if c = ' ' ∨ c = '\t' then { reading with mode := .ended }
  else reading.push c

/-- One character further; `none` is a fault. -/
def Reading.next (environment : Environment) (reading : Reading) (c : Char) : Option Reading :=
  match reading.mode with
  | .plain => some (reading.plainChar c)
  | .escaped => (escapedChar? c).map fun e => { reading.push e with mode := .plain }
  | .strong => some (if c = '\'' then { reading with mode := .plain } else reading.push c)
  | .name reversed =>
      if Text.isAlphanumeric c then some { reading with mode := .name (c :: reversed) }
      else if c = '\x7b' ∧ reversed = [] then some { reading with mode := .braced [] }
      else
        let taken := reading.take environment reversed
        some (if c = '$' then { taken with mode := .name [] }
          else { taken.push c with mode := .plain })
  | .braced reversed =>
      if c = '\x7d' then some { reading.take environment reversed with mode := .plain }
      else some { reading with mode := .braced (c :: reversed) }
  | .ended => if c = ' ' ∨ c = '\t' then some reading else none

/-- The value at the end of its line. -/
def Reading.finish (environment : Environment) (reading : Reading) : Option String :=
  let done (reading : Reading) := some (String.ofList reading.reversed.reverse)
  match reading.mode with
  | .strong => none
  | .braced _ => none
  | .name reversed => if reading.weak then none else done (reading.take environment reversed)
  | _ => if reading.weak then none else done reading

/-- Reads a value up to its end or a comment. -/
def readValue (environment : Environment) (reading : Reading) : List Char → Option String
  | [] => reading.finish environment
  | c :: rest =>
      if reading.mode = .ended ∧ c = '#' then reading.finish environment
      else
        match reading.next environment c with
        | some reading => readValue environment reading rest
        | none => none

/-! Entries. -/

def isNameStart (c : Char) : Bool :=
  c.isAlpha || c == '_'

def isNamePart (c : Char) : Bool :=
  c.isAlphanum || c == '_' || c == '.'

/-- A name and what follows it, without the white space between. -/
def takeName (cs : List Char) : Option (String × List Char) :=
  match cs with
  | [] => none
  | c :: _ =>
      if isNameStart c then
        some (String.ofList (cs.takeWhile isNamePart), trimStart (cs.dropWhile isNamePart))
      else none

/-- A name, perhaps behind the word `export`, and what follows the equals sign. -/
def takeAssigned (cs : List Char) : Option (String × List Char) :=
  match takeName cs with
  | some (name, '=' :: rest) => some (name, rest)
  | some ("export", rest) =>
      match takeName rest with
      | some (name, '=' :: rest) => some (name, rest)
      | _ => none
  | _ => none

/-- The setting in an entry: nothing in an empty line or comment, and `none` for a fault. -/
def readEntry (environment : Environment) (entry : List Char) :
    Option (Option (String × String)) :=
  match trimStart (trimEnd entry) with
  | [] => some none
  | '#' :: _ => some none
  | cs =>
      match takeAssigned cs with
      | none => none
      | some (name, rest) =>
          match trimStart rest with
          | [] => some (some (name, ""))
          | '#' :: _ => some (some (name, ""))
          | value =>
              (readValue environment ⟨[], false, .plain⟩ value).map fun value => some (name, value)

/-- Every setting whose value a text may take up behind a dollar sign. -/
def mentioned : List Char → List String
  | [] => []
  | '$' :: '\x7b' :: rest =>
      String.ofList (rest.takeWhile fun c => c ≠ '\x7d' ∧ c ≠ '=') :: mentioned rest
  | '$' :: rest => String.ofList (rest.takeWhile Text.isAlphanumeric) :: mentioned rest
  | _ :: rest => mentioned rest

/-- What was set before stays as it is. -/
def set (environment : Environment) (name value : String) : Environment := fun other =>
  match environment other with
  | some value => some value
  | none => if other = name then some value else none

def readEntries (environment : Environment) : List (Option (List Char)) → Environment
  | [] => environment
  | none :: _ => environment
  | some entry :: rest =>
      match readEntry environment entry with
      | some (some (name, value)) => readEntries (set environment name value) rest
      | some none => readEntries environment rest
      | none => environment

/-- The environment with the settings of a file added. -/
def load (environment : Environment) (text : String) : Environment :=
  let cs := match text.toList with
    | '\uFEFF' :: rest => rest
    | cs => cs
  readEntries environment (joinLines [] .plain (splitLines cs))

end Candidacy.EnvFile
