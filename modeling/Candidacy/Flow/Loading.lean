import Candidacy.Draft.Json
import Candidacy.Text.Utf8

/-!
Loading flows from documents and files.
-/

namespace Candidacy

open Json (Problem Value)

/-- Why a file cannot be read as text. -/
inductive FileError
  | notFound
  | denied
  | notDirectory
  | isDirectory
  | nameTooLong
  | nulInName
  | notUtf8
deriving DecidableEq

/-- The system's number for an error. Errors found before or after it is asked have none. -/
def FileError.code? : FileError → Option Nat
  | .notFound => some 2
  | .denied => some 13
  | .notDirectory => some 20
  | .isDirectory => some 21
  | .nameTooLong => some 36
  | .nulInName | .notUtf8 => none

def FileError.description : FileError → String
  | .notFound => "No such file or directory"
  | .denied => "Permission denied"
  | .notDirectory => "Not a directory"
  | .isDirectory => "Is a directory"
  | .nameTooLong => "File name too long"
  | .nulInName => "file name contained an unexpected NUL byte"
  | .notUtf8 => "stream did not contain valid UTF-8"

def FileError.message (error : FileError) : String :=
  match error.code? with
  | some code => error.description ++ " (os error " ++ toString code ++ ")"
  | none => error.description

/-- Why no flow could be loaded. -/
inductive LoadError
  | draft (error : Draft.Error)
  | file (error : FileError)
  | format (problem : Problem)
deriving DecidableEq

def LoadError.message : LoadError → String
  | .draft error => "Error de configuración: " ++ error.message
  | .file error => "Error de lectura: " ++ error.message
  | .format problem => "Error de formato: " ++ problem.message

/-- The contents of the files a program can see. -/
abbrev Files := String → Except FileError (List UInt8)

namespace Flow

def ofDraft (draft : Draft.Flow) : Except LoadError Flow :=
  draft.compile.mapError .draft

/-- The flow whose draft a text holds. -/
def ofText (text : String) : Except LoadError Flow := do
  let draft ← (Json.decodeText Draft.Flow.read text).mapError .format
  ofDraft draft

/-- The flow whose draft was parsed before. -/
def ofValue (v : Value) : Except LoadError Flow := do
  let draft ← (Json.decodeValue Draft.Flow.read v).mapError .format
  ofDraft draft

/-- The flow whose draft a file holds. -/
def ofFile (files : Files) (path : String) : Except LoadError Flow := do
  let bytes ← (files path).mapError .file
  match Text.Utf8.decode? bytes with
  | some text => ofText text
  | none => .error (.file .notUtf8)

end Flow

end Candidacy
