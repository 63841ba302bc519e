import Candidacy.Flow.Standard

/-!
The settings of the program, and the flow they name.
-/

namespace Candidacy

/-- A variable of the environment. Its value need not be text. -/
inductive Variable
  | absent
  | text (value : String)
  | bytes (value : List UInt8)
deriving DecidableEq

structure Settings where
  /-- A file with another flow than the standard one. -/
  flowPath : Option String
  logFilter : String
deriving DecidableEq

inductive SettingsError
  | notText (variable_ : String) (value : List UInt8)
  | flow (error : LoadError)
deriving DecidableEq

namespace Settings

def flowPathVariable : String := "ADMISSIONS_FLOW_PATH"

def logFilterVariable : String := "RUST_LOG"

/-- A byte that is part of no character, in capital hexadecimal digits. -/
def byteText (b : UInt8) : List Char :=
  ['\\', 'x'] ++ [Nat.digitChar (b.toNat / 16), Nat.digitChar (b.toNat % 16)].map Char.toUpper

/-- Bytes between double quotes for a reader to look at. -/
def quoteBytes (bytes : List UInt8) : String :=
  let piece : Char ⊕ UInt8 → List Char
    | .inl c => Text.quoteChar c
    | .inr b => byteText b
  String.ofList ('"' :: (Text.Utf8.pieces bytes.length bytes).flatMap piece ++ ['"'])

/-- A variable that is absent or blank leaves its default. -/
def read (lookup : String → Variable) (name : String) : Except SettingsError (Option String) :=
  match lookup name with
  | .absent => .ok none
  | .text value => .ok (if Text.isBlankText value then none else some (Text.trim value))
  | .bytes value => .error (.notText name value)

def ofLookup (lookup : String → Variable) : Except SettingsError Settings := do
  let flowPath ← read lookup flowPathVariable
  let logFilter ← read lookup logFilterVariable
  return ⟨flowPath, logFilter.getD "info"⟩

/-- The flow that the settings name. -/
def loadFlow (settings : Settings) (files : Files) : Except LoadError Flow :=
  match settings.flowPath with
  | some path => Flow.ofFile files path
  | none => Flow.standard

end Settings

namespace SettingsError

def message : SettingsError → String
  | .notText name value =>
      "Variable de entorno inválida " ++ name ++ ": environment variable was not valid unicode: " ++
        Settings.quoteBytes value
  | .flow error => "No se pudo cargar el flujo: " ++ error.message

/-- The kind of a file error, for a programmer. -/
def fileKind : FileError → String
  | .notFound => "NotFound"
  | .denied => "PermissionDenied"
  | .notDirectory => "NotADirectory"
  | .isDirectory => "IsADirectory"
  | .nameTooLong => "InvalidFilename"
  | .nulInName => "InvalidInput"
  | .notUtf8 => "InvalidData"

/-- A file error in full. -/
def inspectFile (error : FileError) : String :=
  let said := "kind: " ++ fileKind error ++ ", message: " ++ Text.quote error.description
  match error.code? with
  | some code => "Os \x7b code: " ++ toString code ++ ", " ++ said ++ " \x7d"
  | none => "Error \x7b " ++ said ++ " \x7d"

/-- A load error in full. -/
def inspectLoad : LoadError → String
  | .draft error => "Configuration(" ++ Text.quote error.message ++ ")"
  | .file error => "Io(" ++ inspectFile error ++ ")"
  | .format problem => "Parse(Error(" ++ Text.quote problem.message ++ "))"

/-- The error in full, as it is shown when the program cannot start. -/
def inspect : SettingsError → String
  | .notText name value =>
      "EnvVarError(" ++ Text.quote name ++ ", NotUnicode(" ++ Settings.quoteBytes value ++ "))"
  | .flow error => "Flow(" ++ inspectLoad error ++ ")"

end SettingsError

end Candidacy
