import Candidacy.Menu.Dialogue
import Candidacy.Settings
import Candidacy.Settings.EnvFile
import Std.Time.DateTime.Timestamp

/-!
The program: settings from the environment, one flow, and the menu on standard input and output.
-/

namespace Candidacy.Program

/-- The present. -/
def now : IO Instant := do
  let present ← Std.Time.Timestamp.now
  let nanos := present.toNanosecondsSinceUnixEpoch.val
  return ⟨nanos / 1000000000, (nanos % 1000000000).toNat⟩

/-- The system's number for an error, which may come with either sign. -/
def codeOf (error : IO.Error) : Nat :=
  let code : UInt32 := match error with
    | .noFileOrDirectory _ code _ | .permissionDenied _ code _ => code
    | .inappropriateType _ code _ | .invalidArgument _ code _ => code
    | .resourceExhausted _ code _ => code
    | _ => 0
  code.toInt32.toInt.natAbs

/-- The contents of a file, as far as the program tells its errors apart. -/
def readFile (path : String) : IO (Except FileError (List UInt8)) := do
  if path.toList.contains '\x00' then return .error .nulInName
  try
    let bytes ← IO.FS.readBinFile path
    return .ok bytes.toList
  catch e =>
    let known : List FileError := [.notFound, .denied, .notDirectory, .isDirectory, .nameTooLong]
    match known.find? fun error => error.code? == some (codeOf e) with
    | some error => return .error error
    | none => throw e

/-- The readable lines of the nearest settings file, in this directory or one above it. -/
partial def settingsFile : IO (Option String) := do
  let rec search (directory : String) : IO (Option String) := do
    match ← readFile (directory ++ "/.env") with
    | .ok bytes => return some (String.join (Menu.readable (Menu.inputLines bytes)))
    | .error _ =>
        match (directory.splitOn "/").dropLast with
        | [] => return none
        | parents => search ("/".intercalate parents)
  search (← IO.currentDir).toString

/-- The environment of the program, with the settings file added. -/
def environment : IO (String → Variable) := do
  let text ← settingsFile
  let mentioned := (text.map fun text => EnvFile.mentioned text.toList).getD []
  let names := [Settings.flowPathVariable, Settings.logFilterVariable] ++ mentioned
  let values ← names.mapM fun name => return (name, ← IO.getEnv name)
  let given : EnvFile.Environment := fun name => (values.lookup name).join
  let full := match text with
    | some text => EnvFile.load given text
    | none => given
  return fun name => match full name with
    | some value => .text value
    | none => .absent

/-- The bytes of one line of input, with its line end. At the end of the input there are none. -/
partial def readBytes (input : IO.FS.Stream) (before : List UInt8) : IO (List UInt8) := do
  match (← input.read 1).toList with
  | [] => return before.reverse
  | b :: _ => if b = 10 then return (b :: before).reverse else readBytes input (b :: before)

/-- One line of input; `none` if it is not text. -/
def readLine : IO (Option String) := do
  return Text.Utf8.decode? (← readBytes (← IO.getStdin) [])

def write (output : Menu.Output) : IO Unit := do
  IO.print output.out
  (← IO.getStdout).flush
  IO.eprint output.err

def console : Menu.Console IO where
  readLine
  write
  now

/-- The rounds of the menu, until one is the last. -/
partial def serve (desk : Desk Roster) : IO UInt32 := do
  let (turn, desk) ← Menu.serveRound console desk
  if turn.isLast then return (if turn.request.isSome then 0 else 1) else serve desk

/-- Reports why the program cannot start. -/
def fail (error : SettingsError) : IO UInt32 := do
  IO.eprintln ("Error: " ++ error.inspect)
  return 1

end Candidacy.Program

open Candidacy in
def main : IO UInt32 := do
  match Settings.ofLookup (← Program.environment) with
  | .error error => Program.fail error
  | .ok settings =>
      let contents ← match settings.flowPath with
        | some path => Program.readFile path
        | none => pure (.error .notFound)
      match settings.loadFlow fun _ => contents with
      | .error error => Program.fail (.flow error)
      | .ok flow => Program.serve (.inMemory flow)
