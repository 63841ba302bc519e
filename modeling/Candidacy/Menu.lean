import Candidacy.Desk

/-!
The menu: lines of input, the requests they make, and what is shown. The turns of a session are read
off the input alone; carrying them out then answers one request after the other.
-/

namespace Candidacy.Menu

/-! Reading input. -/

/-- An email without the line end behind it, unless it is blank. -/
def readEmail? (line : String) : Option String :=
  let email := String.ofList
    (line.toList.reverse.dropWhile fun c => c == '\n' || c == '\r').reverse
  if Text.isBlankText email then none else some email

/-- A payload written as a JSON object. A blank line is an object without members. -/
def readPayload? (line : String) : Option Payload :=
  let text := Text.trim line
  if text = "" then some []
  else
    match Json.Value.ofText text with
    | .ok (.object members) => some members
    | _ => none

inductive Choice
  | showFlow
  | register
  | list
  | complete
  | progress
  | standing
  | quit
  | unknown (text : String)
deriving DecidableEq

def Choice.ofLine (line : String) : Choice :=
  match Text.trim line with
  | "1" => .showFlow
  | "2" => .register
  | "3" => .list
  | "4" => .complete
  | "5" => .progress
  | "6" => .standing
  | "7" => .quit
  | text => .unknown text

/-- The questions that a choice asks, each answered by one line. -/
def Choice.prompts : Choice → List String
  | .showFlow => ["Id de usuario (enter para ver el flujo completo): "]
  | .register => ["Email: "]
  | .complete => ["Id de usuario: ", "Tarea (id o nombre): ", "Payload (objeto JSON): "]
  | .progress | .standing => ["Id de usuario: "]
  | .list | .quit | .unknown _ => []

inductive Request
  | showFlow
  | showSteps (id : String)
  | register (email : String)
  | blankEmail
  | list
  | complete (id identifier : String) (payload : Payload)
  | badPayload
  | progress (id : String)
  | standing (id : String)
  | unknown (text : String)
  | quit
  | endOfInput

/-- The answer to the question at a place; a missing one is empty. -/
def answer (answers : List String) (index : Nat) : String :=
  answers.getD index ""

/-- The request that a choice makes with the answers to its questions. -/
def Choice.request (choice : Choice) (answers : List String) : Request :=
  let id := Text.trim (answer answers 0)
  match choice with
  | .showFlow => if id = "" then .showFlow else .showSteps id
  | .register =>
      match readEmail? (answer answers 0) with
      | some email => .register email
      | none => .blankEmail
  | .list => .list
  | .complete =>
      match readPayload? (answer answers 2) with
      | some payload => .complete id (Text.trim (answer answers 1)) payload
      | none => .badPayload
  | .progress => .progress id
  | .standing => .standing id
  | .quit => .quit
  | .unknown text => .unknown text

/-- What one round of the menu asks and leads to. Without a request, the last line could not be
read. -/
structure Turn where
  prompts : List String
  request : Option Request

def Request.isLast : Request → Bool
  | .quit | .endOfInput => true
  | _ => false

/-- Nothing comes behind this turn. -/
def Turn.isLast (turn : Turn) : Bool :=
  turn.request.all Request.isLast

/-- The readable answers before the first line that is not text. -/
def readable (lines : List (Option String)) : List String :=
  (lines.takeWhile Option.isSome).filterMap id

/-- The turns that the lines of an input make; `none` is a line that is not text. -/
def turns : List (Option String) → List Turn
  | [] => [⟨[], some .endOfInput⟩]
  | none :: _ => [⟨[], none⟩]
  | some line :: rest =>
      let choice := Choice.ofLine line
      let prompts := choice.prompts
      let answers := rest.take prompts.length
      if answers.all Option.isSome then
        let turn : Turn := ⟨prompts, some (choice.request (answers.filterMap id))⟩
        if choice = .quit then [turn] else turn :: turns (rest.drop prompts.length)
      else [⟨prompts.take ((readable answers).length + 1), none⟩]
termination_by lines => lines.length
decreasing_by
  rw [List.length_drop]
  exact Nat.lt_succ_of_le (Nat.sub_le _ _)

/-! Showing. -/

/-- The two streams that a program writes to. -/
structure Output where
  out : String
  err : String
deriving DecidableEq

def say (text : String) : Output := ⟨text, ""⟩

def complain (text : String) : Output := ⟨"", text ++ "\n"⟩

def banner : String :=
  "\n== Admissions CLI menu ==\n1) Ver flujo\n2) Crear usuario\n3) Ver usuarios\n" ++
    "4) Completar tarea\n5) Ver posición actual y progreso\n6) Ver estado\n7) Salir\n" ++
    "Elige una opción: "

def bracketed (name id : String) : String :=
  name ++ " [" ++ id ++ "]"

def stepHead (index : Nat) (step : Step) : List String :=
  (toString (index + 1) ++ ". " ++ bracketed step.name step.id) ::
    if step.hasImplicitTask then ["   - (tarea implícita)"] else []

def lines (texts : List String) : String :=
  String.join (texts.map (· ++ "\n"))

def showFlow (flow : Flow) : String :=
  let taskLine (task : Task) : String :=
    "   - " ++ bracketed task.name task.id ++ " campos: [" ++
      ", ".intercalate task.requiredFields.names ++ "]" ++
      if task.redoable then "" else " (no rehacible)"
  "\n" ++ lines (bracketed flow.name flow.id ::
    flow.steps.zipIdx.flatMap fun (step, index) =>
      stepHead index step ++ step.tasks.map taskLine)

def showSteps (steps : List VisibleStep) : String :=
  lines (steps.flatMap fun visible =>
    stepHead visible.index visible.step ++
      visible.tasks.map fun task => "   - " ++ bracketed task.name task.id)

/-- A text filled up with blanks. -/
def leftAligned (width : Nat) (text : String) : String :=
  text ++ String.ofList (List.replicate (width - text.length) ' ')

def showApplicants (applicants : List Applicant) : String :=
  "\n" ++ lines (
    "ID     | EMAIL                                  | TAREAS" ::
    "---------------------------------------------------------------" ::
    applicants.map fun applicant =>
      leftAligned 6 applicant.id ++ " | " ++ leftAligned 38 applicant.email ++ " | " ++
        toString applicant.verdicts.size)

def refused (refusal : Refusal) : Output :=
  complain ("Error: " ++ refusal.publicMessage)

/-- The text of a result, or the refusal. -/
def shown (result : Except Refusal α) (text : α → String) : Output :=
  match result with
  | .ok a => say (text a)
  | .error refusal => refused refusal

/-! Carrying out. -/

variable {σ : Type} [Registry σ]

/-- Answers one request. Only registrations and submissions change the desk. -/
def perform (now : Instant) (desk : Desk σ) : Request → Output × Desk σ
  | .showFlow => (say (showFlow desk.flow), desk)
  | .showSteps id => (shown (desk.visibleSteps id) showSteps, desk)
  | .register email =>
      match desk.register email with
      | .ok (applicant, desk) =>
          (say ("Usuario creado: " ++ applicant.id ++ " (" ++ applicant.email ++ ")\n"), desk)
      | .error refusal => (refused refusal, desk)
  | .blankEmail => (complain "Email inválido: no puede estar vacío", desk)
  | .list => (shown desk.applicants showApplicants, desk)
  | .complete id identifier payload =>
      let (result, desk) := desk.complete id identifier payload now
      (shown result fun receipt => receipt.toJson.indented ++ "\n", desk)
  | .badPayload => (complain "Payload inválido: se esperaba un objeto JSON", desk)
  | .progress id =>
      (shown (desk.progress id) fun progress => progress.toJson.indented ++ "\n", desk)
  | .standing id =>
      (shown (desk.standing id) fun standing => "Estado: " ++ standing.text ++ "\n", desk)
  | .unknown text => (say ("Opción inválida: " ++ text ++ "\n"), desk)
  | .quit => (say "Saliendo...\n", desk)
  | .endOfInput => (say "", desk)

def unreadableMessage : String :=
  "Error: Error \x7b kind: InvalidData, message: \"stream did not contain valid UTF-8\" \x7d"

/-- What is said to a turn, and the desk behind it. -/
def Turn.reply (now : Instant) (desk : Desk σ) (turn : Turn) : Output × Desk σ :=
  match turn.request with
  | some request => perform now desk request
  | none => (complain unreadableMessage, desk)

/-- A session so far. -/
structure Session (σ : Type) where
  desk : Desk σ
  output : Output
  /-- All input was text. -/
  intact : Bool

/-- One turn more, at an instant of its own. -/
def Session.take (session : Session σ) (turn : Turn) (now : Instant) : Session σ :=
  let asked := banner ++ String.join turn.prompts
  let (reply, desk) := turn.reply now session.desk
  { desk
    output := ⟨session.output.out ++ asked ++ reply.out, session.output.err ++ reply.err⟩
    intact := session.intact && turn.request.isSome }

/-- A whole session. The clock gives the instant of each turn. -/
def run (clock : Nat → Instant) (desk : Desk σ) (input : List (Option String)) : Session σ :=
  (turns input).zipIdx.foldl (fun session (turn, index) => session.take turn (clock index))
    ⟨desk, ⟨"", ""⟩, true⟩

/-! Lines of bytes. -/

/-- Lines with their line ends. -/
def splitLines : List UInt8 → List (List UInt8)
  | [] => []
  | b :: rest =>
      if b = 10 then [b] :: splitLines rest
      else
        match splitLines rest with
        | [] => [[b]]
        | line :: others => (b :: line) :: others

/-- The lines of an input, as far as they are text. -/
def inputLines (bytes : List UInt8) : List (Option String) :=
  (splitLines bytes).map Text.Utf8.decode?

end Candidacy.Menu
