import Candidacy.Roster
import Candidacy.Standing
import Candidacy.Submission

/-!
The admissions desk: a flow and a registry of applicants, and the requests it answers.
-/

namespace Candidacy

structure Desk (σ : Type) where
  flow : Flow
  registry : σ

/-- The answer to a submission that was accepted. -/
structure Receipt where
  applicant : String
  task : Task
  passed : Bool
  standing : Standing

/-- Members in the order in which they are shown. -/
def Receipt.toJson (receipt : Receipt) : Json.Value :=
  .object [
    ("user_id", .string receipt.applicant),
    ("task_id", .string receipt.task.id),
    ("task_name", .string receipt.task.name),
    ("passed", .bool receipt.passed),
    ("user_status", receipt.standing.toJson)]

namespace Desk

/-- A desk whose roster is empty. -/
def inMemory (flow : Flow) : Desk Roster := ⟨flow, .empty⟩

variable {σ : Type} [Registry σ]

/-- What the registry answers, its errors as refusals. -/
def ask (answer : Except RegistryError α) : Except Refusal α :=
  answer.mapError .ofRegistry

def register (desk : Desk σ) (email : String) : Except Refusal (Applicant × Desk σ) := do
  let (applicant, registry) ← ask (Registry.register desk.registry email)
  return (applicant, { desk with registry })

def applicant? (desk : Desk σ) (id : String) : Except Refusal (Option Applicant) :=
  ask (Registry.applicant? desk.registry id)

def applicants (desk : Desk σ) : Except Refusal (List Applicant) :=
  ask (Registry.applicants desk.registry)

/-- The verdicts on an applicant; there are none on an unknown one. -/
def dossier (desk : Desk σ) (id : String) : Except Refusal Dossier :=
  ask (Registry.dossier desk.registry id)

def visibleSteps (desk : Desk σ) (id : String) : Except Refusal (List VisibleStep) := do
  let dossier ← desk.dossier id
  return desk.flow.visibleSteps dossier

def requireKnown (desk : Desk σ) (id : String) : Except Refusal Unit := do
  let known ← ask (Registry.knows desk.registry id)
  if known then return () else .error (.unknownApplicant id)

/-- The verdicts on an applicant who has to be known. -/
def knownDossier (desk : Desk σ) (id : String) : Except Refusal Dossier := do
  desk.requireKnown id
  desk.dossier id

def position? (desk : Desk σ) (id : String) : Except Refusal (Option Place) := do
  let dossier ← desk.knownDossier id
  return desk.flow.position? dossier

def progress (desk : Desk σ) (id : String) : Except Refusal Progress := do
  let dossier ← desk.knownDossier id
  return desk.flow.progress dossier

def standing (desk : Desk σ) (id : String) : Except Refusal Standing := do
  let dossier ← desk.knownDossier id
  return desk.flow.standing dossier

/-- The task that a submission of an applicant is for, if it is accepted. -/
def accept (desk : Desk σ) (id identifier : String) (payload : Payload) :
    Except Refusal Task := do
  let dossier ← desk.knownDossier id
  desk.flow.accept dossier identifier payload

/-- The verdict on a payload that is submitted for a task at `now`. -/
def verdictOn (task : Task) (payload : Payload) (now : Instant) : Verdict where
  task := task.id
  passed := task.passes payload
  resolvedAt := Timestamp.resolve (payload.get? Timestamp.field) now
  payload := payload

/-- Files the verdict on an accepted submission. -/
def enter (desk : Desk σ) (id : String) (task : Task) (payload : Payload) (now : Instant) :
    Except Refusal Receipt × Desk σ :=
  let verdict := verdictOn task payload now
  match ask (Registry.file desk.registry id verdict) with
  | .error refusal => (.error refusal, desk)
  | .ok registry =>
      let desk := { desk with registry }
      ((desk.dossier id).map fun dossier =>
        ⟨id, task, verdict.passed, desk.flow.standing dossier⟩, desk)

/-- Checks a submission and files the verdict on it. -/
def complete (desk : Desk σ) (id identifier : String) (payload : Payload) (now : Instant) :
    Except Refusal Receipt × Desk σ :=
  match desk.accept id identifier payload with
  | .error refusal => (.error refusal, desk)
  | .ok task => desk.enter id task payload now

end Desk

end Candidacy
