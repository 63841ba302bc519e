import Candidacy.Flow
import Candidacy.Json.Decoding

/-!
How an applicant stands: the task to turn to next, the standing as a whole, and how far the
applicant has come.
-/

namespace Candidacy

/-- The first failed task in order; if there is none, the first one without a verdict. -/
def Flow.position? (flow : Flow) (dossier : Dossier) : Option Place :=
  let shown := flow.visiblePlaces dossier
  (shown.find? (dossier.hasFailed ·.task.id)).or (shown.find? (!dossier.hasVerdict ·.task.id))

inductive Standing
  | accepted
  | rejected
  | inProgress
deriving DecidableEq

/-- Rejected if any verdict is a failure, accepted once all tasks that are shown are passed. -/
def Flow.standing (flow : Flow) (dossier : Dossier) : Standing :=
  if dossier.anyFailed then .rejected
  else if (flow.visiblePlaces dossier).all (dossier.hasPassed ·.task.id) then .accepted
  else .inProgress

namespace Standing

def text : Standing → String
  | .accepted => "accepted"
  | .rejected => "rejected"
  | .inProgress => "in_progress"

def all : List Standing := [.accepted, .rejected, .inProgress]

def toJson (standing : Standing) : Json.Value :=
  .string standing.text

open Json (Document Fault Problem Token)

def ofName (name : String) : Except Problem Standing :=
  match all.find? (·.text == name) with
  | some standing => .ok standing
  | none => .error (.mismatch (.unknownVariant name (all.map text)))

private def wanted : List Token → Except Problem α
  | [] => .error (.fault .cutShort)
  | _ :: _ => .error (.fault .malformed)

/-- The name of a standing as a string, and the tokens after it. -/
def takeName : List Token → Except Problem (Standing × List Token)
  | .string (some name) :: rest => do
      let standing ← ofName name
      return (standing, rest)
  | .spoiltString s :: _ => .error (.fault s.wanted)
  | rest => wanted rest

/-- A standing in JSON: its name, or an object that gives its name to nothing. The tokens after it
are left. -/
def ofTokens : List Token → Except Problem (Standing × List Token)
  | .openBrace :: rest => do
      let (standing, rest) ← takeName rest
      match rest with
      | .colon :: rest =>
          let (value, rest) := Document.ofTokens rest
          value.readUnit
          match rest with
          | .closeBrace :: rest => return (standing, rest)
          | rest => wanted rest
      | rest => wanted rest
  | rest => takeName rest

/-- A text that holds one standing and nothing else. -/
def ofText (text : String) : Except Problem Standing := do
  let (standing, rest) ← ofTokens (Json.tokens text.toList)
  match rest with
  | [] => return standing
  | _ :: _ => .error (.fault .malformed)

end Standing

/-- How far an applicant has come. -/
inductive Progress
  | completed (done shown : Nat)
  | inProgress (place : Place) (done shown : Nat)

namespace Progress

/-- An applicant without a position has completed the flow. -/
def ofPosition (position : Option Place) (done shown : Nat) : Progress :=
  match position with
  | none => .completed done shown
  | some place => .inProgress place done shown

def isCompleted : Progress → Bool
  | .completed _ _ => true
  | .inProgress _ _ _ => false

private def count (n : Nat) : Json.Value :=
  .number (.int n)

/-- Members in the order in which they are shown. -/
def toJson : Progress → Json.Value
  | .completed done shown =>
      .object [
        ("status", .string "completed"),
        ("completed_tasks", count done),
        ("total_visible_tasks", count shown)]
  | .inProgress place done shown =>
      .object [
        ("status", .string "in_progress"),
        ("step_index", count place.index),
        ("step_id", .string place.step.id),
        ("step_name", .string place.step.name),
        ("task_id", .string place.task.id),
        ("task_name", .string place.task.name),
        ("completed_tasks", count done),
        ("total_visible_tasks", count shown)]

end Progress

def Flow.progress (flow : Flow) (dossier : Dossier) : Progress :=
  .ofPosition (flow.position? dossier) dossier.size (flow.visiblePlaces dossier).length

end Candidacy
