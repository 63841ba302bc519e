import Candidacy.Dossier
import Candidacy.Instant.Loose
import Candidacy.Json.Decoding

/-!
Verdicts as JSON documents. Their instants are written in the form of RFC 3339, and read in its looser
form.
-/

namespace Candidacy

open Json (Document Problem Record Source Value)

def Instant.read (_ : Source) (d : Document) : Except Problem Instant := do
  let text ← d.readStringAs "an RFC 3339 formatted date and time string"
  match Instant.ofLoose? text.toList with
  | some instant => return instant
  | none => .error (.mismatch .notAnInstant)

namespace Verdict

structure Parts where
  task : Option String := none
  passed : Option Bool := none
  resolvedAt : Option Instant := none
  payload : Option Payload := none

def record : Record Parts Verdict where
  name := "TaskResult"
  fields := [
    .slot "task_id" false (·.task) (fun parts a => { parts with task := some a })
      (fun _ d => d.readString),
    .slot "passed" false (·.passed) (fun parts a => { parts with passed := some a })
      (fun _ d => d.readBool),
    .slot "resolved_at" false (·.resolvedAt) (fun parts a => { parts with resolvedAt := some a })
      Instant.read,
    .slot "payload" false (·.payload) (fun parts a => { parts with payload := some a })
      (fun source d => d.readObject source)]
  empty := {}
  finish parts := do
    let task ← Record.require "task_id" parts.task
    let passed ← Record.require "passed" parts.passed
    let resolvedAt ← Record.require "resolved_at" parts.resolvedAt
    let payload ← Record.require "payload" parts.payload
    return ⟨task, passed, resolvedAt, payload⟩

def read (source : Source) (d : Document) : Except Problem Verdict :=
  record.read source d

/-- Members in the order in which they are shown. -/
def toJson (verdict : Verdict) : Value :=
  .object [
    ("task_id", .string verdict.task),
    ("passed", .bool verdict.passed),
    ("resolved_at", .string verdict.resolvedAt.text),
    ("payload", .object verdict.payload)]

end Verdict

end Candidacy
