import Candidacy.Refusal

/-!
The rules a submission has to keep, in the order in which they are checked.
-/

namespace Candidacy

/-- The first task in order that is shown and answers to the identifier. -/
def Flow.resolve (flow : Flow) (identifier : String) (dossier : Dossier) : Except Refusal Task :=
  match (flow.places.map (·.task)).find? fun task =>
      task.answersTo identifier && task.isVisible dossier with
  | some task => .ok task
  | none => .error (.unknownTask identifier)

def Flow.containingStep (flow : Flow) (task : Task) : Except Refusal Step :=
  match flow.stepOf? task.id with
  | some (_, step) => .ok step
  | none => .error (.breakdown (.taskWithoutStep task.id))

/-- A task that may not be redone has no verdict yet, passed or failed. -/
def Task.checkRedoable (task : Task) (dossier : Dossier) : Except Refusal Unit :=
  if !task.redoable && dossier.hasVerdict task.id then .error (.alreadyDone task.name) else .ok ()

/-- All tasks shown before it in its step are passed. -/
def Step.checkOrder (step : Step) (task : Task) (dossier : Dossier) : Except Refusal Unit :=
  let shown := step.visibleTasks dossier
  match shown.findIdx? (·.id == task.id) with
  | none => .error (.breakdown (.taskNotShown task.id step.name))
  | some index =>
      match (shown.take index).find? (!dossier.hasPassed ·.id) with
      | some prerequisite => .error (.outOfOrder task.name prerequisite.name)
      | none => .ok ()

/-- All required fields are there, with any value. -/
def Task.checkFields (task : Task) (payload : Payload) : Except Refusal Unit :=
  let missing := task.missingFields payload
  if missing.isEmpty then .ok () else .error (.missingFields task.name missing)

/-- The task that a submission is for, if the submission keeps all the rules. -/
def Flow.accept (flow : Flow) (dossier : Dossier) (identifier : String) (payload : Payload) :
    Except Refusal Task := do
  let task ← flow.resolve identifier dossier
  let step ← flow.containingStep task
  task.checkRedoable dossier
  step.checkOrder task dossier
  task.checkFields payload
  return task

end Candidacy
