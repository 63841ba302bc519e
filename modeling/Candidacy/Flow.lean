import Candidacy.Criterion
import Candidacy.NameSet
import Candidacy.Text.Lowercase

/-!
Flows: steps in order, each with its tasks in order. Ids and names are never blank, and no two tasks
of a flow share an id.
-/

namespace Candidacy

open Text (isBlankText)

structure Task where
  id : String
  name : String
  requiredFields : NameSet
  criterion : Criterion
  visibility : Visibility
  redoable : Bool
  id_not_blank : isBlankText id = false
  name_not_blank : isBlankText name = false
deriving DecidableEq

structure Step where
  id : String
  name : String
  tasks : List Task
  id_not_blank : isBlankText id = false
  name_not_blank : isBlankText name = false
deriving DecidableEq

structure Flow where
  id : String
  name : String
  steps : List Step
  id_not_blank : isBlankText id = false
  name_not_blank : isBlankText name = false
  taskIds_nodup : ((steps.flatMap Step.tasks).map Task.id).Nodup
deriving DecidableEq

namespace Task

/-- The identifier is the id or the name, in any letter case. -/
def answersTo (task : Task) (identifier : String) : Bool :=
  let wanted := Text.lower identifier
  Text.lower task.id == wanted || Text.lower task.name == wanted

/-- The required fields that are no keys of the payload. -/
def missingFields (task : Task) (payload : Payload) : NameSet :=
  task.requiredFields.filter (!payload.contains ·)

def passes (task : Task) (payload : Payload) : Bool :=
  task.criterion.passes payload

def isVisible (task : Task) (dossier : Dossier) : Bool :=
  task.visibility.shows dossier

/-- The same task, with thresholds compared as numbers. -/
def sameAs (task other : Task) : Bool :=
  task.id == other.id && task.name == other.name && task.requiredFields == other.requiredFields &&
    task.criterion.sameAs other.criterion && task.visibility == other.visibility &&
    task.redoable == other.redoable

@[simp] theorem isVisible_eq_true (task : Task) (dossier : Dossier) :
    task.isVisible dossier = true := by
  unfold isVisible Visibility.shows
  rfl

theorem mem_missingFields {task : Task} {payload : Payload} {field : String} :
    field ∈ task.missingFields payload ↔
      field ∈ task.requiredFields ∧ payload.contains field = false := by
  simp [missingFields]

end Task

namespace Step

/-- A step without tasks asks for nothing, but is still shown. -/
def hasImplicitTask (step : Step) : Bool :=
  step.tasks.isEmpty

def containsTask (step : Step) (id : String) : Bool :=
  step.tasks.any (·.id == id)

def visibleTasks (step : Step) (dossier : Dossier) : List Task :=
  step.tasks.filter (·.isVisible dossier)

def sameAs (step other : Step) : Bool :=
  step.id == other.id && step.name == other.name &&
    step.tasks.length == other.tasks.length &&
    (step.tasks.zip other.tasks).all fun (task, other) => task.sameAs other

@[simp] theorem visibleTasks_eq (step : Step) (dossier : Dossier) :
    step.visibleTasks dossier = step.tasks := by
  simp [visibleTasks]

end Step

/-- A task where it stands: with its step, and the place of the step in the flow. -/
structure Place where
  index : Nat
  step : Step
  task : Task
deriving DecidableEq

/-- A step as an applicant sees it. -/
structure VisibleStep where
  index : Nat
  step : Step
  tasks : List Task

/-- The place of a task among the visible ones of its step. -/
def VisibleStep.positionOf? (visible : VisibleStep) (id : String) : Option Nat :=
  visible.tasks.findIdx? (·.id == id)

namespace Flow

/-- All tasks in order. -/
def places (flow : Flow) : List Place :=
  flow.steps.zipIdx.flatMap fun (step, index) => step.tasks.map (Place.mk index step)

def task? (flow : Flow) (id : String) : Option Task :=
  (flow.places.find? (·.task.id == id)).map (·.task)

/-- The step that holds a task, with its place in the flow. -/
def stepOf? (flow : Flow) (id : String) : Option (Nat × Step) :=
  (flow.steps.zipIdx.find? (·.1.containsTask id)).map fun (step, index) => (index, step)

def taskCount (flow : Flow) : Nat :=
  (flow.steps.flatMap (·.tasks)).length

/-- Every step, with the tasks that are shown. -/
def visibleSteps (flow : Flow) (dossier : Dossier) : List VisibleStep :=
  flow.steps.zipIdx.map fun (step, index) => ⟨index, step, step.visibleTasks dossier⟩

/-- The shown tasks of all steps, in order. -/
def visiblePlaces (flow : Flow) (dossier : Dossier) : List Place :=
  flow.places.filter (·.task.isVisible dossier)

def sameAs (flow other : Flow) : Bool :=
  flow.id == other.id && flow.name == other.name &&
    flow.steps.length == other.steps.length &&
    (flow.steps.zip other.steps).all fun (step, other) => step.sameAs other

@[simp] theorem visiblePlaces_eq (flow : Flow) (dossier : Dossier) :
    flow.visiblePlaces dossier = flow.places := by
  simp [visiblePlaces]

end Flow

end Candidacy
