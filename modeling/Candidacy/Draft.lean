import Candidacy.Flow

/-!
Drafts: flows as they are written down, before anything is checked, and their compilation. The first
thing wrong with a draft is found step by step, task by task.
-/

namespace Candidacy

open Text (isBlankText)

namespace Draft

/-- A condition in words. Which fields it needs hangs on its kind; the others are kept but have no
effect. -/
structure Condition where
  kind : String
  field : Option String := none
  value : Option Json.Value := none
  threshold : Option Binary64 := none
  taskId : Option String := none
  least : Option Binary64 := none
  greatest : Option Binary64 := none

structure Task where
  id : String
  name : String
  requiredFields : NameSet
  passCondition : Option Condition
  visibilityCondition : Option Condition
  redoable : Option Bool

structure Step where
  id : String
  name : String
  tasks : List Task

structure Flow where
  id : String
  name : String
  steps : List Step

/-- What is wrong with a condition. -/
inductive ConditionError
  | fieldWanted (kind : String)
  | thresholdWanted
  | valueWanted
  | unknownCriterion (kind : String)
  | unknownVisibility (kind : String)
deriving DecidableEq

def ConditionError.message : ConditionError → String
  | .fieldWanted kind => "La condición de aprobación '" ++ kind ++ "' requiere 'field'"
  | .thresholdWanted => "La condición 'scoreGreaterThan' requiere 'threshold'"
  | .valueWanted => "La condición 'equals' requiere 'value'"
  | .unknownCriterion kind => "Tipo de condición de aprobación desconocido: " ++ kind
  | .unknownVisibility kind => "Tipo de condición de visibilidad desconocido: " ++ kind

/-- An id or name that must not be blank. -/
inductive Label
  | taskId
  | taskName (id : String)
  | stepId
  | stepName (id : String)
  | flowId
  | flowName
deriving DecidableEq

def Label.text : Label → String
  | .taskId => "El id de la tarea"
  | .taskName id => "El nombre de la tarea '" ++ id ++ "'"
  | .stepId => "El id del paso"
  | .stepName id => "El nombre del paso '" ++ id ++ "'"
  | .flowId => "El id del flujo"
  | .flowName => "El nombre del flujo"

/-- Why a draft makes no flow. -/
inductive Error
  | condition (error : ConditionError)
  | inTask (id : String) (error : ConditionError)
  | blank (label : Label)
  | duplicateTask (id : String)
  /-- A reason given by whoever supplies the flow. -/
  | stated (reason : String)
deriving DecidableEq

def Error.message : Error → String
  | .condition error => error.message
  | .inTask id error => "tarea '" ++ id ++ "': " ++ error.message
  | .blank label => label.text ++ " no puede estar vacío"
  | .duplicateTask id => "Id de tarea duplicado en el flujo: " ++ id
  | .stated reason => reason

/-! Conditions. -/

namespace Condition

/-- The condition of a kind, with nothing else said. -/
def ofKind (kind : String) : Condition := { kind }

/-- The field that a condition looks at, without white space around it. -/
def trimmedField (condition : Condition) : Except ConditionError String :=
  match condition.field.map Text.trim with
  | some field => if field = "" then .error (.fieldWanted condition.kind) else .ok field
  | none => .error (.fieldWanted condition.kind)

def criterion (condition : Condition) : Except ConditionError Criterion :=
  if condition.kind = "always" then .ok .always
  else if condition.kind = "scoreGreaterThan" then do
    let field ← condition.trimmedField
    match condition.threshold with
    | some threshold => return .scoreAbove field threshold
    | none => .error .thresholdWanted
  else if condition.kind = "equals" then do
    let field ← condition.trimmedField
    match condition.value.bind Json.Value.comparedText? with
    | some text => return .equals field text
    | none => .error .valueWanted
  else .error (.unknownCriterion condition.kind)

def visibility (condition : Condition) : Except ConditionError Visibility :=
  if condition.kind = "always" then .ok .always
  else .error (.unknownVisibility condition.kind)

end Condition

/-- No condition is the condition that always holds. -/
def criterionOf : Option Condition → Except ConditionError Criterion
  | some condition => condition.criterion
  | none => .ok .always

def visibilityOf : Option Condition → Except ConditionError Visibility
  | some condition => condition.visibility
  | none => .ok .always

/-! Compiling. -/

def inTask (id : String) : Except ConditionError α → Except Error α
  | .ok a => .ok a
  | .error error => .error (.inTask id error)

end Draft

/-- A task whose id and name are not blank. -/
def Task.make (id name : String) (requiredFields : NameSet) (criterion : Criterion)
    (visibility : Visibility) (redoable : Bool) : Except Draft.Error Task :=
  if idNotBlank : isBlankText id = false then
    if nameNotBlank : isBlankText name = false then
      .ok ⟨id, name, requiredFields, criterion, visibility, redoable, idNotBlank, nameNotBlank⟩
    else .error (.blank (.taskName id))
  else .error (.blank .taskId)

/-- A task that asks for nothing and may be redone. -/
def Task.simple (id name : String) : Except Draft.Error Task :=
  Task.make id name .empty .always .always true

/-- A step whose id and name are not blank. -/
def Step.make (id name : String) (tasks : List Task) : Except Draft.Error Step :=
  if idNotBlank : isBlankText id = false then
    if nameNotBlank : isBlankText name = false then
      .ok ⟨id, name, tasks, idNotBlank, nameNotBlank⟩
    else .error (.blank (.stepName id))
  else .error (.blank .stepId)

/-- The first entry that occurs among those before it, or among `seen`. -/
def firstRepeated? (seen : List String) : List String → Option String
  | [] => none
  | id :: rest => if id ∈ seen then some id else firstRepeated? (id :: seen) rest

theorem firstRepeated?_eq_none_iff {seen ids : List String} :
    firstRepeated? seen ids = none ↔ ids.Nodup ∧ ∀ id ∈ ids, id ∉ seen := by
  induction ids generalizing seen with
  | nil => simp [firstRepeated?]
  | cons id rest ih =>
      unfold firstRepeated?
      split
      · next member => simp [member]
      · next member =>
          rw [ih, List.nodup_cons]
          constructor
          · rintro ⟨distinct, fresh⟩
            refine ⟨⟨fun repeated => fresh id repeated List.mem_cons_self, distinct⟩,
              fun other otherMember => ?_⟩
            rcases List.mem_cons.mp otherMember with rfl | otherMember
            · exact member
            · exact fun repeated => fresh other otherMember (List.mem_cons_of_mem _ repeated)
          · rintro ⟨⟨idFresh, distinct⟩, fresh⟩
            refine ⟨distinct, fun other otherMember repeated => ?_⟩
            rcases List.mem_cons.mp repeated with rfl | repeated
            · exact idFresh otherMember
            · exact fresh other (List.mem_cons_of_mem _ otherMember) repeated

/-- A flow whose id and name are not blank, and whose tasks have different ids. -/
def Flow.make (id name : String) (steps : List Step) : Except Draft.Error Flow :=
  if idNotBlank : isBlankText id = false then
    if nameNotBlank : isBlankText name = false then
      match unrepeated : firstRepeated? [] ((steps.flatMap Step.tasks).map Task.id) with
      | none =>
          .ok ⟨id, name, steps, idNotBlank, nameNotBlank,
            (firstRepeated?_eq_none_iff.mp unrepeated).1⟩
      | some id => .error (.duplicateTask id)
    else .error (.blank .flowName)
  else .error (.blank .flowId)

namespace Draft

def Task.compile (draft : Draft.Task) : Except Error Candidacy.Task := do
  let criterion ← inTask draft.id (criterionOf draft.passCondition)
  let visibility ← inTask draft.id (visibilityOf draft.visibilityCondition)
  Candidacy.Task.make draft.id draft.name draft.requiredFields criterion visibility
    (draft.redoable.getD true)

def compileTasks : List Draft.Task → Except Error (List Candidacy.Task)
  | [] => .ok []
  | draft :: rest => do
      let task ← draft.compile
      let others ← compileTasks rest
      return task :: others

def Step.compile (draft : Draft.Step) : Except Error Candidacy.Step := do
  let tasks ← compileTasks draft.tasks
  Candidacy.Step.make draft.id draft.name tasks

def compileSteps : List Draft.Step → Except Error (List Candidacy.Step)
  | [] => .ok []
  | draft :: rest => do
      let step ← draft.compile
      let others ← compileSteps rest
      return step :: others

/-- The flow of a draft, or the first thing wrong with it. -/
def Flow.compile (draft : Draft.Flow) : Except Error Candidacy.Flow := do
  let steps ← compileSteps draft.steps
  Candidacy.Flow.make draft.id draft.name steps

end Draft

end Candidacy
