import Candidacy.Flow.Json
import Candidacy.Proofs.Compilation
import Candidacy.Proofs.WrittenDraft

/-!
A compiled flow that is written out is a draft of itself: what is written reads as the draft that
leaves nothing to defaults, and this draft compiles to the same flow.
-/

namespace Candidacy

open Text (isBlankText)

/-! The draft that a flow is written like. -/

namespace Draft

def Condition.ofCriterion : Criterion → Condition
  | .always => .ofKind "always"
  | .scoreAbove field threshold =>
      { kind := "scoreGreaterThan", field := some field, threshold := some threshold }
  | .equals field text =>
      { kind := "equals", field := some field, value := some (.string text) }

def Condition.ofVisibility : Visibility → Condition
  | .always => .ofKind "always"

def Task.ofTask (task : Candidacy.Task) : Task where
  id := task.id
  name := task.name
  requiredFields := task.requiredFields
  passCondition := some (.ofCriterion task.criterion)
  visibilityCondition := some (.ofVisibility task.visibility)
  redoable := some task.redoable

def Step.ofStep (step : Candidacy.Step) : Step where
  id := step.id
  name := step.name
  tasks := step.tasks.map Task.ofTask

def Flow.ofFlow (flow : Candidacy.Flow) : Flow where
  id := flow.id
  name := flow.name
  steps := flow.steps.map Step.ofStep

theorem Condition.toJson_ofCriterion (criterion : Criterion) :
    (ofCriterion criterion).toJson = criterion.toJson := by
  cases criterion <;> rfl

theorem Condition.toJson_ofVisibility (visibility : Visibility) :
    (ofVisibility visibility).toJson = visibility.toJson := by
  cases visibility
  rfl

theorem Task.toJson_ofTask (task : Candidacy.Task) : (ofTask task).toJson = task.toJson := by
  simp only [toJson, ofTask, Option.map_some, orNull, Option.getD_some,
    Condition.toJson_ofCriterion, Condition.toJson_ofVisibility]
  rfl

theorem Step.toJson_ofStep (step : Candidacy.Step) : (ofStep step).toJson = step.toJson := by
  have tasks : (step.tasks.map Task.ofTask).map Task.toJson =
      step.tasks.map Candidacy.Task.toJson := by
    rw [List.map_map]
    exact List.map_congr_left fun task _ => Task.toJson_ofTask task
  rw [toJson, ofStep, tasks]
  rfl

theorem Flow.toJson_ofFlow (flow : Candidacy.Flow) : (ofFlow flow).toJson = flow.toJson := by
  have steps : (flow.steps.map Step.ofStep).map Step.toJson =
      flow.steps.map Candidacy.Step.toJson := by
    rw [List.map_map]
    exact List.map_congr_left fun step _ => Step.toJson_ofStep step
  rw [toJson, ofFlow, steps]
  rfl

theorem Condition.isKept_ofCriterion (criterion : Criterion) : (ofCriterion criterion).IsKept := by
  intro value given
  cases criterion with
  | always => cases given
  | scoreAbove field threshold => cases given
  | equals field text =>
      cases given
      exact ⟨nofun, Json.Value.isKept_string text⟩

theorem Condition.isKept_ofVisibility (visibility : Visibility) :
    (ofVisibility visibility).IsKept := by
  cases visibility
  exact nofun

theorem Flow.isKept_ofFlow (flow : Candidacy.Flow) : (ofFlow flow).IsKept := by
  intro draft member
  obtain ⟨step, _, rfl⟩ := List.mem_map.mp member
  intro draft member
  obtain ⟨task, _, rfl⟩ := List.mem_map.mp member
  constructor
  · rintro condition ⟨⟩
    exact Condition.isKept_ofCriterion task.criterion
  · rintro condition ⟨⟩
    exact Condition.isKept_ofVisibility task.visibility

end Draft

/-! Compiled criteria look at fields that are trimmed, so trimming them again changes nothing. -/

inductive Criterion.IsTrimmed : Criterion → Prop
  | always : IsTrimmed .always
  | scoreAbove {field : String} {threshold : Binary64} (trimmed : Text.trim field = field)
      (notEmpty : field ≠ "") : IsTrimmed (.scoreAbove field threshold)
  | equals {field text : String} (trimmed : Text.trim field = field) (notEmpty : field ≠ "") :
      IsTrimmed (.equals field text)

namespace Draft

theorem Condition.Means.isTrimmed {condition : Condition} {criterion : Criterion}
    (means : condition.Means criterion) : criterion.IsTrimmed := by
  have notEmpty {field : String} (notBlank : isBlankText field = false) : Text.trim field ≠ "" := by
    simp [Ne, Text.trim_eq_empty_iff, notBlank]
  cases means with
  | always kind => exact .always
  | scoreAbove kind named notBlank given =>
      exact .scoreAbove (Text.trim_trim _) (notEmpty notBlank)
  | equalsString kind named notBlank given =>
      exact .equals (Text.trim_trim _) (notEmpty notBlank)
  | equalsOther kind named notBlank given notNull noString =>
      exact .equals (Text.trim_trim _) (notEmpty notBlank)

theorem Task.Describes.isTrimmed {draft : Draft.Task} {task : Candidacy.Task}
    (described : draft.Describes task) : task.criterion.IsTrimmed := by
  cases given : draft.passCondition with
  | none =>
      rw [described.absent given]
      exact .always
  | some condition => exact (described.present condition given).isTrimmed

theorem forall_mem_of_forall₂ {α β : Type} {R : α → β → Prop} {p : β → Prop} {as : List α}
    {bs : List β} (related : List.Forall₂ R as bs) (holds : ∀ a b, R a b → p b) :
    ∀ b ∈ bs, p b := by
  induction related with
  | nil => exact nofun
  | cons first others ih =>
      rw [List.forall_mem_cons]
      exact ⟨holds _ _ first, ih⟩

theorem Flow.isTrimmed_of_compile {draft : Draft.Flow} {flow : Candidacy.Flow}
    (compiled : draft.compile = .ok flow) :
    ∀ step ∈ flow.steps, ∀ task ∈ step.tasks, task.criterion.IsTrimmed := by
  have described : draft.Describes flow := draft.tells_compile.wanted_of_ok compiled
  refine forall_mem_of_forall₂ described.steps ?_
  intro stepDraft step stepDescribed
  refine forall_mem_of_forall₂ stepDescribed.tasks ?_
  intro taskDraft task taskDescribed
  exact taskDescribed.isTrimmed

/-! The draft of a flow compiles to the flow. -/

theorem Condition.trimmedField_of_trimmed {condition : Condition} {field : String}
    (named : condition.field = some field) (trimmed : Text.trim field = field)
    (notEmpty : field ≠ "") : condition.trimmedField = .ok field := by
  rw [trimmedField, named, Option.map_some, trimmed]
  exact if_neg notEmpty

theorem Condition.criterion_ofCriterion {criterion : Criterion} (trimmed : criterion.IsTrimmed) :
    (ofCriterion criterion).criterion = .ok criterion := by
  cases trimmed with
  | always => rfl
  | @scoreAbove field threshold trimmed notEmpty =>
      have found : (ofCriterion (.scoreAbove field threshold)).trimmedField = .ok field :=
        trimmedField_of_trimmed rfl trimmed notEmpty
      rw [Condition.criterion, found]
      rfl
  | @equals field text trimmed notEmpty =>
      have found : (ofCriterion (.equals field text)).trimmedField = .ok field :=
        trimmedField_of_trimmed rfl trimmed notEmpty
      rw [Condition.criterion, found]
      rfl

theorem Task.compile_ofTask {task : Candidacy.Task} (trimmed : task.criterion.IsTrimmed) :
    (ofTask task).compile = .ok task := by
  have criterion : criterionOf (ofTask task).passCondition = .ok task.criterion :=
    Condition.criterion_ofCriterion trimmed
  have visibility : visibilityOf (ofTask task).visibilityCondition = .ok task.visibility := by
    cases task.visibility
    rfl
  rw [compile, criterion, visibility]
  simp [inTask, Candidacy.Task.make, ofTask, task.id_not_blank, task.name_not_blank]

theorem compileTasks_ofTask {tasks : List Candidacy.Task}
    (trimmed : ∀ task ∈ tasks, task.criterion.IsTrimmed) :
    compileTasks (tasks.map Task.ofTask) = .ok tasks := by
  induction tasks with
  | nil => rfl
  | cons task rest ih =>
      rw [List.forall_mem_cons] at trimmed
      rw [List.map_cons, compileTasks, Task.compile_ofTask trimmed.1, ih trimmed.2]
      rfl

theorem Step.compile_ofStep {step : Candidacy.Step}
    (trimmed : ∀ task ∈ step.tasks, task.criterion.IsTrimmed) :
    (ofStep step).compile = .ok step := by
  have tasks : compileTasks (ofStep step).tasks = .ok step.tasks := compileTasks_ofTask trimmed
  rw [compile, tasks]
  simp [Candidacy.Step.make, ofStep, step.id_not_blank, step.name_not_blank]

theorem compileSteps_ofStep {steps : List Candidacy.Step}
    (trimmed : ∀ step ∈ steps, ∀ task ∈ step.tasks, task.criterion.IsTrimmed) :
    compileSteps (steps.map Step.ofStep) = .ok steps := by
  induction steps with
  | nil => rfl
  | cons step rest ih =>
      rw [List.forall_mem_cons] at trimmed
      rw [List.map_cons, compileSteps, Step.compile_ofStep trimmed.1, ih trimmed.2]
      rfl

theorem Flow.compile_ofFlow {flow : Candidacy.Flow}
    (trimmed : ∀ step ∈ flow.steps, ∀ task ∈ step.tasks, task.criterion.IsTrimmed) :
    (ofFlow flow).compile = .ok flow := by
  have steps : compileSteps (ofFlow flow).steps = .ok flow.steps := compileSteps_ofStep trimmed
  have unrepeated : firstRepeated? [] ((flow.steps.flatMap Candidacy.Step.tasks).map
      Candidacy.Task.id) = none :=
    firstRepeated?_eq_none_iff.mpr ⟨flow.taskIds_nodup, by simp⟩
  rw [compile, steps, ok_bind, ofFlow, Candidacy.Flow.make, dif_pos flow.id_not_blank,
    dif_pos flow.name_not_blank]
  split
  · rfl
  · next id again =>
      rw [unrepeated] at again
      cases again

end Draft

/-! Loading. -/

namespace Flow

/-- The flow comes from a document: a text, a value that was parsed before, or a file. -/
inductive IsLoaded (flow : Flow) : Prop
  | text (text : String) (loaded : ofText text = .ok flow)
  | value (value : Json.Value) (loaded : ofValue value = .ok flow)
  | file (files : Files) (path : String) (loaded : ofFile files path = .ok flow)

theorem compile_of_ofDraft {draft : Draft.Flow} {flow : Flow} (made : ofDraft draft = .ok flow) :
    draft.compile = .ok flow := by
  rw [ofDraft] at made
  cases compiled : draft.compile with
  | ok other => simpa [compiled, Except.mapError] using made
  | error e => simp [compiled, Except.mapError] at made

theorem exists_draft_of_ofText {text : String} {flow : Flow} (loaded : ofText text = .ok flow) :
    ∃ draft : Draft.Flow, draft.compile = .ok flow := by
  rw [ofText, bind_eq_ok_iff] at loaded
  obtain ⟨draft, _, made⟩ := loaded
  exact ⟨draft, compile_of_ofDraft made⟩

theorem IsLoaded.exists_draft {flow : Flow} (loaded : flow.IsLoaded) :
    ∃ draft : Draft.Flow, draft.compile = .ok flow := by
  cases loaded with
  | text text loaded => exact exists_draft_of_ofText loaded
  | value value loaded =>
      rw [ofValue, bind_eq_ok_iff] at loaded
      obtain ⟨draft, _, made⟩ := loaded
      exact ⟨draft, compile_of_ofDraft made⟩
  | file files path loaded =>
      rw [ofFile, bind_eq_ok_iff] at loaded
      obtain ⟨bytes, _, loaded⟩ := loaded
      split at loaded
      · exact exists_draft_of_ofText loaded
      · cases loaded

/-- A flow that was loaded, written out, decodes as a draft that compiles to the flow. -/
theorem written_flow_loads {flow : Flow} (loaded : flow.IsLoaded) :
    ∃ draft, Json.decodeValue Draft.Flow.read flow.toJson = .ok draft ∧
      draft.compile = .ok flow := by
  obtain ⟨source, compiled⟩ := loaded.exists_draft
  refine ⟨.ofFlow flow, ?_, Draft.Flow.compile_ofFlow (Draft.Flow.isTrimmed_of_compile compiled)⟩
  rw [← Draft.Flow.toJson_ofFlow]
  exact Draft.Flow.read_written (Draft.Flow.isKept_ofFlow flow)

end Flow

namespace Sample

/-- The field has white space around it, and the value is no text. -/
def voteDocument : Json.Value := .object [
  ("id", .string "admission"),
  ("name", .string "Admission"),
  ("steps", .array [.object [
    ("id", .string "board"),
    ("name", .string "Board"),
    ("tasks", .array [.object [
      ("id", .string "vote"),
      ("name", .string "Vote"),
      ("passCondition", .object [
        ("field", .string " approved "),
        ("type", .string "equals"),
        ("value", .bool true)])]])]])]

def vote : Task where
  id := "vote"
  name := "Vote"
  requiredFields := .empty
  criterion := .equals "approved" "true"
  visibility := .always
  redoable := true
  id_not_blank := by decide
  name_not_blank := by decide

def board : Step where
  id := "board"
  name := "Board"
  tasks := [vote]
  id_not_blank := by decide
  name_not_blank := by decide

def voteFlow : Flow where
  id := "admission"
  name := "Admission"
  steps := [board]
  id_not_blank := by decide
  name_not_blank := by decide
  taskIds_nodup := by decide

end Sample

theorem Flow.written_vote_loads :
    Flow.ofValue Sample.voteDocument = .ok Sample.voteFlow ∧
      ∃ draft, Json.decodeValue Draft.Flow.read Sample.voteFlow.toJson = .ok draft ∧
        draft.compile = .ok Sample.voteFlow := by
  have loaded : Flow.ofValue Sample.voteDocument = .ok Sample.voteFlow := by rfl
  exact ⟨loaded, Flow.written_flow_loads (.value Sample.voteDocument loaded)⟩

end Candidacy
