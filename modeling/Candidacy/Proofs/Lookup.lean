import Candidacy.Draft
import Candidacy.Proofs.History
import Mathlib.Algebra.Ring.Nat

/-!
Where a task is found. An id is looked up among all tasks, step by step, and among the tasks that an
applicant is shown. In a flow that was accepted all of these lead to the one place that has the id.
-/

namespace Candidacy

theorem Flow.steps_of_make {id name : String} {steps : List Step} {flow : Flow}
    (made : Flow.make id name steps = .ok flow) : flow.steps = steps := by
  unfold make at made
  split at made
  · split at made
    · split at made
      · cases made
        rfl
      · cases made
    · cases made
  · cases made

/-! By id. -/

namespace Flow

/-- The id of the task leads to the task and to its step, and no other step has it. -/
structure Finds (flow : Flow) (place : Place) : Prop where
  task : flow.task? place.task.id = some place.task
  step : flow.stepOf? place.task.id = some (place.index, place.step)
  standing : flow.steps[place.index]? = some place.step
  only : ∀ index step, flow.steps[index]? = some step →
    (step.containsTask place.task.id = true ↔ index = place.index)

variable {flow : Flow} {place : Place}

theorem task?_task (member : place ∈ flow.places) :
    flow.task? place.task.id = some place.task := by
  have found : flow.places.find? (·.task.id == place.task.id) = some place := by
    apply find?_eq_some_of_only member
    · exact beq_self_eq_true place.task.id
    · intro other otherMember same
      exact place_eq_of_id_eq otherMember member (eq_of_beq same)
  rw [task?, found, Option.map_some]

theorem finds_of_mem (member : place ∈ flow.places) : flow.Finds place where
  task := task?_task member
  step := stepOf?_task member
  standing := (mem_places.mp member).1
  only _ _ := containsTask_iff member

section Unknown

variable {id : String} (unknown : ∀ task ∈ flow.tasks, task.id ≠ id)
include unknown

theorem task?_eq_none : flow.task? id = none := by
  rw [task?, Option.map_eq_none_iff, List.find?_eq_none]
  intro place member
  simpa using unknown place.task (task_mem_of_mem_places member)

theorem containsTask_eq_false {step : Step} (member : step ∈ flow.steps) :
    step.containsTask id = false := by
  rw [Step.containsTask, List.any_eq_false]
  intro task inStep
  simpa using unknown task ((tasks_sublist_of_mem_steps member).subset inStep)

theorem stepOf?_eq_none : flow.stepOf? id = none := by
  rw [stepOf?, Option.map_eq_none_iff, List.find?_eq_none]
  rintro ⟨step, index⟩ entry
  have member : step ∈ flow.steps := List.fst_mem_of_mem_zipIdx entry
  simp [containsTask_eq_false unknown member]

end Unknown

theorem taskCount_eq_sum (flow : Flow) :
    flow.taskCount = (flow.steps.map (·.tasks.length)).sum :=
  List.length_flatMap

end Flow

/-! Among the tasks that are shown. -/

section Lists

variable {α : Type _} {p : α → Bool} {entries : List α} {entry : α} (nodup : entries.Nodup)
variable (only : ∀ other ∈ entries, p other = true ↔ other = entry)
include nodup only

/-- Where an entry is the only one to meet a condition, the search for the condition gives its
position. -/
theorem findIdx?_eq_some_iff_of_only {n : Nat} :
    entries.findIdx? p = some n ↔ entries[n]? = some entry := by
  rw [List.findIdx?_eq_some_iff_getElem]
  constructor
  · rintro ⟨bound, holds, _⟩
    rw [List.getElem?_eq_getElem bound, (only _ (List.getElem_mem bound)).mp holds]
  · intro found
    obtain ⟨bound, rfl⟩ := List.getElem?_eq_some_iff.mp found
    refine ⟨bound, (only _ (List.getElem_mem bound)).mpr rfl, ?_⟩
    intro earlier before holds
    have same := (only _ (List.getElem_mem (Nat.lt_trans before bound))).mp holds
    exact Nat.ne_of_lt before (nodup.getElem_inj_iff.mp same)

theorem exists_findIdx?_of_only (member : entry ∈ entries) :
    ∃ position, entries.findIdx? p = some position ∧
      ∀ n, entries[n]? = some entry ↔ n = position := by
  obtain ⟨position, found⟩ := List.getElem?_of_mem member
  have searched := (findIdx?_eq_some_iff_of_only nodup only).mpr found
  refine ⟨position, searched, ?_⟩
  intro n
  rw [← findIdx?_eq_some_iff_of_only nodup only, searched, Option.some_inj, eq_comm]

end Lists

namespace VisibleStep

/-- The tasks that are shown, each where it stands in the flow. -/
def places (visible : VisibleStep) : List Place :=
  visible.tasks.map (Place.mk visible.index visible.step)

/-- The step of the place is seen, and its task is found at its only position there. -/
structure Shows (visible : VisibleStep) (place : Place) : Prop where
  index : visible.index = place.index
  step : visible.step = place.step
  position : ∃ position, visible.positionOf? place.task.id = some position ∧
    ∀ n, visible.tasks[n]? = some place.task ↔ n = position

end VisibleStep

namespace Flow

variable {flow : Flow} {place : Place}

theorem map_visibleSteps (flow : Flow) (dossier : Dossier) :
    (flow.visibleSteps dossier).map (fun visible => (visible.step, visible.index)) =
      flow.steps.zipIdx := by
  rw [visibleSteps, List.map_map]
  exact List.map_id _

theorem flatMap_visibleSteps (flow : Flow) (dossier : Dossier) :
    (flow.visibleSteps dossier).flatMap VisibleStep.places = flow.visiblePlaces dossier := by
  have shown (step : Step) (index : Nat) :
      (step.visibleTasks dossier).map (Place.mk index step) =
        (step.tasks.map (Place.mk index step)).filter (·.task.isVisible dossier) := by
    rw [Step.visibleTasks, List.filter_map]
    rfl
  calc
    (flow.visibleSteps dossier).flatMap VisibleStep.places =
        flow.steps.zipIdx.flatMap fun entry =>
          (entry.1.visibleTasks dossier).map (Place.mk entry.2 entry.1) := List.flatMap_map _ _ _
    _ = flow.steps.zipIdx.flatMap fun entry =>
          (entry.1.tasks.map (Place.mk entry.2 entry.1)).filter (·.task.isVisible dossier) := by
      simp only [shown]
    _ = flow.visiblePlaces dossier := List.filter_flatMap.symm

theorem exists_findIdx?_visibleTasks (member : place ∈ flow.places) (dossier : Dossier) :
    ∃ position,
      (place.step.visibleTasks dossier).findIdx? (·.id == place.task.id) = some position ∧
        ∀ n, (place.step.visibleTasks dossier)[n]? = some place.task ↔ n = position := by
  have inFlow := tasks_sublist_of_mem_steps (step_mem_of_mem_places member)
  apply exists_findIdx?_of_only
  · exact (flow.tasks_nodup.sublist inFlow).filter _
  · intro other shown
    have otherMember : other ∈ flow.tasks := inFlow.subset (List.mem_of_mem_filter shown)
    rw [beq_iff_eq]
    constructor
    · exact task_eq_of_id_eq otherMember (task_mem_of_mem_places member)
    · exact congrArg Task.id
  · exact List.mem_filter.mpr ⟨(mem_places.mp member).2, place.task.isVisible_eq_true dossier⟩

theorem shows_of_mem (member : place ∈ flow.places) (dossier : Dossier) :
    ∃ visible, (flow.visibleSteps dossier)[place.index]? = some visible ∧
      visible.Shows place := by
  have standing := (mem_places.mp member).1
  let visible : VisibleStep := ⟨place.index, place.step, place.step.visibleTasks dossier⟩
  have seen : (flow.visibleSteps dossier)[place.index]? = some visible := by
    simp [visibleSteps, standing, visible]
  exact ⟨visible, seen, rfl, rfl, exists_findIdx?_visibleTasks member dossier⟩

end Flow

/-- A flow that is accepted has the steps that were given. Each entry in the list of its tasks is
found again under the id of the task: by itself, by its step, and in the one step that is shown at
that place; an id that no task has leads nowhere. The tasks that are shown step by step are those
that are shown in the flow as a whole. -/
theorem Flow.lookups_agree {id name : String} {steps : List Step} {flow : Flow}
    (made : Flow.make id name steps = .ok flow) (dossier : Dossier) :
    flow.steps = steps ∧
      (∀ place ∈ flow.places, flow.Finds place ∧
        ∃ visible, (flow.visibleSteps dossier)[place.index]? = some visible ∧
          visible.Shows place) ∧
      (∀ id, (∀ task ∈ flow.tasks, task.id ≠ id) →
        flow.task? id = none ∧ flow.stepOf? id = none ∧
          ∀ step ∈ steps, step.containsTask id = false) ∧
      flow.taskCount = flow.places.length ∧
      flow.taskCount = (steps.map (·.tasks.length)).sum ∧
      (flow.visibleSteps dossier).map (fun visible => (visible.step, visible.index)) =
        steps.zipIdx ∧
      (flow.visibleSteps dossier).flatMap VisibleStep.places = flow.visiblePlaces dossier := by
  obtain rfl := steps_of_make made
  refine ⟨rfl, ?_, ?_, ?_, ?_, ?_, ?_⟩
  · intro place member
    exact ⟨finds_of_mem member, shows_of_mem member dossier⟩
  · intro id unknown
    refine ⟨task?_eq_none unknown, stepOf?_eq_none unknown, ?_⟩
    intro step member
    exact containsTask_eq_false unknown member
  · exact flow.length_places.symm
  · exact flow.taskCount_eq_sum
  · exact flow.map_visibleSteps dossier
  · exact flow.flatMap_visibleSteps dossier

/-! A step without tasks between two others. -/

namespace Sample

def pause : Step where
  id := "pause"
  name := "Pause"
  tasks := []
  id_not_blank := by decide
  name_not_blank := by decide

def pausedFlow : Flow := { flow with
  steps := [application, pause, enrolment]
  taskIds_nodup := by decide }

end Sample

theorem Flow.contract_behind_pause :
    Flow.make "sample" "Sample" [Sample.application, Sample.pause, Sample.enrolment] =
        .ok Sample.pausedFlow ∧
      Sample.pausedFlow.Finds ⟨2, Sample.enrolment, Sample.contract⟩ ∧
      (∃ visible, (Sample.pausedFlow.visibleSteps (.empty "1"))[2]? = some visible ∧
        visible.Shows ⟨2, Sample.enrolment, Sample.contract⟩) ∧
      Sample.pausedFlow.task? "essay" = none ∧ Sample.pausedFlow.taskCount = 3 := by
  have made : Flow.make "sample" "Sample" [Sample.application, Sample.pause, Sample.enrolment] =
      .ok Sample.pausedFlow := rfl
  obtain ⟨_, found, unknown, _, counted, _⟩ := Flow.lookups_agree made (.empty "1")
  obtain ⟨finds, shows⟩ := found ⟨2, Sample.enrolment, Sample.contract⟩ (by decide +kernel)
  exact ⟨made, finds, shows, (unknown "essay" (by decide +kernel)).1, counted⟩

end Candidacy
