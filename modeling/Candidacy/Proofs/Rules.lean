import Candidacy.Proofs.Order
import Candidacy.Submission

/-!
Which submissions a flow accepts: each check is said in terms of the place of the task, and the
checks together in terms of what an accepted submission has to meet.
-/

namespace Candidacy

/-! Results that may be refusals, one after the other. -/

section Results

variable {ε α β : Type _}

@[simp] theorem ok_bind (a : α) (next : α → Except ε β) : (Except.ok a >>= next) = next a := rfl

@[simp] theorem error_bind (e : ε) (next : α → Except ε β) :
    (Except.error e >>= next) = .error e := rfl

theorem bind_eq_ok_iff {result : Except ε α} {next : α → Except ε β} {b : β} :
    (result >>= next) = .ok b ↔ ∃ a, result = .ok a ∧ next a = .ok b := by
  cases result <;> simp

end Results

/-! Addressing. -/

theorem Task.answersTo_id (task : Task) : task.answersTo task.id = true := by
  simp [answersTo]

namespace Flow

/-- No task before this one answers to its id. -/
def Addresses (flow : Flow) (task : Task) : Prop :=
  ∀ earlier, [earlier, task].Sublist flow.tasks → earlier.answersTo task.id = false

theorem resolve_eq_ok_iff {flow : Flow} {identifier : String} {dossier : Dossier} {task : Task} :
    flow.resolve identifier dossier = .ok task ↔
      flow.tasks.find? (·.answersTo identifier) = some task := by
  simp only [resolve, map_task_places, Task.isVisible_eq_true, Bool.and_true]
  cases flow.tasks.find? (·.answersTo identifier) <;> simp

theorem resolve_id {flow : Flow} {task : Task} (member : task ∈ flow.tasks)
    (addressed : flow.Addresses task) (dossier : Dossier) :
    flow.resolve task.id dossier = .ok task :=
  resolve_eq_ok_iff.mpr (find?_eq_some_of_first member task.answersTo_id addressed)

theorem exists_place_of_resolve {flow : Flow} {identifier : String} {dossier : Dossier}
    {task : Task} (resolved : flow.resolve identifier dossier = .ok task) :
    ∃ place ∈ flow.places, place.task = task :=
  exists_place (List.mem_of_find?_eq_some (resolve_eq_ok_iff.mp resolved))

theorem containingStep_task {flow : Flow} {place : Place} (member : place ∈ flow.places) :
    flow.containingStep place.task = .ok place.step := by
  rw [containingStep, stepOf?_task member]

end Flow

/-! The checks on a submission for a task of the flow. -/

namespace Place

theorem checkOrder_task {flow : Flow} {place : Place} (member : place ∈ flow.places)
    (dossier : Dossier) :
    place.step.checkOrder place.task dossier =
      match place.earlier.find? (!dossier.hasPassed ·.id) with
      | some prerequisite => .error (.outOfOrder place.task.name prerequisite.name)
      | none => .ok () := by
  have contained : ∃ task ∈ place.step.tasks, (task.id == place.task.id) = true :=
    ⟨place.task, (Flow.mem_places.mp member).2, by simp⟩
  have position : place.step.tasks.findIdx? (·.id == place.task.id) =
      some (place.step.tasks.findIdx (·.id == place.task.id)) :=
    List.findIdx?_eq_some_iff_findIdx_eq.mpr ⟨List.findIdx_lt_length.mpr contained, rfl⟩
  have front : place.step.tasks.take (place.step.tasks.findIdx (·.id == place.task.id)) =
      place.earlier := by
    simp [earlier, List.takeWhile_eq_take_findIdx_not, bne]
  cases unmet : place.earlier.find? (!dossier.hasPassed ·.id) with
  | none => simp [Step.checkOrder, Step.visibleTasks_eq, position, front, unmet]
  | some prerequisite => simp [Step.checkOrder, Step.visibleTasks_eq, position, front, unmet]

/-- What a submission for a task has to meet. -/
structure Admits (place : Place) (dossier : Dossier) (payload : Payload) : Prop where
  undecided : place.task.redoable = false → dossier.hasVerdict place.task.id = false
  prepared : ∀ task ∈ place.earlier, dossier.hasPassed task.id = true
  filled : ∀ field ∈ place.task.requiredFields, payload.contains field = true

theorem Admits.redoable {place : Place} {dossier : Dossier} {payload : Payload}
    (admitted : place.Admits dossier payload) (decided : dossier.hasVerdict place.task.id = true) :
    place.task.redoable = true := by
  by_contra final
  have undecided := admitted.undecided (by simpa using final)
  simp [decided] at undecided

end Place

theorem Task.checkRedoable_of_undecided (task : Task) {dossier : Dossier}
    (undecided : task.redoable = false → dossier.hasVerdict task.id = false) :
    task.checkRedoable dossier = .ok () := by
  cases may : task.redoable with
  | true => simp [checkRedoable, may]
  | false => simp [checkRedoable, may, undecided may]

theorem Task.missingFields_isEmpty_iff {task : Task} {payload : Payload} :
    (task.missingFields payload).isEmpty = true ↔
      ∀ field ∈ task.requiredFields, payload.contains field = true := by
  simp [NameSet.isEmpty_iff, Task.mem_missingFields]

namespace Flow

variable {flow : Flow} {place : Place} {dossier : Dossier} {identifier : String} {payload : Payload}

theorem accept_of_resolve (member : place ∈ flow.places)
    (resolved : flow.resolve identifier dossier = .ok place.task) :
    flow.accept dossier identifier payload =
      (do
        place.task.checkRedoable dossier
        place.step.checkOrder place.task dossier
        place.task.checkFields payload
        return place.task) := by
  simp only [accept, resolved, containingStep_task member, ok_bind]

theorem accept_decided (member : place ∈ flow.places)
    (resolved : flow.resolve identifier dossier = .ok place.task)
    (final : place.task.redoable = false) (decided : dossier.hasVerdict place.task.id = true) :
    flow.accept dossier identifier payload = .error (.alreadyDone place.task.name) := by
  rw [accept_of_resolve member resolved]
  simp [Task.checkRedoable, final, decided]

theorem accept_of_prepared (member : place ∈ flow.places)
    (resolved : flow.resolve identifier dossier = .ok place.task)
    (undecided : place.task.redoable = false → dossier.hasVerdict place.task.id = false)
    (prepared : ∀ task ∈ place.earlier, dossier.hasPassed task.id = true) :
    flow.accept dossier identifier payload =
      if (place.task.missingFields payload).isEmpty then .ok place.task
      else .error (.missingFields place.task.name (place.task.missingFields payload)) := by
  have redoable := place.task.checkRedoable_of_undecided undecided
  have order : place.step.checkOrder place.task dossier = .ok () := by
    have nothing : place.earlier.find? (!dossier.hasPassed ·.id) = none :=
      List.find?_eq_none.mpr fun task inFront => by simp [prepared task inFront]
    rw [Place.checkOrder_task member, nothing]
  rw [accept_of_resolve member resolved, redoable, order, Task.checkFields]
  split <;> rfl

/-- An accepted submission is for a task of the flow that admits it. -/
theorem admits_of_accept {task : Task}
    (accepted : flow.accept dossier identifier payload = .ok task) :
    ∃ place ∈ flow.places, place.task = task ∧ place.Admits dossier payload := by
  obtain ⟨first, resolved, _⟩ := bind_eq_ok_iff.mp accepted
  obtain ⟨place, member, rfl⟩ := exists_place_of_resolve resolved
  rw [accept_of_resolve member resolved] at accepted
  obtain ⟨_, redoable, accepted⟩ := bind_eq_ok_iff.mp accepted
  obtain ⟨_, order, accepted⟩ := bind_eq_ok_iff.mp accepted
  obtain ⟨_, fields, accepted⟩ := bind_eq_ok_iff.mp accepted
  refine ⟨place, member, Except.ok.inj accepted, ?_, ?_, ?_⟩
  · intro final
    simpa [Task.checkRedoable, final] using redoable
  · rw [Place.checkOrder_task member] at order
    intro task inFront
    cases unmet : place.earlier.find? (!dossier.hasPassed ·.id) with
    | none => simpa using List.find?_eq_none.mp unmet task inFront
    | some prerequisite => simp [unmet] at order
  · apply Task.missingFields_isEmpty_iff.mp
    simpa [Task.checkFields] using fields

variable {task : Task}

theorem mem_tasks_of_accept (accepted : flow.accept dossier identifier payload = .ok task) :
    task ∈ flow.tasks := by
  obtain ⟨place, member, rfl, _⟩ := admits_of_accept accepted
  exact task_mem_of_mem_places member

theorem undecided_of_accept (accepted : flow.accept dossier identifier payload = .ok task)
    (final : task.redoable = false) : dossier.hasVerdict task.id = false := by
  obtain ⟨place, _, rfl, admitted⟩ := admits_of_accept accepted
  exact admitted.undecided final

end Flow

end Candidacy
