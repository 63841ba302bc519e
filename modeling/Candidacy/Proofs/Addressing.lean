import Candidacy.Proofs.Precedence

/-!
Where the id of a task leads. No two tasks share an id, but an identifier is looked up in any letter
case, among ids and names, and goes to the first task that answers to it. So the id of a task leads
to that task exactly if no earlier one answers to it.
-/

namespace Candidacy

namespace Flow

variable {flow : Flow} {task : Task} {dossier : Dossier} {identifier : String}

/-- The first task that answers to an identifier. -/
structure Answers (flow : Flow) (identifier : String) (task : Task) : Prop where
  mem : task ∈ flow.tasks
  met : task.answersTo identifier = true
  unmet : ∀ earlier, [earlier, task].Sublist flow.tasks → earlier.answersTo identifier = false

theorem addresses_iff (member : task ∈ flow.tasks) :
    flow.Addresses task ↔ flow.Answers task.id task := by
  constructor
  · intro addressed
    exact ⟨member, task.answersTo_id, addressed⟩
  · intro answers
    exact answers.unmet

theorem resolve_eq_ok_iff_answers :
    flow.resolve identifier dossier = .ok task ↔ flow.Answers identifier task := by
  rw [resolve_eq_ok_iff]
  constructor
  · intro found
    obtain ⟨met, before, after, split, unmet⟩ := List.find?_eq_some_iff_append.mp found
    refine ⟨List.mem_of_find?_eq_some found, met, ?_⟩
    intro earlier ordered
    have nodup := flow.tasks_nodup
    rw [split] at nodup ordered
    simpa using unmet earlier (mem_front_of_sublist nodup ordered)
  · intro answers
    exact find?_eq_some_of_first answers.mem answers.met answers.unmet

theorem exists_answers (member : task ∈ flow.tasks) (answering : task.answersTo identifier = true) :
    ∃ first, flow.Answers identifier first := by
  cases found : flow.tasks.find? (·.answersTo identifier) with
  | none => exact absurd answering (List.find?_eq_none.mp found task member)
  | some first =>
      have resolved : flow.resolve identifier (.empty "") = .ok first := resolve_eq_ok_iff.mpr found
      exact ⟨first, resolve_eq_ok_iff_answers.mp resolved⟩

theorem Answers.accept_eq (answers : flow.Answers identifier task) :
    ∃ place ∈ flow.places, place.task = task ∧ ∀ dossier payload,
      flow.accept dossier identifier payload =
        (do
          task.checkRedoable dossier
          place.step.checkOrder task dossier
          task.checkFields payload
          return task) := by
  obtain ⟨place, member, rfl⟩ := exists_place answers.mem
  refine ⟨place, member, rfl, ?_⟩
  intro dossier payload
  exact accept_of_resolve member (resolve_eq_ok_iff_answers.mpr answers)

theorem task_of_accept {accepted : Task} {payload : Payload}
    (answers : flow.Answers identifier task)
    (acceptance : flow.accept dossier identifier payload = .ok accepted) : accepted = task := by
  obtain ⟨_, _, _, checks⟩ := answers.accept_eq
  rw [checks] at acceptance
  obtain ⟨_, _, acceptance⟩ := bind_eq_ok_iff.mp acceptance
  obtain ⟨_, _, acceptance⟩ := bind_eq_ok_iff.mp acceptance
  obtain ⟨_, _, acceptance⟩ := bind_eq_ok_iff.mp acceptance
  exact (Except.ok.inj acceptance).symm

/-- The id of a task leads to the first task that answers to it, which is the task itself exactly if
no earlier one does. A submission under it is then checked against the task in its own step, and an
accepted one is filed under it. -/
theorem id_leads_to_first (flow : Flow) {task : Task} (member : task ∈ flow.tasks) :
    (∀ dossier, ∃ first, flow.Answers task.id first ∧
      flow.resolve task.id dossier = .ok first) ∧
    (∀ dossier, flow.resolve task.id dossier = .ok task ↔ flow.Addresses task) ∧
    (flow.Addresses task →
      (∃ place ∈ flow.places, place.task = task ∧ ∀ dossier payload,
        flow.accept dossier task.id payload =
          (do
            task.checkRedoable dossier
            place.step.checkOrder task dossier
            task.checkFields payload
            return task)) ∧
      ∀ (registry : Roster) (id : String) (payload : Payload) (now : Instant) (receipt : Receipt),
        let desk : Desk Roster := ⟨flow, registry⟩
        (desk.complete id task.id payload now).1 = .ok receipt →
          receipt.task = task ∧
          (desk.complete id task.id payload now).2.registry.dossier id =
            (registry.dossier id).file (Desk.verdictOn task payload now)) := by
  refine ⟨?_, ?_, ?_⟩
  · intro dossier
    obtain ⟨first, answers⟩ := exists_answers member task.answersTo_id
    exact ⟨first, answers, resolve_eq_ok_iff_answers.mpr answers⟩
  · intro dossier
    rw [resolve_eq_ok_iff_answers, addresses_iff member]
  · intro addressed
    have answers := (addresses_iff member).mp addressed
    refine ⟨answers.accept_eq, ?_⟩
    intro registry id payload now receipt desk answered
    obtain ⟨_, acceptance, filed, _⟩ :=
      @Desk.accepted_of_submit desk id ⟨task.id, payload, now⟩ receipt answered
    have same : receipt.task = task := task_of_accept answers acceptance
    rw [same] at filed
    exact ⟨same, filed⟩

end Flow

/-! Two tasks that answer to ids of later ones: to one in other letters, to the other by name. -/

namespace Sample

def interview : Task := { form with
  id := "interview"
  name := "TALK"
  id_not_blank := by decide
  name_not_blank := by decide }

def secondInterview : Task := { talk with
  id := "INTERVIEW"
  name := "Second Interview"
  id_not_blank := by decide
  name_not_blank := by decide }

def echoFlow : Flow where
  id := "echo"
  name := "Echo"
  steps := [{ application with tasks := [interview, secondInterview, talk] }, enrolment]
  id_not_blank := by decide
  name_not_blank := by decide
  taskIds_nodup := by decide

end Sample

namespace Flow

theorem contract_found_by_id :
    let desk : Desk Roster := ⟨Sample.echoFlow,
      (Sample.echoFlow.deskAfter [.register "ada@example.org"]).registry⟩
    Sample.contract ∈ Sample.echoFlow.tasks ∧ Sample.echoFlow.Addresses Sample.contract ∧
      ∃ receipt, (desk.complete "1" "contract" [] ⟨0, 0⟩).1 = .ok receipt ∧
        receipt.task = Sample.contract := by
  intro desk
  have member : Sample.contract ∈ Sample.echoFlow.tasks := by decide +kernel
  obtain ⟨_, addressed_iff, filed⟩ := Sample.echoFlow.id_leads_to_first member
  have resolved : Sample.echoFlow.resolve "contract" (.empty "1") = .ok Sample.contract := by
    decide +kernel
  have addressed := (addressed_iff _).mp resolved
  have accepted : ∃ receipt, (desk.complete "1" "contract" [] ⟨0, 0⟩).1 = .ok receipt := ⟨_, rfl⟩
  obtain ⟨receipt, answered⟩ := accepted
  obtain ⟨_, whenAnswered⟩ := filed addressed
  obtain ⟨same, _⟩ := whenAnswered _ "1" [] ⟨0, 0⟩ receipt answered
  exact ⟨member, addressed, receipt, answered, same⟩

theorem ids_lead_to_interview :
    let flow := Sample.echoFlow
    let desk := flow.deskAfter [.register "ada@example.org"]
    let changed := (desk.complete "1" Sample.talk.id (Sample.consent "yes") ⟨0, 0⟩).2
    Sample.secondInterview ∈ flow.tasks ∧ Sample.talk ∈ flow.tasks ∧
      flow.resolve Sample.secondInterview.id (.empty "1") = .ok Sample.interview ∧
      flow.resolve Sample.talk.id (.empty "1") = .ok Sample.interview ∧
      Sample.interview ≠ Sample.secondInterview ∧ Sample.interview ≠ Sample.talk ∧
      (changed.registry.dossier "1").hasVerdict Sample.interview.id = true ∧
      (changed.registry.dossier "1").hasVerdict Sample.talk.id = false := by
  decide +kernel

end Flow

end Candidacy
