import Candidacy.Proofs.Agreement
import Mathlib.Tactic.Choose

/-!
Acceptance stays within reach of an applicant exactly as long as no task is failed for good. Whoever
always turns to the task in position, with a payload that lets it pass, gets there task by task.
-/

namespace Candidacy

/-- A payload that has what a task asks for and lets it pass. -/
structure Task.Satisfied (task : Task) (payload : Payload) : Prop where
  filled : ∀ field ∈ task.requiredFields, payload.contains field = true
  passes : task.passes payload = true

namespace Flow

/-- No task that may not be redone has failed. -/
def IsOpen (flow : Flow) (dossier : Dossier) : Prop :=
  ∀ task ∈ flow.tasks, task.redoable = false → dossier.hasFailed task.id = false

theorem isOpen_of_hasPassed {flow : Flow} {dossier : Dossier}
    (passed : ∀ task ∈ flow.tasks, dossier.hasPassed task.id = true) : flow.IsOpen dossier :=
  fun task member _ => Dossier.hasFailed_eq_false_of_hasPassed (passed task member)

theorem isOpen_file {flow : Flow} {dossier : Dossier} {submission : Submission} {task : Task}
    (isOpen : flow.IsOpen dossier) (passes : task.passes submission.payload = true) :
    flow.IsOpen (dossier.file (submission.verdict task)) := by
  intro other member final
  by_cases same : task.id = other.id
  · rw [← same]
    have verdictPassed : (submission.verdict task).passed = true := passes
    have verdictFailed := Dossier.hasFailed_file_self dossier (submission.verdict task)
    rw [verdictPassed] at verdictFailed
    exact verdictFailed
  · rw [Dossier.hasFailed_file_other dossier same]
    exact isOpen other member final

/-! A failure that may not be redone is never made good. -/

theorem isOpen_of_file {flow : Flow} {dossier : Dossier} {submission : Submission} {task : Task}
    (accepted : flow.accept dossier submission.identifier submission.payload = .ok task)
    (isOpen : flow.IsOpen (dossier.file (submission.verdict task))) : flow.IsOpen dossier := by
  intro other otherMember final
  by_cases same : task.id = other.id
  · have identical := task_eq_of_id_eq (mem_tasks_of_accept accepted) otherMember same
    subst identical
    by_contra failed
    have decided := (dossier.hasVerdict_iff task.id).mpr (.inr (by simpa using failed))
    simp [undecided_of_accept accepted final] at decided
  · have kept := isOpen other otherMember final
    rwa [Dossier.hasFailed_file_other dossier same] at kept

end Flow

namespace Desk

theorem isOpen_of_submit {desk : Desk Roster} {id : String} {submission : Submission}
    (isOpen : desk.flow.IsOpen ((desk.submit id submission).2.registry.dossier id)) :
    desk.flow.IsOpen (desk.registry.dossier id) := by
  obtain ⟨kept, _⟩ | ⟨_, other, _⟩ | ⟨_, task, _, accepted, filed, _⟩ :=
    desk.dossier_serve_cases (.submit id submission) id
  · exact kept ▸ isOpen
  · cases other
  · exact Flow.isOpen_of_file accepted (filed ▸ isOpen)

theorem isOpen_of_submissions {desk : Desk Roster} {id : String} (submissions : List Submission)
    (isOpen : desk.flow.IsOpen
      ((desk.serveAll (submissions.map (.submit id))).registry.dossier id)) :
    desk.flow.IsOpen (desk.registry.dossier id) := by
  induction submissions generalizing desk with
  | nil => exact isOpen
  | cons submission rest ih =>
      apply isOpen_of_submit
      rw [← flow_submit desk id submission]
      apply ih
      rwa [flow_submit]

end Desk

theorem Flow.hasPassed_of_standing {flow : Flow} {requests : List Request} {id : String}
    (accepted : (flow.deskAfter requests).standing id = .ok .accepted) :
    ∀ task ∈ flow.tasks,
      ((flow.deskAfter requests).registry.dossier id).hasPassed task.id = true := by
  obtain ⟨dossier, found, _⟩ := bind_eq_ok_iff.mp accepted
  have known := Desk.knows_of_knownDossier found
  obtain ⟨filings, _, reached⟩ := flow.reaches_dossier requests id
  rw [Desk.standing_of_knows known, flow_deskAfter, Except.ok.injEq] at accepted
  exact reached.covers.standing_eq_accepted_iff.mp accepted

/-! A submission that lets the task in position pass. -/

theorem Flow.Covers.passedCount_file {flow : Flow} {dossier : Dossier} {submission : Submission}
    {task : Task} (covers : flow.Covers dossier) (member : task ∈ flow.tasks)
    (unpassed : dossier.hasPassed task.id = false)
    (passes : task.passes submission.payload = true) :
    (dossier.file (submission.verdict task)).passedCount = dossier.passedCount + 1 := by
  rw [(covers.file member submission).passedCount_eq, covers.passedCount_eq]
  apply countP_eq_succ flow.tasks_nodup member
  · exact (Dossier.hasPassed_file_self dossier (submission.verdict task)).trans passes
  · exact unpassed
  · intro other otherMember different
    apply Dossier.hasPassed_file_other dossier
    intro same
    exact different (task_eq_of_id_eq member otherMember same).symm

namespace Desk

/-- A desk of the flow that has come about by requests, where the applicant is known and has
failed nothing for good. -/
structure IsOnCourse (desk : Desk Roster) (flow : Flow) (id : String) : Prop where
  history : ∃ requests, desk = flow.deskAfter requests
  known : desk.Knows id
  isOpen : flow.IsOpen (desk.registry.dossier id)

namespace IsOnCourse

variable {desk : Desk Roster} {flow : Flow} {id : String}

theorem flow_eq (onCourse : desk.IsOnCourse flow id) : desk.flow = flow := by
  obtain ⟨requests, rfl⟩ := onCourse.history
  exact flow.flow_deskAfter requests

theorem reached (onCourse : desk.IsOnCourse flow id) :
    ∃ filings, flow.Reaches id filings (desk.registry.dossier id) := by
  obtain ⟨requests, rfl⟩ := onCourse.history
  obtain ⟨filings, _, reached⟩ := flow.reaches_dossier requests id
  exact ⟨filings, reached⟩

theorem covers (onCourse : desk.IsOnCourse flow id) : flow.Covers (desk.registry.dossier id) := by
  obtain ⟨_, reached⟩ := onCourse.reached
  exact reached.covers

theorem passedCount_eq_iff (onCourse : desk.IsOnCourse flow id) :
    (desk.registry.dossier id).passedCount = flow.taskCount ↔
      ∀ task ∈ flow.tasks, (desk.registry.dossier id).hasPassed task.id = true := by
  rw [onCourse.covers.passedCount_eq, ← flow.length_tasks, List.countP_eq_length]

theorem position?_eq_none (onCourse : desk.IsOnCourse flow id)
    (finished : (desk.registry.dossier id).passedCount = flow.taskCount) :
    desk.position? id = .ok none := by
  rw [position?_of_knows onCourse.known, onCourse.flow_eq,
    Flow.position_eq_none_iff.mpr (onCourse.passedCount_eq_iff.mp finished)]

theorem exists_position (onCourse : desk.IsOnCourse flow id)
    (unfinished : (desk.registry.dossier id).passedCount < flow.taskCount) :
    ∃ place, flow.position? (desk.registry.dossier id) = some place := by
  cases current : flow.position? (desk.registry.dossier id) with
  | some place => exact ⟨place, rfl⟩
  | none =>
      have passed := Flow.position_eq_none_iff.mp current
      have finished := onCourse.passedCount_eq_iff.mpr passed
      omega

theorem accept_of_position (onCourse : desk.IsOnCourse flow id) {place : Place}
    (current : flow.position? (desk.registry.dossier id) = some place)
    (addressed : flow.Addresses place.task) {payload : Payload}
    (satisfied : place.task.Satisfied payload) :
    flow.accept (desk.registry.dossier id) place.task.id payload = .ok place.task := by
  obtain ⟨filings, reached⟩ := onCourse.reached
  have member := Flow.task_mem_of_mem_places (Flow.mem_places_of_position current)
  rw [Flow.accept_at_position reached.inOrder current addressed, if_neg,
    if_pos (Task.missingFields_isEmpty_iff.mpr satisfied.filled)]
  rintro ⟨final, decided⟩
  have failed := Flow.hasFailed_of_position current decided
  simp [onCourse.isOpen place.task member final] at failed

/-- The task in position, once handed in, is passed, and the applicant stays on course. -/
theorem submit_of_position (onCourse : desk.IsOnCourse flow id) {place : Place}
    (current : flow.position? (desk.registry.dossier id) = some place)
    (addressed : flow.Addresses place.task) {payload : Payload}
    (satisfied : place.task.Satisfied payload) (now : Instant) :
    ∃ receipt changed, desk.submit id ⟨place.task.id, payload, now⟩ = (.ok receipt, changed) ∧
      changed.IsOnCourse flow id ∧
      (changed.registry.dossier id).passedCount =
        (desk.registry.dossier id).passedCount + 1 := by
  let submission : Submission := ⟨place.task.id, payload, now⟩
  have accepted : desk.flow.accept (desk.registry.dossier id) submission.identifier
      submission.payload = .ok place.task := by
    rw [onCourse.flow_eq]
    exact onCourse.accept_of_position current addressed satisfied
  obtain ⟨registry, filed, answered⟩ := submit_of_accepted onCourse.known accepted
  have changed : registry.dossier id =
      (desk.registry.dossier id).file (submission.verdict place.task) :=
    Roster.dossier_file_self filed
  have member := Flow.task_mem_of_mem_places (Flow.mem_places_of_position current)
  have after : IsOnCourse { desk with registry } flow id := by
    constructor
    · obtain ⟨requests, served⟩ := onCourse.history
      refine ⟨requests ++ [.submit id submission], ?_⟩
      rw [Flow.deskAfter_append_singleton, ← served, serve, answered]
    · exact knows_iff.mpr (Roster.enrolled_of_file filed)
    · change flow.IsOpen (registry.dossier id)
      rw [changed]
      exact Flow.isOpen_file onCourse.isOpen satisfied.passes
  refine ⟨_, _, answered, after, ?_⟩
  change (registry.dossier id).passedCount = _
  rw [changed]
  exact onCourse.covers.passedCount_file member (Flow.hasPassed_of_position current)
    satisfied.passes

end IsOnCourse

/-- The desk after a payload has been handed in for the task in position. -/
def answerPosition (desk : Desk Roster) (id : String) (payload : Task → Payload) (now : Instant) :
    Desk Roster :=
  match desk.position? id with
  | .ok (some place) => (desk.complete id place.task.id (payload place.task) now).2
  | _ => desk

def guided (desk : Desk Roster) (id : String) (payloads : Nat → Task → Payload)
    (clock : Nat → Instant) : Nat → Desk Roster
  | 0 => desk
  | round + 1 =>
      (desk.guided id payloads clock round).answerPosition id (payloads round) (clock round)

theorem exists_submissions_guided (desk : Desk Roster) (id : String)
    (payloads : Nat → Task → Payload) (clock : Nat → Instant) (rounds : Nat) :
    ∃ submissions : List Submission,
      desk.guided id payloads clock rounds = desk.serveAll (submissions.map (.submit id)) := by
  induction rounds with
  | zero => exact ⟨[], rfl⟩
  | succ round ih =>
      obtain ⟨submissions, served⟩ := ih
      rw [guided, answerPosition]
      split
      · next place _ =>
          let submission : Submission := ⟨place.task.id, payloads round place.task, clock round⟩
          refine ⟨submissions ++ [submission], ?_⟩
          rw [List.map_append, serveAll_append, ← served]
          rfl
      · exact ⟨submissions, served⟩

/-- Every one of these rounds is accepted, and the last one and no earlier one makes the applicant
accepted. -/
structure IsAcceptedAfter (desk : Desk Roster) (id : String) (payloads : Nat → Task → Payload)
    (clock : Nat → Instant) (rounds : Nat) : Prop where
  answered : ∀ round < rounds, ∃ place receipt,
    (desk.guided id payloads clock round).position? id = .ok (some place) ∧
      (desk.guided id payloads clock round).complete id place.task.id
        (payloads round place.task) (clock round) =
          (.ok receipt, desk.guided id payloads clock (round + 1))
  notSooner : ∀ round < rounds, (desk.guided id payloads clock round).standing id ≠ .ok .accepted
  position : (desk.guided id payloads clock rounds).position? id = .ok none
  standing : (desk.guided id payloads clock rounds).standing id = .ok .accepted

namespace IsOnCourse

variable {desk : Desk Roster} {flow : Flow} {id : String}

theorem of_answerPosition (onCourse : desk.IsOnCourse flow id)
    (unfinished : (desk.registry.dossier id).passedCount < flow.taskCount)
    (addressed : ∀ task ∈ flow.tasks, flow.Addresses task) {payload : Task → Payload}
    (satisfied : ∀ task ∈ flow.tasks, task.Satisfied (payload task)) (now : Instant) :
    let changed := desk.answerPosition id payload now
    (∃ place receipt, desk.position? id = .ok (some place) ∧
        desk.complete id place.task.id (payload place.task) now = (.ok receipt, changed)) ∧
      changed.IsOnCourse flow id ∧
      (changed.registry.dossier id).passedCount =
        (desk.registry.dossier id).passedCount + 1 := by
  intro changed
  obtain ⟨place, current⟩ := onCourse.exists_position unfinished
  have member := Flow.task_mem_of_mem_places (Flow.mem_places_of_position current)
  obtain ⟨receipt, after, answered, course, counted⟩ :=
    onCourse.submit_of_position current (addressed _ member) (satisfied _ member) now
  have shown : desk.position? id = .ok (some place) := by
    rw [position?_of_knows onCourse.known, onCourse.flow_eq, current]
  have completed : desk.complete id place.task.id (payload place.task) now =
      (.ok receipt, after) := answered
  have same : changed = after := by
    simp only [changed, Desk.answerPosition, shown, completed]
  rw [same]
  exact ⟨⟨place, receipt, shown, completed⟩, course, counted⟩

theorem of_guided (onCourse : desk.IsOnCourse flow id)
    (addressed : ∀ task ∈ flow.tasks, flow.Addresses task)
    {payloads : Nat → Task → Payload}
    (satisfied : ∀ round, ∀ task ∈ flow.tasks, task.Satisfied (payloads round task))
    (clock : Nat → Instant) {rounds : Nat}
    (bound : (desk.registry.dossier id).passedCount + rounds ≤ flow.taskCount) :
    (desk.guided id payloads clock rounds).IsOnCourse flow id ∧
      ((desk.guided id payloads clock rounds).registry.dossier id).passedCount =
        (desk.registry.dossier id).passedCount + rounds := by
  induction rounds with
  | zero => exact ⟨onCourse, rfl⟩
  | succ round ih =>
      obtain ⟨before, counted⟩ := ih (by omega)
      obtain ⟨_, course, next⟩ :=
        before.of_answerPosition (by omega) addressed (satisfied round) (clock round)
      exact ⟨course, by rw [Desk.guided, next, counted, Nat.add_assoc]⟩

theorem standing_eq_accepted_iff (onCourse : desk.IsOnCourse flow id) :
    desk.standing id = .ok .accepted ↔
      (desk.registry.dossier id).passedCount = flow.taskCount := by
  rw [standing_of_knows onCourse.known, onCourse.flow_eq, Except.ok.injEq,
    onCourse.covers.standing_eq_accepted_iff, onCourse.passedCount_eq_iff]

theorem isAcceptedAfter (onCourse : desk.IsOnCourse flow id)
    (addressed : ∀ task ∈ flow.tasks, flow.Addresses task)
    {payloads : Nat → Task → Payload}
    (satisfied : ∀ round, ∀ task ∈ flow.tasks, task.Satisfied (payloads round task))
    (clock : Nat → Instant) :
    ∃ rounds, (desk.registry.dossier id).passedCount + rounds = flow.taskCount ∧
      desk.IsAcceptedAfter id payloads clock rounds := by
  have bound := onCourse.covers.passedCount_le
  refine ⟨flow.taskCount - (desk.registry.dossier id).passedCount, by omega, ?_⟩
  have stages (round : Nat)
      (early : round ≤ flow.taskCount - (desk.registry.dossier id).passedCount) :
      (desk.guided id payloads clock round).IsOnCourse flow id ∧
        ((desk.guided id payloads clock round).registry.dossier id).passedCount =
          (desk.registry.dossier id).passedCount + round :=
    onCourse.of_guided addressed satisfied clock (by omega)
  constructor
  · intro round early
    obtain ⟨course, counted⟩ := stages round (Nat.le_of_lt early)
    obtain ⟨answered, _⟩ :=
      course.of_answerPosition (by omega) addressed (satisfied round) (clock round)
    exact answered
  · intro round early accepted
    obtain ⟨course, counted⟩ := stages round (Nat.le_of_lt early)
    have finished := course.standing_eq_accepted_iff.mp accepted
    omega
  · obtain ⟨course, counted⟩ := stages _ (Nat.le_refl _)
    exact course.position?_eq_none (by omega)
  · obtain ⟨course, counted⟩ := stages _ (Nat.le_refl _)
    exact course.standing_eq_accepted_iff.mpr (by omega)

end IsOnCourse

end Desk

/-- Acceptance can still be reached exactly if no task that may not be redone has failed. Whoever
then keeps handing in the task in position, with a payload that lets it pass, is accepted after as
many rounds as there are tasks not passed yet. -/
theorem Flow.acceptance_within_reach (flow : Flow) (requests : List Request) (id : String)
    (addressed : ∀ task ∈ flow.tasks, flow.Addresses task)
    (passable : ∀ task ∈ flow.tasks, ∃ payload, task.Satisfied payload)
    (known : (flow.deskAfter requests).Knows id) :
    let desk := flow.deskAfter requests
    let dossier := desk.registry.dossier id
    ((∃ submissions : List Submission,
        (desk.serveAll (submissions.map (.submit id))).standing id = .ok .accepted) ↔
      flow.IsOpen dossier) ∧
    (flow.IsOpen dossier → ∀ payloads clock,
      (∀ round, ∀ task ∈ flow.tasks, task.Satisfied (payloads round task)) →
        ∃ rounds, dossier.passedCount + rounds = flow.taskCount ∧
          desk.IsAcceptedAfter id payloads clock rounds) := by
  intro desk dossier
  have sameFlow : desk.flow = flow := flow.flow_deskAfter requests
  have start (isOpen : flow.IsOpen dossier) : desk.IsOnCourse flow id :=
    ⟨⟨requests, rfl⟩, known, isOpen⟩
  refine ⟨⟨?_, ?_⟩, ?_⟩
  · rintro ⟨submissions, accepted⟩
    have served : desk.serveAll (submissions.map (.submit id)) =
        flow.deskAfter (requests ++ submissions.map (.submit id)) :=
      (Desk.serveAll_append _ requests _).symm
    rw [served] at accepted
    have passed := hasPassed_of_standing accepted
    have isOpen := isOpen_of_hasPassed passed
    rw [← served] at isOpen
    rw [← sameFlow] at isOpen ⊢
    exact Desk.isOpen_of_submissions submissions isOpen
  · intro isOpen
    choose! payload satisfied using passable
    obtain ⟨rounds, _, finished⟩ := (start isOpen).isAcceptedAfter addressed
      (fun _ => satisfied) (fun _ => ⟨0, 0⟩)
    obtain ⟨submissions, served⟩ := desk.exists_submissions_guided id _ _ rounds
    exact ⟨submissions, served ▸ finished.standing⟩
  · intro isOpen payloads clock satisfied
    exact (start isOpen).isAcceptedAfter addressed satisfied clock

theorem Flow.accepted_after_two_rounds :
    let desk := Sample.flow.deskAfter Sample.requests
    (∀ task ∈ Sample.flow.tasks, Sample.flow.Addresses task) ∧
      (∀ task ∈ Sample.flow.tasks, ∃ payload, task.Satisfied payload) ∧
      desk.Knows "1" ∧
      desk.IsAcceptedAfter "1" (fun _ _ => Sample.consent "yes") (fun _ => ⟨3, 0⟩) 2 := by
  intro desk
  have filled : ∀ task ∈ Sample.flow.tasks, ∀ field ∈ task.requiredFields,
      (Sample.consent "yes").contains field = true := by decide
  have passes : ∀ task ∈ Sample.flow.tasks, task.passes (Sample.consent "yes") = true := by decide
  have satisfied : ∀ task ∈ Sample.flow.tasks, task.Satisfied (Sample.consent "yes") :=
    fun task member => ⟨filled task member, passes task member⟩
  have passable : ∀ task ∈ Sample.flow.tasks, ∃ payload, task.Satisfied payload :=
    fun task member => ⟨_, satisfied task member⟩
  have isOpen : ∀ task ∈ Sample.flow.tasks, task.redoable = false →
      (desk.registry.dossier "1").hasFailed task.id = false := by decide +kernel
  obtain ⟨_, finishes⟩ := Sample.flow.acceptance_within_reach Sample.requests "1"
    Sample.addresses passable Sample.knows
  obtain ⟨rounds, total, finished⟩ := finishes isOpen _ (fun _ => ⟨3, 0⟩) (fun _ => satisfied)
  have passedOne : (desk.registry.dossier "1").passedCount = 1 := by decide +kernel
  have three : Sample.flow.taskCount = 3 := rfl
  rw [passedOne, three] at total
  obtain rfl : rounds = 2 := by omega
  exact ⟨Sample.addresses, passable, Sample.knows, finished⟩

end Candidacy
