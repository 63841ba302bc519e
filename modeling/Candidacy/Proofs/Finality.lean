import Candidacy.Proofs.Ledger

/-!
A task that may not be redone is decided by the first submission accepted for it. No later request
changes the verdict, and if it is a failure the applicant stays rejected.
-/

namespace Candidacy

namespace Flow

variable {flow : Flow} {task : Task} {dossier : Dossier} {submission : Submission}

/-! One accepted submission. -/

theorem task_eq_of_accept {accepted : Task} {identifier : String} {payload : Payload}
    (member : task ∈ flow.tasks)
    (acceptance : flow.accept dossier identifier payload = .ok accepted)
    (same : accepted.id = task.id) : accepted = task :=
  task_eq_of_id_eq (mem_tasks_of_accept acceptance) member same

theorem verdict?_file_of_final {accepted : Task} {verdict : Verdict} (member : task ∈ flow.tasks)
    (final : task.redoable = false) (stands : dossier.verdict? task.id = some verdict)
    (acceptance : flow.accept dossier submission.identifier submission.payload = .ok accepted) :
    (dossier.file (submission.verdict accepted)).verdict? task.id = some verdict := by
  by_cases same : accepted.id = task.id
  · have identical := task_eq_of_accept member acceptance same
    subst identical
    have decided := Dossier.hasVerdict_of_verdict? stands
    simp [undecided_of_accept acceptance final] at decided
  · rw [Dossier.verdict?_file_other dossier same]
    exact stands

theorem standing_of_failure {key : String} {verdict : Verdict}
    (stands : dossier.verdict? key = some verdict) (failed : verdict.passed = false) :
    flow.standing dossier = .rejected := by
  have someFailed : dossier.anyFailed = true := by
    apply (Dossier.anyFailed_iff dossier).mpr
    exact ⟨key, by simp [Dossier.hasFailed, stands, failed]⟩
  rw [standing, if_pos someFailed]

/-! Histories. -/

theorem Reaches.timesFiled_le_one {id : String} {filings : List Filing}
    (reached : flow.Reaches id filings dossier) (member : task ∈ flow.tasks)
    (final : task.redoable = false) : timesFiled filings task ≤ 1 := by
  induction reached with
  | opened => exact Nat.zero_le 1
  | @filed filings dossier submission accepted reached acceptance ih =>
      rw [timesFiled_append_singleton]
      by_cases same : accepted.id = task.id
      · have identical := task_eq_of_accept member acceptance same
        subst identical
        -- A submission filed before would have left a verdict, and this one been refused.
        have undecided := undecided_of_accept acceptance final
        have never : timesFiled filings accepted = 0 := by
          apply List.countP_eq_zero.mpr
          intro filing filed sameTask
          have decided : dossier.hasVerdict accepted.id = true :=
            reached.records.hasVerdict_iff.mpr ⟨filing, filed, by simpa using sameTask⟩
          simp [undecided] at decided
        rw [never]
        split <;> omega
      · simpa [Submission.receipt, same] using ih

theorem verdict?_serve_of_final {requests : List Request} {id : String} {verdict : Verdict}
    (few : (flow.newcomersAfter requests).length < UInt64.size - 1) (member : task ∈ flow.tasks)
    (final : task.redoable = false)
    (stands : ((flow.deskAfter requests).registry.dossier id).verdict? task.id = some verdict)
    (request : Request) :
    ((flow.deskAfter (requests ++ [request])).registry.dossier id).verdict? task.id =
      some verdict := by
  rw [deskAfter_append_singleton]
  cases request with
  | register email =>
      rw [Desk.dossier_serve_register (flow.isNumbered_deskAfter requests few)]
      exact stands
  | submit applicant submission =>
      obtain ⟨kept, _⟩ | ⟨_, other, _⟩ | ⟨_, _, same, acceptance, filed, _⟩ :=
        (flow.deskAfter requests).dossier_serve_cases (.submit applicant submission) id
      · rw [kept]
        exact stands
      · cases other
      · rw [flow_deskAfter] at acceptance
        rw [filed]
        exact verdict?_file_of_final member final stands acceptance

theorem verdict?_append_of_final {requests : List Request} {id : String} {verdict : Verdict}
    (later : List Request)
    (few : (flow.newcomersAfter (requests ++ later)).length < UInt64.size - 1)
    (member : task ∈ flow.tasks) (final : task.redoable = false)
    (stands : ((flow.deskAfter requests).registry.dossier id).verdict? task.id = some verdict) :
    ((flow.deskAfter (requests ++ later)).registry.dossier id).verdict? task.id =
      some verdict := by
  induction later using List.reverseRecOn with
  | nil => simpa using stands
  | append_singleton later request ih =>
      rw [← List.append_assoc] at few ⊢
      have fewBefore := few_of_append few
      exact verdict?_serve_of_final fewBefore member final (ih fewBefore) request

end Flow

/-! Requests to a desk where the task has been decided. -/

namespace Desk

variable {desk : Desk Roster} {id : String} {task : Task} {verdict : Verdict}

theorem submit_decided (member : task ∈ desk.flow.tasks) (final : task.redoable = false)
    (stands : (desk.registry.dossier id).verdict? task.id = some verdict) {next : Submission}
    (resolved : desk.flow.resolve next.identifier (desk.registry.dossier id) = .ok task) :
    desk.submit id next = (.error (.alreadyDone task.name), desk) := by
  have decided := Dossier.hasVerdict_of_verdict? stands
  obtain ⟨place, placeMember, rfl⟩ := Flow.exists_place member
  exact submit_of_refused (knows_of_hasVerdict decided)
    (Flow.accept_decided placeMember resolved final decided)

theorem standing_of_receipt (member : task ∈ desk.flow.tasks) (final : task.redoable = false)
    (stands : (desk.registry.dossier id).verdict? task.id = some verdict)
    (failed : verdict.passed = false) {next : Submission} {receipt : Receipt}
    (answered : (desk.submit id next).1 = .ok receipt) : receipt.standing = .rejected := by
  obtain ⟨_, acceptance, _, same⟩ := accepted_of_submit answered
  rw [same]
  exact Flow.standing_of_failure (Flow.verdict?_file_of_final member final stands acceptance) failed

end Desk

/-- Of the submissions for a task that may not be redone at most one is accepted. From then on its
verdict stands, every other submission for the task is refused, and a failure is a rejection. -/
theorem Flow.decided_once (flow : Flow) (requests : List Request) (id : String) {task : Task}
    (few : (flow.newcomersAfter requests).length < UInt64.size - 1) (member : task ∈ flow.tasks)
    (final : task.redoable = false) :
    timesFiled (flow.filingsAfter requests id) task ≤ 1 ∧
    ∀ before submission after receipt, requests = before ++ .submit id submission :: after →
      ((flow.deskAfter before).submit id submission).1 = .ok receipt →
      receipt.task.id = task.id →
      let desk := flow.deskAfter requests
      (desk.registry.dossier id).verdict? task.id = some (submission.verdict task) ∧
      (∀ next : Submission,
        flow.resolve next.identifier (desk.registry.dossier id) = .ok task →
          desk.submit id next = (.error (.alreadyDone task.name), desk)) ∧
      (receipt.passed = false → desk.standing id = .ok .rejected ∧
        ∀ next later, (desk.submit id next).1 = .ok later → later.standing = .rejected) := by
  have reached := flow.reaches_filingsAfter requests id few
  refine ⟨reached.timesFiled_le_one member final, ?_⟩
  intro before submission after receipt split answered sameTask desk
  have sameFlow : desk.flow = flow := flow.flow_deskAfter requests
  obtain ⟨_, acceptance, filed, receipt_eq⟩ := Desk.accepted_of_submit answered
  rw [flow_deskAfter] at acceptance
  have identical := task_eq_of_accept member acceptance sameTask
  rw [identical] at filed
  have stands : (desk.registry.dossier id).verdict? task.id =
      some (submission.verdict task) := by
    have whole : requests = (before ++ [.submit id submission]) ++ after := by simp [split]
    simp only [desk, whole]
    apply verdict?_append_of_final after (whole ▸ few) member final
    rw [deskAfter_append_singleton, Desk.serve, filed]
    exact Dossier.verdict?_file_self _ (submission.verdict task)
  refine ⟨stands, ?_, ?_⟩
  · intro next resolved
    rw [← sameFlow] at member resolved
    exact Desk.submit_decided member final stands resolved
  · intro failed
    have failure : (submission.verdict task).passed = false := by
      rw [receipt_eq, identical] at failed
      exact failed
    constructor
    · have decided := Dossier.hasVerdict_of_verdict? stands
      rw [Desk.standing_of_knows (Desk.knows_of_hasVerdict decided)]
      exact congrArg Except.ok (standing_of_failure stands failure)
    · intro next later accepted
      rw [← sameFlow] at member
      exact Desk.standing_of_receipt member final stands failure accepted

/-! A form that may not be redone, and an applicant who does not consent. -/

namespace Sample

def finalForm : Task := { form with redoable := false }

def strictFlow : Flow where
  id := "strict"
  name := "Strict"
  steps := [{ application with tasks := [finalForm, talk] }, enrolment]
  id_not_blank := by decide
  name_not_blank := by decide
  taskIds_nodup := by decide

end Sample

theorem Flow.refusal_of_consent_is_final :
    let requests : List Request := [
      .register "ada@example.org",
      .submit "1" ⟨"form", Sample.consent "no", ⟨0, 0⟩⟩,
      .register "bob@example.org"]
    let desk := Sample.strictFlow.deskAfter requests
    (Sample.strictFlow.newcomersAfter requests).length < UInt64.size - 1 ∧
      Sample.finalForm ∈ Sample.strictFlow.tasks ∧ Sample.finalForm.redoable = false ∧
      desk.submit "1" ⟨"FORM", Sample.consent "yes", ⟨1, 0⟩⟩ =
        (.error (.alreadyDone "Application Form"), desk) ∧
      desk.standing "1" = .ok .rejected := by
  intro requests desk
  have few : (Sample.strictFlow.newcomersAfter requests).length < UInt64.size - 1 := by
    decide +kernel
  have member : Sample.finalForm ∈ Sample.strictFlow.tasks := List.mem_cons_self
  have answered : ∃ receipt,
      ((Sample.strictFlow.deskAfter [.register "ada@example.org"]).submit "1"
        ⟨"form", Sample.consent "no", ⟨0, 0⟩⟩).1 = .ok receipt ∧
      receipt.task = Sample.finalForm ∧ receipt.passed = false := ⟨_, rfl, rfl, rfl⟩
  have resolved : Sample.strictFlow.resolve "FORM" (desk.registry.dossier "1") =
      .ok Sample.finalForm := by decide +kernel
  obtain ⟨receipt, accepted, task, failed⟩ := answered
  obtain ⟨_, afterwards⟩ := Sample.strictFlow.decided_once requests "1" few member rfl
  obtain ⟨_, refused, rejected⟩ :=
    afterwards _ _ _ receipt rfl accepted (congrArg Task.id task)
  exact ⟨few, member, rfl, refused ⟨"FORM", Sample.consent "yes", ⟨1, 0⟩⟩ resolved,
    (rejected failed).1⟩

end Candidacy
