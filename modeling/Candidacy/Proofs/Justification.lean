import Candidacy.Proofs.Acceptance

/-!
The registry takes any verdict on any task. What it holds on a desk is nevertheless justified: all
that a submission is checked for, and the outcome, are about the one task that it is filed under.
-/

namespace Candidacy

namespace Flow

structure Justifies (flow : Flow) (task : Task) (verdict : Verdict) : Prop where
  member : task ∈ flow.tasks
  filed : verdict.task = task.id
  filled : ∀ field ∈ task.requiredFields, verdict.payload.contains field = true
  outcome : verdict.passed = task.passes verdict.payload

def IsJustified (flow : Flow) (dossier : Dossier) : Prop :=
  ∀ key verdict, dossier.verdict? key = some verdict →
    ∃ task, task.id = key ∧ flow.Justifies task verdict

variable {flow : Flow} {dossier : Dossier}

theorem IsJustified.file (justified : flow.IsJustified dossier) {submission : Submission}
    {place : Place} (member : place ∈ flow.places)
    (admitted : place.Admits dossier submission.payload) :
    flow.IsJustified (dossier.file (submission.verdict place.task)) := by
  intro key verdict stands
  by_cases same : place.task.id = key
  · subst same
    have filed := Dossier.verdict?_file_self dossier (submission.verdict place.task)
    cases filed.symm.trans stands
    exact ⟨place.task, rfl, task_mem_of_mem_places member, rfl, admitted.filled, rfl⟩
  · rw [Dossier.verdict?_file_other dossier same] at stands
    exact justified key verdict stands

theorem Reaches.isJustified {id : String} {filings : List Filing}
    (reached : flow.Reaches id filings dossier) : flow.IsJustified dossier := by
  induction reached with
  | opened =>
      intro key verdict stands
      cases stands
  | @filed filings dossier submission task _ accepted ih =>
      obtain ⟨place, member, rfl, admitted⟩ := admits_of_accept accepted
      exact ih.file member admitted

theorem IsJustified.satisfied (justified : flow.IsJustified dossier) {task : Task}
    (member : task ∈ flow.tasks) (passed : dossier.hasPassed task.id = true) :
    ∃ verdict, dossier.verdict? task.id = some verdict ∧ task.Satisfied verdict.payload := by
  obtain ⟨verdict, stands, outcome⟩ := (Option.any_eq_true _ _).mp passed
  obtain ⟨judge, same, justifies⟩ := justified task.id verdict stands
  have identical := task_eq_of_id_eq justifies.member member same
  subst identical
  exact ⟨verdict, stands, justifies.filled, justifies.outcome.symm.trans outcome⟩

/-- Every verdict on an applicant is on a task of the flow, for which all required fields were
handed in and which decides the payload this way. -/
theorem verdicts_justified (flow : Flow) (requests : List Request) (id : String)
    {applicant : Applicant}
    (found : (flow.deskAfter requests).applicant? id = .ok (some applicant)) :
    (∀ key verdict, (key, verdict) ∈ applicant.verdicts.entries →
      verdict.task = key ∧ ∃ task ∈ flow.tasks, task.id = key ∧
        (∀ field ∈ task.requiredFields, verdict.payload.contains field = true) ∧
        verdict.passed = task.passes verdict.payload) ∧
    applicant.verdicts.size ≤ flow.taskCount ∧
    ((flow.deskAfter requests).standing id = .ok .accepted →
      ∀ task ∈ flow.tasks, ∃ verdict, (task.id, verdict) ∈ applicant.verdicts.entries ∧
        task.Satisfied verdict.payload) := by
  obtain ⟨filings, _, reached⟩ := flow.reaches_dossier requests id
  rw [Desk.verdicts_of_applicant found]
  refine ⟨?_, reached.covers.size_le, ?_⟩
  · intro key verdict entry
    have stands := (Table.mem_entries_iff _ key verdict).mp entry
    obtain ⟨task, rfl, justifies⟩ := reached.isJustified key verdict stands
    exact ⟨justifies.filed, task, justifies.member, rfl, justifies.filled, justifies.outcome⟩
  · intro accepted task member
    obtain ⟨verdict, stands, satisfied⟩ :=
      reached.isJustified.satisfied member (hasPassed_of_standing accepted task member)
    exact ⟨verdict, (Table.mem_entries_iff _ _ _).mpr stands, satisfied⟩

theorem accepted_on_consent :
    let desk := Sample.flow.deskAfter (Sample.requests ++ [
      .submit "1" ⟨"FORM", Sample.consent "yes", ⟨3, 0⟩⟩,
      .submit "1" ⟨"contract", [], ⟨4, 0⟩⟩])
    ∃ applicant verdict, desk.applicant? "1" = .ok (some applicant) ∧
      desk.standing "1" = .ok .accepted ∧ ("form", verdict) ∈ applicant.verdicts.entries ∧
      Sample.form.Satisfied verdict.payload := by
  intro desk
  have known : desk.Knows "1" := by decide +kernel
  obtain ⟨applicant, found⟩ := known
  have accepted : desk.standing "1" = .ok .accepted := by decide +kernel
  obtain ⟨_, _, whenAccepted⟩ := Sample.flow.verdicts_justified _ "1" found
  obtain ⟨verdict, entry, satisfied⟩ := whenAccepted accepted Sample.form List.mem_cons_self
  exact ⟨applicant, verdict, found, accepted, entry, satisfied⟩

end Flow

end Candidacy
