import Candidacy.Proofs.History

/-!
Inside a step tasks are taken in order. A task before one with a verdict has a verdict too; that it
is passed holds at the time only, for it may be redone and fail.
-/

namespace Candidacy

/-- How often an applicant's submissions for a task were accepted. -/
def timesFiled (filings : List Filing) (task : Task) : Nat :=
  filings.countP (·.receipt.task.id == task.id)

theorem timesFiled_le_of_suffix {filings all : List Filing} (latest : filings <:+ all)
    (task : Task) : timesFiled filings task ≤ timesFiled all task :=
  latest.sublist.countP_le

theorem timesFiled_append_singleton (filings : List Filing) (filing : Filing) (task : Task) :
    timesFiled (filings ++ [filing]) task =
      timesFiled filings task + if filing.receipt.task.id = task.id then 1 else 0 := by
  simp [timesFiled, List.countP_append, List.countP_singleton]

namespace Flow

/-- In every step, a task before one with a verdict is passed, or it has failed when it was
redone. -/
def InOrder (flow : Flow) (filings : List Filing) (dossier : Dossier) : Prop :=
  ∀ step ∈ flow.steps, ∀ earlier later, [earlier, later].Sublist step.tasks →
    dossier.hasVerdict later.id = true →
      dossier.hasPassed earlier.id = true ∨
        dossier.hasFailed earlier.id = true ∧ earlier.redoable = true ∧
          2 ≤ timesFiled filings earlier

/-- Every verdict stems from an accepted submission. -/
def Accounts (filings : List Filing) (dossier : Dossier) : Prop :=
  ∀ task : Task, dossier.hasVerdict task.id = true → 1 ≤ timesFiled filings task

/-! What an accepted submission keeps. -/

section Filed

variable {flow : Flow} {id : String} {filings : List Filing} {dossier : Dossier}
variable {submission : Submission}

theorem Accounts.file (accounts : Accounts filings dossier) (task : Task) (changed : Dossier) :
    Accounts (filings ++ [⟨submission, submission.receipt task flow id changed⟩])
      (dossier.file (submission.verdict task)) := by
  intro other decided
  rw [timesFiled_append_singleton]
  by_cases same : task.id = other.id
  · simp [Submission.receipt, same]
  · rw [Dossier.hasVerdict_file_other dossier same] at decided
    exact Nat.le_trans (accounts other decided) (Nat.le_add_right _ _)

theorem InOrder.file (inOrder : flow.InOrder filings dossier)
    (accounts : Accounts filings dossier) {place : Place} (member : place ∈ flow.places)
    (admitted : place.Admits dossier submission.payload) (changed : Dossier) :
    flow.InOrder (filings ++ [⟨submission, submission.receipt place.task flow id changed⟩])
      (dossier.file (submission.verdict place.task)) := by
  intro step stepMember earlier later ordered decided
  have steps := ordered.trans (tasks_sublist_of_mem_steps stepMember)
  have earlierMember : earlier ∈ flow.tasks := steps.subset (by simp)
  have laterMember : later ∈ flow.tasks := steps.subset (by simp)
  have distinct : earlier.id ≠ later.id := by
    have nodup := flow.taskIds_nodup.sublist (steps.map Task.id)
    simpa using nodup
  rw [timesFiled_append_singleton]
  by_cases last : place.task.id = later.id
  -- The task just filed: the check of the order has looked at all tasks before it.
  · have same := task_eq_of_id_eq (task_mem_of_mem_places member) laterMember last
    subst same
    have inFront : earlier ∈ place.earlier :=
      (Place.mem_earlier_iff member).mpr ⟨step, stepMember, ordered⟩
    left
    rw [Dossier.hasPassed_file_other dossier distinct.symm]
    exact admitted.prepared earlier inFront
  · rw [Dossier.hasVerdict_file_other dossier last] at decided
    have before := inOrder step stepMember earlier later ordered decided
    by_cases redone : place.task.id = earlier.id
    -- An earlier task redone: it had a verdict, so it may be redone, and counts once more.
    · have same := task_eq_of_id_eq (task_mem_of_mem_places member) earlierMember redone
      subst same
      have wasDecided : dossier.hasVerdict place.task.id = true :=
        (dossier.hasVerdict_iff place.task.id).mpr (before.imp_right And.left)
      have times := accounts place.task wasDecided
      have verdictPassed := Dossier.hasPassed_file_self dossier (submission.verdict place.task)
      have verdictFailed := Dossier.hasFailed_file_self dossier (submission.verdict place.task)
      cases outcome : (submission.verdict place.task).passed with
      | true => exact .inl (verdictPassed.trans outcome)
      | false =>
          right
          refine ⟨verdictFailed.trans (by rw [outcome]; rfl), admitted.redoable wasDecided, ?_⟩
          simpa [Submission.receipt] using times
    · rw [Dossier.hasPassed_file_other dossier redone, Dossier.hasFailed_file_other dossier redone]
      cases before with
      | inl passed => exact .inl passed
      | inr wasRedone =>
          obtain ⟨failed, redoable, times⟩ := wasRedone
          exact .inr ⟨failed, redoable, Nat.le_trans times (Nat.le_add_right _ _)⟩

end Filed

/-! What a history keeps. -/

namespace Reaches

variable {flow : Flow} {id : String} {filings : List Filing} {dossier : Dossier}

theorem accounts (reached : flow.Reaches id filings dossier) : Accounts filings dossier := by
  induction reached with
  | opened =>
      intro task decided
      simp at decided
  | @filed filings dossier submission task reached accepted ih => exact ih.file task _

theorem inOrder (reached : flow.Reaches id filings dossier) : flow.InOrder filings dossier := by
  induction reached with
  | opened =>
      intro step stepMember earlier later ordered decided
      simp at decided
  | @filed filings dossier submission task reached accepted ih =>
      obtain ⟨place, member, rfl, admitted⟩ := admits_of_accept accepted
      exact ih.file reached.accounts member admitted _

end Reaches

/-- If a task of a step has a verdict, then so has every task before it in the step, and those of
them that may not be redone are passed. One that is failed now was accepted more than once. -/
theorem earlier_decided_of_decided (flow : Flow) (requests : List Request) (id : String)
    {step : Step} (member : step ∈ flow.steps) {i j : Nat} (before : i < j)
    (bound : j < step.tasks.length)
    (decided : ((flow.deskAfter requests).registry.dossier id).hasVerdict
      step.tasks[j].id = true) :
    let dossier := (flow.deskAfter requests).registry.dossier id
    let earlier := step.tasks[i]
    dossier.hasVerdict earlier.id = true ∧
      (earlier.redoable = false → dossier.hasPassed earlier.id = true) ∧
      (dossier.hasFailed earlier.id = true →
        earlier.redoable = true ∧ 2 ≤ timesFiled (flow.filingsAfter requests id) earlier) := by
  intro dossier earlier
  obtain ⟨filings, latest, reached⟩ := flow.reaches_dossier requests id
  have ordered : [earlier, step.tasks[j]].Sublist step.tasks := by
    have pairs : step.tasks.Pairwise fun first second => [first, second].Sublist step.tasks :=
      List.pairwise_iff_forall_sublist.mpr fun ordered => ordered
    exact List.pairwise_iff_getElem.mp pairs i j (by omega) bound before
  have inOrder := reached.inOrder step member earlier step.tasks[j] ordered decided
  refine ⟨?_, ?_, ?_⟩
  · exact (dossier.hasVerdict_iff earlier.id).mpr (inOrder.imp_right And.left)
  · intro final
    cases inOrder with
    | inl passed => exact passed
    | inr redone => simp [final] at redone
  · intro failed
    cases inOrder with
    | inl passed =>
        have notFailed := Dossier.hasFailed_eq_false_of_hasPassed passed
        exact absurd failed (by simpa using notFailed)
    | inr redone =>
        obtain ⟨_, redoable, times⟩ := redone
        exact ⟨redoable, Nat.le_trans times (timesFiled_le_of_suffix latest earlier)⟩

theorem form_decided_before_talk :
    let dossier := (Sample.flow.deskAfter Sample.requests).registry.dossier "1"
    dossier.hasVerdict "talk" = true ∧ dossier.hasVerdict "form" = true ∧
      (Sample.form.redoable = false → dossier.hasPassed "form" = true) ∧
      (dossier.hasFailed "form" = true → Sample.form.redoable = true ∧
        2 ≤ timesFiled (Sample.flow.filingsAfter Sample.requests "1") Sample.form) := by
  intro dossier
  have member : Sample.application ∈ Sample.flow.steps := List.mem_cons_self
  have decided : dossier.hasVerdict "talk" = true := by decide +kernel
  exact ⟨decided, Sample.flow.earlier_decided_of_decided Sample.requests "1" member
    Nat.zero_lt_one Nat.one_lt_two decided⟩

end Flow

end Candidacy
