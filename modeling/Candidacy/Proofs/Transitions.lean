import Candidacy.Proofs.Finality
import Candidacy.Proofs.Frame

/-!
How the standing moves. It is worked out from all verdicts anew, but one accepted submission changes
one verdict only, so that what it was before and the outcome decide what it becomes. Once there are
verdicts on all tasks, an applicant is accepted or rejected for good.
-/

namespace Candidacy

namespace Flow

/-- The one task of the flow that meets a condition. -/
structure IsOnly (flow : Flow) (holds : Task → Bool) (task : Task) : Prop where
  met : holds task = true
  unique : ∀ other ∈ flow.tasks, holds other = true → other = task

def AllDecided (flow : Flow) (dossier : Dossier) : Prop :=
  ∀ task ∈ flow.tasks, dossier.hasVerdict task.id = true

instance (flow : Flow) (dossier : Dossier) : Decidable (flow.AllDecided dossier) :=
  inferInstanceAs (Decidable (∀ task ∈ flow.tasks, dossier.hasVerdict task.id = true))

variable {flow : Flow} {dossier : Dossier}

/-! The standing, told from the tasks of the flow. -/

theorem Covers.standing_eq_rejected_iff (covers : flow.Covers dossier) :
    flow.standing dossier = .rejected ↔ ∃ task ∈ flow.tasks, dossier.hasFailed task.id = true := by
  rw [covers.standing_eq]
  split
  · next failed => simp [failed]
  · next unfailed =>
      split
      · simp [unfailed]
      · simp [unfailed]

theorem Covers.standing_eq_inProgress_iff (covers : flow.Covers dossier) :
    flow.standing dossier = .inProgress ↔
      (∀ task ∈ flow.tasks, dossier.hasFailed task.id = false) ∧ ¬flow.AllDecided dossier := by
  have allPassed (unfailed : ∀ task ∈ flow.tasks, dossier.hasFailed task.id = false) :
      (∀ task ∈ flow.tasks, dossier.hasPassed task.id = true) ↔ flow.AllDecided dossier := by
    apply forall₂_congr
    intro task member
    simp [dossier.hasVerdict_iff, unfailed task member]
  rw [covers.standing_eq]
  split
  · next failure =>
      obtain ⟨task, member, failed⟩ := failure
      constructor
      · intro same
        cases same
      · rintro ⟨unfailed, _⟩
        simp [unfailed task member] at failed
  · next noFailure =>
      have unfailed : ∀ task ∈ flow.tasks, dossier.hasFailed task.id = false := by
        simpa using noFailure
      rw [← allPassed unfailed]
      split
      · next passed =>
          constructor
          · intro same
            cases same
          · rintro ⟨_, unpassed⟩
            exact absurd passed unpassed
      · next unpassed => exact ⟨fun _ => ⟨unfailed, unpassed⟩, fun _ => rfl⟩

/-! One passing verdict more. -/

section Filed

variable {submission : Submission} {task other : Task}
variable (member : task ∈ flow.tasks) (otherMember : other ∈ flow.tasks)
include member otherMember

theorem id_ne_of_ne (different : other ≠ task) : task.id ≠ other.id :=
  fun same => different (task_eq_of_id_eq member otherMember same).symm

theorem hasVerdict_file_iff :
    (dossier.file (submission.verdict task)).hasVerdict other.id = true ↔
      other = task ∨ dossier.hasVerdict other.id = true := by
  by_cases same : other = task
  · subst same
    have stands := Dossier.verdict?_file_self dossier (submission.verdict other)
    exact iff_of_true (Dossier.hasVerdict_of_verdict? stands) (.inl rfl)
  · rw [Dossier.hasVerdict_file_other dossier (id_ne_of_ne member otherMember same)]
    simp [same]

theorem hasPassed_file_iff (passes : task.passes submission.payload = true) :
    (dossier.file (submission.verdict task)).hasPassed other.id = true ↔
      other = task ∨ dossier.hasPassed other.id = true := by
  by_cases same : other = task
  · subst same
    have outcome := Dossier.hasPassed_file_self dossier (submission.verdict other)
    exact iff_of_true (outcome.trans passes) (.inl rfl)
  · rw [Dossier.hasPassed_file_other dossier (id_ne_of_ne member otherMember same)]
    simp [same]

theorem hasFailed_file_iff (passes : task.passes submission.payload = true) :
    (dossier.file (submission.verdict task)).hasFailed other.id = true ↔
      other ≠ task ∧ dossier.hasFailed other.id = true := by
  by_cases same : other = task
  · subst same
    have passed : (dossier.file (submission.verdict other)).hasPassed other.id = true :=
      (Dossier.hasPassed_file_self dossier (submission.verdict other)).trans passes
    simpa using Dossier.hasFailed_eq_false_of_hasPassed passed
  · rw [Dossier.hasFailed_file_other dossier (id_ne_of_ne member otherMember same)]
    simp [same]

end Filed

section Passed

variable {submission : Submission} {task : Task}
variable (covers : flow.Covers dossier) (member : task ∈ flow.tasks)
variable (passes : task.passes submission.payload = true)
include covers member passes

theorem standing_file_of_accepted (before : flow.standing dossier = .accepted) :
    flow.standing (dossier.file (submission.verdict task)) = .accepted := by
  apply (covers.file member submission).standing_eq_accepted_iff.mpr
  intro other otherMember
  have passed := covers.standing_eq_accepted_iff.mp before other otherMember
  exact (hasPassed_file_iff member otherMember passes).mpr (.inr passed)

theorem standing_file_eq_rejected_iff :
    flow.standing (dossier.file (submission.verdict task)) = .rejected ↔
      ∃ other ∈ flow.tasks, other ≠ task ∧ dossier.hasFailed other.id = true := by
  rw [(covers.file member submission).standing_eq_rejected_iff]
  apply exists_congr
  intro other
  apply and_congr_right
  intro otherMember
  exact hasFailed_file_iff member otherMember passes

/-- Where no other task has failed, it only counts whether all tasks have verdicts. -/
theorem standing_file_of_unfailed
    (unfailed : ∀ other ∈ flow.tasks, dossier.hasFailed other.id = true → other = task) :
    flow.standing (dossier.file (submission.verdict task)) =
      if flow.AllDecided (dossier.file (submission.verdict task)) then .accepted
      else .inProgress := by
  have noneFailed : ∀ other ∈ flow.tasks,
      (dossier.file (submission.verdict task)).hasFailed other.id = false := by
    intro other otherMember
    rw [Bool.eq_false_iff, ne_eq, hasFailed_file_iff member otherMember passes]
    rintro ⟨different, failed⟩
    exact different (unfailed other otherMember failed)
  split
  · next decided =>
      apply (covers.file member submission).standing_eq_accepted_iff.mpr
      intro other otherMember
      have verdict := (Dossier.hasVerdict_iff _ other.id).mp (decided other otherMember)
      simpa [noneFailed other otherMember] using verdict
  · next undecided =>
      exact (covers.file member submission).standing_eq_inProgress_iff.mpr ⟨noneFailed, undecided⟩

theorem standing_file_of_inProgress (before : flow.standing dossier = .inProgress) :
    (flow.standing (dossier.file (submission.verdict task)) = .accepted ↔
      flow.IsOnly (!dossier.hasVerdict ·.id) task) ∧
    (¬flow.IsOnly (!dossier.hasVerdict ·.id) task →
      flow.standing (dossier.file (submission.verdict task)) = .inProgress) := by
  obtain ⟨unfailed, undecided⟩ := covers.standing_eq_inProgress_iff.mp before
  have after := standing_file_of_unfailed covers member passes fun other otherMember failed => by
    simp [unfailed other otherMember] at failed
  have decided_iff : flow.AllDecided (dossier.file (submission.verdict task)) ↔
      flow.IsOnly (!dossier.hasVerdict ·.id) task := by
    constructor
    · intro decided
      have unique : ∀ other ∈ flow.tasks, (!dossier.hasVerdict other.id) = true → other = task := by
        intro other otherMember untried
        have verdict := (hasVerdict_file_iff member otherMember).mp (decided other otherMember)
        exact verdict.resolve_right (by simpa using untried)
      refine ⟨?_, unique⟩
      -- Some task was untried, and it can only have been this one.
      obtain ⟨other, otherMember, untried⟩ : ∃ other ∈ flow.tasks,
          (!dossier.hasVerdict other.id) = true := by
        simpa [AllDecided] using undecided
      exact unique other otherMember untried ▸ untried
    · intro only other otherMember
      apply (hasVerdict_file_iff member otherMember).mpr
      cases tried : dossier.hasVerdict other.id with
      | true => exact .inr rfl
      | false => exact .inl (only.unique other otherMember (by simp [tried]))
  rw [after, ← decided_iff]
  split
  · next decided => simp [decided]
  · next wanting => simp [wanting]

theorem standing_file_of_rejected (before : flow.standing dossier = .rejected) :
    (flow.standing (dossier.file (submission.verdict task)) ≠ .rejected ↔
      flow.IsOnly (dossier.hasFailed ·.id) task) ∧
    (flow.IsOnly (dossier.hasFailed ·.id) task →
      flow.standing (dossier.file (submission.verdict task)) =
        if flow.AllDecided (dossier.file (submission.verdict task)) then .accepted
        else .inProgress) := by
  constructor
  · rw [ne_eq, standing_file_eq_rejected_iff covers member passes]
    constructor
    · intro noOther
      have unique : ∀ other ∈ flow.tasks, dossier.hasFailed other.id = true → other = task := by
        intro other otherMember failed
        by_contra different
        exact noOther ⟨other, otherMember, different, failed⟩
      obtain ⟨other, otherMember, failed⟩ := covers.standing_eq_rejected_iff.mp before
      exact ⟨unique other otherMember failed ▸ failed, unique⟩
    · rintro only ⟨other, otherMember, different, failed⟩
      exact different (only.unique other otherMember failed)
  · intro only
    exact standing_file_of_unfailed covers member passes only.unique

end Passed

end Flow

/-! Later states. -/

namespace Desk

theorem knows_of_retains {desk later : Desk Roster} {id : String} (known : desk.Knows id)
    (retains : desk.registry.Retains later.registry) : later.Knows id := by
  obtain ⟨applicant, found⟩ := known
  obtain ⟨verdicts, kept⟩ := retains.applicants id applicant (Except.ok.inj found)
  exact ⟨_, congrArg Except.ok kept⟩

end Desk

namespace Flow

theorem retains_deskAfter_append (flow : Flow) (requests later : List Request)
    (few : (flow.newcomersAfter (requests ++ later)).length < UInt64.size - 1) :
    (flow.deskAfter requests).registry.Retains (flow.deskAfter (requests ++ later)).registry := by
  induction later using List.reverseRecOn with
  | nil =>
      rw [List.append_nil]
      exact .refl _
  | append_singleton later request ih =>
      rw [← List.append_assoc] at few ⊢
      have fewBefore := few_of_append few
      rw [deskAfter_append_singleton]
      have numbered := flow.isNumbered_deskAfter (requests ++ later) fewBefore
      exact (ih fewBefore).trans (Desk.retains_act numbered (.call (.change request)))

theorem allDecided_of_accepted {flow : Flow} {dossier : Dossier} (covers : flow.Covers dossier)
    (accepted : flow.standing dossier = .accepted) : flow.AllDecided dossier := by
  intro task member
  have passed := covers.standing_eq_accepted_iff.mp accepted task member
  exact (dossier.hasVerdict_iff task.id).mpr (.inl passed)

/-- What a submission makes of an applicant's standing. A refused one leaves it and a failure
rejects the applicant; a task passed completes the flow if no other was left, and lifts a rejection
if no other had failed. Whoever has been accepted, or has verdicts on all tasks, is in progress no
more. -/
theorem standing_moves (flow : Flow) (requests : List Request) (id : String)
    (known : (flow.deskAfter requests).Knows id) :
    let desk := flow.deskAfter requests
    let dossier := desk.registry.dossier id
    (∀ submission : Submission,
      let answer := (desk.submit id submission).1
      let changed := (desk.submit id submission).2
      (∀ refusal, answer = .error refusal → changed.standing id = desk.standing id) ∧
      ∀ receipt, answer = .ok receipt →
        let onlyUntried := flow.IsOnly (!dossier.hasVerdict ·.id) receipt.task
        let onlyFailed := flow.IsOnly (dossier.hasFailed ·.id) receipt.task
        changed.standing id = .ok receipt.standing ∧
        (receipt.passed = false → receipt.standing = .rejected) ∧
        (receipt.passed = true →
          (desk.standing id = .ok .accepted → receipt.standing = .accepted) ∧
          (desk.standing id = .ok .inProgress →
            (receipt.standing = .accepted ↔ onlyUntried) ∧
            (¬onlyUntried → receipt.standing = .inProgress)) ∧
          (desk.standing id = .ok .rejected →
            (receipt.standing ≠ .rejected ↔ onlyFailed) ∧
            (onlyFailed → receipt.task.redoable = true ∧
              receipt.standing =
                if flow.AllDecided (changed.registry.dossier id) then .accepted
                else .inProgress)))) ∧
    ∀ later, (flow.newcomersAfter (requests ++ later)).length < UInt64.size - 1 →
      desk.standing id = .ok .accepted ∨ flow.AllDecided dossier →
        ∃ standing, (flow.deskAfter (requests ++ later)).standing id = .ok standing ∧
          standing ≠ .inProgress := by
  intro desk dossier
  have sameFlow : desk.flow = flow := flow.flow_deskAfter requests
  obtain ⟨filings, _, reached⟩ := flow.reaches_dossier requests id
  have covers : flow.Covers dossier := reached.covers
  have standing : desk.standing id = .ok (flow.standing dossier) := by
    rw [Desk.standing_of_knows known, sameFlow]
  constructor
  · intro submission answer changed
    constructor
    · intro refusal refused
      have kept : changed = desk := Desk.act_submit_of_error refused
      rw [kept]
    · intro receipt answered onlyUntried onlyFailed
      obtain ⟨_, acceptance, filed, same⟩ := Desk.accepted_of_submit answered
      rw [sameFlow] at acceptance same
      have member := mem_tasks_of_accept acceptance
      have passed_eq : receipt.passed = receipt.task.passes submission.payload :=
        congrArg Receipt.passed same
      have standing_eq : receipt.standing =
          flow.standing (dossier.file (submission.verdict receipt.task)) :=
        congrArg Receipt.standing same
      have stands := Dossier.verdict?_file_self dossier (submission.verdict receipt.task)
      have stillKnown : changed.Knows id :=
        Desk.knows_of_hasVerdict (filed ▸ Dossier.hasVerdict_of_verdict? stands)
      refine ⟨?_, ?_, ?_⟩
      · have changedFlow : changed.flow = flow :=
          (Desk.flow_submit desk id submission).trans sameFlow
        rw [Desk.standing_of_knows stillKnown, changedFlow, standing_eq]
        exact congrArg (fun after => Except.ok (flow.standing after)) filed
      · intro failed
        rw [standing_eq]
        exact standing_of_failure stands (passed_eq.symm.trans failed)
      · intro passed
        have passes := passed_eq.symm.trans passed
        rw [standing, standing_eq, filed]
        simp only [Except.ok.injEq]
        refine ⟨?_, ?_, ?_⟩
        · exact standing_file_of_accepted covers member passes
        · exact standing_file_of_inProgress covers member passes
        · intro rejected
          obtain ⟨lifted, outcome⟩ := standing_file_of_rejected covers member passes rejected
          refine ⟨lifted, ?_⟩
          intro only
          refine ⟨?_, outcome only⟩
          by_contra final
          have undecided := undecided_of_accept acceptance (by simpa using final)
          have decided := (dossier.hasVerdict_iff receipt.task.id).mpr (.inr only.met)
          rw [undecided] at decided
          cases decided
  · intro later few settled
    have decided : flow.AllDecided dossier := by
      obtain accepted | decided := settled
      · rw [standing, Except.ok.injEq] at accepted
        exact allDecided_of_accepted covers accepted
      · exact decided
    have retains := flow.retains_deskAfter_append requests later few
    have knownLater := Desk.knows_of_retains known retains
    obtain ⟨_, _, reachedLater⟩ := flow.reaches_dossier (requests ++ later) id
    refine ⟨_, Desk.standing_of_knows knownLater, ?_⟩
    rw [flow_deskAfter, ne_eq, reachedLater.covers.standing_eq_inProgress_iff]
    rintro ⟨_, undecided⟩
    exact undecided fun task member => retains.verdicts id task.id (decided task member)

theorem redone_form_lifts_rejection :
    let desk := Sample.flow.deskAfter Sample.requests
    let form : Submission := ⟨"form", Sample.consent "yes", ⟨3, 0⟩⟩
    let finished := Sample.requests ++ [.submit "1" form, .submit "1" ⟨"contract", [], ⟨4, 0⟩⟩]
    let redone : Request := .submit "1" ⟨"form", Sample.consent "no", ⟨5, 0⟩⟩
    desk.Knows "1" ∧ desk.standing "1" = .ok .rejected ∧
      (∃ receipt, (desk.submit "1" form).1 = .ok receipt ∧ receipt.passed = true ∧
        receipt.task.redoable = true ∧ receipt.standing = .inProgress) ∧
      (Sample.flow.deskAfter finished).Knows "1" ∧
      (Sample.flow.newcomersAfter (finished ++ [redone])).length < UInt64.size - 1 ∧
      (Sample.flow.deskAfter finished).standing "1" = .ok .accepted ∧
      ∃ standing, (Sample.flow.deskAfter (finished ++ [redone])).standing "1" = .ok standing ∧
        standing ≠ .inProgress := by
  intro desk form finished redone
  have rejected : desk.standing "1" = .ok .rejected := rfl
  have acceptance : desk.flow.accept (desk.registry.dossier "1") form.identifier form.payload =
      .ok Sample.form := by decide +kernel
  have passes : Sample.form.passes form.payload = true := by decide +kernel
  have onlyFailed : Sample.flow.IsOnly ((desk.registry.dossier "1").hasFailed ·.id)
      Sample.form := by
    constructor
    · decide +kernel
    · decide +kernel
  have wanting : ¬Sample.flow.AllDecided ((desk.submit "1" form).2.registry.dossier "1") := by
    decide +kernel
  have knownLater : (Sample.flow.deskAfter finished).Knows "1" := by decide +kernel
  have few : (Sample.flow.newcomersAfter (finished ++ [redone])).length < UInt64.size - 1 := by
    decide +kernel
  have accepted : (Sample.flow.deskAfter finished).standing "1" = .ok .accepted := by
    decide +kernel
  obtain ⟨_, _, answered⟩ := Desk.submit_of_accepted Sample.knows acceptance
  have answer := congrArg Prod.fst answered
  obtain ⟨moves, _⟩ := Sample.flow.standing_moves Sample.requests "1" Sample.knows
  obtain ⟨_, _, whenPassed⟩ := (moves form).2 _ answer
  obtain ⟨_, _, whenRejected⟩ := whenPassed passes
  obtain ⟨redoable, lifted⟩ := (whenRejected rejected).2 onlyFailed
  rw [if_neg wanting] at lifted
  obtain ⟨_, afterwards⟩ := Sample.flow.standing_moves finished "1" knownLater
  exact ⟨Sample.knows, rejected, ⟨_, answer, passes, redoable, lifted⟩, knownLater, few,
    accepted, afterwards [redone] few (.inl accepted)⟩

end Flow

end Candidacy
