import Candidacy.Proofs.Position
import Mathlib.Data.List.Perm.Basic

/-!
Position, standing and progress are worked out from the verdicts in three ways: from the places in
order, from all verdicts, and from their number. They agree because every verdict on file is on a
task of the flow.
-/

namespace Candidacy

/-! Verdicts counted by the tasks they are on. -/

/-- The values of a table that meet a condition are counted on any list that holds its keys. -/
theorem Table.countP_values {α : Type _} (table : Table α) (p : α → Bool) {keys : List String}
    (nodup : keys.Nodup) (covered : ∀ key, table.contains key = true → key ∈ keys) :
    table.values.countP p = keys.countP fun key => (table.get? key).any p := by
  have met_nodup : ((table.entries.filter (p ·.2)).map Prod.fst).Nodup :=
    table.keys_nodup.sublist (List.filter_sublist.map Prod.fst)
  have same : ((table.entries.filter (p ·.2)).map Prod.fst).Perm
      (keys.filter fun key => (table.get? key).any p) := by
    refine (List.perm_ext_iff_of_nodup met_nodup (nodup.filter _)).mpr fun key => ?_
    simp only [List.mem_map, List.mem_filter, Prod.exists, Option.any_eq_true]
    constructor
    · rintro ⟨_, value, ⟨member, met⟩, rfl⟩
      have found := (table.mem_entries_iff _ _).mp member
      refine ⟨covered _ ?_, value, found, met⟩
      rw [table.contains_eq_isSome, found]
      rfl
    · rintro ⟨_, value, found, met⟩
      exact ⟨key, value, ⟨(table.mem_entries_iff _ _).mpr found, met⟩, rfl⟩
  calc
    table.values.countP p = (table.entries.filter (p ·.2)).length := by
      rw [values, List.countP_map, List.countP_eq_length_filter]
      rfl
    _ = ((table.entries.filter (p ·.2)).map Prod.fst).length := (List.length_map _).symm
    _ = (keys.filter fun key => (table.get? key).any p).length := same.length_eq
    _ = keys.countP fun key => (table.get? key).any p := List.countP_eq_length_filter.symm

def Dossier.passedCount (dossier : Dossier) : Nat :=
  dossier.verdicts.values.countP (·.passed)

namespace Flow

/-- All verdicts are on tasks of the flow. -/
def Covers (flow : Flow) (dossier : Dossier) : Prop :=
  ∀ id, dossier.hasVerdict id = true → id ∈ flow.tasks.map Task.id

theorem Covers.file {flow : Flow} {dossier : Dossier} (covers : flow.Covers dossier) {task : Task}
    (member : task ∈ flow.tasks) (submission : Submission) :
    flow.Covers (dossier.file (submission.verdict task)) := by
  intro key decided
  by_cases same : task.id = key
  · rw [← same]
    exact List.mem_map_of_mem member
  · rw [Dossier.hasVerdict_file_other dossier same] at decided
    exact covers key decided

theorem Reaches.covers {flow : Flow} {id : String} {filings : List Filing} {dossier : Dossier}
    (reached : flow.Reaches id filings dossier) : flow.Covers dossier := by
  induction reached with
  | opened =>
      intro key decided
      simp at decided
  | @filed filings dossier submission task reached accepted ih =>
      exact ih.file (mem_tasks_of_accept accepted) submission

theorem all_hasPassed_iff {flow : Flow} {dossier : Dossier} :
    (flow.visiblePlaces dossier).all (dossier.hasPassed ·.task.id) = true ↔
      ∀ task ∈ flow.tasks, dossier.hasPassed task.id = true := by
  rw [visiblePlaces_eq, List.all_eq_true, ← flow.map_task_places, List.forall_mem_map]

variable {flow : Flow} {dossier : Dossier} (covers : flow.Covers dossier)
include covers

theorem Covers.size_eq : dossier.size = flow.tasks.countP (dossier.hasVerdict ·.id) := by
  have counted := dossier.verdicts.countP_values (fun _ => true) flow.taskIds_nodup covers
  have whole : dossier.verdicts.values.countP (fun _ => true) = dossier.size := by
    rw [List.countP_true, Table.values, List.length_map]
    rfl
  rw [← whole, counted, List.countP_map]
  apply List.countP_congr
  intro task _
  simp only [Function.comp_apply, Dossier.hasVerdict_eq_isSome, Dossier.verdict?]
  cases dossier.verdicts.get? task.id <;> simp

theorem Covers.passedCount_eq :
    dossier.passedCount = flow.tasks.countP (dossier.hasPassed ·.id) := by
  have counted := dossier.verdicts.countP_values (·.passed) flow.taskIds_nodup covers
  rw [Dossier.passedCount, counted, List.countP_map]
  rfl

theorem Covers.size_le : dossier.size ≤ flow.taskCount := by
  rw [covers.size_eq, ← flow.length_tasks]
  exact List.countP_le_length

theorem Covers.passedCount_le : dossier.passedCount ≤ flow.taskCount := by
  rw [covers.passedCount_eq, ← flow.length_tasks]
  exact List.countP_le_length

theorem Covers.size_lt {task : Task} (member : task ∈ flow.tasks)
    (untried : dossier.hasVerdict task.id = false) : dossier.size < flow.taskCount := by
  apply Nat.lt_of_le_of_ne covers.size_le
  intro full
  rw [covers.size_eq, ← flow.length_tasks, List.countP_eq_length] at full
  have decided := full task member
  simp [untried] at decided

theorem Covers.size_of_passed
    (passed : ∀ task ∈ flow.tasks, dossier.hasPassed task.id = true) :
    dossier.size = flow.taskCount := by
  rw [covers.size_eq, ← flow.length_tasks, List.countP_eq_length]
  intro task member
  exact (dossier.hasVerdict_iff task.id).mpr (.inl (passed task member))

theorem Covers.anyFailed_iff :
    dossier.anyFailed = true ↔ ∃ task ∈ flow.tasks, dossier.hasFailed task.id = true := by
  rw [Dossier.anyFailed_iff]
  constructor
  · rintro ⟨key, failed⟩
    have decided := (dossier.hasVerdict_iff key).mpr (.inr failed)
    obtain ⟨task, member, rfl⟩ := List.mem_map.mp (covers key decided)
    exact ⟨task, member, failed⟩
  · rintro ⟨task, _, failed⟩
    exact ⟨task.id, failed⟩

theorem Covers.standing_eq :
    flow.standing dossier =
      if ∃ task ∈ flow.tasks, dossier.hasFailed task.id = true then .rejected
      else if ∀ task ∈ flow.tasks, dossier.hasPassed task.id = true then .accepted
      else .inProgress := by
  rw [standing]
  simp only [covers.anyFailed_iff, all_hasPassed_iff]

theorem Covers.standing_eq_accepted_iff :
    flow.standing dossier = .accepted ↔ ∀ task ∈ flow.tasks, dossier.hasPassed task.id = true := by
  rw [covers.standing_eq]
  split
  · next failure =>
      obtain ⟨task, member, failed⟩ := failure
      constructor
      · intro same
        cases same
      · intro passed
        have notFailed := Dossier.hasFailed_eq_false_of_hasPassed (passed task member)
        simp [failed] at notFailed
  · split
    · next passed => exact ⟨fun _ => passed, fun _ => rfl⟩
    · next unpassed =>
        constructor
        · intro same
          cases same
        · intro passed
          exact absurd passed unpassed

end Flow

/-! What an applicant is told. -/

namespace Desk

structure HasFinished (desk : Desk Roster) (id : String) : Prop where
  position : desk.position? id = .ok none
  standing : desk.standing id = .ok .accepted
  progress : desk.progress id = .ok (.completed desk.flow.taskCount desk.flow.taskCount)

/-- The applicant has failed a task, the first of these at this place. -/
structure HasFailedAt (desk : Desk Roster) (id : String) (place : Place) : Prop where
  first : desk.flow.IsFirst ((desk.registry.dossier id).hasFailed ·.id) place
  position : desk.position? id = .ok (some place)
  standing : desk.standing id = .ok .rejected
  progress : ∃ done shown, desk.progress id = .ok (.inProgress place done shown) ∧ done ≤ shown

/-- The applicant has passed all tasks tried so far, and the first untried one is at this place. -/
structure IsUnderWayAt (desk : Desk Roster) (id : String) (place : Place) : Prop where
  first : desk.flow.IsFirst (!(desk.registry.dossier id).hasVerdict ·.id) place
  passed : ∀ key verdict, (desk.registry.dossier id).verdict? key = some verdict →
    verdict.passed = true
  position : desk.position? id = .ok (some place)
  standing : desk.standing id = .ok .inProgress
  progress : ∃ done shown, desk.progress id = .ok (.inProgress place done shown) ∧ done < shown

end Desk

namespace Flow

variable {flow : Flow} {dossier : Dossier}

theorem progress_eq (flow : Flow) (dossier : Dossier) :
    flow.progress dossier =
      .ofPosition (flow.position? dossier) dossier.size flow.taskCount := by
  rw [progress, visiblePlaces_eq, length_places]

theorem anyFailed_eq_false (covers : flow.Covers dossier)
    (noneFailed : ∀ task ∈ flow.tasks, dossier.hasFailed task.id = false) :
    dossier.anyFailed = false := by
  rw [Bool.eq_false_iff, ne_eq, covers.anyFailed_iff]
  rintro ⟨task, member, failed⟩
  simp [noneFailed task member] at failed

end Flow

namespace Desk

variable {desk : Desk Roster} {id : String} {place : Place}

theorem hasFinished_of_position (known : desk.Knows id)
    (covers : desk.flow.Covers (desk.registry.dossier id))
    (nothing : desk.flow.position? (desk.registry.dossier id) = none) : desk.HasFinished id := by
  have passed := Flow.position_eq_none_iff.mp nothing
  constructor
  · rw [position?_of_knows known, nothing]
  · rw [standing_of_knows known, covers.standing_eq_accepted_iff.mpr passed]
  · rw [progress_of_knows known, Flow.progress_eq, nothing, covers.size_of_passed passed]
    rfl

theorem hasFailedAt_of_isFirst (known : desk.Knows id)
    (covers : desk.flow.Covers (desk.registry.dossier id))
    (current : desk.flow.position? (desk.registry.dossier id) = some place)
    (first : desk.flow.IsFirst ((desk.registry.dossier id).hasFailed ·.id) place) :
    desk.HasFailedAt id place := by
  have failed : (desk.registry.dossier id).anyFailed = true :=
    covers.anyFailed_iff.mpr ⟨place.task, Flow.task_mem_of_mem_places first.mem, first.met⟩
  constructor
  · exact first
  · rw [position?_of_knows known, current]
  · rw [standing_of_knows known, Flow.standing, if_pos failed]
  · refine ⟨_, _, ?_, covers.size_le⟩
    rw [progress_of_knows known, Flow.progress_eq, current]
    rfl

theorem isUnderWayAt_of_isFirst (known : desk.Knows id)
    (covers : desk.flow.Covers (desk.registry.dossier id))
    (current : desk.flow.position? (desk.registry.dossier id) = some place)
    (first : desk.flow.IsFirst (!(desk.registry.dossier id).hasVerdict ·.id) place)
    (noneFailed : ∀ task ∈ desk.flow.tasks,
      (desk.registry.dossier id).hasFailed task.id = false) :
    desk.IsUnderWayAt id place := by
  have member := Flow.task_mem_of_mem_places first.mem
  have untried : (desk.registry.dossier id).hasVerdict place.task.id = false := by
    simpa using first.met
  have unfailed := Flow.anyFailed_eq_false covers noneFailed
  constructor
  · exact first
  · intro key verdict found
    by_contra failed
    have someFailed : (desk.registry.dossier id).anyFailed = true := by
      apply (Dossier.anyFailed_iff _).mpr
      exact ⟨key, by simpa [Dossier.hasFailed, found] using failed⟩
    simp [unfailed] at someFailed
  · rw [position?_of_knows known, current]
  · have notAll : ¬∀ task ∈ desk.flow.tasks,
        (desk.registry.dossier id).hasPassed task.id = true := by
      intro passed
      have decided := (Dossier.hasVerdict_iff _ _).mpr (.inl (passed place.task member))
      simp [untried] at decided
    rw [standing_of_knows known, covers.standing_eq, if_neg (by simpa using noneFailed),
      if_neg notAll]
  · refine ⟨_, _, ?_, covers.size_lt member untried⟩
    rw [progress_of_knows known, Flow.progress_eq, current]
    rfl

end Desk

/-- Position, standing and progress tell one story: the end of the flow is reached, or there is a
first failure, or a first task not tried yet; never two of these. -/
theorem Flow.exactly_one_story (flow : Flow) (requests : List Request) (id : String)
    (known : (flow.deskAfter requests).Knows id) :
    let desk := flow.deskAfter requests
    let finished := desk.HasFinished id
    let failed := ∃ place, desk.HasFailedAt id place
    let underWay := ∃ place, desk.IsUnderWayAt id place
    (finished ∧ ¬failed ∧ ¬underWay) ∨ (¬finished ∧ failed ∧ ¬underWay) ∨
      (¬finished ∧ ¬failed ∧ underWay) := by
  intro desk finished failed underWay
  obtain ⟨filings, _, reached⟩ := flow.reaches_dossier requests id
  have same : desk.flow = flow := flow.flow_deskAfter requests
  have covers : desk.flow.Covers (desk.registry.dossier id) := same ▸ reached.covers
  -- The standing alone tells the three apart.
  have accepted : finished → desk.standing id = .ok .accepted := fun story => story.standing
  have rejected : failed → desk.standing id = .ok .rejected := fun ⟨_, story⟩ => story.standing
  have inProgress : underWay → desk.standing id = .ok .inProgress :=
    fun ⟨_, story⟩ => story.standing
  have notBoth : ∀ {one other : Standing}, desk.standing id = .ok one →
      desk.standing id = .ok other → one = other :=
    fun stands standsToo => Except.ok.inj (stands.symm.trans standsToo)
  cases current : desk.flow.position? (desk.registry.dossier id) with
  | none =>
      left
      have story : finished := Desk.hasFinished_of_position known covers current
      refine ⟨story, ?_, ?_⟩
      · intro other
        cases notBoth (accepted story) (rejected other)
      · intro other
        cases notBoth (accepted story) (inProgress other)
  | some place =>
      right
      obtain first | ⟨first, noneFailed⟩ := isFirst_of_position current
      · left
        have story : failed := ⟨place, Desk.hasFailedAt_of_isFirst known covers current first⟩
        refine ⟨?_, story, ?_⟩
        · intro other
          cases notBoth (accepted other) (rejected story)
        · intro other
          cases notBoth (rejected story) (inProgress other)
      · right
        have story : underWay :=
          ⟨place, Desk.isUnderWayAt_of_isFirst known covers current first noneFailed⟩
        refine ⟨?_, ?_, story⟩
        · intro other
          cases notBoth (accepted other) (inProgress story)
        · intro other
          cases notBoth (rejected other) (inProgress story)

theorem Flow.story_of_failure :
    let desk := Sample.flow.deskAfter Sample.requests
    desk.Knows "1" ∧ ¬desk.HasFinished "1" ∧ ∃ place, desk.HasFailedAt "1" place := by
  intro desk
  have rejected : desk.standing "1" = .ok .rejected := rfl
  obtain ⟨finished, _⟩ | ⟨unfinished, failed, _⟩ | ⟨_, _, _, underWay⟩ :=
    Sample.flow.exactly_one_story Sample.requests "1" Sample.knows
  · cases rejected.symm.trans finished.standing
  · exact ⟨Sample.knows, unfinished, failed⟩
  · cases rejected.symm.trans underWay.standing

end Candidacy
