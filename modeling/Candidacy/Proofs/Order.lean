import Candidacy.Flow
import Mathlib.Data.List.Nodup

/-!
Tasks in the order of their flow and of their step. A task stands in one place only, so that its id
leads back to its step and to the tasks before it.
-/

namespace Candidacy

/-! Two entries of a list in order are a sublist of it. -/

section Lists

variable {α : Type _} {before after : List α} {first second : α}

/-- Where nothing is repeated, what comes before an entry stands in front of its only place. -/
theorem mem_front_of_sublist (nodup : (before ++ second :: after).Nodup)
    (ordered : [first, second].Sublist (before ++ second :: after)) : first ∈ before := by
  obtain ⟨_, tail, apart⟩ := List.nodup_append.mp nodup
  obtain ⟨front, back, split, inFront, inBack⟩ := List.sublist_append_iff.mp ordered
  have second_not_mem : second ∉ after := (List.nodup_cons.mp tail).1
  have one_occurrence : ¬[first, second].Sublist (second :: after) := by
    intro later
    cases later with
    | cons _ later => exact second_not_mem (later.subset (by simp))
    | cons_cons _ later => exact second_not_mem (later.subset (by simp))
  cases front with
  | nil =>
      rw [List.nil_append] at split
      exact absurd (split ▸ inBack) one_occurrence
  | cons head rest =>
      obtain ⟨rfl, _⟩ := List.cons.inj split
      exact inFront.subset (by simp)

theorem sublist_of_mem_front (member : first ∈ before) :
    [first, second].Sublist (before ++ second :: after) :=
  (List.singleton_sublist.mpr member).append (by simp)

theorem find?_eq_some_of_first {p : α → Bool} {entries : List α} (member : second ∈ entries)
    (holds : p second = true)
    (first_holds : ∀ other, [other, second].Sublist entries → p other = false) :
    entries.find? p = some second := by
  obtain ⟨front, back, rfl⟩ := List.append_of_mem member
  refine List.find?_eq_some_iff_append.mpr ⟨holds, front, back, rfl, fun other inFront => ?_⟩
  simp [first_holds other (sublist_of_mem_front inFront)]

theorem find?_eq_some_of_only {p : α → Bool} {entries : List α} (member : second ∈ entries)
    (holds : p second = true) (only : ∀ other ∈ entries, p other = true → other = second) :
    entries.find? p = some second := by
  cases found : entries.find? p with
  | none => exact absurd holds (List.find?_eq_none.mp found second member)
  | some other => rw [only other (List.mem_of_find?_eq_some found) (List.find?_some found)]

/-- One entry more is counted when a condition changes at that entry only. -/
theorem countP_eq_succ {p q : α → Bool} {entries : List α} (nodup : entries.Nodup)
    (member : second ∈ entries) (holds : p second = true) (unmet : q second = false)
    (others : ∀ other ∈ entries, other ≠ second → p other = q other) :
    entries.countP p = entries.countP q + 1 := by
  induction entries with
  | nil => cases member
  | cons head rest ih =>
      obtain ⟨once, nodup⟩ := List.nodup_cons.mp nodup
      have behindOthers : ∀ other ∈ rest, other ≠ second → p other = q other := by
        intro other behind
        exact others other (List.mem_cons_of_mem head behind)
      cases List.mem_cons.mp member with
      | inl first =>
          subst first
          have unchanged : rest.countP p = rest.countP q := by
            apply List.countP_congr
            intro other behind
            rw [behindOthers other behind (ne_of_mem_of_not_mem behind once)]
          rw [List.countP_cons, List.countP_cons, unchanged, holds, unmet]
          rfl
      | inr behind =>
          have same : p head = q head :=
            others head List.mem_cons_self (ne_of_mem_of_not_mem behind once).symm
          rw [List.countP_cons, List.countP_cons, ih nodup behind behindOthers, same]
          exact Nat.add_right_comm _ _ _

end Lists

/-! The tasks of a flow and their places. -/

namespace Flow

def tasks (flow : Flow) : List Task :=
  flow.steps.flatMap Step.tasks

@[simp] theorem map_task_places (flow : Flow) : flow.places.map (·.task) = flow.tasks := by
  have numbered : flow.steps.zipIdx.map Prod.fst = flow.steps := List.zipIdx_map_fst 0 flow.steps
  calc
    flow.places.map (·.task) = flow.steps.zipIdx.flatMap fun entry => entry.1.tasks := by
      simp [places, List.map_flatMap, Function.comp_def]
    _ = (flow.steps.zipIdx.map Prod.fst).flatMap Step.tasks := (List.flatMap_map _ _ _).symm
    _ = flow.tasks := by rw [numbered, tasks]

@[simp] theorem length_places (flow : Flow) : flow.places.length = flow.taskCount := by
  rw [← List.length_map (·.task), map_task_places]
  rfl

theorem length_tasks (flow : Flow) : flow.tasks.length = flow.taskCount := rfl

theorem tasks_nodup (flow : Flow) : flow.tasks.Nodup :=
  List.Nodup.of_map Task.id flow.taskIds_nodup

theorem mem_places {flow : Flow} {place : Place} :
    place ∈ flow.places ↔
      flow.steps[place.index]? = some place.step ∧ place.task ∈ place.step.tasks := by
  simp only [places, List.mem_flatMap, List.mem_map, Prod.exists, List.mem_zipIdx_iff_getElem?]
  constructor
  · rintro ⟨step, index, found, task, member, rfl⟩
    exact ⟨found, member⟩
  · rintro ⟨found, member⟩
    exact ⟨place.step, place.index, found, place.task, member, rfl⟩

theorem task_mem_of_mem_places {flow : Flow} {place : Place} (member : place ∈ flow.places) :
    place.task ∈ flow.tasks := by
  rw [← map_task_places]
  exact List.mem_map_of_mem member

theorem step_mem_of_mem_places {flow : Flow} {place : Place} (member : place ∈ flow.places) :
    place.step ∈ flow.steps :=
  List.mem_of_getElem? (mem_places.mp member).1

theorem exists_place {flow : Flow} {task : Task} (member : task ∈ flow.tasks) :
    ∃ place ∈ flow.places, place.task = task := by
  rw [← map_task_places] at member
  exact List.mem_map.mp member

theorem place_ids_nodup (flow : Flow) : (flow.places.map (·.task.id)).Nodup := by
  have ids : (flow.tasks.map Task.id).Nodup := flow.taskIds_nodup
  rwa [← map_task_places, List.map_map] at ids

theorem places_nodup (flow : Flow) : flow.places.Nodup :=
  flow.place_ids_nodup.of_map

theorem place_eq_of_id_eq {flow : Flow} {place other : Place} (member : place ∈ flow.places)
    (otherMember : other ∈ flow.places) (same : place.task.id = other.task.id) : place = other :=
  List.inj_on_of_nodup_map flow.place_ids_nodup member otherMember same

theorem task_eq_of_id_eq {flow : Flow} {task other : Task} (member : task ∈ flow.tasks)
    (otherMember : other ∈ flow.tasks) (same : task.id = other.id) : task = other :=
  List.inj_on_of_nodup_map flow.taskIds_nodup member otherMember same

/-! Order inside a step, and what it says of the order in the flow. -/

theorem tasks_sublist_of_mem_steps {flow : Flow} {step : Step} (member : step ∈ flow.steps) :
    step.tasks.Sublist flow.tasks :=
  List.sublist_flatten_of_mem (List.mem_map_of_mem member)

theorem step_tasks_nodup {flow : Flow} {step : Step} (member : step ∈ flow.steps) :
    step.tasks.Nodup :=
  flow.tasks_nodup.sublist (tasks_sublist_of_mem_steps member)

theorem places_of_step_sublist {flow : Flow} {index : Nat} {step : Step}
    (found : flow.steps[index]? = some step) :
    (step.tasks.map (Place.mk index step)).Sublist flow.places := by
  have member : (step, index) ∈ flow.steps.zipIdx := List.mem_zipIdx_iff_getElem?.mpr found
  exact List.sublist_flatten_of_mem (List.mem_map.mpr ⟨(step, index), member, rfl⟩)

theorem step_eq_of_mem {flow : Flow} {place : Place} {step : Step} (member : place ∈ flow.places)
    (stepMember : step ∈ flow.steps) (inStep : place.task ∈ step.tasks) : step = place.step := by
  obtain ⟨index, bound, rfl⟩ := List.getElem_of_mem stepMember
  have other : Place.mk index flow.steps[index] place.task ∈ flow.places :=
    mem_places.mpr ⟨List.getElem?_eq_getElem bound, inStep⟩
  exact congrArg Place.step (place_eq_of_id_eq other member rfl)

/-! The id of a task leads back to its step. -/

theorem containsTask_iff {flow : Flow} {place : Place} (member : place ∈ flow.places)
    {index : Nat} {step : Step} (found : flow.steps[index]? = some step) :
    step.containsTask place.task.id = true ↔ index = place.index := by
  obtain ⟨standing, inStep⟩ := mem_places.mp member
  constructor
  · intro contains
    obtain ⟨task, inOther, same⟩ := List.any_eq_true.mp contains
    have other : Place.mk index step task ∈ flow.places := mem_places.mpr ⟨found, inOther⟩
    exact congrArg Place.index (place_eq_of_id_eq other member (eq_of_beq same))
  · rintro rfl
    have same : step = place.step := Option.some.inj (found.symm.trans standing)
    exact List.any_eq_true.mpr ⟨place.task, same ▸ inStep, beq_self_eq_true _⟩

theorem stepOf?_task {flow : Flow} {place : Place} (member : place ∈ flow.places) :
    flow.stepOf? place.task.id = some (place.index, place.step) := by
  have standing := (mem_places.mp member).1
  have found : flow.steps.zipIdx.find? (·.1.containsTask place.task.id) =
      some (place.step, place.index) := by
    apply find?_eq_some_of_only
    · exact List.mem_zipIdx_iff_getElem?.mpr standing
    · exact (containsTask_iff member standing).mpr rfl
    · rintro ⟨step, index⟩ entry contains
      have other : flow.steps[index]? = some step := List.mem_zipIdx_iff_getElem?.mp entry
      obtain rfl := (containsTask_iff member other).mp contains
      rw [Option.some.inj (other.symm.trans standing)]
  rw [stepOf?, found, Option.map_some]

end Flow

namespace Place

/-- The tasks of the same step that come before the task. -/
def earlier (place : Place) : List Task :=
  place.step.tasks.takeWhile (·.id != place.task.id)

theorem exists_later {flow : Flow} {place : Place} (member : place ∈ flow.places) :
    ∃ later, place.step.tasks = place.earlier ++ place.task :: later := by
  obtain ⟨before, after, split⟩ := List.append_of_mem (Flow.mem_places.mp member).2
  have stepMember := Flow.step_mem_of_mem_places member
  have others : ∀ task ∈ before, (task.id != place.task.id) = true := by
    intro task inFront
    have nodup : (place.step.tasks.map Task.id).Nodup :=
      flow.taskIds_nodup.sublist ((Flow.tasks_sublist_of_mem_steps stepMember).map Task.id)
    rw [split, List.map_append, List.map_cons] at nodup
    have apart := (List.nodup_append.mp nodup).2.2
    simpa using apart task.id (List.mem_map_of_mem inFront) place.task.id (by simp)
  refine ⟨after, ?_⟩
  rw [earlier, split, List.takeWhile_append_of_pos others]
  simp

theorem mem_earlier_iff {flow : Flow} {place : Place} (member : place ∈ flow.places)
    {task : Task} :
    task ∈ place.earlier ↔ ∃ step ∈ flow.steps, [task, place.task].Sublist step.tasks := by
  obtain ⟨later, split⟩ := exists_later member
  have stepMember := Flow.step_mem_of_mem_places member
  constructor
  · intro inFront
    exact ⟨place.step, stepMember, split ▸ sublist_of_mem_front inFront⟩
  · rintro ⟨step, otherMember, ordered⟩
    have inStep : place.task ∈ step.tasks := ordered.subset (by simp)
    rw [Flow.step_eq_of_mem member otherMember inStep, split] at ordered
    exact mem_front_of_sublist (split ▸ Flow.step_tasks_nodup stepMember) ordered

theorem sublist_places_of_mem_earlier {flow : Flow} {place : Place}
    (member : place ∈ flow.places) {task : Task} (inFront : task ∈ place.earlier) :
    [⟨place.index, place.step, task⟩, place].Sublist flow.places := by
  obtain ⟨later, split⟩ := exists_later member
  have ordered : [task, place.task].Sublist place.step.tasks :=
    split ▸ sublist_of_mem_front inFront
  exact (ordered.map (Place.mk place.index place.step)).trans
    (Flow.places_of_step_sublist (Flow.mem_places.mp member).1)

end Place

end Candidacy
