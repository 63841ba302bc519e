import Candidacy.Proofs.StepOrder

/-!
The position looks at the whole flow, the check of a submission at one step only. On a desk that has
come about by requests they agree: a submission for the task in position meets no obstacle in the
order of its step.
-/

namespace Candidacy

namespace Flow

/-! The position, told from the order of the flow. -/

/-- The first place, in the order of the flow, whose task meets a condition. -/
structure IsFirst (flow : Flow) (holds : Task → Bool) (place : Place) : Prop where
  met : holds place.task = true
  unmet : ∃ before after, flow.places = before ++ place :: after ∧
    ∀ other ∈ before, holds other.task = false

theorem isFirst_of_find? {flow : Flow} {holds : Task → Bool} {place : Place}
    (found : flow.places.find? (holds ·.task) = some place) : flow.IsFirst holds place := by
  obtain ⟨met, before, after, split, unmet⟩ := List.find?_eq_some_iff_append.mp found
  exact ⟨met, before, after, split, fun other member => by simpa using unmet other member⟩

theorem IsFirst.find?_eq {flow : Flow} {holds : Task → Bool} {place : Place}
    (first : flow.IsFirst holds place) : flow.places.find? (holds ·.task) = some place := by
  obtain ⟨before, after, split, unmet⟩ := first.unmet
  refine List.find?_eq_some_iff_append.mpr ⟨first.met, before, after, split, ?_⟩
  intro other member
  simp [unmet other member]

theorem forall_tasks_of_find? {flow : Flow} {holds : Task → Bool}
    (nowhere : flow.places.find? (holds ·.task) = none) :
    ∀ task ∈ flow.tasks, holds task = false := by
  intro task member
  obtain ⟨place, placeMember, rfl⟩ := exists_place member
  simpa using List.find?_eq_none.mp nowhere place placeMember

namespace IsFirst

variable {flow : Flow} {holds : Task → Bool} {place : Place}

theorem mem (first : flow.IsFirst holds place) : place ∈ flow.places := by
  obtain ⟨before, after, split, _⟩ := first.unmet
  simp [split]

theorem eq_false_of_mem_earlier (first : flow.IsFirst holds place) {task : Task}
    (inFront : task ∈ place.earlier) : holds task = false := by
  have ordered := Place.sublist_places_of_mem_earlier first.mem inFront
  obtain ⟨before, after, split, unmet⟩ := first.unmet
  rw [split] at ordered
  exact unmet _ (mem_front_of_sublist (split ▸ flow.places_nodup) ordered)

end IsFirst

variable {flow : Flow} {filings : List Filing} {dossier : Dossier} {place : Place}

theorem position_eq (flow : Flow) (dossier : Dossier) :
    flow.position? dossier =
      (flow.places.find? (dossier.hasFailed ·.task.id)).or
        (flow.places.find? (!dossier.hasVerdict ·.task.id)) := by
  rw [position?, visiblePlaces_eq]

/-- The task in position is the first failed one, or, where none has failed, the first one without
a verdict. -/
theorem isFirst_of_position (current : flow.position? dossier = some place) :
    flow.IsFirst (dossier.hasFailed ·.id) place ∨
      flow.IsFirst (!dossier.hasVerdict ·.id) place ∧
        ∀ task ∈ flow.tasks, dossier.hasFailed task.id = false := by
  rw [position_eq] at current
  cases failed : flow.places.find? (dossier.hasFailed ·.task.id) with
  | some first =>
      rw [failed, Option.some_or] at current
      cases current
      exact .inl (isFirst_of_find? failed)
  | none =>
      rw [failed, Option.none_or] at current
      exact .inr ⟨isFirst_of_find? current, forall_tasks_of_find? failed⟩

theorem mem_places_of_position (current : flow.position? dossier = some place) :
    place ∈ flow.places := by
  obtain isFirst | ⟨isFirst, _⟩ := isFirst_of_position current
  · exact isFirst.mem
  · exact isFirst.mem

/-! A submission for the task in position. -/

theorem prepared_of_position (inOrder : flow.InOrder filings dossier)
    (current : flow.position? dossier = some place) :
    ∀ task ∈ place.earlier, dossier.hasPassed task.id = true := by
  intro task inFront
  obtain ⟨step, stepMember, ordered⟩ :=
    (Place.mem_earlier_iff (mem_places_of_position current)).mp inFront
  obtain isFirst | ⟨isFirst, noneFailed⟩ := isFirst_of_position current
  -- A failure: the tasks before it have verdicts because the step is taken in order.
  · have decided : dossier.hasVerdict place.task.id = true :=
      (dossier.hasVerdict_iff _).mpr (.inr isFirst.met)
    obtain passed | ⟨failed, _⟩ := inOrder step stepMember task place.task ordered decided
    · exact passed
    · have notFailed := isFirst.eq_false_of_mem_earlier inFront
      simp [failed] at notFailed
  -- No failure: all tasks before the first one without a verdict have verdicts.
  · have decided : dossier.hasVerdict task.id = true := by
      simpa using isFirst.eq_false_of_mem_earlier inFront
    have member : task ∈ flow.tasks :=
      (tasks_sublist_of_mem_steps stepMember).subset (ordered.subset (by simp))
    have verdict := (dossier.hasVerdict_iff task.id).mp decided
    simpa [noneFailed task member] using verdict

theorem hasFailed_of_position (current : flow.position? dossier = some place)
    (decided : dossier.hasVerdict place.task.id = true) :
    dossier.hasFailed place.task.id = true := by
  obtain isFirst | ⟨isFirst, _⟩ := isFirst_of_position current
  · exact isFirst.met
  · have untried := isFirst.met
    simp [decided] at untried

theorem hasPassed_of_position (current : flow.position? dossier = some place) :
    dossier.hasPassed place.task.id = false := by
  by_contra passed
  have decided := (dossier.hasVerdict_iff place.task.id).mpr (.inl (by simpa using passed))
  have failed := hasFailed_of_position current decided
  simp [Dossier.hasFailed_eq_false_of_hasPassed (by simpa using passed)] at failed

theorem position_eq_none_iff :
    flow.position? dossier = none ↔ ∀ task ∈ flow.tasks, dossier.hasPassed task.id = true := by
  constructor
  · intro nothing task member
    rw [position_eq, Option.or_eq_none_iff] at nothing
    have noneFailed : ∀ task ∈ flow.tasks, dossier.hasFailed task.id = false :=
      forall_tasks_of_find? nothing.1
    have allDecided : ∀ task ∈ flow.tasks, (!dossier.hasVerdict task.id) = false :=
      forall_tasks_of_find? nothing.2
    have verdict := (dossier.hasVerdict_iff task.id).mp (by simpa using allDecided task member)
    simpa [noneFailed task member] using verdict
  · intro passed
    cases current : flow.position? dossier with
    | none => rfl
    | some place =>
        have unpassed := hasPassed_of_position current
        simp [passed place.task (task_mem_of_mem_places (mem_places_of_position current))]
          at unpassed

theorem accept_at_position (inOrder : flow.InOrder filings dossier)
    (current : flow.position? dossier = some place) (addressed : flow.Addresses place.task)
    (payload : Payload) :
    flow.accept dossier place.task.id payload =
      if place.task.redoable = false ∧ dossier.hasVerdict place.task.id = true then
        .error (.alreadyDone place.task.name)
      else if (place.task.missingFields payload).isEmpty then .ok place.task
      else .error (.missingFields place.task.name (place.task.missingFields payload)) := by
  have member := mem_places_of_position current
  have resolved := resolve_id (task_mem_of_mem_places member) addressed dossier
  split
  · next closed => exact accept_decided member resolved closed.1 closed.2
  · next opened =>
      have undecided : place.task.redoable = false →
          dossier.hasVerdict place.task.id = false := by
        intro final
        simpa [final] using opened
      exact accept_of_prepared member resolved undecided (prepared_of_position inOrder current)

end Flow

/-! The same at a desk. -/

namespace Desk

theorem position?_eq_ok_iff {desk : Desk Roster} {id : String} {position : Option Place} :
    desk.position? id = .ok position ↔
      desk.Knows id ∧ desk.flow.position? (desk.registry.dossier id) = position := by
  constructor
  · intro answered
    obtain ⟨dossier, found, _⟩ := bind_eq_ok_iff.mp answered
    have known := knows_of_knownDossier found
    rw [position?_of_knows known] at answered
    exact ⟨known, Except.ok.inj answered⟩
  · rintro ⟨known, rfl⟩
    exact position?_of_knows known

end Desk

/-- What becomes of a submission for the task in position: only that the task may not be redone, and
else the fields that are wanting, can stand against it. -/
theorem Flow.complete_at_position (flow : Flow) (requests : List Request) (id : String)
    {place : Place} (current : (flow.deskAfter requests).position? id = .ok (some place))
    (addressed : flow.Addresses place.task) (payload : Payload) (now : Instant) :
    let desk := flow.deskAfter requests
    let task := place.task
    let dossier := desk.registry.dossier id
    let closed := task.redoable = false ∧ dossier.hasVerdict task.id = true
    let filled := ∀ field ∈ task.requiredFields, payload.contains field = true
    let answer := (desk.complete id task.id payload now).1
    let changed := (desk.complete id task.id payload now).2
    (closed → dossier.hasFailed task.id = true ∧ answer = .error (.alreadyDone task.name)) ∧
      (¬closed → ¬filled →
        ∃ missing, answer = .error (.missingFields task.name missing) ∧
          ∀ field, field ∈ missing ↔
            field ∈ task.requiredFields ∧ payload.contains field = false) ∧
      (¬closed → filled →
        (∃ receipt, answer = .ok receipt ∧ receipt.task = task) ∧
          changed.registry.dossier id = dossier.file (Desk.verdictOn task payload now)) ∧
      ∀ refusal, answer = .error refusal →
        (∀ other prerequisite, refusal ≠ .outOfOrder other prerequisite) ∧
          (∀ identifier, refusal ≠ .unknownTask identifier) ∧
          ∀ cause, refusal ≠ .breakdown cause := by
  intro desk task dossier closed filled answer changed
  obtain ⟨known, current⟩ := Desk.position?_eq_ok_iff.mp current
  rw [flow_deskAfter] at current
  obtain ⟨filings, _, reached⟩ := flow.reaches_dossier requests id
  let submission : Submission := ⟨task.id, payload, now⟩
  have decision : desk.flow.accept dossier submission.identifier submission.payload = _ :=
    (congrArg (·.accept dossier task.id payload) (flow.flow_deskAfter requests)).trans
      (accept_at_position reached.inOrder current addressed payload)
  have whenClosed : closed →
      dossier.hasFailed task.id = true ∧ answer = .error (.alreadyDone task.name) := by
    intro isClosed
    rw [if_pos isClosed] at decision
    have outcome := Desk.submit_of_refused known decision
    exact ⟨hasFailed_of_position current isClosed.2, congrArg Prod.fst outcome⟩
  have whenWanting : ¬closed → ¬filled →
      answer = .error (.missingFields task.name (task.missingFields payload)) := by
    intro opened wanting
    have someMissing : ¬(task.missingFields payload).isEmpty = true :=
      mt Task.missingFields_isEmpty_iff.mp wanting
    rw [if_neg opened, if_neg someMissing] at decision
    have outcome := Desk.submit_of_refused known decision
    exact congrArg Prod.fst outcome
  have whenFilled : ¬closed → filled →
      (∃ receipt, answer = .ok receipt ∧ receipt.task = task) ∧
        changed.registry.dossier id = dossier.file (Desk.verdictOn task payload now) := by
    intro opened isFilled
    rw [if_neg opened, if_pos (Task.missingFields_isEmpty_iff.mpr isFilled)] at decision
    obtain ⟨registry, entered, outcome⟩ := Desk.submit_of_accepted known decision
    have replaced : changed.registry = registry := congrArg (·.2.registry) outcome
    refine ⟨⟨_, congrArg Prod.fst outcome, rfl⟩, ?_⟩
    rw [replaced]
    exact Roster.dossier_file_self entered
  refine ⟨whenClosed, ?_, whenFilled, ?_⟩
  · intro opened wanting
    refine ⟨_, whenWanting opened wanting, ?_⟩
    intro field
    simp [Task.missingFields]
  · intro refusal refused
    by_cases isClosed : closed
    · cases (whenClosed isClosed).2.symm.trans refused
      simp
    · by_cases isFilled : filled
      · obtain ⟨⟨receipt, accepted, _⟩, _⟩ := whenFilled isClosed isFilled
        cases accepted.symm.trans refused
      · cases (whenWanting isClosed isFilled).symm.trans refused
        simp

theorem Sample.addresses : ∀ task ∈ Sample.flow.tasks, Sample.flow.Addresses task := by
  intro task _ earlier ordered
  have apart : Sample.flow.tasks.Pairwise
      fun earlier later => earlier.answersTo later.id = false := by decide +kernel
  exact List.pairwise_iff_forall_sublist.mp apart ordered

theorem Flow.form_complete_at_position :
    let desk := Sample.flow.deskAfter Sample.requests
    desk.position? "1" = .ok (some ⟨0, Sample.application, Sample.form⟩) ∧
      Sample.flow.Addresses Sample.form ∧
      ∃ receipt, (desk.complete "1" "form" (Sample.consent "yes") ⟨3, 0⟩).1 = .ok receipt ∧
        receipt.task = Sample.form := by
  intro desk
  have current : desk.position? "1" = .ok (some ⟨0, Sample.application, Sample.form⟩) := rfl
  have addressed := Sample.addresses Sample.form List.mem_cons_self
  obtain ⟨_, _, accepted, _⟩ := Sample.flow.complete_at_position Sample.requests "1" current
    addressed (Sample.consent "yes") ⟨3, 0⟩
  obtain ⟨outcome, _⟩ := accepted (by decide) (by decide)
  exact ⟨current, addressed, outcome⟩

end Candidacy
