import Candidacy.Proofs.Position

/-!
What becomes of a submission on any desk, whatever its roster holds. It is accepted if it keeps all
the rules. If not, it is refused for the first rule that it breaks: the applicant is known, some
task has the identifier, the task may still be done, those before it in its step are passed, and
the required fields are there.
-/

namespace Candidacy

/-! Resolving an identifier, in terms of places. -/

namespace Flow

variable {flow : Flow} {place : Place} {dossier : Dossier} {identifier : String} {payload : Payload}

theorem resolve_of_isFirst (first : flow.IsFirst (·.answersTo identifier) place) :
    flow.resolve identifier dossier = .ok place.task := by
  apply resolve_eq_ok_iff.mpr
  rw [← map_task_places, List.find?_map]
  exact congrArg (Option.map (·.task)) first.find?_eq

theorem accept_of_unresolved
    (unresolved : ∀ task ∈ flow.tasks, task.answersTo identifier = false) :
    flow.accept dossier identifier payload = .error (.unknownTask identifier) := by
  have nothing : flow.tasks.find? (·.answersTo identifier) = none := by
    apply List.find?_eq_none.mpr
    intro task member
    simp [unresolved task member]
  have refused : flow.resolve identifier dossier = .error (.unknownTask identifier) := by
    simp only [resolve, map_task_places, Task.isVisible_eq_true, Bool.and_true, nothing]
  rw [accept, refused, error_bind]

theorem accept_of_blocked (first : flow.IsFirst (·.answersTo identifier) place)
    (undecided : place.task.redoable = false → dossier.hasVerdict place.task.id = false)
    {prerequisite : Task}
    (blocked : place.earlier.find? (!dossier.hasPassed ·.id) = some prerequisite) :
    flow.accept dossier identifier payload =
      .error (.outOfOrder place.task.name prerequisite.name) := by
  rw [accept_of_resolve first.mem (resolve_of_isFirst first),
    place.task.checkRedoable_of_undecided undecided, ok_bind, Place.checkOrder_task first.mem,
    blocked]
  rfl

end Flow

theorem Place.find?_earlier_iff {flow : Flow} {place : Place} (member : place ∈ flow.places)
    {p : Task → Bool} {task : Task} :
    place.earlier.find? p = some task ↔
      place.step.tasks.find? p = some task ∧ task ∈ place.earlier := by
  obtain ⟨later, split⟩ := exists_later member
  constructor
  · intro found
    refine ⟨?_, List.mem_of_find?_eq_some found⟩
    rw [split, List.find?_append, found, Option.some_or]
  · rintro ⟨found, inFront⟩
    rw [split, List.find?_append] at found
    cases before : place.earlier.find? p with
    | some first =>
        rw [before, Option.some_or] at found
        exact found
    | none =>
        rw [before, Option.none_or] at found
        have holds := List.find?_some found
        exact absurd holds (List.find?_eq_none.mp before task inFront)

/-! The rules. -/

namespace Desk

structure Permits (desk : Desk Roster) (id identifier : String) (payload : Payload)
    (place : Place) : Prop where
  known : desk.Knows id
  first : desk.flow.IsFirst (·.answersTo identifier) place
  admitted : place.Admits (desk.registry.dossier id) payload

/-- Each refusal with what calls for it: the rules before it are kept, and its own is broken. -/
inductive Refuses (desk : Desk Roster) (id identifier : String) (payload : Payload) :
    Refusal → Prop
  | unknownApplicant (unknown : ¬desk.Knows id) :
      Refuses desk id identifier payload (.unknownApplicant id)
  | unknownTask (known : desk.Knows id)
      (unresolved : ∀ task ∈ desk.flow.tasks, task.answersTo identifier = false) :
      Refuses desk id identifier payload (.unknownTask identifier)
  | alreadyDone {place : Place} (known : desk.Knows id)
      (first : desk.flow.IsFirst (·.answersTo identifier) place)
      (final : place.task.redoable = false)
      (decided : (desk.registry.dossier id).hasVerdict place.task.id = true) :
      Refuses desk id identifier payload (.alreadyDone place.task.name)
  | outOfOrder {place : Place} {prerequisite : Task} (known : desk.Knows id)
      (first : desk.flow.IsFirst (·.answersTo identifier) place)
      (undecided : place.task.redoable = false →
        (desk.registry.dossier id).hasVerdict place.task.id = false)
      (inFront : prerequisite ∈ place.earlier)
      (unpassed : place.step.tasks.find? (!(desk.registry.dossier id).hasPassed ·.id) =
        some prerequisite) :
      Refuses desk id identifier payload (.outOfOrder place.task.name prerequisite.name)
  | missingFields {place : Place} {missing : NameSet} (known : desk.Knows id)
      (first : desk.flow.IsFirst (·.answersTo identifier) place)
      (undecided : place.task.redoable = false →
        (desk.registry.dossier id).hasVerdict place.task.id = false)
      (prepared : ∀ task ∈ place.earlier, (desk.registry.dossier id).hasPassed task.id = true)
      (wanting : ∃ field, field ∈ missing)
      (listed : ∀ field, field ∈ missing ↔
        field ∈ place.task.requiredFields ∧ payload.contains field = false) :
      Refuses desk id identifier payload (.missingFields place.task.name missing)

variable {desk : Desk Roster} {id : String} {submission : Submission} {place : Place}

/-- Every submission keeps all the rules, or there is a first one that it breaks. -/
theorem permits_or_refuses (desk : Desk Roster) (id identifier : String) (payload : Payload) :
    (∃ place, desk.Permits id identifier payload place) ∨
      ∃ refusal, desk.Refuses id identifier payload refusal := by
  -- Rule after rule in the order of the refusals: each case below has the earlier rules at hand.
  by_cases known : desk.Knows id
  case neg => exact .inr ⟨_, .unknownApplicant known⟩
  cases resolved : desk.flow.places.find? (·.task.answersTo identifier) with
  | none => exact .inr ⟨_, .unknownTask known (Flow.forall_tasks_of_find? resolved)⟩
  | some place =>
      have first : desk.flow.IsFirst (·.answersTo identifier) place :=
        Flow.isFirst_of_find? resolved
      by_cases closed : place.task.redoable = false ∧
          (desk.registry.dossier id).hasVerdict place.task.id = true
      case pos => exact .inr ⟨_, .alreadyDone known first closed.1 closed.2⟩
      have undecided : place.task.redoable = false →
          (desk.registry.dossier id).hasVerdict place.task.id = false := by
        intro final
        simpa [final] using closed
      cases blocked : place.earlier.find? (!(desk.registry.dossier id).hasPassed ·.id) with
      | some prerequisite =>
          obtain ⟨unpassed, inFront⟩ := (Place.find?_earlier_iff first.mem).mp blocked
          exact .inr ⟨_, .outOfOrder known first undecided inFront unpassed⟩
      | none =>
          have prepared : ∀ task ∈ place.earlier,
              (desk.registry.dossier id).hasPassed task.id = true := by
            intro task inFront
            simpa using List.find?_eq_none.mp blocked task inFront
          by_cases filled : ∀ field ∈ place.task.requiredFields, payload.contains field = true
          · exact .inl ⟨place, known, first, undecided, prepared, filled⟩
          · have wanting : ∃ field, field ∈ place.task.missingFields payload := by
              simpa [Task.mem_missingFields] using filled
            exact .inr ⟨_, .missingFields known first undecided prepared wanting
              fun _ => Task.mem_missingFields⟩

theorem accept_of_permits
    (permits : desk.Permits id submission.identifier submission.payload place) :
    desk.flow.accept (desk.registry.dossier id) submission.identifier submission.payload =
      .ok place.task := by
  have filled := Task.missingFields_isEmpty_iff.mpr permits.admitted.filled
  rw [Flow.accept_of_prepared permits.first.mem (Flow.resolve_of_isFirst permits.first)
    permits.admitted.undecided permits.admitted.prepared, if_pos filled]

/-- The answer to a permitted submission, and what the applicant's standing is afterwards. -/
theorem submit_of_permits
    (permits : desk.Permits id submission.identifier submission.payload place) :
    ∃ receipt, (desk.submit id submission).1 = .ok receipt ∧ receipt.applicant = id ∧
      receipt.task = place.task ∧ receipt.passed = place.task.passes submission.payload ∧
      (desk.submit id submission).2.registry.dossier id =
        (desk.registry.dossier id).file (submission.verdict place.task) ∧
      (desk.submit id submission).2.standing id = .ok receipt.standing := by
  obtain ⟨registry, filed, outcome⟩ := submit_of_accepted permits.known (accept_of_permits permits)
  rw [outcome]
  refine ⟨_, rfl, rfl, rfl, rfl, Roster.dossier_file_self filed, ?_⟩
  exact standing_of_knows (knows_iff.mpr (Roster.enrolled_of_file filed))

theorem submit_of_refuses {refusal : Refusal}
    (refuses : desk.Refuses id submission.identifier submission.payload refusal) :
    (desk.submit id submission).1 = .error refusal := by
  cases refuses with
  | unknownApplicant unknown => rw [submit_of_unknown unknown]
  | unknownTask known unresolved =>
      rw [submit_of_refused known (Flow.accept_of_unresolved unresolved)]
  | alreadyDone known first final decided =>
      rw [submit_of_refused known
        (Flow.accept_decided first.mem (Flow.resolve_of_isFirst first) final decided)]
  | outOfOrder known first undecided inFront unpassed =>
      have blocked := (Place.find?_earlier_iff first.mem).mpr ⟨unpassed, inFront⟩
      rw [submit_of_refused known (Flow.accept_of_blocked first undecided blocked)]
  | @missingFields place missing known first undecided prepared wanting listed =>
      have same : missing = place.task.missingFields submission.payload := by
        apply NameSet.eq_of_mem_iff
        intro field
        exact (listed field).trans Task.mem_missingFields.symm
      subst same
      have someMissing : ¬(place.task.missingFields submission.payload).isEmpty = true := by
        simpa [NameSet.isEmpty_iff] using wanting
      have refused : desk.flow.accept (desk.registry.dossier id) submission.identifier
          submission.payload = _ :=
        Flow.accept_of_prepared first.mem (Flow.resolve_of_isFirst first) undecided prepared
      rw [if_neg someMissing] at refused
      rw [submit_of_refused known refused]

/-- A submission is accepted exactly if it keeps all the rules, and each refusal is given exactly
when its rule is the first one broken. None tells of a breakdown or of an unusable flow. -/
theorem complete_decides (desk : Desk Roster) (id identifier : String) (payload : Payload)
    (now : Instant) :
    let answer := (desk.complete id identifier payload now).1
    let changed := (desk.complete id identifier payload now).2
    ((∃ receipt, answer = .ok receipt) ↔ ∃ place, desk.Permits id identifier payload place) ∧
    (∀ refusal, answer = .error refusal ↔ desk.Refuses id identifier payload refusal) ∧
    (∀ refusal, answer = .error refusal →
      (∀ cause, refusal ≠ .breakdown cause) ∧ ∀ error, refusal ≠ .flow error) ∧
    ∀ place receipt, desk.Permits id identifier payload place → answer = .ok receipt →
      receipt.applicant = id ∧ receipt.task = place.task ∧
      receipt.passed = place.task.passes payload ∧
      changed.registry.dossier id =
        (desk.registry.dossier id).file (verdictOn place.task payload now) ∧
      changed.standing id = .ok receipt.standing := by
  intro answer changed
  let submission : Submission := ⟨identifier, payload, now⟩
  have whenPermitted {place : Place} (permits : desk.Permits id identifier payload place) :=
    @submit_of_permits desk id submission place permits
  have whenRefused {refusal : Refusal} (refuses : desk.Refuses id identifier payload refusal) :
      answer = .error refusal :=
    @submit_of_refuses desk id submission refusal refuses
  have refused_iff (refusal : Refusal) :
      answer = .error refusal ↔ desk.Refuses id identifier payload refusal := by
    constructor
    · intro refused
      obtain ⟨place, permits⟩ | ⟨first, refuses⟩ := desk.permits_or_refuses id identifier payload
      · obtain ⟨receipt, answered, _⟩ := whenPermitted permits
        cases answered.symm.trans refused
      · cases (whenRefused refuses).symm.trans refused
        exact refuses
    · exact whenRefused
  refine ⟨⟨?_, ?_⟩, refused_iff, ?_, ?_⟩
  · rintro ⟨receipt, answered⟩
    obtain permitted | ⟨refusal, refuses⟩ := desk.permits_or_refuses id identifier payload
    · exact permitted
    · cases (whenRefused refuses).symm.trans answered
  · rintro ⟨place, permits⟩
    obtain ⟨receipt, answered, _⟩ := whenPermitted permits
    exact ⟨receipt, answered⟩
  · intro refusal refused
    cases (refused_iff refusal).mp refused <;> simp
  · intro place receipt permits answered
    obtain ⟨_, accepted, facts⟩ := whenPermitted permits
    cases accepted.symm.trans answered
    exact facts

theorem form_wanted_before_talk :
    let desk := Sample.flow.deskAfter [.register "ada@example.org"]
    (desk.complete "1" "TALK" [] ⟨0, 0⟩).1 = .error (.outOfOrder "Talk" "Application Form") ∧
      ∃ receipt, (desk.complete "1" "application form" (Sample.consent "no") ⟨0, 0⟩).1 =
        .ok receipt ∧ receipt.task = Sample.form ∧ receipt.passed = false := by
  intro desk
  have known : desk.Knows "1" := by decide +kernel
  let formPlace : Place := ⟨0, Sample.application, Sample.form⟩
  let talkPlace : Place := ⟨0, Sample.application, Sample.talk⟩
  have permits : desk.Permits "1" "application form" (Sample.consent "no") formPlace := by
    refine ⟨known, Flow.isFirst_of_find? (by decide +kernel), ?_, ?_, ?_⟩
    · decide +kernel
    · decide +kernel
    · decide +kernel
  have refuses : desk.Refuses "1" "TALK" [] (.outOfOrder "Talk" "Application Form") := by
    have first : desk.flow.IsFirst (·.answersTo "TALK") talkPlace :=
      Flow.isFirst_of_find? (by decide +kernel)
    have unpassed : talkPlace.step.tasks.find? (!(desk.registry.dossier "1").hasPassed ·.id) =
        some Sample.form := by decide +kernel
    exact .outOfOrder known first (by decide +kernel) (by decide +kernel) unpassed
  obtain ⟨_, refused_iff, _⟩ := desk.complete_decides "1" "TALK" [] ⟨0, 0⟩
  obtain ⟨accepted_iff, _, _, facts⟩ :=
    desk.complete_decides "1" "application form" (Sample.consent "no") ⟨0, 0⟩
  obtain ⟨receipt, answered⟩ := accepted_iff.mpr ⟨formPlace, permits⟩
  obtain ⟨_, task, passed, _⟩ := facts formPlace receipt permits answered
  refine ⟨(refused_iff _).mpr refuses, receipt, answered, task, passed.trans ?_⟩
  decide +kernel

end Desk

end Candidacy
