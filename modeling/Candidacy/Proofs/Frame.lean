import Candidacy.Proofs.Ledger

/-!
What an operation may change. A refused request and a question leave the desk as it was; an accepted
submission changes what stands under one task of one applicant; a registration adds one applicant.
So nobody is ever lost or renamed, and there are verdicts on ever more tasks.
-/

namespace Candidacy

/-- What can be done to a desk: calls on it, and verdicts filed past it. -/
inductive Action
  | call (call : Call)
  | file (id : String) (verdict : Verdict)

namespace Roster

/-- Nothing is changed but what is filed under one task of one applicant. -/
structure FilesOnly (before after : Roster) (id task : String) : Prop where
  emails : after.emails = before.emails
  next : after.next = before.next
  others : ∀ other, other ≠ id → after.enrolled.get? other = before.enrolled.get? other
  email : (after.enrolled.get? id).map (·.email) = (before.enrolled.get? id).map (·.email)
  otherTasks : ∀ key, key ≠ task →
    (after.dossier id).verdict? key = (before.dossier id).verdict? key
  filed : (after.dossier id).hasVerdict task = true

/-- Nothing is changed but that an applicant without verdicts is added, with its entry in the index
of emails, and its number is used up. -/
structure AddsOnly (before after : Roster) (applicant : Applicant) : Prop where
  unknown : before.enrolled.get? applicant.id = none
  added : after.enrolled.get? applicant.id = some ⟨applicant.email, .empty⟩
  others : ∀ other, other ≠ applicant.id →
    after.enrolled.get? other = before.enrolled.get? other
  unlisted : before.emails.get? (normalEmail applicant.email) = none
  listed : after.emails.get? (normalEmail applicant.email) = some applicant.id
  otherEmails : ∀ normal, normal ≠ normalEmail applicant.email →
    after.emails.get? normal = before.emails.get? normal
  next : after.next = before.next + 1

/-- Applicants stay, and so do the tasks on which they have verdicts. -/
structure Retains (before after : Roster) : Prop where
  applicants : ∀ id applicant, before.applicant? id = some applicant →
    ∃ verdicts, after.applicant? id = some { applicant with verdicts }
  verdicts : ∀ id task, (before.dossier id).hasVerdict task = true →
    (after.dossier id).hasVerdict task = true

variable {before after : Roster}

theorem filesOnly_of_file {id : String} {verdict : Verdict}
    (filed : before.file id verdict = .ok after) : before.FilesOnly after id verdict.task := by
  obtain ⟨sameEmails, sameNext⟩ := index_file filed
  have sameDossier := dossier_file_self filed
  constructor
  · exact sameEmails
  · exact sameNext
  · intro other different
    exact get?_file_other filed different.symm
  · rw [get?_file_self filed, Option.map_map]
    rfl
  · intro key different
    rw [sameDossier]
    exact Dossier.verdict?_file_other _ different.symm
  · rw [sameDossier]
    exact Dossier.hasVerdict_of_verdict? (Dossier.verdict?_file_self _ verdict)

theorem IsNumbered.addsOnly {count : Nat} {email : String} {applicant : Applicant}
    (numbered : before.IsNumbered count)
    (registered : before.register email = .ok (applicant, after)) :
    applicant.email = email ∧ before.AddsOnly after applicant := by
  obtain ⟨free, rfl, rfl⟩ := register_eq_ok_iff.mp registered
  refine ⟨rfl, ?_⟩
  constructor
  · -- Otherwise the newcomer would take the place of somebody with the same number.
    exact numbered.get?_next
  · exact Table.get?_insert_self _ _ _
  · intro other different
    exact Table.get?_insert_other _ different.symm _
  · exact free
  · exact Table.get?_insert_self _ _ _
  · intro normal different
    exact Table.get?_insert_other _ different.symm _
  · rfl

/-! Nothing is lost. -/

theorem Retains.refl (roster : Roster) : roster.Retains roster := by
  constructor
  · intro id applicant found
    exact ⟨applicant.verdicts, found⟩
  · intro id task decided
    exact decided

theorem Retains.trans {between : Roster} (first : before.Retains between)
    (second : between.Retains after) : before.Retains after := by
  constructor
  · intro id applicant found
    obtain ⟨verdicts, alsoFound⟩ := first.applicants id applicant found
    obtain ⟨later, foundLater⟩ := second.applicants id _ alsoFound
    exact ⟨later, foundLater⟩
  · intro id task decided
    exact second.verdicts id task (first.verdicts id task decided)

theorem FilesOnly.retains {id task : String} (files : before.FilesOnly after id task) :
    before.Retains after := by
  constructor
  · intro other applicant found
    by_cases same : other = id
    · subst same
      obtain ⟨enrolled, present, rfl⟩ := Option.map_eq_some_iff.mp found
      have sameEmail := files.email
      rw [present] at sameEmail
      obtain ⟨changed, alsoPresent, email⟩ := Option.map_eq_some_iff.mp sameEmail
      refine ⟨changed.verdicts, ?_⟩
      rw [applicant?, alsoPresent, Option.map_some, Enrolled.toApplicant, email]
      rfl
    · rw [applicant?, ← files.others other same] at found
      exact ⟨applicant.verdicts, found⟩
  · intro other key decided
    by_cases same : other = id
    · subst same
      by_cases sameTask : key = task
      · subst sameTask
        exact files.filed
      · rw [Dossier.hasVerdict_eq_isSome, files.otherTasks key sameTask]
        exact decided
    · rw [dossier, files.others other same]
      exact decided

theorem AddsOnly.get?_of_get? {applicant : Applicant} (adds : before.AddsOnly after applicant)
    {id : String} {enrolled : Enrolled} (present : before.enrolled.get? id = some enrolled) :
    after.enrolled.get? id = some enrolled := by
  have different : id ≠ applicant.id := by
    intro same
    rw [same, adds.unknown] at present
    cases present
  rw [adds.others id different, present]

theorem AddsOnly.retains {applicant : Applicant} (adds : before.AddsOnly after applicant) :
    before.Retains after := by
  constructor
  · intro id known found
    obtain ⟨enrolled, present, rfl⟩ := Option.map_eq_some_iff.mp found
    refine ⟨enrolled.verdicts, ?_⟩
    rw [applicant?, adds.get?_of_get? present]
    rfl
  · intro id task decided
    cases present : before.enrolled.get? id with
    | none =>
        rw [dossier, present] at decided
        cases decided
    | some enrolled =>
        rw [dossier, present] at decided
        rw [dossier, adds.get?_of_get? present]
        exact decided

end Roster

namespace Desk

def act (desk : Desk Roster) : Action → Desk Roster
  | .call call => desk.handle call
  | .file id verdict =>
      match desk.registry.file id verdict with
      | .ok registry => { desk with registry }
      | .error _ => desk

def actAll (desk : Desk Roster) (actions : List Action) : Desk Roster :=
  actions.foldl act desk

/-- The applicant whom an action brings in. -/
def entrant? (desk : Desk Roster) : Action → Option Applicant
  | .call (.change request) => desk.newcomer? request
  | .call (.ask _) => none
  | .file _ _ => none

def entrants (desk : Desk Roster) : List Action → List Applicant
  | [] => []
  | action :: rest => (desk.entrant? action).toList ++ (desk.act action).entrants rest

theorem entrants_append (desk : Desk Roster) (actions rest : List Action) :
    desk.entrants (actions ++ rest) =
      desk.entrants actions ++ (desk.actAll actions).entrants rest := by
  induction actions generalizing desk with
  | nil => rfl
  | cons action others ih =>
      rw [List.cons_append, entrants, entrants, ih, List.append_assoc]
      rfl

/-! One action. -/

variable {desk : Desk Roster} {id email : String} {count : Nat}

theorem act_register_of_error {refusal : Refusal} (refused : desk.register email = .error refusal) :
    desk.act (.call (.change (.register email))) = desk := by
  rw [act, handle, serve, refused]

theorem act_register_of_ok {applicant : Applicant} {changed : Desk Roster}
    (registered : desk.register email = .ok (applicant, changed)) :
    desk.act (.call (.change (.register email))) = changed ∧
      changed.flow = desk.flow ∧
      desk.registry.register email = .ok (applicant, changed.registry) := by
  have served : desk.act (.call (.change (.register email))) = changed := by
    rw [act, handle, serve, registered]
  obtain ⟨registry, enrolled, rfl⟩ := register_eq_ok_iff.mp registered
  exact ⟨served, rfl, enrolled⟩

theorem act_submit_of_error {submission : Submission} {refusal : Refusal}
    (refused : (desk.submit id submission).1 = .error refusal) :
    desk.act (.call (.change (.submit id submission))) = desk := by
  change (desk.submit id submission).2 = desk
  obtain ⟨_, outcome⟩ | ⟨_, _, _, _, _, outcome⟩ := desk.submit_outcomes id submission
  · rw [outcome]
  · rw [outcome] at refused
    cases refused

theorem act_submit_of_ok {submission : Submission} {receipt : Receipt}
    (answered : (desk.submit id submission).1 = .ok receipt) :
    let changed := desk.act (.call (.change (.submit id submission)))
    changed.flow = desk.flow ∧
      desk.registry.file id (submission.verdict receipt.task) = .ok changed.registry := by
  intro changed
  have served : changed = (desk.submit id submission).2 := rfl
  obtain ⟨_, outcome⟩ | ⟨task, registry, _, _, filed, outcome⟩ :=
    desk.submit_outcomes id submission
  · rw [outcome] at answered
    cases answered
  · rw [served, outcome]
    rw [outcome] at answered
    cases answered
    exact ⟨rfl, filed⟩

theorem file_of_unknown (unknown : ¬desk.Knows id) (verdict : Verdict) :
    desk.registry.file id verdict = .error (.unknownApplicant id) := by
  cases found : desk.registry.enrolled.get? id with
  | none => rw [Roster.file, found]
  | some enrolled => exact absurd (knows_iff.mpr ⟨enrolled, found⟩) unknown

theorem act_file_of_unknown (unknown : ¬desk.Knows id) (verdict : Verdict) :
    desk.act (.file id verdict) = desk := by
  rw [act, file_of_unknown unknown]

theorem act_file_cases (desk : Desk Roster) (id : String) (verdict : Verdict) :
    desk.act (.file id verdict) = desk ∨
      ∃ registry, desk.registry.file id verdict = .ok registry ∧
        desk.act (.file id verdict) = { desk with registry } := by
  cases filed : desk.registry.file id verdict with
  | error refusal =>
      left
      rw [act, filed]
  | ok registry =>
      right
      exact ⟨registry, rfl, by rw [act, filed]⟩

theorem isNumbered_act (numbered : desk.registry.IsNumbered count) (action : Action)
    (room : count + (desk.entrant? action).toList.length < UInt64.size - 1) :
    (desk.act action).registry.IsNumbered (count + (desk.entrant? action).toList.length) := by
  cases action with
  | call call =>
      cases call with
      | change request => exact isNumbered_serve numbered request room
      | ask question => exact numbered
  | file id verdict =>
      obtain kept | ⟨registry, filed, acted⟩ := desk.act_file_cases id verdict
      · rw [kept]
        exact numbered
      · rw [acted]
        exact numbered.file filed

theorem retains_act (numbered : desk.registry.IsNumbered count) (action : Action) :
    desk.registry.Retains (desk.act action).registry := by
  cases action with
  | call call =>
      cases call with
      | ask question => exact .refl _
      | change request =>
          cases request with
          | register email =>
              cases registered : desk.register email with
              | error refusal =>
                  rw [act_register_of_error registered]
                  exact .refl _
              | ok answer =>
                  obtain ⟨applicant, changed⟩ := answer
                  obtain ⟨acted, _, enrolled⟩ := act_register_of_ok registered
                  rw [acted]
                  exact (numbered.addsOnly enrolled).2.retains
          | submit id submission =>
              cases answered : (desk.submit id submission).1 with
              | error refusal =>
                  rw [act_submit_of_error answered]
                  exact .refl _
              | ok receipt =>
                  obtain ⟨_, filed⟩ := act_submit_of_ok answered
                  exact (Roster.filesOnly_of_file filed).retains
  | file id verdict =>
      obtain kept | ⟨registry, filed, acted⟩ := desk.act_file_cases id verdict
      · rw [kept]
        exact .refl _
      · rw [acted]
        exact (Roster.filesOnly_of_file filed).retains

/-! All actions. -/

theorem isNumbered_actAll (numbered : desk.registry.IsNumbered count) (actions : List Action)
    (room : count + (desk.entrants actions).length < UInt64.size - 1) :
    (desk.actAll actions).registry.IsNumbered (count + (desk.entrants actions).length) := by
  induction actions generalizing desk count with
  | nil => exact numbered
  | cons action rest ih =>
      rw [entrants, List.length_append, ← Nat.add_assoc] at room ⊢
      have roomNow := Nat.lt_of_le_of_lt (Nat.le_add_right _ _) room
      exact ih (isNumbered_act numbered action roomNow) room

theorem retains_actAll (numbered : desk.registry.IsNumbered count) (actions : List Action)
    (room : count + (desk.entrants actions).length < UInt64.size - 1) :
    desk.registry.Retains (desk.actAll actions).registry := by
  induction actions generalizing desk count with
  | nil => exact .refl _
  | cons action rest ih =>
      rw [entrants, List.length_append, ← Nat.add_assoc] at room
      have roomNow := Nat.lt_of_le_of_lt (Nat.le_add_right _ _) room
      have later := ih (isNumbered_act numbered action roomNow) room
      exact (retains_act numbered action).trans later

end Desk

/-- In every state that a desk can come to, a refused request, a verdict filed on somebody unknown
and a question change nothing; an accepted submission changes what stands under its task, and a
registration adds an applicant. So in whatever is done afterwards nobody is lost or renamed, and no
task on which an applicant has a verdict. -/
theorem Flow.actions_confined (flow : Flow) (actions : List Action)
    (few : ((Desk.inMemory flow).entrants actions).length < UInt64.size - 1) :
    let desk := (Desk.inMemory flow).actAll actions
    (∀ email refusal, desk.register email = .error refusal →
      desk.act (.call (.change (.register email))) = desk) ∧
    (∀ id submission refusal, (desk.submit id submission).1 = .error refusal →
      desk.act (.call (.change (.submit id submission))) = desk) ∧
    (∀ id verdict, ¬desk.Knows id →
      desk.registry.file id verdict = .error (.unknownApplicant id) ∧
        desk.act (.file id verdict) = desk) ∧
    (∀ question, desk.act (.call (.ask question)) = desk) ∧
    (∀ id submission receipt, (desk.submit id submission).1 = .ok receipt →
      let changed := desk.act (.call (.change (.submit id submission)))
      changed.flow = desk.flow ∧
        desk.registry.FilesOnly changed.registry id receipt.task.id) ∧
    (∀ email applicant changed, desk.register email = .ok (applicant, changed) →
      desk.act (.call (.change (.register email))) = changed ∧
        changed.flow = desk.flow ∧
        applicant.email = email ∧
        desk.registry.AddsOnly changed.registry applicant) ∧
    ∀ rest, ((Desk.inMemory flow).entrants (actions ++ rest)).length < UInt64.size - 1 →
      desk.registry.Retains (desk.actAll rest).registry := by
  intro desk
  have opened : (Desk.inMemory flow).registry.IsNumbered 0 := Roster.isNumbered_empty
  have numbered := Desk.isNumbered_actAll opened actions (by rwa [Nat.zero_add])
  refine ⟨?_, ?_, ?_, ?_, ?_, ?_, ?_⟩
  · intro email refusal refused
    exact Desk.act_register_of_error refused
  · intro id submission refusal refused
    exact Desk.act_submit_of_error refused
  · intro id verdict unknown
    exact ⟨Desk.file_of_unknown unknown verdict, Desk.act_file_of_unknown unknown verdict⟩
  · intro question
    rfl
  · intro id submission receipt answered
    obtain ⟨sameFlow, filed⟩ := Desk.act_submit_of_ok answered
    exact ⟨sameFlow, Roster.filesOnly_of_file filed⟩
  · intro email applicant changed registered
    obtain ⟨acted, sameFlow, enrolled⟩ := Desk.act_register_of_ok registered
    exact ⟨acted, sameFlow, numbered.addsOnly enrolled⟩
  · intro rest fewAll
    rw [Desk.entrants_append, List.length_append] at fewAll
    apply Desk.retains_actAll numbered rest
    rwa [Nat.zero_add]

theorem Flow.form_filed_alone :
    let actions : List Action := Sample.requests.map fun request => .call (.change request)
    let form : Submission := ⟨"form", Sample.consent "yes", ⟨3, 0⟩⟩
    let filing : Action := .call (.change (.submit "1" form))
    let desk := (Desk.inMemory Sample.flow).actAll actions
    ((Desk.inMemory Sample.flow).entrants actions).length < UInt64.size - 1 ∧
      desk.Knows "1" ∧ ¬desk.Knows "2" ∧
      desk.act (.call (.change (.submit "2" form))) = desk ∧
      desk.act (.file "2" (form.verdict Sample.form)) = desk ∧
      desk.registry.FilesOnly (desk.act filing).registry "1" "form" ∧
      desk.registry.Retains (desk.actAll [filing, filing]).registry := by
  intro actions form filing desk
  have few : ((Desk.inMemory Sample.flow).entrants actions).length < UInt64.size - 1 := by
    decide +kernel
  have fewAll : ((Desk.inMemory Sample.flow).entrants (actions ++ [filing, filing])).length <
      UInt64.size - 1 := by decide +kernel
  have known : desk.Knows "1" := Sample.knows
  have unknown : ¬desk.Knows "2" := by decide +kernel
  have refused : (desk.submit "2" form).1 = .error (.unknownApplicant "2") := by
    rw [Desk.submit_of_unknown unknown]
  have accepted : desk.flow.accept (desk.registry.dossier "1") "form" (Sample.consent "yes") =
      .ok Sample.form := rfl
  obtain ⟨registry, _, answered⟩ :=
    @Desk.submit_of_accepted desk "1" form Sample.form known accepted
  obtain ⟨_, refusals, strays, _, filings, _, retains⟩ :=
    Sample.flow.actions_confined actions few
  refine ⟨few, known, unknown, ?_, ?_, ?_, ?_⟩
  · exact refusals "2" form _ refused
  · exact (strays "2" (form.verdict Sample.form) unknown).2
  · exact (filings "1" form _ (congrArg Prod.fst answered)).2
  · exact retains [filing, filing] fewAll

end Candidacy
