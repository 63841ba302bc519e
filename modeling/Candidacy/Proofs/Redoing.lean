import Candidacy.Proofs.Addressing
import Candidacy.Proofs.Independence
import Candidacy.Proofs.Transitions

/-!
Tasks that may be redone. Once a submission for such a task is accepted the task stays open, whatever
comes of it, until a task before it in its step is failed: every later submission that fills its
fields is accepted in turn, and the latest one stands.
-/

namespace Candidacy

/-! What is kept apart from the instants. -/

namespace Table

variable {α β : Type _}

def map (f : α → β) (table : Table α) : Table β where
  entries := table.entries.map fun entry => (entry.1, f entry.2)
  sorted := by
    apply List.pairwise_map.mpr
    exact table.sorted

@[simp] theorem get?_map (f : α → β) (table : Table α) (key : String) :
    (table.map f).get? key = (table.get? key).map f := by
  simp only [get?, Keyed.get?, map, List.find?_map, Option.map_map]
  rfl

theorem map_insert (f : α → β) (table : Table α) (key : String) (value : α) :
    (table.insert key value).map f = (table.map f).insert key (f value) := by
  apply eq_of_get?_eq
  intro other
  rw [get?_map, get?_insert, get?_insert, get?_map]
  split <;> rfl

theorem insert_insert (table : Table α) (key : String) (value later : α) :
    (table.insert key value).insert key later = table.insert key later := by
  apply eq_of_get?_eq
  intro other
  rw [get?_insert, get?_insert, get?_insert]
  split <;> rfl

end Table

def Verdict.timeless (verdict : Verdict) : Verdict :=
  { verdict with resolvedAt := ⟨0, 0⟩ }

def Dossier.timeless (dossier : Dossier) : Dossier :=
  { dossier with verdicts := dossier.verdicts.map Verdict.timeless }

def Enrolled.timeless (enrolled : Enrolled) : Enrolled :=
  { enrolled with verdicts := enrolled.verdicts.map Verdict.timeless }

/-- All that is kept, but for the instants of the verdicts. -/
def Roster.timeless (roster : Roster) : Roster :=
  { roster with enrolled := roster.enrolled.map Enrolled.timeless }

namespace Roster

theorem dossier_timeless (roster : Roster) (id : String) :
    roster.timeless.dossier id = (roster.dossier id).timeless := by
  simp only [dossier, timeless, Table.get?_map]
  cases roster.enrolled.get? id <;> rfl

/-- A verdict that is filed again, at another instant, changes nothing but the instant. -/
theorem timeless_file_again {roster once again : Roster} {id : String} {verdict later : Verdict}
    (filed : roster.file id verdict = .ok once) (filedAgain : once.file id later = .ok again)
    (same : later.timeless = verdict.timeless) : again.timeless = once.timeless := by
  obtain ⟨enrolled, _, rfl⟩ := file_eq_ok_iff.mp filed
  obtain ⟨changed, found, rfl⟩ := file_eq_ok_iff.mp filedAgain
  rw [Table.get?_insert_self, Option.some.injEq] at found
  subst found
  have sameTask : later.timeless.task = verdict.timeless.task := by rw [same]
  change later.task = verdict.task at sameTask
  simp only [timeless, Enrolled.timeless, Table.map_insert, Table.insert_insert, sameTask, same]

end Roster

/-- The standing does not hang on the instants. -/
theorem Flow.standing_timeless (flow : Flow) (dossier : Dossier) :
    flow.standing dossier.timeless = flow.standing dossier := by
  have anyFailed : dossier.timeless.anyFailed = dossier.anyFailed := by
    simp only [Dossier.anyFailed, Dossier.timeless, Table.values, Table.map, List.map_map,
      List.any_map]
    rfl
  have hasPassed (key : String) : dossier.timeless.hasPassed key = dossier.hasPassed key := by
    simp only [Dossier.hasPassed, Dossier.verdict?, Dossier.timeless, Table.get?_map,
      Option.any_map]
    rfl
  simp only [standing, anyFailed, hasPassed, visiblePlaces_eq]

/-! Tasks that stand before another one. -/

namespace Flow

/-- The one task stands before the other in a step of the flow. -/
def Precedes (flow : Flow) (earlier later : Task) : Prop :=
  ∃ step ∈ flow.steps, [earlier, later].Sublist step.tasks

variable {flow : Flow} {earlier task : Task} {identifier : String} {dossier : Dossier}
variable {payload : Payload}

theorem Precedes.mem (precedes : flow.Precedes earlier task) : earlier ∈ flow.tasks := by
  obtain ⟨step, member, ordered⟩ := precedes
  exact (tasks_sublist_of_mem_steps member).subset (ordered.subset (by simp))

theorem not_precedes_self (flow : Flow) (task : Task) : ¬flow.Precedes task task := by
  rintro ⟨step, member, ordered⟩
  have nodup := (step_tasks_nodup member).sublist ordered
  simp at nodup

theorem answers_of_accept (accepted : flow.accept dossier identifier payload = .ok task) :
    flow.Answers identifier task := by
  obtain ⟨first, resolved, _⟩ := bind_eq_ok_iff.mp accepted
  have answers : flow.Answers identifier first := resolve_eq_ok_iff_answers.mp resolved
  exact task_of_accept answers accepted ▸ answers

theorem hasPassed_of_accept (accepted : flow.accept dossier identifier payload = .ok task)
    (precedes : flow.Precedes earlier task) : dossier.hasPassed earlier.id = true := by
  obtain ⟨place, member, rfl, admitted⟩ := admits_of_accept accepted
  exact admitted.prepared earlier ((Place.mem_earlier_iff member).mpr precedes)

end Flow

/-- A submission under an identifier, with all that the task wants. -/
structure Submission.Redoes (next : Submission) (identifier : String) (task : Task) : Prop where
  identifier : next.identifier = identifier
  filled : ∀ field ∈ task.requiredFields, next.payload.contains field = true

namespace Desk

/-- A known applicant may redo the task that an identifier leads to, and has passed all tasks before
it in its step. -/
structure IsOpenTo (desk : Desk Roster) (id identifier : String) (task : Task) : Prop where
  known : desk.Knows id
  answers : desk.flow.Answers identifier task
  redoable : task.redoable = true
  prepared : ∀ earlier, desk.flow.Precedes earlier task →
    (desk.registry.dossier id).hasPassed earlier.id = true

variable {desk : Desk Roster} {id identifier : String} {task : Task} {submission : Submission}

/-! One request. -/

theorem hasPassed_serve {count : Nat} {earlier : Task} {request : Request}
    (numbered : desk.registry.IsNumbered count) (member : earlier ∈ desk.flow.tasks)
    (passed : (desk.registry.dossier id).hasPassed earlier.id = true)
    (unfailed : ∀ filing ∈ desk.filing? request, filing.receipt.applicant = id →
      filing.receipt.task = earlier → filing.receipt.passed = true) :
    ((desk.serve request).registry.dossier id).hasPassed earlier.id = true := by
  cases request with
  | register email =>
      rw [dossier_serve_register numbered]
      exact passed
  | submit applicant submission =>
      obtain ⟨kept, _⟩ | ⟨_, other, _⟩ | ⟨next, accepted, _, acceptance, filed, added⟩ :=
        desk.dossier_serve_cases (.submit applicant submission) id
      · rw [kept]
        exact passed
      · cases other
      · rw [filed]
        by_cases same : accepted.id = earlier.id
        · have identical := Flow.task_eq_of_accept member acceptance same
          subst identical
          have outcome := Dossier.hasPassed_file_self (desk.registry.dossier id)
            (next.verdict accepted)
          exact outcome.trans (unfailed _ added rfl rfl)
        · rw [Dossier.hasPassed_file_other _ same]
          exact passed

namespace IsOpenTo

theorem of_submit {receipt : Receipt} (answered : (desk.submit id submission).1 = .ok receipt)
    (redoable : receipt.task.redoable = true) :
    (desk.submit id submission).2.IsOpenTo id submission.identifier receipt.task := by
  obtain ⟨_, accepted, filed, _⟩ := accepted_of_submit answered
  have stands := Dossier.verdict?_file_self (desk.registry.dossier id)
    (submission.verdict receipt.task)
  constructor
  · apply knows_of_hasVerdict
    rw [filed]
    exact Dossier.hasVerdict_of_verdict? stands
  · rw [flow_submit]
    exact Flow.answers_of_accept accepted
  · exact redoable
  · intro earlier precedes
    rw [flow_submit] at precedes
    have passed := Flow.hasPassed_of_accept accepted precedes
    -- The verdict just filed is on the task itself, which does not stand before itself.
    have different : receipt.task.id ≠ earlier.id := by
      intro same
      have identical := Flow.task_eq_of_accept precedes.mem accepted same
      exact desk.flow.not_precedes_self earlier (identical ▸ precedes)
    rw [filed, Dossier.hasPassed_file_other _ different]
    exact passed

theorem accept_eq (isOpen : desk.IsOpenTo id identifier task)
    (redoes : submission.Redoes identifier task) :
    desk.flow.accept (desk.registry.dossier id) submission.identifier submission.payload =
      .ok task := by
  obtain ⟨place, member, rfl⟩ := Flow.exists_place isOpen.answers.mem
  rw [redoes.identifier, Flow.accept_of_prepared member]
  · rw [if_pos (Task.missingFields_isEmpty_iff.mpr redoes.filled)]
  · exact Flow.resolve_eq_ok_iff_answers.mpr isOpen.answers
  · intro final
    simp [isOpen.redoable] at final
  · intro earlier inFront
    exact isOpen.prepared earlier ((Place.mem_earlier_iff member).mp inFront)

/-- What comes of a submission for a task that is open. -/
theorem submit_eq (isOpen : desk.IsOpenTo id identifier task)
    (redoes : submission.Redoes identifier task) :
    let changed := (desk.registry.dossier id).file (submission.verdict task)
    (desk.submit id submission).1 = .ok (submission.receipt task desk.flow id changed) ∧
      (desk.submit id submission).2.registry.dossier id = changed ∧
      desk.registry.file id (submission.verdict task) =
        .ok (desk.submit id submission).2.registry := by
  obtain ⟨registry, filed, answered⟩ :=
    submit_of_accepted isOpen.known (isOpen.accept_eq redoes)
  have changed := Roster.dossier_file_self filed
  rw [answered]
  exact ⟨by rw [changed], changed, filed⟩

theorem serve {count : Nat} {request : Request} (isOpen : desk.IsOpenTo id identifier task)
    (numbered : desk.registry.IsNumbered count)
    (unfailed : ∀ filing ∈ desk.filing? request, filing.receipt.applicant = id →
      desk.flow.Precedes filing.receipt.task task → filing.receipt.passed = true) :
    (desk.serve request).IsOpenTo id identifier task := by
  constructor
  · exact knows_of_retains isOpen.known (retains_act numbered (.call (.change request)))
  · rw [flow_serve]
    exact isOpen.answers
  · exact isOpen.redoable
  · intro earlier precedes
    rw [flow_serve] at precedes
    apply hasPassed_serve numbered precedes.mem (isOpen.prepared earlier precedes)
    intro filing added sameApplicant sameTask
    exact unfailed filing added sameApplicant (sameTask ▸ precedes)

/-! All requests. -/

theorem serveAll {count : Nat} {requests : List Request}
    (isOpen : desk.IsOpenTo id identifier task) (numbered : desk.registry.IsNumbered count)
    (room : count + (desk.newcomers requests).length < UInt64.size - 1)
    (unfailed : ∀ filing ∈ desk.journal requests, filing.receipt.applicant = id →
      desk.flow.Precedes filing.receipt.task task → filing.receipt.passed = true) :
    (desk.serveAll requests).IsOpenTo id identifier task := by
  induction requests generalizing desk count with
  | nil => exact isOpen
  | cons request rest ih =>
      rw [newcomers, List.length_append, ← Nat.add_assoc] at room
      have roomNow := Nat.lt_of_le_of_lt (Nat.le_add_right _ _) room
      rw [journal] at unfailed
      apply ih (isOpen.serve numbered _) (isNumbered_serve numbered request roomNow) room
      · intro filing later
        rw [flow_serve]
        exact unfailed filing (List.mem_append_right _ later)
      · intro filing now
        exact unfailed filing (List.mem_append_left _ (Option.mem_toList.mpr now))

/-- A row of submissions for a task that is open is accepted one by one, and the last one stands. -/
theorem row {submissions : List Submission} (isOpen : desk.IsOpenTo id identifier task)
    (redo : ∀ next ∈ submissions, next.Redoes identifier task) :
    (desk.journal (submissions.map (.submit id))).map
        (fun filing => (filing.submission, filing.receipt.task)) =
      submissions.map (·, task) ∧
    ∀ latest, submissions.getLast? = some latest →
      ((desk.serveAll (submissions.map (.submit id))).registry.dossier id).verdict? task.id =
        some (latest.verdict task) := by
  induction submissions generalizing desk with
  | nil => exact ⟨rfl, by simp⟩
  | cons next rest ih =>
      obtain ⟨redoesNow, redoLater⟩ := List.forall_mem_cons.mp redo
      obtain ⟨answered, filed, _⟩ := isOpen.submit_eq redoesNow
      have stillOpen : (desk.submit id next).2.IsOpenTo id identifier task :=
        redoesNow.identifier ▸ of_submit answered isOpen.redoable
      obtain ⟨accepted, latestStands⟩ := ih stillOpen redoLater
      constructor
      · rw [List.map_cons, List.map_cons, ← accepted, journal, filing?, answered]
        rfl
      · intro latest last
        rw [List.map_cons, serveAll_cons]
        rw [List.getLast?_cons] at last
        cases after : rest.getLast? with
        | some final => exact latestStands latest (by simpa [after] using last)
        | none =>
            have nothing : rest = [] := List.getLast?_eq_none_iff.mp after
            subst nothing
            have only : next = latest := by simpa using last
            subst only
            change ((desk.submit id next).2.registry.dossier id).verdict? task.id = _
            rw [filed]
            exact Dossier.verdict?_file_self _ (next.verdict task)

/-- The same submission once more: the same answer, and nothing is changed but the instant. -/
theorem submit_again {receipt : Receipt} {repeated : Submission}
    (answered : (desk.submit id submission).1 = .ok receipt)
    (redoable : receipt.task.redoable = true)
    (sameIdentifier : repeated.identifier = submission.identifier)
    (samePayload : repeated.payload = submission.payload) :
    let once := (desk.submit id submission).2
    (once.submit id repeated).1 = .ok receipt ∧
      (once.submit id repeated).2.registry.timeless = once.registry.timeless ∧
      once.registry.FilesOnly (once.submit id repeated).2.registry id receipt.task.id := by
  intro once
  have isOpen : once.IsOpenTo id submission.identifier receipt.task := of_submit answered redoable
  obtain ⟨_, accepted, filed, receipt_eq⟩ := accepted_of_submit answered
  obtain ⟨place, _, sameTask, admitted⟩ := Flow.admits_of_accept accepted
  have redoes : repeated.Redoes submission.identifier receipt.task :=
    ⟨sameIdentifier, samePayload ▸ sameTask ▸ admitted.filled⟩
  obtain ⟨answeredAgain, filedAgain, filing⟩ := isOpen.submit_eq redoes
  have sameVerdict : (repeated.verdict receipt.task).timeless =
      (submission.verdict receipt.task).timeless := by
    simp only [Submission.verdict, verdictOn, Verdict.timeless, samePayload]
  have sameRoster : (once.submit id repeated).2.registry.timeless = once.registry.timeless :=
    Roster.timeless_file_again (act_submit_of_ok answered).2 filing sameVerdict
  refine ⟨?_, sameRoster, Roster.filesOnly_of_file filing⟩
  have sameStanding : once.flow.standing
        ((once.registry.dossier id).file (repeated.verdict receipt.task)) =
      desk.flow.standing ((desk.registry.dossier id).file (submission.verdict receipt.task)) := by
    rw [← filed, ← filedAgain, ← Flow.standing_timeless, ← Roster.dossier_timeless, sameRoster,
      Roster.dossier_timeless, Flow.standing_timeless, flow_submit]
  rw [answeredAgain, receipt_eq]
  simp only [Submission.receipt, sameStanding, samePayload]

end IsOpenTo

end Desk

namespace Flow

/-- A task that may be redone stays open to whoever had a submission for it accepted. Whatever
requests follow, as long as none of that applicant's fails a task before it in its step, every
submission that fills its fields is accepted for it, one by one, and the latest one stands. The same
submission once more gets the same answer, and changes nothing but the instant of its verdict. -/
theorem redoable_stays_open (flow : Flow) (requests : List Request) (id : String)
    {submission : Submission} {receipt : Receipt}
    (answered : ((flow.deskAfter requests).submit id submission).1 = .ok receipt)
    (redoable : receipt.task.redoable = true) :
    let once := flow.deskAfter (requests ++ [.submit id submission])
    (∀ later,
      (flow.newcomersAfter (requests ++ [.submit id submission] ++ later)).length <
        UInt64.size - 1 →
      (∀ filing ∈ once.journal later, filing.receipt.applicant = id →
        flow.Precedes filing.receipt.task receipt.task → filing.receipt.passed = true) →
      let desk := flow.deskAfter (requests ++ [.submit id submission] ++ later)
      (∀ next : Submission, next.Redoes submission.identifier receipt.task →
        ∃ again, (desk.submit id next).1 = .ok again ∧ again.task = receipt.task) ∧
      ∀ row : List Submission, (∀ next ∈ row, next.Redoes submission.identifier receipt.task) →
        (desk.journal (row.map (.submit id))).map
            (fun filing => (filing.submission, filing.receipt.task)) =
          row.map (·, receipt.task) ∧
        ∀ latest, row.getLast? = some latest →
          ((desk.serveAll (row.map (.submit id))).registry.dossier id).verdict? receipt.task.id =
            some (latest.verdict receipt.task)) ∧
    ∀ now,
      let again := once.submit id { submission with now }
      again.1 = .ok receipt ∧ again.2.registry.timeless = once.registry.timeless ∧
        once.registry.FilesOnly again.2.registry id receipt.task.id := by
  intro once
  have served : once = ((flow.deskAfter requests).submit id submission).2 :=
    flow.deskAfter_append_singleton requests (.submit id submission)
  constructor
  · intro later few unfailed desk
    have isOpen : once.IsOpenTo id submission.identifier receipt.task :=
      served ▸ Desk.IsOpenTo.of_submit answered redoable
    have numbered := flow.isNumbered_deskAfter _ (few_of_append few)
    have stillOpen : desk.IsOpenTo id submission.identifier receipt.task := by
      have sameFlow : once.flow = flow := flow.flow_deskAfter _
      simp only [desk, deskAfter, Desk.serveAll_append _ _ later]
      rw [newcomersAfter, Desk.newcomers_append, List.length_append] at few
      exact isOpen.serveAll numbered few (sameFlow.symm ▸ unfailed)
    constructor
    · intro next redoes
      exact ⟨_, (stillOpen.submit_eq redoes).1, rfl⟩
    · intro row redo
      exact stillOpen.row redo
  · intro now again
    simp only [again, served]
    exact Desk.IsOpenTo.submit_again answered redoable rfl rfl

end Flow

/-! A talk that may be held again, behind the form. -/

namespace Sample

def openTalk : Task := { talk with redoable := true }

def openFlow : Flow where
  id := "open"
  name := "Open"
  steps := [{ application with tasks := [form, openTalk] }, enrolment]
  id_not_blank := by decide
  name_not_blank := by decide
  taskIds_nodup := by decide

end Sample

theorem Flow.talk_held_again :
    let requests : List Request := [
      .register "ada@example.org",
      .submit "1" ⟨"form", Sample.consent "yes", ⟨0, 0⟩⟩]
    let talk : Submission := ⟨"talk", [], ⟨1, 0⟩⟩
    let later : List Request := [
      .register "bob@example.org",
      .submit "2" ⟨"form", Sample.consent "no", ⟨2, 0⟩⟩,
      .submit "1" ⟨"form", Sample.consent "yes", ⟨3, 0⟩⟩]
    let row : List Submission := [⟨"talk", [("room", .null)], ⟨4, 0⟩⟩, ⟨"talk", [], ⟨5, 0⟩⟩]
    let once := Sample.openFlow.deskAfter (requests ++ [.submit "1" talk])
    let desk := Sample.openFlow.deskAfter (requests ++ [.submit "1" talk] ++ later)
    Sample.openTalk.redoable = true ∧
      (∀ filing ∈ once.journal later, filing.receipt.applicant = "1" →
        filing.receipt.passed = true) ∧
      ((desk.journal (row.map (.submit "1"))).map (·.receipt.task)) =
        [Sample.openTalk, Sample.openTalk] ∧
      ((desk.serveAll (row.map (.submit "1"))).registry.dossier "1").verdict? "talk" =
        some ⟨"talk", true, ⟨5, 0⟩, []⟩ := by
  intro requests talk later row once desk
  have known : (Sample.openFlow.deskAfter requests).Knows "1" := by decide +kernel
  have acceptance : (Sample.openFlow.deskAfter requests).flow.accept
      ((Sample.openFlow.deskAfter requests).registry.dossier "1") talk.identifier talk.payload =
      .ok Sample.openTalk := by decide +kernel
  have few : (Sample.openFlow.newcomersAfter
      (requests ++ [.submit "1" talk] ++ later)).length < UInt64.size - 1 := by decide +kernel
  have unfailed : ∀ filing ∈ once.journal later, filing.receipt.applicant = "1" →
      filing.receipt.passed = true := by decide +kernel
  have redo : ∀ next ∈ row, next.Redoes "talk" Sample.openTalk := by
    intro next member
    obtain rfl | rfl : next = ⟨"talk", [("room", .null)], ⟨4, 0⟩⟩ ∨ next = ⟨"talk", [], ⟨5, 0⟩⟩ := by
      simpa [row] using member
    · exact ⟨rfl, by decide⟩
    · exact ⟨rfl, by decide⟩
  obtain ⟨_, _, answered⟩ := Desk.submit_of_accepted known acceptance
  obtain ⟨staysOpen, _⟩ :=
    Sample.openFlow.redoable_stays_open requests "1" (congrArg Prod.fst answered) rfl
  obtain ⟨_, inARow⟩ := staysOpen later few fun filing member same _ => unfailed filing member same
  obtain ⟨taken, latest⟩ := inARow row redo
  refine ⟨rfl, unfailed, ?_, latest _ rfl⟩
  have tasks := congrArg (List.map Prod.snd) taken
  rw [List.map_map] at tasks
  exact tasks

end Candidacy
