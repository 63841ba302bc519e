import Candidacy.Proofs.Agreement
import Candidacy.Proofs.Numbering

/-!
The dossier as a ledger: under every task stands what the latest submission accepted for it has
filed, whatever else the desk was asked to do. The standing can be read off these latest ones.
-/

namespace Candidacy

/-! Calls on a desk: requests, and questions that it answers without changing. -/

inductive Question
  | applicant (id : String)
  | applicants
  | dossier (id : String)
  | visibleSteps (id : String)
  | position (id : String)
  | progress (id : String)
  | standing (id : String)

def Question.Answer : Question → Type
  | .applicant _ => Option Applicant
  | .applicants => List Applicant
  | .dossier _ => Dossier
  | .visibleSteps _ => List VisibleStep
  | .position _ => Option Place
  | .progress _ => Progress
  | .standing _ => Standing

inductive Call
  | change (request : Request)
  | ask (question : Question)

def Call.request? : Call → Option Request
  | .change request => some request
  | .ask _ => none

/-- A call together with the answer to it. -/
inductive Event
  | registered (email : String) (answer : Except Refusal Applicant)
  | submitted (applicant : String) (submission : Submission) (answer : Except Refusal Receipt)
  | answered (question : Question) (answer : Except Refusal question.Answer)

namespace Event

def newcomer? : Event → Option Applicant
  | .registered _ (.ok applicant) => some applicant
  | _ => none

/-- What the event adds to the accepted submissions of an applicant. -/
def filing? (id : String) : Event → Option Filing
  | .submitted applicant submission (.ok receipt) =>
      if applicant = id then some ⟨submission, receipt⟩ else none
  | _ => none

end Event

namespace Desk

section Calls

variable {σ : Type} [Registry σ]

def answer (desk : Desk σ) : (question : Question) → Except Refusal question.Answer
  | .applicant id => desk.applicant? id
  | .applicants => desk.applicants
  | .dossier id => desk.dossier id
  | .visibleSteps id => desk.visibleSteps id
  | .position id => desk.position? id
  | .progress id => desk.progress id
  | .standing id => desk.standing id

def event (desk : Desk σ) : Call → Event
  | .change (.register email) => .registered email ((desk.register email).map Prod.fst)
  | .change (.submit applicant submission) =>
      .submitted applicant submission (desk.submit applicant submission).1
  | .ask question => .answered question (desk.answer question)

def handle (desk : Desk σ) : Call → Desk σ
  | .change request => desk.serve request
  | .ask _ => desk

def handleAll (desk : Desk σ) (calls : List Call) : Desk σ :=
  calls.foldl handle desk

def transcript (desk : Desk σ) : List Call → List Event
  | [] => []
  | call :: rest => desk.event call :: (desk.handle call).transcript rest

theorem handleAll_eq (desk : Desk σ) (calls : List Call) :
    desk.handleAll calls = desk.serveAll (calls.filterMap Call.request?) := by
  induction calls generalizing desk with
  | nil => rfl
  | cons call rest ih =>
      cases call with
      | change request => exact ih (desk.serve request)
      | ask question => exact ih desk

/-! What is read off a transcript does not depend on the questions in it. -/

private theorem filterMap_cons_eq {α β : Type _} (f : α → Option β) (a : α) (rest : List α) :
    (a :: rest).filterMap f = (f a).toList ++ rest.filterMap f := by
  rw [List.filterMap_cons]
  cases f a <;> rfl

theorem newcomer?_event (desk : Desk σ) (request : Request) :
    (desk.event (.change request)).newcomer? = desk.newcomer? request := by
  cases request with
  | register email =>
      rw [event, newcomer?]
      cases desk.register email <;> rfl
  | submit applicant submission => rfl

theorem newcomers_transcript (desk : Desk σ) (calls : List Call) :
    (desk.transcript calls).filterMap Event.newcomer? =
      desk.newcomers (calls.filterMap Call.request?) := by
  induction calls generalizing desk with
  | nil => rfl
  | cons call rest ih =>
      cases call with
      | change request =>
          rw [transcript, filterMap_cons_eq, newcomer?_event, handle, ih]
          rfl
      | ask question => exact ih desk

end Calls

variable {desk : Desk Roster}

theorem applicant_of_submit {id : String} {submission : Submission} {receipt : Receipt}
    (answered : (desk.submit id submission).1 = .ok receipt) : receipt.applicant = id := by
  obtain ⟨_, _, _, same⟩ := accepted_of_submit answered
  rw [same]
  rfl

theorem filing?_event (desk : Desk Roster) (request : Request) (id : String) :
    (desk.event (.change request)).filing? id =
      (desk.filing? request).filter (·.receipt.applicant == id) := by
  cases request with
  | register email => rfl
  | submit applicant submission =>
      rw [event, filing?]
      cases answered : (desk.submit applicant submission).1 with
      | error refusal => rfl
      | ok receipt =>
          have same := applicant_of_submit answered
          subst same
          by_cases wanted : receipt.applicant = id
          · simp [Event.filing?, Option.filter, wanted]
          · simp [Event.filing?, Option.filter, wanted]

theorem filings_transcript (desk : Desk Roster) (calls : List Call) (id : String) :
    (desk.transcript calls).filterMap (Event.filing? id) =
      (desk.journal (calls.filterMap Call.request?)).filter (·.receipt.applicant == id) := by
  induction calls generalizing desk with
  | nil => rfl
  | cons call rest ih =>
      cases call with
      | change request =>
          rw [transcript, filterMap_cons_eq, filing?_event, handle, ih, Option.toList_filter,
            ← List.filter_append]
          rfl
      | ask question => exact ih desk

end Desk

/-! The latest submissions. -/

namespace Filing

/-- What an accepted submission files. -/
def verdict (filing : Filing) : Verdict where
  task := filing.receipt.task.id
  passed := filing.receipt.passed
  resolvedAt :=
    Timestamp.resolve (filing.submission.payload.get? Timestamp.field) filing.submission.now
  payload := filing.submission.payload

/-- One of the filings, and none after it is for the same task. -/
def IsLatest (filing : Filing) (filings : List Filing) : Prop :=
  ∃ earlier later, filings = earlier ++ filing :: later ∧
    ∀ other ∈ later, other.receipt.task.id ≠ filing.receipt.task.id

variable {filing added : Filing} {filings : List Filing}

theorem IsLatest.mem (latest : filing.IsLatest filings) : filing ∈ filings := by
  obtain ⟨earlier, later, rfl, _⟩ := latest
  simp

theorem not_isLatest_nil : ¬filing.IsLatest [] := by
  intro latest
  cases latest.mem

theorem isLatest_append_singleton :
    filing.IsLatest (filings ++ [added]) ↔
      filing = added ∨
        filing.IsLatest filings ∧ added.receipt.task.id ≠ filing.receipt.task.id := by
  constructor
  · rintro ⟨earlier, later, split, apart⟩
    -- The added one is the latest itself, or the last of those after it.
    cases later using List.reverseRecOn with
    | nil =>
        left
        have sameLast := List.append_inj_right' split rfl
        exact (List.singleton_inj.mp sameLast).symm
    | append_singleton later last =>
        rw [← List.cons_append, ← List.append_assoc] at split
        obtain ⟨before, sameLast⟩ := List.append_inj' split rfl
        cases sameLast
        right
        refine ⟨⟨earlier, later, before, ?_⟩, apart added (by simp)⟩
        intro other member
        exact apart other (List.mem_append_left _ member)
  · rintro (rfl | ⟨⟨earlier, later, rfl, apart⟩, differs⟩)
    · exact ⟨filings, [], rfl, by simp⟩
    · refine ⟨earlier, later ++ [added], by simp, ?_⟩
      intro other member
      cases List.mem_append.mp member with
      | inl inLater => exact apart other inLater
      | inr last =>
          cases List.mem_singleton.mp last
          exact differs

theorem exists_isLatest (member : filing ∈ filings) :
    ∃ latest : Filing, latest.IsLatest filings ∧
      latest.receipt.task.id = filing.receipt.task.id := by
  induction filings using List.reverseRecOn with
  | nil => cases member
  | append_singleton filings added ih =>
      by_cases same : added.receipt.task.id = filing.receipt.task.id
      · exact ⟨added, isLatest_append_singleton.mpr (.inl rfl), same⟩
      · cases List.mem_append.mp member with
        | inl before =>
            obtain ⟨latest, isLatest, sameTask⟩ := ih before
            refine ⟨latest, isLatest_append_singleton.mpr (.inr ⟨isLatest, ?_⟩), sameTask⟩
            rwa [sameTask]
        | inr last =>
            cases List.mem_singleton.mp last
            exact absurd rfl same

end Filing

/-- Under every task stands the verdict of the latest submission accepted for it. -/
def Records (filings : List Filing) (dossier : Dossier) : Prop :=
  ∀ key verdict, dossier.verdict? key = some verdict ↔
    ∃ filing : Filing, filing.IsLatest filings ∧ filing.receipt.task.id = key ∧
      filing.verdict = verdict

theorem Records.file {filings : List Filing} {dossier : Dossier}
    (records : Records filings dossier) (filing : Filing) :
    Records (filings ++ [filing]) (dossier.file filing.verdict) := by
  intro key verdict
  simp only [Filing.isLatest_append_singleton]
  by_cases same : filing.verdict.task = key
  · subst same
    rw [Dossier.verdict?_file_self, Option.some.injEq]
    constructor
    · intro stands
      exact ⟨filing, .inl rfl, rfl, stands⟩
    · rintro ⟨latest, rfl | ⟨_, replaced⟩, sameTask, stands⟩
      · exact stands
      · exact absurd sameTask.symm replaced
  · rw [Dossier.verdict?_file_other dossier same, records key verdict]
    constructor
    · rintro ⟨latest, isLatest, rfl, stands⟩
      exact ⟨latest, .inr ⟨isLatest, same⟩, rfl, stands⟩
    · rintro ⟨latest, rfl | ⟨isLatest, _⟩, sameTask, stands⟩
      · exact absurd sameTask same
      · exact ⟨latest, isLatest, sameTask, stands⟩

theorem Flow.Reaches.records {flow : Flow} {id : String} {filings : List Filing}
    {dossier : Dossier} (reached : flow.Reaches id filings dossier) : Records filings dossier := by
  induction reached with
  | opened =>
      intro key verdict
      constructor
      · intro stands
        cases stands
      · rintro ⟨_, latest, _⟩
        exact absurd latest Filing.not_isLatest_nil
  | @filed filings dossier submission task _ _ ih =>
      exact ih.file ⟨submission, submission.receipt task flow id _⟩

theorem Flow.standing_cases (flow : Flow) (dossier : Dossier) :
    (dossier.anyFailed = true ∧ flow.standing dossier = .rejected) ∨
      (dossier.anyFailed = false ∧ (∀ task ∈ flow.tasks, dossier.hasPassed task.id = true) ∧
        flow.standing dossier = .accepted) ∨
      (dossier.anyFailed = false ∧ (∃ task ∈ flow.tasks, dossier.hasPassed task.id = false) ∧
        flow.standing dossier = .inProgress) := by
  cases failed : dossier.anyFailed with
  | true =>
      left
      exact ⟨rfl, by simp [standing, failed]⟩
  | false =>
      right
      by_cases passed : (flow.visiblePlaces dossier).all (dossier.hasPassed ·.task.id) = true
      · left
        refine ⟨rfl, all_hasPassed_iff.mp passed, ?_⟩
        rw [standing, if_neg (by simp [failed]), if_pos passed]
      · right
        refine ⟨rfl, ?_, ?_⟩
        · simpa using mt all_hasPassed_iff.mpr passed
        · rw [standing, if_neg (by simp [failed]), if_neg passed]

namespace Records

variable {filings : List Filing} {dossier : Dossier} (records : Records filings dossier)
include records

theorem hasVerdict_iff {key : String} :
    dossier.hasVerdict key = true ↔ ∃ filing ∈ filings, filing.receipt.task.id = key := by
  rw [Dossier.hasVerdict_eq_isSome, Option.isSome_iff_exists]
  constructor
  · rintro ⟨verdict, stands⟩
    obtain ⟨filing, latest, sameTask, _⟩ := (records key verdict).mp stands
    exact ⟨filing, latest.mem, sameTask⟩
  · rintro ⟨filing, member, rfl⟩
    obtain ⟨latest, isLatest, sameTask⟩ := Filing.exists_isLatest member
    exact ⟨latest.verdict, (records _ _).mpr ⟨latest, isLatest, sameTask, rfl⟩⟩

theorem anyFailed_iff :
    dossier.anyFailed = true ↔
      ∃ filing : Filing, filing.IsLatest filings ∧ filing.receipt.passed = false := by
  simp only [Dossier.anyFailed_iff, Dossier.hasFailed, Option.any_eq_true, Bool.not_eq_true']
  constructor
  · rintro ⟨key, verdict, stands, failed⟩
    obtain ⟨filing, latest, _, rfl⟩ := (records key verdict).mp stands
    exact ⟨filing, latest, failed⟩
  · rintro ⟨filing, latest, failed⟩
    exact ⟨_, filing.verdict, (records _ _).mpr ⟨filing, latest, rfl, rfl⟩, failed⟩

theorem passed_of_unfailed (unfailed : dossier.anyFailed = false) {filing : Filing}
    (latest : filing.IsLatest filings) : filing.receipt.passed = true := by
  by_contra failed
  have someFailed := records.anyFailed_iff.mpr ⟨filing, latest, by simpa using failed⟩
  simp [unfailed] at someFailed

theorem hasPassed_of_unfailed (unfailed : dossier.anyFailed = false) {filing : Filing}
    (member : filing ∈ filings) : dossier.hasPassed filing.receipt.task.id = true := by
  obtain ⟨latest, isLatest, sameTask⟩ := Filing.exists_isLatest member
  have stands := (records filing.receipt.task.id _).mpr ⟨latest, isLatest, sameTask, rfl⟩
  rw [Dossier.hasPassed, stands]
  exact records.passed_of_unfailed unfailed isLatest

theorem standing_iff (flow : Flow) :
    let failing := ∃ filing : Filing, filing.IsLatest filings ∧ filing.receipt.passed = false
    let complete := (∀ task ∈ flow.tasks, ∃ filing ∈ filings, filing.receipt.task.id = task.id) ∧
      ∀ filing : Filing, filing.IsLatest filings → filing.receipt.passed = true
    (flow.standing dossier = .rejected ↔ failing) ∧
      (flow.standing dossier = .accepted ↔ complete) ∧
      (flow.standing dossier = .inProgress ↔ ¬failing ∧ ¬complete) := by
  intro failing complete
  have isFailing_iff : dossier.anyFailed = true ↔ failing := records.anyFailed_iff
  obtain ⟨failed, stands⟩ | ⟨unfailed, passed, stands⟩ | ⟨unfailed, unpassed, stands⟩ :=
    flow.standing_cases dossier
  · have isFailing := isFailing_iff.mp failed
    have incomplete : ¬complete := by
      rintro ⟨_, passed⟩
      obtain ⟨filing, latest, wasFailed⟩ := isFailing
      simp [passed filing latest] at wasFailed
    simp [stands, isFailing, incomplete]
  · have notFailing : ¬failing := by simp [← isFailing_iff, unfailed]
    have isComplete : complete := by
      constructor
      · intro task member
        apply records.hasVerdict_iff.mp
        exact (dossier.hasVerdict_iff task.id).mpr (.inl (passed task member))
      · intro filing latest
        exact records.passed_of_unfailed unfailed latest
    simp [stands, notFailing, isComplete]
  · have notFailing : ¬failing := by simp [← isFailing_iff, unfailed]
    have incomplete : ¬complete := by
      rintro ⟨handedIn, _⟩
      obtain ⟨task, member, wanting⟩ := unpassed
      obtain ⟨filing, filed, sameTask⟩ := handedIn task member
      have passed := records.hasPassed_of_unfailed unfailed filed
      simp [sameTask, wanting] at passed
    simp [stands, notFailing, incomplete]

end Records

/-- Whatever calls a desk has answered, an applicant has a verdict on a task exactly if a submission
of the applicant was accepted for it, and it is the verdict of the latest one. The standing tells
whether one of the latest ones failed, or all tasks have been handed in. -/
theorem Flow.latest_filing_stands (flow : Flow) (calls : List Call) (id : String)
    (few : (((Desk.inMemory flow).transcript calls).filterMap Event.newcomer?).length <
      UInt64.size - 1) :
    let desk := (Desk.inMemory flow).handleAll calls
    let dossier := desk.registry.dossier id
    let filings := ((Desk.inMemory flow).transcript calls).filterMap (Event.filing? id)
    let failing := ∃ filing : Filing, filing.IsLatest filings ∧ filing.receipt.passed = false
    let complete := (∀ task ∈ flow.tasks, ∃ filing ∈ filings, filing.receipt.task.id = task.id) ∧
      ∀ filing : Filing, filing.IsLatest filings → filing.receipt.passed = true
    (∀ key, dossier.hasVerdict key = true ↔
      ∃ filing ∈ filings, filing.receipt.task.id = key) ∧
    (∀ key verdict, dossier.verdict? key = some verdict ↔
      ∃ filing : Filing, filing.IsLatest filings ∧ filing.receipt.task.id = key ∧
        filing.verdict = verdict) ∧
    (desk.Knows id →
      (desk.standing id = .ok .rejected ↔ failing) ∧
      (desk.standing id = .ok .accepted ↔ complete) ∧
      (desk.standing id = .ok .inProgress ↔ ¬failing ∧ ¬complete)) := by
  intro desk dossier filings failing complete
  have sameDesk : desk = flow.deskAfter (calls.filterMap Call.request?) :=
    Desk.handleAll_eq (Desk.inMemory flow) calls
  have sameFilings : filings = flow.filingsAfter (calls.filterMap Call.request?) id :=
    Desk.filings_transcript (Desk.inMemory flow) calls id
  rw [Desk.newcomers_transcript] at few
  have reached : flow.Reaches id filings dossier := by
    change flow.Reaches id filings (desk.registry.dossier id)
    rw [sameFilings, sameDesk]
    exact flow.reaches_filingsAfter _ id few
  refine ⟨fun key => reached.records.hasVerdict_iff, reached.records, ?_⟩
  intro known
  have sameFlow : desk.flow = flow := sameDesk ▸ flow.flow_deskAfter _
  simp only [Desk.standing_of_knows known, sameFlow, Except.ok.injEq]
  exact reached.records.standing_iff flow

theorem Flow.rejected_by_latest_form :
    let calls := Sample.requests.map Call.change ++ [.ask (.standing "1")]
    let filings := ((Desk.inMemory Sample.flow).transcript calls).filterMap (Event.filing? "1")
    (((Desk.inMemory Sample.flow).transcript calls).filterMap Event.newcomer?).length <
        UInt64.size - 1 ∧
      ((Desk.inMemory Sample.flow).handleAll calls).Knows "1" ∧
      ∃ filing : Filing, filing.IsLatest filings ∧ filing.receipt.passed = false := by
  intro calls filings
  have few : (((Desk.inMemory Sample.flow).transcript calls).filterMap Event.newcomer?).length <
      UInt64.size - 1 := by decide +kernel
  have known : ((Desk.inMemory Sample.flow).handleAll calls).Knows "1" := Sample.knows
  have rejected : ((Desk.inMemory Sample.flow).handleAll calls).standing "1" = .ok .rejected := rfl
  obtain ⟨_, _, standing⟩ := Sample.flow.latest_filing_stands calls "1" few
  obtain ⟨whenFailing, _⟩ := standing known
  exact ⟨few, known, whenFailing.mp rejected⟩

end Candidacy
