import Candidacy.Desk
import Candidacy.Proofs.Rules
import Mathlib.Data.List.Induction

/-!
Histories of a desk. Whatever requests a desk has served, the verdicts on one applicant are what the
accepted submissions of that applicant, one after the other, file in an empty dossier.
-/

namespace Candidacy

/-- What is handed in, for which task, and when. -/
structure Submission where
  identifier : String
  payload : Payload
  now : Instant

/-- A request that may change a desk. -/
inductive Request
  | register (email : String)
  | submit (applicant : String) (submission : Submission)

/-- A submission that was accepted, and the answer to it. -/
structure Filing where
  submission : Submission
  receipt : Receipt

namespace Desk

section Serving

variable {σ : Type} [Registry σ]

def submit (desk : Desk σ) (applicant : String) (submission : Submission) :
    Except Refusal Receipt × Desk σ :=
  desk.complete applicant submission.identifier submission.payload submission.now

def serve (desk : Desk σ) : Request → Desk σ
  | .register email =>
      match desk.register email with
      | .ok (_, changed) => changed
      | .error _ => desk
  | .submit applicant submission => (desk.submit applicant submission).2

def serveAll (desk : Desk σ) (requests : List Request) : Desk σ :=
  requests.foldl serve desk

/-- The applicant whom a request brings in. -/
def newcomer? (desk : Desk σ) : Request → Option Applicant
  | .register email =>
      match desk.register email with
      | .ok (applicant, _) => some applicant
      | .error _ => none
  | .submit _ _ => none

/-- What a request adds to the accepted submissions. -/
def filing? (desk : Desk σ) : Request → Option Filing
  | .register _ => none
  | .submit applicant submission =>
      match (desk.submit applicant submission).1 with
      | .ok receipt => some ⟨submission, receipt⟩
      | .error _ => none

/-- The accepted submissions among some requests, in order. -/
def journal (desk : Desk σ) : List Request → List Filing
  | [] => []
  | request :: rest => (desk.filing? request).toList ++ (desk.serve request).journal rest

/-- The applicants whom some requests bring in, in order. -/
def newcomers (desk : Desk σ) : List Request → List Applicant
  | [] => []
  | request :: rest => (desk.newcomer? request).toList ++ (desk.serve request).newcomers rest

@[simp] theorem serveAll_nil (desk : Desk σ) : desk.serveAll [] = desk := rfl

@[simp] theorem serveAll_cons (desk : Desk σ) (request : Request) (rest : List Request) :
    desk.serveAll (request :: rest) = (desk.serve request).serveAll rest := rfl

theorem serveAll_append (desk : Desk σ) (requests rest : List Request) :
    desk.serveAll (requests ++ rest) = (desk.serveAll requests).serveAll rest :=
  List.foldl_append

theorem journal_append (desk : Desk σ) (requests rest : List Request) :
    desk.journal (requests ++ rest) =
      desk.journal requests ++ (desk.serveAll requests).journal rest := by
  induction requests generalizing desk with
  | nil => rfl
  | cons request others ih =>
      rw [List.cons_append, journal, journal, ih, serveAll_cons, List.append_assoc]

theorem newcomers_append (desk : Desk σ) (requests rest : List Request) :
    desk.newcomers (requests ++ rest) =
      desk.newcomers requests ++ (desk.serveAll requests).newcomers rest := by
  induction requests generalizing desk with
  | nil => rfl
  | cons request others ih =>
      rw [List.cons_append, newcomers, newcomers, ih, serveAll_cons, List.append_assoc]

end Serving

/-! What a desk with a roster knows. -/

def Knows (desk : Desk Roster) (id : String) : Prop :=
  ∃ applicant, desk.applicant? id = .ok (some applicant)

variable {desk : Desk Roster} {id : String}

theorem knows_iff : desk.Knows id ↔ ∃ enrolled, desk.registry.enrolled.get? id = some enrolled := by
  have unfolded : desk.applicant? id =
      .ok ((desk.registry.enrolled.get? id).map (·.toApplicant id)) := rfl
  simp only [Knows, unfolded]
  cases desk.registry.enrolled.get? id <;> simp

instance (desk : Desk Roster) (id : String) : Decidable (desk.Knows id) :=
  decidable_of_iff ((desk.registry.enrolled.get? id).isSome = true) (by
    rw [knows_iff, Option.isSome_iff_exists])

theorem requireKnown_eq : desk.requireKnown id =
    if (desk.registry.enrolled.get? id).isSome then .ok () else .error (.unknownApplicant id) := by
  have answer : ask (Registry.knows desk.registry id) =
      .ok (desk.registry.enrolled.get? id).isSome := by
    change Except.ok ((desk.registry.enrolled.get? id).map (·.toApplicant id)).isSome = _
    rw [Option.isSome_map]
  rw [requireKnown, answer]
  rfl

theorem knownDossier_of_knows (known : desk.Knows id) :
    desk.knownDossier id = .ok (desk.registry.dossier id) := by
  obtain ⟨enrolled, found⟩ := knows_iff.mp known
  rw [knownDossier, requireKnown_eq, found]
  rfl

theorem knownDossier_of_not_knows (unknown : ¬desk.Knows id) :
    desk.knownDossier id = .error (.unknownApplicant id) := by
  have missing : desk.registry.enrolled.get? id = none := by
    cases found : desk.registry.enrolled.get? id with
    | none => rfl
    | some enrolled => exact absurd (knows_iff.mpr ⟨enrolled, found⟩) unknown
  rw [knownDossier, requireKnown_eq, missing]
  rfl

theorem position?_of_knows (known : desk.Knows id) :
    desk.position? id = .ok (desk.flow.position? (desk.registry.dossier id)) := by
  rw [position?, knownDossier_of_knows known]
  rfl

theorem progress_of_knows (known : desk.Knows id) :
    desk.progress id = .ok (desk.flow.progress (desk.registry.dossier id)) := by
  rw [progress, knownDossier_of_knows known]
  rfl

theorem standing_of_knows (known : desk.Knows id) :
    desk.standing id = .ok (desk.flow.standing (desk.registry.dossier id)) := by
  rw [standing, knownDossier_of_knows known]
  rfl

theorem knows_of_hasVerdict {task : String}
    (decided : (desk.registry.dossier id).hasVerdict task = true) : desk.Knows id := by
  apply knows_iff.mpr
  cases found : desk.registry.enrolled.get? id with
  | some enrolled => exact ⟨enrolled, rfl⟩
  | none => simp [Roster.dossier, found] at decided

theorem verdicts_of_applicant {applicant : Applicant}
    (found : desk.applicant? id = .ok (some applicant)) :
    applicant.verdicts = (desk.registry.dossier id).verdicts := by
  have unfolded : desk.applicant? id =
      .ok ((desk.registry.enrolled.get? id).map (·.toApplicant id)) := rfl
  rw [unfolded, Except.ok.injEq, Option.map_eq_some_iff] at found
  obtain ⟨enrolled, present, rfl⟩ := found
  rw [Roster.dossier, present]
  rfl

theorem knows_of_knownDossier {dossier : Dossier} (found : desk.knownDossier id = .ok dossier) :
    desk.Knows id := by
  by_contra unknown
  rw [knownDossier_of_not_knows unknown] at found
  cases found

end Desk

/-! What one request does. -/

namespace Submission

def verdict (submission : Submission) (task : Task) : Verdict :=
  Desk.verdictOn task submission.payload submission.now

/-- The answer to an applicant for whom the verdict has been filed. -/
def receipt (submission : Submission) (task : Task) (flow : Flow) (applicant : String)
    (changed : Dossier) : Receipt where
  applicant := applicant
  task := task
  passed := task.passes submission.payload
  standing := flow.standing changed

end Submission

namespace Desk

variable {desk : Desk Roster} {id : String} {submission : Submission}

theorem submit_of_unknown (unknown : ¬desk.Knows id) :
    desk.submit id submission = (.error (.unknownApplicant id), desk) := by
  rw [submit, complete, accept, knownDossier_of_not_knows unknown, error_bind]

theorem submit_of_refused {refusal : Refusal} (known : desk.Knows id)
    (refused : desk.flow.accept (desk.registry.dossier id) submission.identifier
      submission.payload = .error refusal) :
    desk.submit id submission = (.error refusal, desk) := by
  rw [submit, complete, accept, knownDossier_of_knows known, ok_bind, refused]

theorem submit_of_accepted {task : Task} (known : desk.Knows id)
    (accepted : desk.flow.accept (desk.registry.dossier id) submission.identifier
      submission.payload = .ok task) :
    ∃ registry, desk.registry.file id (submission.verdict task) = .ok registry ∧
      desk.submit id submission =
        (.ok (submission.receipt task desk.flow id (registry.dossier id)),
          { desk with registry }) := by
  obtain ⟨enrolled, found⟩ := knows_iff.mp known
  obtain ⟨registry, filed⟩ := Roster.file_of_enrolled found (submission.verdict task)
  refine ⟨registry, filed, ?_⟩
  have answer : ask (Registry.file desk.registry id (verdictOn task submission.payload
      submission.now)) = .ok registry := by
    change (desk.registry.file id (submission.verdict task)).mapError Refusal.ofRegistry = _
    rw [filed]
    rfl
  rw [submit, complete, accept, knownDossier_of_knows known, ok_bind, accepted]
  simp only [enter, answer]
  rfl

/-- All that can come of a submission. -/
theorem submit_outcomes (desk : Desk Roster) (id : String) (submission : Submission) :
    (∃ refusal, desk.submit id submission = (.error refusal, desk)) ∨
      ∃ task registry, desk.Knows id ∧
        desk.flow.accept (desk.registry.dossier id) submission.identifier submission.payload =
          .ok task ∧
        desk.registry.file id (submission.verdict task) = .ok registry ∧
        desk.submit id submission =
          (.ok (submission.receipt task desk.flow id (registry.dossier id)),
            { desk with registry }) := by
  by_cases known : desk.Knows id
  · cases decision : desk.flow.accept (desk.registry.dossier id) submission.identifier
        submission.payload with
    | error refusal =>
        left
        exact ⟨refusal, submit_of_refused known decision⟩
    | ok task =>
        obtain ⟨registry, filed, answered⟩ := submit_of_accepted known decision
        right
        exact ⟨task, registry, known, rfl, filed, answered⟩
  · left
    exact ⟨_, submit_of_unknown known⟩

theorem submit_cases (desk : Desk Roster) (id : String) (submission : Submission) :
    (desk.submit id submission).2 = desk ∨
      ∃ verdict registry, desk.registry.file id verdict = .ok registry ∧
        (desk.submit id submission).2 = { desk with registry } := by
  obtain ⟨_, refused⟩ | ⟨_, registry, _, _, filed, answered⟩ :=
    desk.submit_outcomes id submission
  · left
    rw [refused]
  · right
    exact ⟨_, registry, filed, by rw [answered]⟩

/-- What an answer with a receipt says. -/
theorem accepted_of_submit {receipt : Receipt}
    (answered : (desk.submit id submission).1 = .ok receipt) :
    desk.Knows id ∧
      desk.flow.accept (desk.registry.dossier id) submission.identifier submission.payload =
        .ok receipt.task ∧
      let changed := (desk.registry.dossier id).file (submission.verdict receipt.task)
      (desk.submit id submission).2.registry.dossier id = changed ∧
        receipt = submission.receipt receipt.task desk.flow id changed := by
  obtain ⟨_, refused⟩ | ⟨task, registry, known, accepted, filed, outcome⟩ :=
    desk.submit_outcomes id submission
  · rw [refused] at answered
    cases answered
  · have changed := Roster.dossier_file_self filed
    rw [outcome] at answered ⊢
    cases answered
    refine ⟨known, accepted, changed, ?_⟩
    rw [changed]
    rfl

@[simp] theorem flow_submit (desk : Desk Roster) (id : String) (submission : Submission) :
    (desk.submit id submission).2.flow = desk.flow := by
  obtain kept | ⟨_, _, _, served⟩ := desk.submit_cases id submission
  · rw [kept]
  · rw [served]

theorem register_eq_ok_iff {email : String} {applicant : Applicant} {changed : Desk Roster} :
    desk.register email = .ok (applicant, changed) ↔
      ∃ registry, desk.registry.register email = .ok (applicant, registry) ∧
        changed = { desk with registry } := by
  have answer : desk.register email = (do
      let (applicant, registry) ← (desk.registry.register email).mapError Refusal.ofRegistry
      return (applicant, { desk with registry })) := rfl
  rw [answer]
  cases desk.registry.register email with
  | error refusal => simp [Except.mapError]
  | ok result =>
      obtain ⟨taken, registry⟩ := result
      constructor
      · intro returned
        cases returned
        exact ⟨registry, rfl, rfl⟩
      · intro registered
        obtain ⟨_, same, rfl⟩ := registered
        cases same
        rfl

theorem serve_register_cases (desk : Desk Roster) (email : String) :
    (desk.newcomer? (.register email) = none ∧ desk.serve (.register email) = desk) ∨
      ∃ applicant registry, desk.registry.register email = .ok (applicant, registry) ∧
        desk.newcomer? (.register email) = some applicant ∧
        desk.serve (.register email) = { desk with registry } := by
  cases answered : desk.register email with
  | error refusal =>
      left
      rw [newcomer?, serve, answered]
      exact ⟨rfl, rfl⟩
  | ok result =>
      obtain ⟨applicant, changed⟩ := result
      obtain ⟨registry, registered, rfl⟩ := register_eq_ok_iff.mp answered
      right
      refine ⟨applicant, registry, registered, ?_⟩
      rw [newcomer?, serve, answered]
      exact ⟨rfl, rfl⟩

@[simp] theorem flow_serve (desk : Desk Roster) (request : Request) :
    (desk.serve request).flow = desk.flow := by
  cases request with
  | register email =>
      obtain ⟨_, kept⟩ | ⟨_, _, _, _, served⟩ := desk.serve_register_cases email
      · rw [kept]
      · rw [served]
  | submit applicant submission => exact desk.flow_submit applicant submission

@[simp] theorem flow_serveAll (desk : Desk Roster) (requests : List Request) :
    (desk.serveAll requests).flow = desk.flow := by
  induction requests generalizing desk with
  | nil => rfl
  | cons request rest ih => rw [serveAll_cons, ih, flow_serve]

/-- All that a request can do to the verdicts on one applicant. -/
theorem dossier_serve_cases (desk : Desk Roster) (request : Request) (id : String) :
    ((desk.serve request).registry.dossier id = desk.registry.dossier id ∧
        ∀ filing ∈ desk.filing? request, filing.receipt.applicant ≠ id) ∨
      (∃ email, request = .register email ∧ desk.filing? request = none ∧
        (desk.serve request).registry.dossier id = .empty id) ∨
      ∃ submission task,
        let changed := (desk.registry.dossier id).file (submission.verdict task)
        request = .submit id submission ∧
          desk.flow.accept (desk.registry.dossier id) submission.identifier submission.payload =
            .ok task ∧
          (desk.serve request).registry.dossier id = changed ∧
          desk.filing? request =
            some ⟨submission, submission.receipt task desk.flow id changed⟩ := by
  cases request with
  | register email =>
      obtain ⟨_, kept⟩ | ⟨applicant, registry, registered, _, served⟩ :=
        desk.serve_register_cases email
      · left
        rw [kept]
        exact ⟨rfl, by simp [filing?]⟩
      · rw [served]
        by_cases same : applicant.id = id
        · subst same
          exact .inr (.inl ⟨email, rfl, rfl, Roster.dossier_register_self registered⟩)
        · left
          exact ⟨Roster.dossier_register_other registered same, by simp [filing?]⟩
  | submit applicant submission =>
      obtain ⟨_, refused⟩ | ⟨task, registry, _, accepted, filed, answered⟩ :=
        desk.submit_outcomes applicant submission
      · left
        rw [serve, filing?, refused]
        exact ⟨rfl, by simp⟩
      · rw [serve, filing?, answered]
        by_cases same : applicant = id
        · subst same
          have changed := Roster.dossier_file_self filed
          exact .inr (.inr ⟨submission, task, rfl, accepted, changed, by rw [changed]⟩)
        · left
          refine ⟨Roster.dossier_file_other filed same, ?_⟩
          simpa [Submission.receipt] using same

end Desk

/-! Histories of one applicant. -/

namespace Flow

/-- The dossiers of an applicant that accepted submissions lead to, with these submissions. -/
inductive Reaches (flow : Flow) (id : String) : List Filing → Dossier → Prop
  | opened : Reaches flow id [] (.empty id)
  | filed {filings : List Filing} {dossier : Dossier} {submission : Submission} {task : Task}
      (reached : Reaches flow id filings dossier)
      (accepted : flow.accept dossier submission.identifier submission.payload = .ok task) :
      Reaches flow id
        (filings ++ [⟨submission,
          submission.receipt task flow id (dossier.file (submission.verdict task))⟩])
        (dossier.file (submission.verdict task))

/-- The desk of a flow, opened without applicants, after some requests. -/
def deskAfter (flow : Flow) (requests : List Request) : Desk Roster :=
  (Desk.inMemory flow).serveAll requests

/-- The submissions that this desk has accepted from one applicant. -/
def filingsAfter (flow : Flow) (requests : List Request) (id : String) : List Filing :=
  ((Desk.inMemory flow).journal requests).filter (·.receipt.applicant == id)

@[simp] theorem flow_deskAfter (flow : Flow) (requests : List Request) :
    (flow.deskAfter requests).flow = flow :=
  Desk.flow_serveAll _ requests

theorem deskAfter_append_singleton (flow : Flow) (requests : List Request) (request : Request) :
    flow.deskAfter (requests ++ [request]) = (flow.deskAfter requests).serve request := by
  rw [deskAfter, Desk.serveAll_append]
  rfl

theorem filingsAfter_append_singleton (flow : Flow) (requests : List Request)
    (request : Request) (id : String) :
    flow.filingsAfter (requests ++ [request]) id =
      flow.filingsAfter requests id ++
        ((flow.deskAfter requests).filing? request).toList.filter (·.receipt.applicant == id) := by
  rw [filingsAfter, Desk.journal_append, List.filter_append]
  simp [filingsAfter, deskAfter, Desk.journal]

/-- An id may be given out again once the numbers are used up, so that only the latest of the
submissions under it may count. -/
theorem reaches_dossier (flow : Flow) (requests : List Request) (id : String) :
    ∃ filings, filings <:+ flow.filingsAfter requests id ∧
      flow.Reaches id filings ((flow.deskAfter requests).registry.dossier id) := by
  induction requests using List.reverseRecOn with
  | nil => exact ⟨[], List.nil_suffix, .opened⟩
  | append_singleton requests request ih =>
      obtain ⟨filings, latest, reached⟩ := ih
      rw [deskAfter_append_singleton, filingsAfter_append_singleton]
      obtain ⟨kept, others⟩ | ⟨_, _, _, opened⟩ | ⟨submission, task, _, accepted, filed, added⟩ :=
        (flow.deskAfter requests).dossier_serve_cases request id
      · rw [kept]
        have nothing : ((flow.deskAfter requests).filing? request).toList.filter
            (·.receipt.applicant == id) = [] := by
          refine List.filter_eq_nil_iff.mpr fun filing member => ?_
          simpa using others filing (Option.mem_toList.mp member)
        rw [nothing, List.append_nil]
        exact ⟨filings, latest, reached⟩
      · rw [opened]
        exact ⟨[], List.nil_suffix, .opened⟩
      · rw [flow_deskAfter] at accepted added
        rw [filed, added]
        refine ⟨_, ?_, reached.filed accepted⟩
        obtain ⟨front, split⟩ := latest
        refine ⟨front, ?_⟩
        rw [← List.append_assoc, split]
        simp [Submission.receipt]

end Flow

/-! A history to look at: the form, passed at first, was redone after the talk and failed. -/

namespace Sample

def form : Task where
  id := "form"
  name := "Application Form"
  requiredFields := .ofList ["consent"]
  criterion := .equals "consent" "yes"
  visibility := .always
  redoable := true
  id_not_blank := by decide
  name_not_blank := by decide

def talk : Task where
  id := "talk"
  name := "Talk"
  requiredFields := .ofList []
  criterion := .always
  visibility := .always
  redoable := false
  id_not_blank := by decide
  name_not_blank := by decide

def contract : Task where
  id := "contract"
  name := "Contract"
  requiredFields := .ofList []
  criterion := .always
  visibility := .always
  redoable := false
  id_not_blank := by decide
  name_not_blank := by decide

def application : Step where
  id := "application"
  name := "Application"
  tasks := [form, talk]
  id_not_blank := by decide
  name_not_blank := by decide

def enrolment : Step where
  id := "enrolment"
  name := "Enrolment"
  tasks := [contract]
  id_not_blank := by decide
  name_not_blank := by decide

def flow : Flow where
  id := "sample"
  name := "Sample"
  steps := [application, enrolment]
  id_not_blank := by decide
  name_not_blank := by decide
  taskIds_nodup := by decide

def consent (word : String) : Payload := [("consent", .string word)]

def requests : List Request := [
  .register "ada@example.org",
  .submit "1" ⟨"form", consent "yes", ⟨0, 0⟩⟩,
  .submit "1" ⟨"talk", [], ⟨1, 0⟩⟩,
  .submit "1" ⟨"form", consent "no", ⟨2, 0⟩⟩]

theorem knows : (flow.deskAfter requests).Knows "1" := by
  decide +kernel

end Sample

end Candidacy
