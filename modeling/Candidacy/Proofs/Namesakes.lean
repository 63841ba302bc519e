import Candidacy.Proofs.Enrolment
import Candidacy.Proofs.LetterCase
import Candidacy.Submission

/-!
Emails and identifiers that mean the same. An email is taken for good, in whatever letter case and
with whatever white space around it it is handed in again; an identifier leads to the same task in
either case of its letters.
-/

namespace Candidacy

open Text (IsPadded SameLetters)

/-! Emails. -/

theorem normalEmail_normalEmail (email : String) :
    normalEmail (normalEmail email) = normalEmail email := by
  rw [normalEmail, normalEmail, Text.trim_lower_trim, Text.lower_lower]

theorem normalEmail_eq {email recased padded : String} (same : SameLetters email recased)
    (isPadded : IsPadded recased padded) : normalEmail padded = normalEmail email := by
  rw [normalEmail, Text.trim_of_isPadded isPadded, Text.lower_eq_of_sameLetters same.trim,
    normalEmail]

namespace Roster

/-- Somebody is registered under this form of an email. -/
def IsTaken (roster : Roster) (normal : String) : Prop :=
  roster.emails.contains normal = true

variable {roster changed : Roster} {email normal : String}

theorem isTaken_iff : roster.IsTaken normal ↔ ∃ id, roster.emails.get? normal = some id := by
  rw [IsTaken, Table.contains_eq_isSome, Option.isSome_iff_exists]

theorem register_of_isTaken (taken : roster.IsTaken (normalEmail email)) :
    roster.register email = .error (.duplicateEmail email) :=
  if_pos taken

theorem isTaken_of_register {applicant : Applicant}
    (registered : roster.register email = .ok (applicant, changed)) :
    changed.IsTaken (normalEmail email) := by
  obtain ⟨_, _, rfl⟩ := register_eq_ok_iff.mp registered
  exact isTaken_iff.mpr ⟨_, Table.get?_insert_self _ _ _⟩

theorem IsTaken.register (taken : roster.IsTaken normal) {applicant : Applicant}
    (registered : roster.register email = .ok (applicant, changed)) : changed.IsTaken normal := by
  obtain ⟨free, _, rfl⟩ := register_eq_ok_iff.mp registered
  obtain ⟨id, found⟩ := isTaken_iff.mp taken
  have different : normalEmail email ≠ normal := by
    rintro rfl
    rw [free] at found
    cases found
  exact isTaken_iff.mpr ⟨id, (Table.get?_insert_other _ different _).trans found⟩

theorem IsTaken.file (taken : roster.IsTaken normal) {id : String} {verdict : Verdict}
    (filed : roster.file id verdict = .ok changed) : changed.IsTaken normal := by
  rw [IsTaken, (index_file filed).1]
  exact taken

theorem IsTaken.apply (taken : roster.IsTaken normal) (change : Change) :
    (roster.apply change).IsTaken normal := by
  cases change with
  | register email =>
      obtain ⟨_, kept⟩ | ⟨applicant, changed, registered, _, applied⟩ := roster.register_cases email
      · rw [kept]
        exact taken
      · rw [applied]
        exact taken.register registered
  | file id verdict =>
      obtain kept | ⟨changed, filed, applied⟩ := roster.file_cases id verdict
      · rw [kept]
        exact taken
      · rw [applied]
        exact taken.file filed

theorem IsTaken.applyAll (taken : roster.IsTaken normal) (changes : List Change) :
    (roster.applyAll changes).IsTaken normal := by
  induction changes generalizing roster with
  | nil => exact taken
  | cons change rest ih => exact ih (taken.apply change)

end Roster

/-! Identifiers. -/

theorem Task.answersTo_eq {identifier recased : String} (same : SameLetters identifier recased)
    (task : Task) : task.answersTo recased = task.answersTo identifier := by
  simp only [answersTo, Text.lower_eq_of_sameLetters same]

theorem Flow.resolve_eq_ok_iff_of_sameLetters {identifier recased : String}
    (same : SameLetters identifier recased) (flow : Flow) (dossier : Dossier) (task : Task) :
    flow.resolve recased dossier = .ok task ↔ flow.resolve identifier dossier = .ok task := by
  simp only [resolve, Task.answersTo_eq same]
  split <;> simp

/-- Neither the case of ASCII letters nor white space around it makes another email, and the normal
form of an email is its own: once the email is registered, all of these are refused ever after. And
the case of ASCII letters makes no other identifier of a task. -/
theorem case_and_blanks_ignored {text recased padded : String} (same : SameLetters text recased)
    (isPadded : IsPadded recased padded) :
    normalEmail padded = normalEmail text ∧
    normalEmail (normalEmail text) = normalEmail text ∧
    (∀ (roster changed : Roster) (applicant : Applicant),
      roster.register text = .ok (applicant, changed) → ∀ changes : List Roster.Change,
        (changed.applyAll changes).register padded = .error (.duplicateEmail padded) ∧
        (changed.applyAll changes).register (normalEmail text) =
          .error (.duplicateEmail (normalEmail text))) ∧
    (∀ task : Task, task.answersTo recased = task.answersTo text) ∧
    ∀ (flow : Flow) (dossier : Dossier) (task : Task),
      flow.resolve recased dossier = .ok task ↔ flow.resolve text dossier = .ok task := by
  have samePadded := normalEmail_eq same isPadded
  have sameNormal := normalEmail_normalEmail text
  refine ⟨samePadded, sameNormal, ?_, ?_, ?_⟩
  · intro roster changed applicant registered changes
    have taken := (Roster.isTaken_of_register registered).applyAll changes
    constructor
    · apply Roster.register_of_isTaken
      rwa [samePadded]
    · apply Roster.register_of_isTaken
      rwa [sameNormal]
  · exact Task.answersTo_eq same
  · exact Flow.resolve_eq_ok_iff_of_sameLetters same

/-- A letter follows the last capital sigma, past a point that casing ignores. -/
theorem sophos_taken_for_good :
    let padded := "\u2003ΣΟΦΟΣ.A@Example.ORG\u00a0"
    ∃ applicant changed, Roster.empty.register "ΣΟΦΟΣ.a@example.org" = .ok (applicant, changed) ∧
      normalEmail padded = "σοφοσ.a@example.org" ∧
      (changed.applyAll [.register "ada@example.org"]).register padded =
        .error (.duplicateEmail padded) := by
  intro padded
  have same : SameLetters "ΣΟΦΟΣ.a@example.org" "ΣΟΦΟΣ.A@Example.ORG" := by decide +kernel
  have isPadded : IsPadded "ΣΟΦΟΣ.A@Example.ORG" padded :=
    ⟨['\u2003'], ['\u00a0'], List.forall_mem_singleton.mpr rfl, List.forall_mem_singleton.mpr rfl,
      by decide +kernel⟩
  have free : Roster.empty.emails.get? (normalEmail "ΣΟΦΟΣ.a@example.org") = none := rfl
  have registered := Roster.register_eq_ok_iff.mpr ⟨free, rfl, rfl⟩
  obtain ⟨normal, _, taken, _⟩ := case_and_blanks_ignored same isPadded
  refine ⟨_, _, registered, ?_, (taken _ _ _ registered _).1⟩
  rw [normal]
  decide +kernel

end Candidacy
