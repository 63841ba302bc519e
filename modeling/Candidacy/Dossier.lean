import Candidacy.Timestamp

/-!
What is known of an applicant: for each task submitted, the newest verdict on it.
-/

namespace Candidacy

/-- The outcome of the latest submission for a task. -/
structure Verdict where
  task : String
  passed : Bool
  resolvedAt : Instant
  payload : Payload

/-- The verdicts on one applicant, by task. -/
structure Dossier where
  owner : String
  verdicts : Table Verdict

namespace Dossier

def empty (owner : String) : Dossier := ⟨owner, .empty⟩

def verdict? (dossier : Dossier) (task : String) : Option Verdict :=
  dossier.verdicts.get? task

def hasVerdict (dossier : Dossier) (task : String) : Bool :=
  dossier.verdicts.contains task

def hasPassed (dossier : Dossier) (task : String) : Bool :=
  (dossier.verdict? task).any (·.passed)

def hasFailed (dossier : Dossier) (task : String) : Bool :=
  (dossier.verdict? task).any (!·.passed)

/-- Some verdict is a failure, whatever its task. -/
def anyFailed (dossier : Dossier) : Bool :=
  dossier.verdicts.values.any (!·.passed)

def size (dossier : Dossier) : Nat :=
  dossier.verdicts.size

def isEmpty (dossier : Dossier) : Bool :=
  dossier.size == 0

/-- Files a verdict under its task, in place of an earlier one. -/
def file (dossier : Dossier) (verdict : Verdict) : Dossier :=
  { dossier with verdicts := dossier.verdicts.insert verdict.task verdict }

@[simp] theorem verdict?_empty (owner task : String) : (empty owner).verdict? task = none := rfl

@[simp] theorem verdict?_file_self (dossier : Dossier) (verdict : Verdict) :
    (dossier.file verdict).verdict? verdict.task = some verdict :=
  Table.get?_insert_self _ _ _

theorem verdict?_file_other (dossier : Dossier) {verdict : Verdict} {task : String}
    (different : verdict.task ≠ task) :
    (dossier.file verdict).verdict? task = dossier.verdict? task :=
  Table.get?_insert_other _ different _

theorem hasVerdict_eq_isSome (dossier : Dossier) (task : String) :
    dossier.hasVerdict task = (dossier.verdict? task).isSome := rfl

theorem hasVerdict_of_verdict? {dossier : Dossier} {task : String} {verdict : Verdict}
    (stands : dossier.verdict? task = some verdict) : dossier.hasVerdict task = true := by
  rw [hasVerdict_eq_isSome, stands]
  rfl

theorem hasVerdict_iff (dossier : Dossier) (task : String) :
    dossier.hasVerdict task = true ↔
      dossier.hasPassed task = true ∨ dossier.hasFailed task = true := by
  rw [hasVerdict_eq_isSome, hasPassed, hasFailed]
  cases dossier.verdict? task with
  | none => simp
  | some verdict => cases passed : verdict.passed <;> simp [passed]

theorem hasFailed_eq_false_of_hasPassed {dossier : Dossier} {task : String}
    (passed : dossier.hasPassed task = true) : dossier.hasFailed task = false := by
  rw [hasPassed] at passed
  rw [hasFailed]
  cases found : dossier.verdict? task with
  | none => rfl
  | some verdict => simpa [found] using passed

@[simp] theorem hasVerdict_empty (owner task : String) :
    (empty owner).hasVerdict task = false := rfl

@[simp] theorem hasPassed_file_self (dossier : Dossier) (verdict : Verdict) :
    (dossier.file verdict).hasPassed verdict.task = verdict.passed := by
  simp [hasPassed]

@[simp] theorem hasFailed_file_self (dossier : Dossier) (verdict : Verdict) :
    (dossier.file verdict).hasFailed verdict.task = !verdict.passed := by
  simp [hasFailed]

section Other

variable (dossier : Dossier) {verdict : Verdict} {task : String} (different : verdict.task ≠ task)
include different

theorem hasPassed_file_other : (dossier.file verdict).hasPassed task = dossier.hasPassed task := by
  rw [hasPassed, verdict?_file_other dossier different, hasPassed]

theorem hasFailed_file_other : (dossier.file verdict).hasFailed task = dossier.hasFailed task := by
  rw [hasFailed, verdict?_file_other dossier different, hasFailed]

theorem hasVerdict_file_other :
    (dossier.file verdict).hasVerdict task = dossier.hasVerdict task := by
  rw [hasVerdict_eq_isSome, verdict?_file_other dossier different, hasVerdict_eq_isSome]

end Other

theorem anyFailed_iff (dossier : Dossier) :
    dossier.anyFailed = true ↔ ∃ task, dossier.hasFailed task = true := by
  simp only [anyFailed, Table.values, List.any_map, List.any_eq_true, hasFailed,
    Option.any_eq_true, verdict?]
  constructor
  · rintro ⟨⟨task, verdict⟩, member, failed⟩
    exact ⟨task, verdict, (Table.mem_entries_iff _ _ _).mp member, failed⟩
  · rintro ⟨task, verdict, found, failed⟩
    exact ⟨(task, verdict), (Table.mem_entries_iff _ _ _).mpr found, failed⟩

end Dossier

end Candidacy
