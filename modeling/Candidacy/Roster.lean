import Candidacy.Registry

/-!
Applicants kept in memory, numbered in the order of their registration.
-/

namespace Candidacy

/-- What the roster keeps of an applicant. -/
structure Enrolled where
  email : String
  verdicts : Table Verdict

def Enrolled.toApplicant (id : String) (enrolled : Enrolled) : Applicant :=
  ⟨id, enrolled.email, enrolled.verdicts⟩

/-- Applicants by id, ids by normal email, and the number of the next applicant. -/
structure Roster where
  enrolled : Table Enrolled
  emails : Table String
  next : UInt64

namespace Roster

def empty : Roster := ⟨.empty, .empty, 1⟩

def size (roster : Roster) : Nat :=
  roster.enrolled.size

/-- The id with a number. -/
def idOf (number : UInt64) : String :=
  toString number.toNat

/-- The number of an id. -/
def numberOf (id : String) : Nat :=
  id.toNat?.getD (UInt64.size - 1)

/-- An email is taken once, whatever its letter case and the white space around it. A refusal
uses up no number. -/
def register (roster : Roster) (email : String) : Except RegistryError (Applicant × Roster) :=
  if roster.emails.contains (normalEmail email) then .error (.duplicateEmail email)
  else
    let id := idOf roster.next
    .ok (⟨id, email, .empty⟩, {
      enrolled := roster.enrolled.insert id ⟨email, .empty⟩
      emails := roster.emails.insert (normalEmail email) id
      next := roster.next + 1 })

def applicant? (roster : Roster) (id : String) : Option Applicant :=
  (roster.enrolled.get? id).map (·.toApplicant id)

/-- All applicants, in the order of their numbers. -/
def applicants (roster : Roster) : List Applicant :=
  (roster.enrolled.entries.map fun (id, enrolled) => enrolled.toApplicant id).mergeSort
    fun first second => numberOf first.id ≤ numberOf second.id

def dossier (roster : Roster) (id : String) : Dossier :=
  match roster.enrolled.get? id with
  | some enrolled => ⟨id, enrolled.verdicts⟩
  | none => .empty id

/-- Files a verdict under its task, in place of an earlier one. -/
def file (roster : Roster) (id : String) (verdict : Verdict) : Except RegistryError Roster :=
  match roster.enrolled.get? id with
  | some enrolled =>
      .ok { roster with
        enrolled := roster.enrolled.insert id
          { enrolled with verdicts := enrolled.verdicts.insert verdict.task verdict } }
  | none => .error (.unknownApplicant id)

instance : Registry Roster where
  register := register
  applicant? roster id := .ok (roster.applicant? id)
  applicants roster := .ok roster.applicants
  dossier roster id := .ok (roster.dossier id)
  file := file

/-! What a successful operation does. -/

theorem register_eq_ok_iff {roster changed : Roster} {email : String} {applicant : Applicant} :
    roster.register email = .ok (applicant, changed) ↔
      roster.emails.get? (normalEmail email) = none ∧
        applicant = ⟨idOf roster.next, email, .empty⟩ ∧
        changed = {
          enrolled := roster.enrolled.insert (idOf roster.next) ⟨email, .empty⟩
          emails := roster.emails.insert (normalEmail email) (idOf roster.next)
          next := roster.next + 1 } := by
  rw [register, Table.contains_eq_isSome]
  cases roster.emails.get? (normalEmail email) with
  | none => simp [eq_comm]
  | some id => simp

theorem file_eq_ok_iff {roster changed : Roster} {id : String} {verdict : Verdict} :
    roster.file id verdict = .ok changed ↔
      ∃ enrolled, roster.enrolled.get? id = some enrolled ∧
        changed = { roster with
          enrolled := roster.enrolled.insert id
            { enrolled with verdicts := enrolled.verdicts.insert verdict.task verdict } } := by
  rw [file]
  cases roster.enrolled.get? id with
  | none => simp
  | some enrolled => simp [eq_comm]

theorem get?_file_self {roster changed : Roster} {id : String} {verdict : Verdict}
    (filed : roster.file id verdict = .ok changed) :
    changed.enrolled.get? id = (roster.enrolled.get? id).map fun enrolled =>
      { enrolled with verdicts := enrolled.verdicts.insert verdict.task verdict } := by
  obtain ⟨_, found, rfl⟩ := file_eq_ok_iff.mp filed
  rw [Table.get?_insert_self, found]
  rfl

theorem get?_file_other {roster changed : Roster} {id other : String} {verdict : Verdict}
    (filed : roster.file id verdict = .ok changed) (different : id ≠ other) :
    changed.enrolled.get? other = roster.enrolled.get? other := by
  obtain ⟨_, _, rfl⟩ := file_eq_ok_iff.mp filed
  exact Table.get?_insert_other _ different _

theorem index_file {roster changed : Roster} {id : String} {verdict : Verdict}
    (filed : roster.file id verdict = .ok changed) :
    changed.emails = roster.emails ∧ changed.next = roster.next := by
  obtain ⟨_, _, rfl⟩ := file_eq_ok_iff.mp filed
  exact ⟨rfl, rfl⟩

/-! What the operations do to the verdicts on each applicant. -/

@[simp] theorem dossier_empty (id : String) : empty.dossier id = .empty id := rfl

theorem dossier_register_self {roster changed : Roster} {email : String} {applicant : Applicant}
    (registered : roster.register email = .ok (applicant, changed)) :
    changed.dossier applicant.id = .empty applicant.id := by
  obtain ⟨_, rfl, rfl⟩ := register_eq_ok_iff.mp registered
  simp [dossier, Dossier.empty]

theorem dossier_register_other {roster changed : Roster} {email : String} {applicant : Applicant}
    (registered : roster.register email = .ok (applicant, changed)) {other : String}
    (different : applicant.id ≠ other) : changed.dossier other = roster.dossier other := by
  obtain ⟨_, rfl, rfl⟩ := register_eq_ok_iff.mp registered
  simp [dossier, Table.get?_insert_other _ different]

theorem file_of_enrolled {roster : Roster} {id : String} {enrolled : Enrolled}
    (found : roster.enrolled.get? id = some enrolled) (verdict : Verdict) :
    ∃ changed, roster.file id verdict = .ok changed := by
  simp [file, found]

theorem enrolled_of_file {roster changed : Roster} {id : String} {verdict : Verdict}
    (filed : roster.file id verdict = .ok changed) :
    ∃ enrolled, changed.enrolled.get? id = some enrolled := by
  obtain ⟨_, _, rfl⟩ := file_eq_ok_iff.mp filed
  exact ⟨_, Table.get?_insert_self _ _ _⟩

theorem dossier_file_self {roster changed : Roster} {id : String} {verdict : Verdict}
    (filed : roster.file id verdict = .ok changed) :
    changed.dossier id = (roster.dossier id).file verdict := by
  obtain ⟨enrolled, found, rfl⟩ := file_eq_ok_iff.mp filed
  simp [dossier, found, Dossier.file]

theorem dossier_file_other {roster changed : Roster} {id other : String} {verdict : Verdict}
    (filed : roster.file id verdict = .ok changed) (different : id ≠ other) :
    changed.dossier other = roster.dossier other := by
  obtain ⟨_, _, rfl⟩ := file_eq_ok_iff.mp filed
  simp [dossier, Table.get?_insert_other _ different]

end Roster

end Candidacy
