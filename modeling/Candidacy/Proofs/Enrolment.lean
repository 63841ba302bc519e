import Candidacy.Proofs.Numbering
import Mathlib.Data.List.Sort
import Std.Data.String.ToNat

/-!
What a roster holds after any changes. Applicants bear the numbers from one on, in the order in
which they were taken in; the index of emails leads to each of them, and to nobody else, from the
normal form of the email; and the list of applicants follows the numbers.
-/

namespace Candidacy

theorem Table.mem_keys_iff {α : Type u} (table : Table α) (key : String) :
    key ∈ table.keys ↔ ∃ value, table.get? key = some value := by
  simp [Table.keys, Table.mem_entries_iff]

/-! Emails in a list, under the numbers of their places. -/

/-- The email stands in the list at the place that the id names, counted from one. -/
def StandsAt (emails : List String) (id email : String) : Prop :=
  ∃ index, emails[index]? = some email ∧ id = toString (index + 1)

section Places

variable {emails : List String} {id email other added : String}

theorem not_standsAt_nil : ¬StandsAt [] id email := by
  intro stands
  obtain ⟨index, found, _⟩ := stands
  cases found

theorem StandsAt.unique (stands : StandsAt emails id email) (also : StandsAt emails id other) :
    email = other := by
  obtain ⟨index, found, rfl⟩ := stands
  obtain ⟨place, alsoFound, same⟩ := also
  have samePlace : index + 1 = place + 1 := Nat.repr_inj.mp same
  rw [Nat.succ.inj samePlace] at found
  exact Option.some.inj (found.symm.trans alsoFound)

theorem not_standsAt_behind : ¬StandsAt emails (toString (emails.length + 1)) email := by
  intro stands
  obtain ⟨index, found, same⟩ := stands
  have last : emails.length + 1 = index + 1 := Nat.repr_inj.mp same
  have inside : index < emails.length := (List.getElem?_eq_some_iff.mp found).1
  omega

theorem standsAt_append_singleton :
    StandsAt (emails ++ [added]) id email ↔
      StandsAt emails id email ∨ email = added ∧ id = toString (emails.length + 1) := by
  constructor
  · intro stands
    obtain ⟨index, found, rfl⟩ := stands
    by_cases inside : index < emails.length
    · rw [List.getElem?_append_left inside] at found
      exact .inl ⟨index, found, rfl⟩
    · have bound := (List.getElem?_eq_some_iff.mp found).1
      have last : index = emails.length := by
        rw [List.length_append, List.length_singleton] at bound
        omega
      subst last
      rw [List.getElem?_concat_length] at found
      exact .inr ⟨(Option.some.inj found).symm, rfl⟩
  · intro stands
    obtain ⟨index, found, rfl⟩ | ⟨rfl, rfl⟩ := stands
    · have inside := (List.getElem?_eq_some_iff.mp found).1
      exact ⟨index, (List.getElem?_append_left inside).trans found, rfl⟩
    · exact ⟨emails.length, List.getElem?_concat_length, rfl⟩

theorem exists_standsAt_iff :
    (∃ email, StandsAt emails id email) ↔
      ∃ index < emails.length, id = toString (index + 1) := by
  constructor
  · intro stands
    obtain ⟨email, index, found, rfl⟩ := stands
    exact ⟨index, (List.getElem?_eq_some_iff.mp found).1, rfl⟩
  · intro placed
    obtain ⟨index, inside, rfl⟩ := placed
    exact ⟨emails[index], index, List.getElem?_eq_getElem inside, rfl⟩

end Places

namespace Roster

/-! Changes of a roster. -/

inductive Change
  | register (email : String)
  | file (id : String) (verdict : Verdict)

def apply (roster : Roster) : Change → Roster
  | .register email =>
      match roster.register email with
      | .ok (_, changed) => changed
      | .error _ => roster
  | .file id verdict =>
      match roster.file id verdict with
      | .ok changed => changed
      | .error _ => roster

def applyAll (roster : Roster) (changes : List Change) : Roster :=
  changes.foldl apply roster

/-- The email of a registration that succeeds, and the answer to it. -/
def enrolment? (roster : Roster) : Change → Option (String × Applicant)
  | .register email =>
      match roster.register email with
      | .ok (applicant, _) => some (email, applicant)
      | .error _ => none
  | .file _ _ => none

def enrolments (roster : Roster) : List Change → List (String × Applicant)
  | [] => []
  | change :: rest => (roster.enrolment? change).toList ++ (roster.apply change).enrolments rest

theorem applyAll_append_singleton (roster : Roster) (changes : List Change) (change : Change) :
    roster.applyAll (changes ++ [change]) = (roster.applyAll changes).apply change :=
  List.foldl_append

theorem enrolments_append_singleton (roster : Roster) (changes : List Change) (change : Change) :
    roster.enrolments (changes ++ [change]) =
      roster.enrolments changes ++ ((roster.applyAll changes).enrolment? change).toList := by
  induction changes generalizing roster with
  | nil => exact List.append_nil _
  | cons first rest ih =>
      rw [List.cons_append, enrolments, enrolments, ih, List.append_assoc]
      rfl

theorem register_cases (roster : Roster) (email : String) :
    (roster.enrolment? (.register email) = none ∧ roster.apply (.register email) = roster) ∨
      ∃ applicant changed, roster.register email = .ok (applicant, changed) ∧
        roster.enrolment? (.register email) = some (email, applicant) ∧
        roster.apply (.register email) = changed := by
  cases registered : roster.register email with
  | error refusal =>
      left
      simp [enrolment?, apply, registered]
  | ok answer =>
      obtain ⟨applicant, changed⟩ := answer
      right
      exact ⟨applicant, changed, rfl, by simp [enrolment?, registered], by simp [apply, registered]⟩

theorem file_cases (roster : Roster) (id : String) (verdict : Verdict) :
    roster.apply (.file id verdict) = roster ∨
      ∃ changed, roster.file id verdict = .ok changed ∧
        roster.apply (.file id verdict) = changed := by
  cases filed : roster.file id verdict with
  | error refusal =>
      left
      simp [apply, filed]
  | ok changed =>
      right
      exact ⟨changed, rfl, by simp [apply, filed]⟩

/-! What a single change does. -/

section Steps

variable {roster changed : Roster} {email : String}

theorem exists_register_iff :
    (∃ answer, roster.register email = .ok answer) ↔
      roster.emails.get? (normalEmail email) = none := by
  constructor
  · intro accepted
    obtain ⟨⟨applicant, changed⟩, registered⟩ := accepted
    exact (register_eq_ok_iff.mp registered).1
  · intro free
    exact ⟨_, register_eq_ok_iff.mpr ⟨free, rfl, rfl⟩⟩

theorem email_file {id : String} {verdict : Verdict} (filed : roster.file id verdict = .ok changed)
    (other : String) :
    (changed.enrolled.get? other).map (·.email) = (roster.enrolled.get? other).map (·.email) := by
  by_cases same : id = other
  · subst same
    rw [get?_file_self filed, Option.map_map]
    rfl
  · rw [get?_file_other filed same]

end Steps

/-- The roster has taken in these emails, one after the other. -/
structure Lists (roster : Roster) (emails : List String) : Prop where
  next : roster.next.toNat = emails.length + 1
  owner : ∀ id email,
    (roster.enrolled.get? id).map (·.email) = some email ↔ StandsAt emails id email
  index : ∀ normal id, roster.emails.get? normal = some id ↔
    ∃ email, StandsAt emails id email ∧ normalEmail email = normal

theorem lists_empty : empty.Lists [] := by
  constructor
  · rfl
  · intro id email
    simp [empty, not_standsAt_nil]
  · intro normal id
    simp [empty, not_standsAt_nil]

namespace Lists

variable {roster changed : Roster} {emails : List String} {email id : String}
  {applicant : Applicant}

theorem idOf_next (lists : roster.Lists emails) :
    idOf roster.next = toString (emails.length + 1) := by
  rw [idOf, lists.next]

theorem exists_register_iff (lists : roster.Lists emails) :
    (∃ answer, roster.register email = .ok answer) ↔
      ∀ earlier ∈ emails, normalEmail earlier ≠ normalEmail email := by
  rw [Roster.exists_register_iff, Option.eq_none_iff_forall_ne_some]
  constructor
  · intro free earlier member same
    obtain ⟨index, inside, rfl⟩ := List.getElem_of_mem member
    apply free (toString (index + 1))
    apply (lists.index _ _).mpr
    exact ⟨emails[index], ⟨index, List.getElem?_eq_getElem inside, rfl⟩, same⟩
  · intro apart id listed
    obtain ⟨earlier, ⟨index, found, _⟩, same⟩ := (lists.index _ _).mp listed
    exact apart earlier (List.mem_of_getElem? found) same

theorem owner_insert (lists : roster.Lists emails) {mail : String} :
    ((roster.enrolled.insert (toString (emails.length + 1)) ⟨email, .empty⟩).get? id).map
        (·.email) = some mail ↔ StandsAt (emails ++ [email]) id mail := by
  rw [standsAt_append_singleton, Table.get?_insert]
  split
  · next last =>
      subst last
      constructor
      · intro taken
        exact .inr ⟨(Option.some.inj taken).symm, rfl⟩
      · intro stands
        cases stands with
        | inl behind => exact absurd behind not_standsAt_behind
        | inr added => exact congrArg some added.1.symm
  · next different =>
      rw [lists.owner]
      constructor
      · exact .inl
      · intro stands
        cases stands with
        | inl stands => exact stands
        | inr added => exact absurd added.2.symm different

theorem index_insert (lists : roster.Lists emails)
    (free : roster.emails.get? (normalEmail email) = none) {normal : String} :
    (roster.emails.insert (normalEmail email) (toString (emails.length + 1))).get? normal =
        some id ↔
      ∃ mail, StandsAt (emails ++ [email]) id mail ∧ normalEmail mail = normal := by
  simp only [standsAt_append_singleton, Table.get?_insert]
  split
  · next same =>
      subst same
      constructor
      · intro given
        cases given
        exact ⟨email, .inr ⟨rfl, rfl⟩, rfl⟩
      · intro listed
        obtain ⟨mail, stands, sameNormal⟩ := listed
        cases stands with
        | inl earlier =>
            -- Somebody with this email would have been in the index.
            have taken := (lists.index _ _).mpr ⟨mail, earlier, sameNormal⟩
            cases taken.symm.trans free
        | inr added => exact congrArg some added.2.symm
  · next different =>
      rw [lists.index]
      constructor
      · intro listed
        obtain ⟨mail, stands, sameNormal⟩ := listed
        exact ⟨mail, .inl stands, sameNormal⟩
      · intro listed
        obtain ⟨mail, stands, sameNormal⟩ := listed
        cases stands with
        | inl earlier => exact ⟨mail, earlier, sameNormal⟩
        | inr added => exact absurd (added.1 ▸ sameNormal) different

theorem register (lists : roster.Lists emails)
    (registered : roster.register email = .ok (applicant, changed))
    (room : emails.length + 1 < UInt64.size - 1) :
    applicant = ⟨toString (emails.length + 1), email, .empty⟩ ∧
      changed.Lists (emails ++ [email]) := by
  obtain ⟨free, rfl, rfl⟩ := register_eq_ok_iff.mp registered
  rw [lists.idOf_next]
  have next : (roster.next + 1).toNat = emails.length + 1 + 1 := by
    rw [UInt64.toNat_add, lists.next]
    exact Nat.mod_eq_of_lt (Nat.add_lt_of_lt_sub room)
  refine ⟨rfl, ?_, ?_, ?_⟩
  · rw [next, List.length_append, List.length_singleton]
  · intro id mail
    exact lists.owner_insert
  · intro normal id
    exact lists.index_insert free

theorem file (lists : roster.Lists emails) {verdict : Verdict}
    (filed : roster.file id verdict = .ok changed) : changed.Lists emails := by
  obtain ⟨sameIndex, sameNext⟩ := index_file filed
  constructor
  · rw [sameNext]
    exact lists.next
  · intro other email
    rw [email_file filed]
    exact lists.owner other email
  · rw [sameIndex]
    exact lists.index

/-! Reading a roster. -/

theorem applicant?_of_standsAt (lists : roster.Lists emails) (stands : StandsAt emails id email) :
    ∃ verdicts, roster.applicant? id = some ⟨id, email, verdicts⟩ := by
  have owned := (lists.owner id email).mpr stands
  obtain ⟨enrolled, found, rfl⟩ := Option.map_eq_some_iff.mp owned
  exact ⟨enrolled.verdicts, congrArg (Option.map _) found⟩

theorem standsAt_of_applicant? (lists : roster.Lists emails)
    (found : roster.applicant? id = some applicant) : StandsAt emails id applicant.email := by
  obtain ⟨enrolled, present, rfl⟩ := Option.map_eq_some_iff.mp found
  apply (lists.owner _ _).mp
  rw [present]
  rfl

theorem exists_applicant?_iff (lists : roster.Lists emails) :
    (∃ applicant, roster.applicant? id = some applicant) ↔
      ∃ index < emails.length, id = toString (index + 1) := by
  rw [← exists_standsAt_iff]
  constructor
  · intro known
    obtain ⟨applicant, found⟩ := known
    exact ⟨applicant.email, lists.standsAt_of_applicant? found⟩
  · intro standing
    obtain ⟨email, stands⟩ := standing
    obtain ⟨verdicts, found⟩ := lists.applicant?_of_standsAt stands
    exact ⟨_, found⟩

theorem index_iff (lists : roster.Lists emails) {normal : String} :
    roster.emails.get? normal = some id ↔
      ∃ applicant, roster.applicant? id = some applicant ∧
        normalEmail applicant.email = normal := by
  rw [lists.index]
  constructor
  · intro standing
    obtain ⟨email, stands, same⟩ := standing
    obtain ⟨verdicts, found⟩ := lists.applicant?_of_standsAt stands
    exact ⟨_, found, same⟩
  · intro known
    obtain ⟨applicant, found, same⟩ := known
    exact ⟨applicant.email, lists.standsAt_of_applicant? found, same⟩

end Lists

theorem mem_applicants_iff {roster : Roster} {applicant : Applicant} :
    applicant ∈ roster.applicants ↔ roster.applicant? applicant.id = some applicant := by
  simp only [applicants, List.mem_mergeSort, List.mem_map, Prod.exists, Table.mem_entries_iff,
    applicant?, Option.map_eq_some_iff]
  constructor
  · intro member
    obtain ⟨id, enrolled, found, rfl⟩ := member
    exact ⟨enrolled, found, rfl⟩
  · intro known
    obtain ⟨enrolled, found, same⟩ := known
    exact ⟨applicant.id, enrolled, found, same⟩

theorem map_id_applicants_perm (roster : Roster) :
    (roster.applicants.map (·.id)).Perm roster.enrolled.keys := by
  have unsorted := (List.mergeSort_perm
    (roster.enrolled.entries.map fun entry => entry.2.toApplicant entry.1)
    fun first second => numberOf first.id ≤ numberOf second.id).map Applicant.id
  rw [List.map_map] at unsorted
  exact unsorted

theorem numbers_sorted (roster : Roster) :
    (roster.applicants.map fun applicant => numberOf applicant.id).Pairwise (· ≤ ·) := by
  apply List.pairwise_map.mpr
  refine List.Pairwise.imp of_decide_eq_true (List.pairwise_mergeSort ?_ ?_ _)
  · intro first second third lower upper
    exact decide_eq_true (Nat.le_trans (of_decide_eq_true lower) (of_decide_eq_true upper))
  · intro first second
    simpa using Nat.le_total (numberOf first.id) (numberOf second.id)

theorem numberOf_toString (number : Nat) : numberOf (toString number) = number := by
  have read : (toString number).toNat? = some number := Nat.toNat?_repr number
  rw [numberOf, read]
  rfl

theorem Lists.map_id_applicants {roster : Roster} {emails : List String}
    (lists : roster.Lists emails) :
    roster.applicants.map (·.id) =
      (List.range emails.length).map fun index => toString (index + 1) := by
  have keys : roster.enrolled.keys.Perm
      ((List.range emails.length).map fun index => toString (index + 1)) := by
    have nodup : ((List.range emails.length).map fun index => toString (index + 1)).Nodup := by
      apply List.nodup_range.map
      intro first second same
      exact Nat.succ.inj (Nat.repr_inj.mp same)
    apply (List.perm_ext_iff_of_nodup roster.enrolled.keys_nodup nodup).mpr
    intro id
    have present : (∃ enrolled, roster.enrolled.get? id = some enrolled) ↔
        ∃ applicant, roster.applicant? id = some applicant := by
      simp [applicant?]
    rw [Table.mem_keys_iff, present, lists.exists_applicant?_iff]
    simp [eq_comm]
  have ids := roster.map_id_applicants_perm.trans keys
  -- The numbers of the ids determine their order, and the ids.
  have numbers : (roster.applicants.map fun applicant => numberOf applicant.id) =
      (List.range emails.length).map (· + 1) := by
    have counted := ids.map numberOf
    rw [List.map_map, List.map_map] at counted
    have read : (numberOf ∘ fun index => toString (index + 1)) = (· + 1) :=
      funext fun index => numberOf_toString (index + 1)
    rw [read] at counted
    apply List.Perm.eq_of_pairwise' roster.numbers_sorted _ counted
    exact List.pairwise_map.mpr (List.pairwise_le_range.imp Nat.succ_le_succ)
  have spelt : ∀ applicant ∈ roster.applicants,
      toString (numberOf applicant.id) = applicant.id := by
    intro applicant member
    have found := mem_applicants_iff.mp member
    obtain ⟨index, _, same⟩ := lists.exists_applicant?_iff.mp ⟨applicant, found⟩
    rw [same, numberOf_toString]
  calc
    roster.applicants.map (·.id) =
        roster.applicants.map fun applicant => toString (numberOf applicant.id) :=
      List.map_congr_left fun applicant member => (spelt applicant member).symm
    _ = (roster.applicants.map fun applicant => numberOf applicant.id).map toString := by
      rw [List.map_map]
      rfl
    _ = (List.range emails.length).map fun index => toString (index + 1) := by
      rw [numbers, List.map_map]
      rfl

/-! All changes. -/

/-- The registrations of these emails, each answered with the number that is next. -/
def inOrder (emails : List String) : List (String × Applicant) :=
  emails.mapIdx fun index email => (email, ⟨toString (index + 1), email, .empty⟩)

@[simp] theorem length_inOrder (emails : List String) :
    (inOrder emails).length = emails.length :=
  List.length_mapIdx

theorem inOrder_append_singleton (emails : List String) (added : String) :
    inOrder (emails ++ [added]) =
      inOrder emails ++ [(added, ⟨toString (emails.length + 1), added, .empty⟩)] :=
  List.mapIdx_concat

theorem map_email_inOrder (emails : List String) : (inOrder emails).map Prod.fst = emails := by
  apply List.ext_getElem
  · simp
  · intro index _ _
    simp [inOrder]

theorem map_id_inOrder (emails : List String) :
    (inOrder emails).map (·.2.id) =
      (List.range emails.length).map fun index => toString (index + 1) := by
  apply List.ext_getElem
  · simp
  · intro index _ _
    simp [inOrder]

theorem getElem?_inOrder {emails : List String} {index : Nat} {email : String}
    {applicant : Applicant} :
    (inOrder emails)[index]? = some (email, applicant) ↔
      emails[index]? = some email ∧ applicant = ⟨toString (index + 1), email, .empty⟩ := by
  simp only [inOrder, List.getElem?_mapIdx, Option.map_eq_some_iff, Prod.mk.injEq]
  constructor
  · intro entry
    obtain ⟨_, found, rfl, rfl⟩ := entry
    exact ⟨found, rfl⟩
  · intro place
    obtain ⟨found, rfl⟩ := place
    exact ⟨email, found, rfl, rfl⟩

theorem exists_lists (changes : List Change)
    (few : (empty.enrolments changes).length < UInt64.size - 1) :
    ∃ emails, empty.enrolments changes = inOrder emails ∧
      (empty.applyAll changes).Lists emails := by
  induction changes using List.reverseRecOn with
  | nil => exact ⟨[], rfl, lists_empty⟩
  | append_singleton changes change ih =>
      rw [enrolments_append_singleton, List.length_append] at few
      obtain ⟨emails, enrolments, lists⟩ := ih (Nat.lt_of_le_of_lt (Nat.le_add_right _ _) few)
      rw [applyAll_append_singleton, enrolments_append_singleton, enrolments]
      cases change with
      | register email =>
          obtain ⟨nobody, kept⟩ | ⟨applicant, changed, registered, somebody, applied⟩ :=
            (empty.applyAll changes).register_cases email
          · rw [nobody, kept]
            exact ⟨emails, List.append_nil _, lists⟩
          · rw [enrolments, somebody, length_inOrder] at few
            obtain ⟨rfl, listed⟩ := lists.register registered few
            rw [somebody, applied]
            exact ⟨emails ++ [email], (inOrder_append_singleton emails email).symm, listed⟩
      | file id verdict =>
          refine ⟨emails, List.append_nil _, ?_⟩
          obtain kept | ⟨changed, filed, applied⟩ :=
            (empty.applyAll changes).file_cases id verdict
          · rw [kept]
            exact lists
          · rw [applied]
            exact lists.file filed

/-- After any changes, an email can be registered if none with the same normal form has been; the
applicants are those taken in, under the numbers from one on and with the emails they gave; the
index leads from their normal emails to their ids; and they are listed by number. -/
theorem enrolled_in_order (changes : List Change)
    (few : (empty.enrolments changes).length < UInt64.size - 1) :
    let roster := empty.applyAll changes
    let enrolments := empty.enrolments changes
    (∀ email, (∃ answer, roster.register email = .ok answer) ↔
      ∀ earlier ∈ enrolments.map Prod.fst, normalEmail earlier ≠ normalEmail email) ∧
    (∀ (index : Nat) (email : String) (applicant : Applicant),
      enrolments[index]? = some (email, applicant) →
        applicant = ⟨toString (index + 1), email, .empty⟩ ∧
        ∃ verdicts, roster.applicant? applicant.id = some ⟨applicant.id, email, verdicts⟩) ∧
    (∀ id, (∃ applicant, roster.applicant? id = some applicant) ↔
      ∃ index < enrolments.length, id = toString (index + 1)) ∧
    (∀ normal id, roster.emails.get? normal = some id ↔
      ∃ applicant, roster.applicant? id = some applicant ∧
        normalEmail applicant.email = normal) ∧
    (∀ normal other id, roster.emails.get? normal = some id →
      roster.emails.get? other = some id → normal = other) ∧
    roster.applicants.map some = enrolments.map (fun (_, applicant) =>
      roster.applicant? applicant.id) ∧
    ∀ id, (roster.dossier id).verdicts =
      ((roster.applicant? id).map (·.verdicts)).getD .empty := by
  intro roster enrolments
  obtain ⟨emails, answers, lists⟩ := exists_lists changes few
  have inOrder : enrolments = inOrder emails := answers
  have sameLength : enrolments.length = emails.length := by rw [inOrder, length_inOrder]
  refine ⟨?_, ?_, ?_, ?_, ?_, ?_, ?_⟩
  · intro email
    rw [inOrder, map_email_inOrder]
    exact lists.exists_register_iff
  · intro index email applicant found
    rw [inOrder] at found
    obtain ⟨stands, rfl⟩ := getElem?_inOrder.mp found
    exact ⟨rfl, lists.applicant?_of_standsAt ⟨index, stands, rfl⟩⟩
  · intro id
    rw [sameLength]
    exact lists.exists_applicant?_iff
  · intro normal id
    exact lists.index_iff
  · intro normal other id given alsoGiven
    obtain ⟨applicant, found, rfl⟩ := lists.index_iff.mp given
    obtain ⟨same, alsoFound, rfl⟩ := lists.index_iff.mp alsoGiven
    cases found.symm.trans alsoFound
    rfl
  · calc
      roster.applicants.map some = (roster.applicants.map (·.id)).map roster.applicant? := by
        rw [List.map_map]
        exact List.map_congr_left fun applicant member => (mem_applicants_iff.mp member).symm
      _ = (enrolments.map (·.2.id)).map roster.applicant? := by
        rw [lists.map_id_applicants, inOrder, map_id_inOrder]
      _ = enrolments.map fun (_, applicant) => roster.applicant? applicant.id := by
        rw [List.map_map]
        rfl
  · intro id
    rw [dossier, applicant?]
    cases roster.enrolled.get? id <;> rfl

theorem two_enrolled_in_order :
    let changes : List Change := [
      .register " Ada@Example.org",
      .register "ada@example.ORG ",
      .file "1" ⟨"form", true, ⟨0, 0⟩, []⟩,
      .file "2" ⟨"form", true, ⟨0, 0⟩, []⟩,
      .register "bob@example.org"]
    let roster := empty.applyAll changes
    (empty.enrolments changes).length < UInt64.size - 1 ∧
      (¬∃ answer, roster.register "ADA@example.org" = .ok answer) ∧
      (∃ applicant, roster.applicant? "2" = some applicant) ∧
      ¬∃ applicant, roster.applicant? "3" = some applicant := by
  intro changes roster
  have few : (empty.enrolments changes).length < UInt64.size - 1 := by decide +kernel
  have two : (empty.enrolments changes).length = 2 := by decide +kernel
  have first : " Ada@Example.org" ∈ (empty.enrolments changes).map Prod.fst := by decide +kernel
  obtain ⟨free_iff, _, known_iff, _⟩ := enrolled_in_order changes few
  refine ⟨few, ?_, ?_, ?_⟩
  · intro free
    have same : normalEmail " Ada@Example.org" = normalEmail "ADA@example.org" := by decide +kernel
    exact (free_iff _).mp free _ first same
  · exact (known_iff "2").mpr ⟨1, by rw [two]; decide, by decide⟩
  · intro known
    obtain ⟨index, below, third⟩ := (known_iff "3").mp known
    have behind : 2 + 1 = index + 1 := Nat.repr_inj.mp third
    omega

end Roster

end Candidacy
