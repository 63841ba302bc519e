import Candidacy.Proofs.History

/-!
The numbers of applicants. Until they run out, no id is given out twice, so that the verdicts under
an id are what all submissions accepted under it have filed.
-/

namespace Candidacy

namespace Roster

theorem ofDigitChars_idOf (number : UInt64) :
    Nat.ofDigitChars 10 (idOf number).toList 0 = number.toNat := by
  simp [idOf, Nat.ofDigitChars_ten_toDigits]

theorem idOf_injective {number other : UInt64} (same : idOf number = idOf other) :
    number = other := by
  apply UInt64.toNat_inj.mp
  rw [← ofDigitChars_idOf, same, ofDigitChars_idOf]

/-- So many applicants have been taken in, under numbers below the next one. -/
structure IsNumbered (roster : Roster) (count : Nat) : Prop where
  next : roster.next.toNat = count + 1
  given : ∀ id enrolled, roster.enrolled.get? id = some enrolled →
    ∃ number < roster.next, id = idOf number

theorem isNumbered_empty : empty.IsNumbered 0 := by
  constructor
  · rfl
  · intro id enrolled found
    cases found

variable {roster changed : Roster} {count : Nat} {email : String} {applicant : Applicant}

namespace IsNumbered

theorem get?_next (numbered : roster.IsNumbered count) :
    roster.enrolled.get? (idOf roster.next) = none := by
  cases found : roster.enrolled.get? (idOf roster.next) with
  | none => rfl
  | some enrolled =>
      -- Whoever stood there would have been given a smaller number.
      obtain ⟨number, below, same⟩ := numbered.given _ enrolled found
      have last := idOf_injective same
      subst last
      exact absurd below (UInt64.lt_irrefl _)

theorem register (numbered : roster.IsNumbered count)
    (registered : roster.register email = .ok (applicant, changed))
    (room : count + 1 < UInt64.size - 1) : changed.IsNumbered (count + 1) := by
  obtain ⟨_, rfl, rfl⟩ := register_eq_ok_iff.mp registered
  have next : (roster.next + 1).toNat = count + 1 + 1 := by
    rw [UInt64.toNat_add, numbered.next]
    exact Nat.mod_eq_of_lt (Nat.add_lt_of_lt_sub room)
  have above : roster.next < roster.next + 1 := by
    rw [UInt64.lt_iff_toNat_lt, next, numbered.next]
    omega
  constructor
  · exact next
  · intro id enrolled found
    rw [Table.get?_insert] at found
    split at found
    · next same => exact ⟨roster.next, above, same.symm⟩
    · obtain ⟨number, below, same⟩ := numbered.given id enrolled found
      exact ⟨number, UInt64.lt_trans below above, same⟩

theorem file (numbered : roster.IsNumbered count) {id : String} {verdict : Verdict}
    (filed : roster.file id verdict = .ok changed) : changed.IsNumbered count := by
  obtain ⟨_, known, rfl⟩ := file_eq_ok_iff.mp filed
  constructor
  · exact numbered.next
  · intro other enrolled found
    rw [Table.get?_insert] at found
    split at found
    · next same => exact numbered.given other _ (same ▸ known)
    · exact numbered.given other enrolled found

/-- A new applicant starts where an unknown one stands: without verdicts. -/
theorem dossier_register (numbered : roster.IsNumbered count)
    (registered : roster.register email = .ok (applicant, changed)) (id : String) :
    changed.dossier id = roster.dossier id := by
  by_cases same : applicant.id = id
  · subst same
    rw [dossier_register_self registered]
    obtain ⟨_, rfl, _⟩ := register_eq_ok_iff.mp registered
    rw [dossier, numbered.get?_next]
  · exact dossier_register_other registered same

end IsNumbered

end Roster

/-! Numbers in the course of requests. -/

namespace Desk

variable {desk : Desk Roster} {count : Nat}

theorem isNumbered_serve (numbered : desk.registry.IsNumbered count) (request : Request)
    (room : count + (desk.newcomer? request).toList.length < UInt64.size - 1) :
    (desk.serve request).registry.IsNumbered
      (count + (desk.newcomer? request).toList.length) := by
  cases request with
  | register email =>
      obtain ⟨nobody, kept⟩ | ⟨applicant, registry, registered, newcomer, served⟩ :=
        desk.serve_register_cases email
      · rw [nobody, kept]
        exact numbered
      · rw [newcomer] at room ⊢
        rw [served]
        exact numbered.register registered room
  | submit applicant submission =>
      change (desk.submit applicant submission).2.registry.IsNumbered count
      obtain kept | ⟨verdict, registry, filed, served⟩ := desk.submit_cases applicant submission
      · rw [kept]
        exact numbered
      · rw [served]
        exact numbered.file filed

theorem dossier_serve_register (numbered : desk.registry.IsNumbered count) (email id : String) :
    (desk.serve (.register email)).registry.dossier id = desk.registry.dossier id := by
  obtain ⟨_, kept⟩ | ⟨applicant, registry, registered, _, served⟩ :=
    desk.serve_register_cases email
  · rw [kept]
  · rw [served]
    exact numbered.dossier_register registered id

end Desk

namespace Flow

/-- The applicants whom this desk has taken in. -/
def newcomersAfter (flow : Flow) (requests : List Request) : List Applicant :=
  (Desk.inMemory flow).newcomers requests

theorem newcomersAfter_append_singleton (flow : Flow) (requests : List Request)
    (request : Request) :
    flow.newcomersAfter (requests ++ [request]) =
      flow.newcomersAfter requests ++ ((flow.deskAfter requests).newcomer? request).toList := by
  rw [newcomersAfter, Desk.newcomers_append]
  simp [newcomersAfter, deskAfter, Desk.newcomers]

theorem few_of_append {flow : Flow} {requests rest : List Request}
    (few : (flow.newcomersAfter (requests ++ rest)).length < UInt64.size - 1) :
    (flow.newcomersAfter requests).length < UInt64.size - 1 := by
  rw [newcomersAfter, Desk.newcomers_append, List.length_append] at few
  exact Nat.lt_of_le_of_lt (Nat.le_add_right _ _) few

theorem isNumbered_deskAfter (flow : Flow) (requests : List Request)
    (few : (flow.newcomersAfter requests).length < UInt64.size - 1) :
    (flow.deskAfter requests).registry.IsNumbered (flow.newcomersAfter requests).length := by
  induction requests using List.reverseRecOn with
  | nil => exact Roster.isNumbered_empty
  | append_singleton requests request ih =>
      have fewBefore := few_of_append few
      rw [newcomersAfter_append_singleton, List.length_append] at few ⊢
      rw [deskAfter_append_singleton]
      exact Desk.isNumbered_serve (ih fewBefore) request few

/-- While numbers last, the verdicts on an applicant stem from all submissions accepted from it. -/
theorem reaches_filingsAfter (flow : Flow) (requests : List Request) (id : String)
    (few : (flow.newcomersAfter requests).length < UInt64.size - 1) :
    flow.Reaches id (flow.filingsAfter requests id)
      ((flow.deskAfter requests).registry.dossier id) := by
  induction requests using List.reverseRecOn with
  | nil => exact .opened
  | append_singleton requests request ih =>
      have fewBefore := few_of_append few
      have reached := ih fewBefore
      rw [deskAfter_append_singleton, filingsAfter_append_singleton]
      cases request with
      | register email =>
          have numbered := flow.isNumbered_deskAfter requests fewBefore
          rw [Desk.dossier_serve_register numbered]
          simpa [Desk.filing?] using reached
      | submit applicant submission =>
          obtain ⟨kept, others⟩ | ⟨_, other, _⟩ | ⟨_, task, same, accepted, filed, added⟩ :=
            (flow.deskAfter requests).dossier_serve_cases (.submit applicant submission) id
          · rw [kept]
            have nothing : ((flow.deskAfter requests).filing?
                (.submit applicant submission)).toList.filter (·.receipt.applicant == id) = [] := by
              apply List.filter_eq_nil_iff.mpr
              intro filing member
              simpa using others filing (Option.mem_toList.mp member)
            rw [nothing, List.append_nil]
            exact reached
          · cases other
          · rw [flow_deskAfter] at accepted added
            rw [filed, added]
            simpa [Submission.receipt] using reached.filed accepted

end Flow

end Candidacy
