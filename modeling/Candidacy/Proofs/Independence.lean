import Candidacy.Proofs.History

/-!
Applicants do not influence each other. What one of them hands in is answered by what stands under
its own id, and nothing else is changed by it. So each is answered as if it were alone, and it does
not matter in what order different applicants come.
-/

namespace Candidacy

theorem Table.eq_of_get?_eq {α : Type u} {left right : Table α}
    (getEq : ∀ key, left.get? key = right.get? key) : left = right := by
  have nodup (table : Table α) : table.entries.Nodup := table.keys_nodup.of_map
  have sameEntries : left.entries.Perm right.entries := by
    apply (List.perm_ext_iff_of_nodup (nodup left) (nodup right)).mpr
    intro entry
    rw [left.mem_entries_iff, right.mem_entries_iff, getEq]
  have entriesEq : left.entries = right.entries := by
    apply sameEntries.eq_of_pairwise _ left.sorted right.sorted
    intro first second _ _ below above
    exact absurd above (String.lt_asymm below)
  cases left
  cases right
  cases entriesEq
  rfl

/-- What an applicant hands in. -/
structure Delivery where
  applicant : String
  submission : Submission

def Delivery.isFrom (id : String) (delivery : Delivery) : Bool :=
  delivery.applicant == id

namespace Desk

section Deliveries

variable {σ : Type} [Registry σ]

def reply (desk : Desk σ) (delivery : Delivery) : Except Refusal Receipt :=
  (desk.submit delivery.applicant delivery.submission).1

def deliver (desk : Desk σ) (delivery : Delivery) : Desk σ :=
  (desk.submit delivery.applicant delivery.submission).2

def deliverAll (desk : Desk σ) (deliveries : List Delivery) : Desk σ :=
  deliveries.foldl deliver desk

/-- Deliveries, one after the other, each with the reply to it. -/
def replies (desk : Desk σ) : List Delivery → List (Delivery × Except Refusal Receipt)
  | [] => []
  | delivery :: rest => (delivery, desk.reply delivery) :: (desk.deliver delivery).replies rest

def repliesTo (desk : Desk σ) (id : String) (deliveries : List Delivery) :
    List (Delivery × Except Refusal Receipt) :=
  (desk.replies deliveries).filter (·.1.isFrom id)

theorem repliesTo_cons (desk : Desk σ) (id : String) (delivery : Delivery)
    (rest : List Delivery) :
    desk.repliesTo id (delivery :: rest) =
      if delivery.isFrom id then
        (delivery, desk.reply delivery) :: (desk.deliver delivery).repliesTo id rest
      else (desk.deliver delivery).repliesTo id rest :=
  List.filter_cons

end Deliveries

/-- Desks that keep the same of an applicant, under the same flow. -/
structure AgreeOn (id : String) (desk other : Desk Roster) : Prop where
  flow : desk.flow = other.flow
  record : desk.registry.enrolled.get? id = other.registry.enrolled.get? id

namespace AgreeOn

variable {id : String} {desk other third : Desk Roster}

theorem refl (id : String) (desk : Desk Roster) : AgreeOn id desk desk :=
  ⟨rfl, rfl⟩

theorem trans (agree : AgreeOn id desk other) (next : AgreeOn id other third) :
    AgreeOn id desk third :=
  ⟨agree.flow.trans next.flow, agree.record.trans next.record⟩

theorem knows_iff (agree : AgreeOn id desk other) : desk.Knows id ↔ other.Knows id := by
  rw [Desk.knows_iff, Desk.knows_iff, agree.record]

theorem dossier (agree : AgreeOn id desk other) :
    desk.registry.dossier id = other.registry.dossier id := by
  rw [Roster.dossier, Roster.dossier, agree.record]

end AgreeOn

/-! One delivery. -/

variable {id : String} {desk other : Desk Roster}

theorem AgreeOn.submit (agree : AgreeOn id desk other) (submission : Submission) :
    (desk.submit id submission).1 = (other.submit id submission).1 ∧
      AgreeOn id (desk.submit id submission).2 (other.submit id submission).2 := by
  by_cases known : desk.Knows id
  · have alsoKnown := agree.knows_iff.mp known
    have sameDecision :
        desk.flow.accept (desk.registry.dossier id) submission.identifier submission.payload =
          other.flow.accept (other.registry.dossier id) submission.identifier
            submission.payload := by
      rw [agree.flow, agree.dossier]
    cases decision : other.flow.accept (other.registry.dossier id) submission.identifier
        submission.payload with
    | error refusal =>
        rw [submit_of_refused known (sameDecision.trans decision),
          submit_of_refused alsoKnown decision]
        exact ⟨rfl, agree⟩
    | ok task =>
        obtain ⟨registry, filed, answered⟩ :=
          submit_of_accepted known (sameDecision.trans decision)
        obtain ⟨otherRegistry, alsoFiled, alsoAnswered⟩ := submit_of_accepted alsoKnown decision
        have changed :
            AgreeOn id { desk with registry } { other with registry := otherRegistry } := by
          constructor
          · exact agree.flow
          · change registry.enrolled.get? id = otherRegistry.enrolled.get? id
            rw [Roster.get?_file_self filed, Roster.get?_file_self alsoFiled, agree.record]
        have sameDossier : registry.dossier id = otherRegistry.dossier id := changed.dossier
        rw [answered, alsoAnswered, agree.flow, sameDossier]
        exact ⟨rfl, agree.flow ▸ changed⟩
  · have alsoUnknown : ¬other.Knows id := fun known' => known (agree.knows_iff.mpr known')
    rw [submit_of_unknown known, submit_of_unknown alsoUnknown]
    exact ⟨rfl, agree⟩

theorem agreeOn_submit_other (desk : Desk Roster) {applicant : String}
    (different : applicant ≠ id) (submission : Submission) :
    AgreeOn id (desk.submit applicant submission).2 desk := by
  obtain kept | ⟨verdict, registry, filed, served⟩ := desk.submit_cases applicant submission
  · rw [kept]
    exact .refl id desk
  · rw [served]
    exact ⟨rfl, Roster.get?_file_other filed different⟩

theorem index_submit (desk : Desk Roster) (applicant : String) (submission : Submission) :
    (desk.submit applicant submission).2.registry.emails = desk.registry.emails ∧
      (desk.submit applicant submission).2.registry.next = desk.registry.next := by
  obtain kept | ⟨verdict, registry, filed, served⟩ := desk.submit_cases applicant submission
  · rw [kept]
    exact ⟨rfl, rfl⟩
  · rw [served]
    exact Roster.index_file filed

/-! All deliveries. -/

theorem index_deliverAll (desk : Desk Roster) (deliveries : List Delivery) :
    (desk.deliverAll deliveries).registry.emails = desk.registry.emails ∧
      (desk.deliverAll deliveries).registry.next = desk.registry.next := by
  induction deliveries generalizing desk with
  | nil => exact ⟨rfl, rfl⟩
  | cons delivery rest ih =>
      obtain ⟨sameEmails, sameNext⟩ := desk.index_submit delivery.applicant delivery.submission
      obtain ⟨restEmails, restNext⟩ := ih (desk.deliver delivery)
      exact ⟨restEmails.trans sameEmails, restNext.trans sameNext⟩

/-- Leaving out what the others hand in changes nothing for an applicant. -/
theorem AgreeOn.deliverAll (agree : AgreeOn id desk other) (deliveries : List Delivery) :
    desk.repliesTo id deliveries = other.replies (deliveries.filter (·.isFrom id)) ∧
      AgreeOn id (desk.deliverAll deliveries)
        (other.deliverAll (deliveries.filter (·.isFrom id))) := by
  induction deliveries generalizing desk other with
  | nil => exact ⟨rfl, agree⟩
  | cons delivery rest ih =>
      rw [repliesTo_cons]
      cases own : delivery.isFrom id with
      | true =>
          have sender : delivery.applicant = id := eq_of_beq own
          subst sender
          obtain ⟨answeredAlike, changed⟩ := agree.submit delivery.submission
          obtain ⟨sameReplies, agreeAfter⟩ := ih changed
          have sameReply : desk.reply delivery = other.reply delivery := answeredAlike
          rw [if_pos rfl, List.filter_cons_of_pos own, replies, sameReply]
          exact ⟨congrArg (List.cons _) sameReplies, agreeAfter⟩
      | false =>
          -- Only the first desk takes it in, which changes nothing for the applicant.
          have different : delivery.applicant ≠ id := ne_of_beq_false own
          have kept := agreeOn_submit_other desk different delivery.submission
          rw [if_neg Bool.false_ne_true, List.filter_cons_of_neg (by simp [own])]
          exact ih (kept.trans agree)

theorem eq_of_agreeOn (agree : ∀ id, AgreeOn id desk other)
    (sameEmails : desk.registry.emails = other.registry.emails)
    (sameNext : desk.registry.next = other.registry.next) : desk = other := by
  have sameFlow : desk.flow = other.flow := (agree "").flow
  have sameRecords : desk.registry.enrolled = other.registry.enrolled :=
    Table.eq_of_get?_eq fun id => (agree id).record
  obtain ⟨flow, enrolled, emails, next⟩ := desk
  obtain ⟨otherFlow, otherEnrolled, otherEmails, otherNext⟩ := other
  cases sameFlow
  cases sameRecords
  cases sameEmails
  cases sameNext
  rfl

/-- Each applicant gets the replies, and ends up with the verdicts, that it would have got had
nobody else handed anything in. So two orders of the same deliveries that keep the order of each
applicant leave the desk the same and are replied to alike. -/
theorem applicants_independent (desk : Desk Roster) (deliveries : List Delivery) :
    (∀ id,
      let own := deliveries.filter (·.isFrom id)
      desk.repliesTo id deliveries = desk.replies own ∧
        (desk.deliverAll deliveries).registry.applicant? id =
          (desk.deliverAll own).registry.applicant? id ∧
        (desk.deliverAll deliveries).registry.dossier id =
          (desk.deliverAll own).registry.dossier id) ∧
    ∀ others : List Delivery,
      (∀ id, others.filter (·.isFrom id) = deliveries.filter (·.isFrom id)) →
        desk.deliverAll others = desk.deliverAll deliveries ∧
        ∀ id, desk.repliesTo id others = desk.repliesTo id deliveries := by
  constructor
  · intro id own
    obtain ⟨sameReplies, agree⟩ := (AgreeOn.refl id desk).deliverAll deliveries
    refine ⟨sameReplies, ?_, agree.dossier⟩
    rw [Roster.applicant?, agree.record]
    rfl
  · intro others sameOrders
    have replied (id : String) := (AgreeOn.refl id desk).deliverAll deliveries
    have alsoReplied (id : String) := (AgreeOn.refl id desk).deliverAll others
    simp only [sameOrders] at alsoReplied
    constructor
    · apply eq_of_agreeOn
      · intro id
        obtain ⟨sameFlow, sameRecord⟩ := (replied id).2
        obtain ⟨alsoFlow, alsoRecord⟩ := (alsoReplied id).2
        exact ⟨alsoFlow.trans sameFlow.symm, alsoRecord.trans sameRecord.symm⟩
      · rw [(desk.index_deliverAll others).1, (desk.index_deliverAll deliveries).1]
      · rw [(desk.index_deliverAll others).2, (desk.index_deliverAll deliveries).2]
    · intro id
      exact (alsoReplied id).1.trans (replied id).1.symm

theorem talk_before_other_form :
    let desk := Sample.flow.deskAfter [.register "ada@example.org", .register "bob@example.org"]
    let form : Delivery := ⟨"1", "form", Sample.consent "yes", ⟨0, 0⟩⟩
    let otherForm : Delivery := ⟨"2", "form", Sample.consent "no", ⟨1, 0⟩⟩
    let talk : Delivery := ⟨"1", "talk", [], ⟨2, 0⟩⟩
    (∀ id, [form, talk, otherForm].filter (·.isFrom id) =
        [form, otherForm, talk].filter (·.isFrom id)) ∧
      desk.deliverAll [form, talk, otherForm] = desk.deliverAll [form, otherForm, talk] ∧
      ∀ id, desk.repliesTo id [form, talk, otherForm] =
        desk.repliesTo id [form, otherForm, talk] := by
  intro desk form otherForm talk
  have sameOrders : ∀ id, [form, talk, otherForm].filter (·.isFrom id) =
      [form, otherForm, talk].filter (·.isFrom id) := by
    intro id
    by_cases first : "1" = id
    · subst first
      rfl
    · have formOther : form.isFrom id = false := beq_false_of_ne first
      have talkOther : talk.isFrom id = false := beq_false_of_ne first
      simp [List.filter_cons, formOther, talkOther]
  obtain ⟨_, interchangeable⟩ := desk.applicants_independent [form, otherForm, talk]
  exact ⟨sameOrders, interchangeable [form, talk, otherForm] sameOrders⟩

end Desk

end Candidacy
