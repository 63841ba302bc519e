import Candidacy.Flow.Loading

/-!
The flow that is used where no other is named.
-/

namespace Candidacy

namespace Draft

/-- The condition that always holds. -/
private def always : Option Condition := some (.ofKind "always")

/-- A task that any submission passes. -/
private def formality (id name : String) (requiredFields : List String)
    (redoable : Option Bool) : Task :=
  ⟨id, name, .ofList requiredFields, always, always, redoable⟩

def standard : Flow where
  id := "admissions_flow"
  name := "Admissions Flow"
  steps := [
    ⟨"personal_details", "Personal Details Form", [
      formality "personal_details" "Personal Details Form"
        ["first_name", "last_name", "email", "timestamp"] (some true)]⟩,
    ⟨"iq_test", "IQ Test", [{
      id := "iq_test"
      name := "IQ Test"
      requiredFields := .ofList ["test_id", "score", "timestamp"]
      passCondition := some {
        kind := "scoreGreaterThan"
        field := some "score"
        threshold := some (Binary64.ofInt 75) }
      visibilityCondition := always
      redoable := some false }]⟩,
    ⟨"interview", "Interview", [
      formality "schedule_interview" "Schedule Interview" ["interview_date"] none,
      { id := "perform_interview"
        name := "Perform Interview"
        requiredFields := .ofList ["interview_date", "interviewer_id", "decision"]
        passCondition := some {
          kind := "equals"
          field := some "decision"
          value := some (.string "passed_interview") }
        visibilityCondition := always
        redoable := some false }]⟩,
    ⟨"upload_identification_document", "Upload Identification Document", [
      formality "upload_identification_document" "Upload Identification Document"
        ["passport_number", "timestamp"] none]⟩,
    ⟨"sign_contract", "Sign Contract", [
      formality "sign_contract" "Sign Contract" ["timestamp"] none]⟩,
    ⟨"payment", "Payment", [formality "payment" "Payment" ["payment_id", "timestamp"] none]⟩,
    ⟨"join_slack", "Join Slack", [
      formality "join_slack" "Join Slack" ["email", "timestamp"] none]⟩]

end Draft

/-- The flow that is used where no other is named. -/
def Flow.standard : Except LoadError Flow :=
  Flow.ofDraft Draft.standard

end Candidacy
