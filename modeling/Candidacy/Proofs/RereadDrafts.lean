import Candidacy.Flow.Loading
import Candidacy.Proofs.RereadValues
import Candidacy.Proofs.WrittenDraft

/-!
Drafts written out again. However a draft was written down, what was read of it is kept: written out
it reads as the same draft. For this the values that conditions ask for must have been read too, so
that their members are in order.
-/

namespace Candidacy

namespace Json

theorem Value.IsOrdered.isKept {v : Value} (ordered : v.IsOrdered) : v.IsKept :=
  Document.readValue_ofValue ordered trivial

/-! What holds of all parts of a record. -/

section Records

variable {σ α : Type} {P : σ → Prop}

/-- A field that keeps to what holds of the record so far. -/
def Field.Keeps (field : Field σ) (P : σ → Prop) : Prop :=
  ∀ source d before after, P before → field.store source d before = .ok after → P after

theorem Field.keeps_slot {name : String} {optional : Bool} {get : σ → Option α} {set : σ → α → σ}
    {read : Source → Document → Except Problem α}
    (sets : ∀ source d content before, read source d = .ok content → P before →
      P (set before content)) : (Field.slot name optional get set read).Keeps P := by
  intro source d before after holds stored
  simp only [slot] at stored
  cases reads : read source d with
  | error problem =>
      rw [reads] at stored
      cases stored
  | ok content =>
      rw [reads] at stored
      cases stored
      exact sets source d content before reads holds

/-- It does not matter what is read where nothing is said about it. -/
theorem Field.keeps_slot_of_set {name : String} {optional : Bool} {get : σ → Option α}
    {set : σ → α → σ} {read : Source → Document → Except Problem α}
    (sets : ∀ content before, P before → P (set before content)) :
    (Field.slot name optional get set read).Keeps P :=
  keeps_slot fun _ _ content before _ => sets content before

namespace Record

variable {source : Source} {ending : Ending} {before after : σ}

theorem holds_readMembers {fields : List (Field σ)} (keeps : ∀ field ∈ fields, field.Keeps P)
    {members : List (Option String × Document)} (holds : P before)
    (read : readMembers fields source ending members before = .ok after) : P after := by
  induction members generalizing before with
  | nil =>
      obtain ⟨_, _, same⟩ := bind_eq_ok_iff.mp read
      cases same
      exact holds
  | cons member rest ih =>
      obtain ⟨key, d⟩ := member
      cases key with
      | none => cases read
      | some key =>
      rw [readMembers] at read
      split at read
      · split at read
        · cases read
        · exact ih holds read
      · next field found =>
          split at read
          · cases read
          · obtain ⟨next, stored, read⟩ := bind_eq_ok_iff.mp read
            exact ih (keeps field (List.mem_of_find?_eq_some found) _ _ _ _ holds stored) read

theorem holds_readItems {wanted : String} {length index : Nat} {fields : List (Field σ)}
    (keeps : ∀ field ∈ fields, field.Keeps P) {items : List Document} (holds : P before)
    (read : readItems wanted source ending length index fields items before = .ok after) :
    P after := by
  induction fields generalizing index items before with
  | nil =>
      obtain ⟨_, _, same⟩ := bind_eq_ok_iff.mp read
      cases same
      exact holds
  | cons field fields ih =>
      rw [List.forall_mem_cons] at keeps
      cases items with
      | nil =>
          obtain ⟨_, _, read⟩ := bind_eq_ok_iff.mp read
          split at read
          · exact ih keeps.2 holds read
          · cases read
      | cons d items =>
          obtain ⟨next, stored, read⟩ := bind_eq_ok_iff.mp read
          exact ih keeps.2 (keeps.1 _ _ _ _ holds stored) read

/-- Whether a record is written as an object or as an array: what every field keeps to holds of all
that was read of it. -/
theorem holds_read {r : Record σ α} (keeps : ∀ field ∈ r.fields, field.Keeps P) (empty : P r.empty)
    {d : Document} {content : α} (read : r.read source d = .ok content) :
    ∃ parts, P parts ∧ r.finish parts = .ok content := by
  cases d with
  | object members ending =>
      obtain ⟨inner, _, read⟩ := bind_eq_ok_iff.mp read
      obtain ⟨parts, found, finished⟩ := bind_eq_ok_iff.mp read
      exact ⟨parts, holds_readMembers keeps empty found, finished⟩
  | array items ending =>
      obtain ⟨inner, _, read⟩ := bind_eq_ok_iff.mp read
      obtain ⟨parts, found, finished⟩ := bind_eq_ok_iff.mp read
      exact ⟨parts, holds_readItems keeps empty found, finished⟩
  | _ => cases read

theorem of_require {name : String} {given : Option α} {content : α}
    (required : require name given = .ok content) : given = some content := by
  cases given with
  | none => cases required
  | some other =>
      cases required
      rfl

end Record

end Records

namespace Document

variable {α : Type} {P : α → Prop}

theorem forall_of_readEach {read : Document → Except Problem α}
    (holds : ∀ d a, read d = .ok a → P a) {ds : List Document} {found : List α}
    (each : readEach read ds = .ok found) : ∀ a ∈ found, P a := by
  induction ds generalizing found with
  | nil =>
      cases each
      exact nofun
  | cons d rest ih =>
      obtain ⟨first, readFirst, each⟩ := bind_eq_ok_iff.mp each
      obtain ⟨others, readOthers, each⟩ := bind_eq_ok_iff.mp each
      cases each
      exact List.forall_mem_cons.mpr ⟨holds d first readFirst, ih readOthers⟩

theorem forall_of_readList {source : Source} {read : Source → Document → Except Problem α}
    (holds : ∀ source d a, read source d = .ok a → P a) {d : Document} {found : List α}
    (listed : d.readList source read = .ok found) : ∀ a ∈ found, P a := by
  cases d with
  | array items ending =>
      obtain ⟨inner, _, listed⟩ := bind_eq_ok_iff.mp listed
      obtain ⟨all, each, listed⟩ := bind_eq_ok_iff.mp listed
      obtain ⟨_, _, listed⟩ := bind_eq_ok_iff.mp listed
      cases listed
      exact forall_of_readEach (holds inner) each
  | _ => cases listed

/-- What may be left out was read, if it is there, from something else than `null`. -/
theorem of_readOptional {read : Document → Except Problem α} {d : Document} {content : α}
    (given : d.readOptional read = .ok (some content)) : d ≠ .null ∧ read d = .ok content := by
  refine ⟨fun isNull => ?_, ?_⟩
  · subst isNull
    cases given
  · have mapped : (read d).map some = .ok (some content) := by
      cases d with
      | null => cases given
      | _ => exact given
    cases reads : read d with
    | error problem =>
        rw [reads] at mapped
        cases mapped
    | ok other =>
        rw [reads] at mapped
        cases mapped
        rfl

theorem ne_null_of_readValue {source : Source} {d : Document} (something : d ≠ .null) {v : Value}
    (read : d.readValue source = .ok v) : v ≠ .null := by
  intro isNull
  subst isNull
  cases d with
  | null => exact something rfl
  | bool b => cases read
  | number n => cases n <;> cases read
  | string s => cases s <;> cases read
  | array items ending =>
      obtain ⟨_, _, read⟩ := bind_eq_ok_iff.mp read
      obtain ⟨_, _, read⟩ := bind_eq_ok_iff.mp read
      obtain ⟨_, _, read⟩ := bind_eq_ok_iff.mp read
      cases read
  | object members ending =>
      obtain ⟨_, _, read⟩ := bind_eq_ok_iff.mp read
      obtain ⟨_, _, read⟩ := bind_eq_ok_iff.mp read
      obtain ⟨_, _, read⟩ := bind_eq_ok_iff.mp read
      cases read
  | spoilt s => cases read

end Document

end Json

namespace Draft

open Json (Document Field Problem Record Source Value)

/-! Drafts that were read. -/

/-- What was read of a condition so far is kept. -/
def Condition.Parts.IsKept (parts : Parts) : Prop :=
  ∀ value, parts.value = some (some value) → value ≠ .null ∧ value.IsKept

structure Task.Parts.IsKept (parts : Parts) : Prop where
  pass : ∀ condition, parts.passCondition = some (some condition) → condition.IsKept
  visibility : ∀ condition, parts.visibilityCondition = some (some condition) → condition.IsKept

def Step.Parts.IsKept (parts : Parts) : Prop :=
  ∀ tasks, parts.tasks = some tasks → ∀ task ∈ tasks, task.IsKept

def Flow.Parts.IsKept (parts : Parts) : Prop :=
  ∀ steps, parts.steps = some steps → ∀ step ∈ steps, step.IsKept

theorem Condition.isKept_of_read {source : Source} {d : Document} {condition : Condition}
    (read : Condition.read source d = .ok condition) : condition.IsKept := by
  have keeps : ∀ field ∈ record.fields, field.Keeps Parts.IsKept := by
    simp only [record, List.forall_mem_cons]
    refine ⟨Field.keeps_slot_of_set fun _ _ kept => kept,
      Field.keeps_slot_of_set fun _ _ kept => kept, Field.keeps_slot ?_,
      Field.keeps_slot_of_set fun _ _ kept => kept, Field.keeps_slot_of_set fun _ _ kept => kept,
      Field.keeps_slot_of_set fun _ _ kept => kept, Field.keeps_slot_of_set fun _ _ kept => kept,
      List.forall_mem_nil _⟩
    intro source d content before reads _ value given
    cases given
    obtain ⟨something, readValue⟩ := Document.of_readOptional reads
    exact ⟨Document.ne_null_of_readValue something readValue,
      (Document.isOrdered_of_readValue d readValue).isKept⟩
  have empty : Parts.IsKept {} := by
    intro given absent
    cases absent
  obtain ⟨parts, holds, finished⟩ := Record.holds_read keeps empty read
  obtain ⟨kind, _, finished⟩ := bind_eq_ok_iff.mp finished
  cases finished
  intro value given
  exact holds value (Option.join_eq_some_iff.mp given)

theorem isKept_of_optionalCondition {source : Source} {d : Document} {content : Option Condition}
    (read : optionalCondition source d = .ok content) :
    ∀ condition, content = some condition → condition.IsKept := by
  intro condition given
  subst given
  exact Condition.isKept_of_read (Document.of_readOptional read).2

theorem Task.isKept_of_read {source : Source} {d : Document} {draft : Task}
    (read : Task.read source d = .ok draft) : draft.IsKept := by
  have keeps : ∀ field ∈ record.fields, field.Keeps Parts.IsKept := by
    simp only [record, List.forall_mem_cons]
    refine ⟨Field.keeps_slot_of_set fun _ _ kept => ⟨kept.pass, kept.visibility⟩,
      Field.keeps_slot_of_set fun _ _ kept => ⟨kept.pass, kept.visibility⟩,
      Field.keeps_slot_of_set fun _ _ kept => ⟨kept.pass, kept.visibility⟩, Field.keeps_slot ?_,
      Field.keeps_slot ?_, Field.keeps_slot_of_set fun _ _ kept => ⟨kept.pass, kept.visibility⟩,
      List.forall_mem_nil _⟩
    · intro source d content before reads holds
      refine ⟨fun condition given => ?_, holds.visibility⟩
      exact isKept_of_optionalCondition reads condition (Option.some.inj given)
    · intro source d content before reads holds
      refine ⟨holds.pass, fun condition given => ?_⟩
      exact isKept_of_optionalCondition reads condition (Option.some.inj given)
  have empty : Parts.IsKept {} := by
    constructor <;> intro condition given <;> cases given
  obtain ⟨parts, holds, finished⟩ := Record.holds_read keeps empty read
  obtain ⟨id, _, finished⟩ := bind_eq_ok_iff.mp finished
  obtain ⟨name, _, finished⟩ := bind_eq_ok_iff.mp finished
  cases finished
  exact ⟨fun condition given => holds.pass condition (Option.join_eq_some_iff.mp given),
    fun condition given => holds.visibility condition (Option.join_eq_some_iff.mp given)⟩

theorem Step.isKept_of_read {source : Source} {d : Document} {draft : Step}
    (read : Step.read source d = .ok draft) : draft.IsKept := by
  have keeps : ∀ field ∈ record.fields, field.Keeps Parts.IsKept := by
    simp only [record, List.forall_mem_cons]
    refine ⟨Field.keeps_slot_of_set fun _ _ kept => kept,
      Field.keeps_slot_of_set fun _ _ kept => kept, Field.keeps_slot ?_, List.forall_mem_nil _⟩
    intro source d content before reads _ tasks given
    cases given
    exact Document.forall_of_readList (fun _ _ _ => Task.isKept_of_read) reads
  have empty : Parts.IsKept {} := by
    intro given absent
    cases absent
  obtain ⟨parts, holds, finished⟩ := Record.holds_read keeps empty read
  obtain ⟨id, _, finished⟩ := bind_eq_ok_iff.mp finished
  obtain ⟨name, _, finished⟩ := bind_eq_ok_iff.mp finished
  cases finished
  intro task member
  cases given : parts.tasks with
  | none =>
      rw [given] at member
      cases member
  | some tasks =>
      rw [given] at member
      exact holds tasks given task member

theorem Flow.isKept_of_read {source : Source} {d : Document} {draft : Flow}
    (read : Flow.read source d = .ok draft) : draft.IsKept := by
  have keeps : ∀ field ∈ record.fields, field.Keeps Parts.IsKept := by
    simp only [record, List.forall_mem_cons]
    refine ⟨Field.keeps_slot_of_set fun _ _ kept => kept,
      Field.keeps_slot_of_set fun _ _ kept => kept, Field.keeps_slot ?_, List.forall_mem_nil _⟩
    intro source d content before reads _ steps given
    cases given
    exact Document.forall_of_readList (fun _ _ _ => Step.isKept_of_read) reads
  have empty : Parts.IsKept {} := by
    intro given absent
    cases absent
  obtain ⟨parts, holds, finished⟩ := Record.holds_read keeps empty read
  obtain ⟨id, _, finished⟩ := bind_eq_ok_iff.mp finished
  obtain ⟨name, _, finished⟩ := bind_eq_ok_iff.mp finished
  obtain ⟨steps, given, finished⟩ := bind_eq_ok_iff.mp finished
  cases finished
  exact holds steps (Record.of_require given)

/-! Written out again. -/

/-- A draft that was read from any value is read again from what is written of it, so that writing it
once more changes nothing, and it comes to the same flow or fails for the same reason. -/
theorem decoded_draft_is_kept {v : Value} {draft : Draft.Flow}
    (decoded : Json.decodeValue Draft.Flow.read v = .ok draft) :
    Json.decodeValue Draft.Flow.read draft.toJson = .ok draft ∧
      (Json.decodeValue Draft.Flow.read draft.toJson).map Draft.Flow.toJson = .ok draft.toJson ∧
      (Json.decodeValue Draft.Flow.read draft.toJson).map Draft.Flow.compile =
        .ok draft.compile ∧
      Candidacy.Flow.ofValue draft.toJson = Candidacy.Flow.ofValue v := by
  have again : Json.decodeValue Draft.Flow.read draft.toJson = .ok draft :=
    Flow.read_written (Flow.isKept_of_read decoded)
  refine ⟨again, ?_, ?_, ?_⟩
  · rw [again, Except.map]
  · rw [again, Except.map]
  · rw [Candidacy.Flow.ofValue, Candidacy.Flow.ofValue, again, decoded]

/-- A draft with a member that nobody knows, a step written as an array, members that are null, names
that are repeated and a limit that is an integer. -/
def untidy : Value :=
  .object [
    ("comment", .array [.null]),
    ("name", .string "Admission"),
    ("steps", .array [.array [.string "one", .string "One", .array [.object [
      ("requiredFields", .array [.string "score", .string "mail", .string "score"]),
      ("passCondition", .object [
        ("type", .string "equals"),
        ("field", .string "score"),
        ("threshold", .number (.int 50)),
        ("taskId", .null),
        ("value", .object [("b", .null), ("a", .number (.int 1)), ("b", .bool true)])]),
      ("redoable", .null),
      ("name", .string "Test"),
      ("id", .string "test")]]]]),
    ("id", .string "admission")]

def tidy : Flow where
  id := "admission"
  name := "Admission"
  steps := [{
    id := "one"
    name := "One"
    tasks := [{
      id := "test"
      name := "Test"
      requiredFields := .ofList ["mail", "score"]
      passCondition := some {
        kind := "equals"
        field := some "score"
        value := some (.object [("a", .number (.int 1)), ("b", .bool true)])
        threshold := some (Binary64.ofInt 50) }
      visibilityCondition := none
      redoable := none }] }]

theorem tidy_of_untidy :
    Json.decodeValue Flow.read untidy = .ok tidy ∧
      Json.decodeValue Flow.read tidy.toJson = .ok tidy := by
  have decoded : Json.decodeValue Flow.read untidy = .ok tidy := by rfl
  exact ⟨decoded, (decoded_draft_is_kept decoded).1⟩

end Draft

end Candidacy
