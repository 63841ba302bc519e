import Candidacy.Draft.Json
import Candidacy.Proofs.Rules

/-!
A draft that is written out reads back as itself. The records are read member by member: each member
that is met for the first time fills its own place, whether it had to be there or not.
-/

namespace Candidacy

theorem NameSet.ofList_names (set : NameSet) : NameSet.ofList set.names = set := by
  apply NameSet.eq_of_mem_iff
  simp

namespace Json

section Records

variable {σ α β : Type}

theorem Document.readOptional_ofValue {value : Value} (notNull : value ≠ .null)
    (read : Document → Except Problem α) :
    (Document.ofValue value).readOptional read = (read (Document.ofValue value)).map some := by
  cases value with
  | null => exact absurd rfl notNull
  | bool | number | string | array | object => rfl

/-- A list whose items read back is read back. -/
theorem Document.readEach_written {write : α → Value} {read : Document → Except Problem α}
    {items : List α} (kept : ∀ item ∈ items, read (Document.ofValue (write item)) = .ok item) :
    readEach read (ofItems (items.map write)) = .ok items := by
  induction items with
  | nil => rfl
  | cons item rest ih =>
      rw [List.forall_mem_cons] at kept
      rw [List.map_cons, ofItems, readEach, kept.1, ih kept.2]
      rfl

theorem Document.readList_written {write : α → Value}
    {read : Source → Document → Except Problem α} {items : List α}
    (kept : ∀ item ∈ items, read .value (Document.ofValue (write item)) = .ok item) :
    (Document.ofValue (.array (items.map write))).readList .value read = .ok items := by
  rw [Document.ofValue, readList, Source.enter, ok_bind, readEach_written kept]
  rfl

/-- A field of this name that has not been met takes what is read for it. -/
theorem Record.readMembers_slot (r : Record σ β) {key : String} {optional : Bool}
    {get : σ → Option α} {set : σ → α → σ} {read : Source → Document → Except Problem α}
    (named : r.fields.find? (·.name = key) = some (.slot key optional get set read))
    {record : σ} (unseen : get record = none) {source : Source} {d : Document} {content : α}
    (reads : read source d = .ok content) (ending : Ending)
    (rest : List (Option String × Document)) :
    readMembers r.fields source ending ((some key, d) :: rest) record =
      readMembers r.fields source ending rest (set record content) := by
  rw [readMembers, named]
  simp [Field.slot, unseen, reads, Except.map]

/-- What is written, if anything is, is read as the content. -/
inductive Writes (read : Document → Except Problem α) : Option Value → Option α → Prop
  | nothing : Writes read none none
  | something {value : Value} {content : α} (notNull : value ≠ .null)
      (reads : read (Document.ofValue value) = .ok content) :
      Writes read (some value) (some content)

theorem Writes.readOptional_orNull {read : Document → Except Problem α} {written : Option Value}
    {content : Option α} (writes : Writes read written content) :
    (Document.ofValue (Draft.orNull written)).readOptional read = .ok content := by
  cases writes with
  | nothing => rfl
  | something notNull reads =>
      rw [Draft.orNull, Option.getD_some, Document.readOptional_ofValue notNull, reads]
      rfl

/-- A member that is written only if there is something to write fills its place, or leaves it as it
was. -/
theorem Record.readMembers_present (r : Record σ β) (key : String)
    (next : Option (Option α) → σ)
    {get : σ → Option (Option α)} {set : σ → Option α → σ}
    {read : Source → Document → Except Problem (Option α)}
    (named : r.fields.find? (·.name = key) = some (.slot key true get set read))
    (unseen : get (next none) = none) (fills : ∀ a, set (next none) (some a) = next (some (some a)))
    {readContent : Document → Except Problem α} {written : Option Value} {content : Option α}
    (writes : Writes readContent written content)
    (optional : ∀ d, read .value d = d.readOptional readContent)
    (ending : Ending) (rest : List (String × Value)) :
    readMembers r.fields .value ending
        (Document.ofMembers (Draft.present key written ++ rest)) (next none) =
      readMembers r.fields .value ending (Document.ofMembers rest) (next (content.map some)) := by
  cases writes with
  | nothing => rfl
  | @something value content notNull reads =>
      have readsSome : read .value (Document.ofValue value) = .ok (some content) := by
        rw [optional]
        exact (Writes.something notNull reads).readOptional_orNull
      have met := r.readMembers_slot named unseen readsSome ending (Document.ofMembers rest)
      rw [fills content] at met
      exact met

end Records

/-- Read again after it was written, it is the same. -/
def Value.IsKept (value : Value) : Prop :=
  (Document.ofValue value).readValue .value = .ok value

theorem Value.isKept_string (text : String) : (Value.string text).IsKept := rfl

end Json

namespace Draft

open Json (Document Record Source Value)

/-- The value of a condition stands for something and is kept. -/
def Condition.IsKept (condition : Condition) : Prop :=
  ∀ value, condition.value = some value → value ≠ .null ∧ value.IsKept

structure Task.IsKept (draft : Task) : Prop where
  pass : ∀ condition, draft.passCondition = some condition → condition.IsKept
  visibility : ∀ condition, draft.visibilityCondition = some condition → condition.IsKept

def Step.IsKept (draft : Step) : Prop :=
  ∀ task ∈ draft.tasks, task.IsKept

def Flow.IsKept (draft : Flow) : Prop :=
  ∀ step ∈ draft.steps, step.IsKept

theorem writes_string (text : Option String) :
    Json.Writes Document.readString (text.map .string) text := by
  cases text with
  | none => exact .nothing
  | some text => exact .something nofun rfl

theorem writes_double (x : Option Binary64) :
    Json.Writes Document.readDouble (x.map double) x := by
  cases x with
  | none => exact .nothing
  | some x => exact .something nofun rfl

theorem Condition.IsKept.writes {condition : Condition} (kept : condition.IsKept) :
    Json.Writes (Document.readValue .value) condition.value condition.value := by
  cases given : condition.value with
  | none => exact .nothing
  | some value => exact .something (kept value given).1 (kept value given).2

theorem join_map_some {α : Type} (a : Option α) : (a.map some).join = a := by
  cases a <;> rfl

theorem Condition.finish_met (condition : Condition) :
    record.finish {
      kind := some condition.kind
      field := condition.field.map some
      value := condition.value.map some
      threshold := condition.threshold.map some
      taskId := condition.taskId.map some
      least := condition.least.map some
      greatest := condition.greatest.map some } = .ok condition := by
  simp only [record, join_map_some]
  rfl

/-- The members of a condition stand in the order of their keys, the kind between those that may be
left out. -/
theorem Condition.read_written {condition : Condition} (kept : condition.IsKept) :
    Condition.read .value (Document.ofValue condition.toJson) = .ok condition := by
  have atField := record.readMembers_present "field" (fun a => { field := a })
    rfl rfl (fun _ => rfl) (writes_string condition.field) (fun _ => rfl)
  have atGreatest := record.readMembers_present "max"
    (fun a => { field := condition.field.map some, greatest := a })
    rfl rfl (fun _ => rfl) (writes_double condition.greatest) (fun _ => rfl)
  have atLeast := record.readMembers_present "min"
    (fun a => {
      field := condition.field.map some
      greatest := condition.greatest.map some
      least := a })
    rfl rfl (fun _ => rfl) (writes_double condition.least) (fun _ => rfl)
  have atTaskId := record.readMembers_present "taskId"
    (fun a => {
      field := condition.field.map some
      greatest := condition.greatest.map some
      least := condition.least.map some
      taskId := a })
    rfl rfl (fun _ => rfl) (writes_string condition.taskId) (fun _ => rfl)
  have atThreshold := record.readMembers_present "threshold"
    (fun a => {
      field := condition.field.map some
      greatest := condition.greatest.map some
      least := condition.least.map some
      taskId := condition.taskId.map some
      threshold := a })
    rfl rfl (fun _ => rfl) (writes_double condition.threshold) (fun _ => rfl)
  have atValue := record.readMembers_present "value"
    (fun a => {
      field := condition.field.map some
      greatest := condition.greatest.map some
      least := condition.least.map some
      taskId := condition.taskId.map some
      threshold := condition.threshold.map some
      kind := some condition.kind
      value := a })
    rfl rfl (fun _ => rfl) kept.writes (fun _ => rfl) .closed []
  rw [Condition.read, Condition.toJson, Document.ofValue, Record.read, Source.enter, ok_bind,
    show record.empty = { } from rfl, ← List.append_nil (present "value" condition.value)]
  simp only [List.append_assoc]
  rw [atField, atGreatest, atLeast, atTaskId, atThreshold, List.singleton_append,
    Document.ofMembers, record.readMembers_slot rfl rfl rfl, atValue]
  exact finish_met condition

theorem writes_condition {condition : Option Condition}
    (kept : ∀ c, condition = some c → c.IsKept) :
    Json.Writes (Condition.read .value) (condition.map Condition.toJson) condition := by
  cases condition with
  | none => exact .nothing
  | some condition => exact .something nofun (Condition.read_written (kept condition rfl))

theorem writes_bool (b : Option Bool) : Json.Writes Document.readBool (b.map .bool) b := by
  cases b with
  | none => exact .nothing
  | some b => exact .something nofun rfl

theorem readList_names (set : NameSet) :
    (Document.ofValue (names set)).readList .value anyString = .ok set.names :=
  Document.readList_written fun _ _ => rfl

theorem Task.read_written {draft : Task} (kept : draft.IsKept) :
    Task.read .value (Document.ofValue draft.toJson) = .ok draft := by
  have readPass := (writes_condition kept.pass).readOptional_orNull
  have readVisibility := (writes_condition kept.visibility).readOptional_orNull
  have readRedoable := (writes_bool draft.redoable).readOptional_orNull
  have readFields :
      ((Document.ofValue (names draft.requiredFields)).readList .value anyString).map
        NameSet.ofList = .ok draft.requiredFields := by
    rw [readList_names, Except.map, NameSet.ofList_names]
  rw [Task.read, Task.toJson, Document.ofValue, Record.read, Source.enter, ok_bind]
  simp only [Document.ofMembers]
  rw [record.readMembers_slot rfl rfl rfl, record.readMembers_slot rfl rfl rfl,
    record.readMembers_slot rfl rfl readPass, record.readMembers_slot rfl rfl readRedoable,
    record.readMembers_slot rfl rfl readFields, record.readMembers_slot rfl rfl readVisibility]
  rfl

theorem Step.read_written {draft : Step} (kept : draft.IsKept) :
    Step.read .value (Document.ofValue draft.toJson) = .ok draft := by
  have readTasks := Document.readList_written fun task member =>
    Task.read_written (kept task member)
  rw [Step.read, Step.toJson, Document.ofValue, Record.read, Source.enter, ok_bind]
  simp only [Document.ofMembers]
  rw [record.readMembers_slot rfl rfl rfl, record.readMembers_slot rfl rfl rfl,
    record.readMembers_slot rfl rfl readTasks]
  rfl

theorem Flow.read_written {draft : Flow} (kept : draft.IsKept) :
    Flow.read .value (Document.ofValue draft.toJson) = .ok draft := by
  have readSteps := Document.readList_written fun step member =>
    Step.read_written (kept step member)
  rw [Flow.read, Flow.toJson, Document.ofValue, Record.read, Source.enter, ok_bind]
  simp only [Document.ofMembers]
  rw [record.readMembers_slot rfl rfl rfl, record.readMembers_slot rfl rfl rfl,
    record.readMembers_slot rfl rfl readSteps]
  rfl

end Draft

end Candidacy
