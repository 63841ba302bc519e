import Candidacy.Draft
import Candidacy.Json.Decoding

/-!
Drafts as JSON documents. A draft that is written out reads back as itself.
-/

namespace Candidacy.Draft

open Json (Document Field Problem Record Source Value)

/-! Reading. -/

/-- The fields of a condition, as far as they were read. -/
structure Condition.Parts where
  kind : Option String := none
  field : Option (Option String) := none
  value : Option (Option Value) := none
  threshold : Option (Option Binary64) := none
  taskId : Option (Option String) := none
  least : Option (Option Binary64) := none
  greatest : Option (Option Binary64) := none

def optionalString (_ : Source) (d : Document) : Except Problem (Option String) :=
  d.readOptional Document.readString

def optionalDouble (_ : Source) (d : Document) : Except Problem (Option Binary64) :=
  d.readOptional Document.readDouble

def anyString (_ : Source) (d : Document) : Except Problem String :=
  d.readString

def Condition.record : Record Condition.Parts Condition where
  name := "ConditionDescriptor"
  fields := [
    .slot "type" false (·.kind) (fun parts a => { parts with kind := some a }) anyString,
    .slot "field" true (·.field) (fun parts a => { parts with field := some a }) optionalString,
    .slot "value" true (·.value) (fun parts a => { parts with value := some a })
      (fun source d => d.readOptional (·.readValue source)),
    .slot "threshold" true (·.threshold) (fun parts a => { parts with threshold := some a })
      optionalDouble,
    .slot "taskId" true (·.taskId) (fun parts a => { parts with taskId := some a }) optionalString,
    .slot "min" true (·.least) (fun parts a => { parts with least := some a }) optionalDouble,
    .slot "max" true (·.greatest) (fun parts a => { parts with greatest := some a }) optionalDouble]
  empty := {}
  finish parts := do
    let kind ← Record.require "type" parts.kind
    return {
      kind
      field := parts.field.join
      value := parts.value.join
      threshold := parts.threshold.join
      taskId := parts.taskId.join
      least := parts.least.join
      greatest := parts.greatest.join }

def Condition.read (source : Source) (d : Document) : Except Problem Condition :=
  Condition.record.read source d

def optionalCondition (source : Source) (d : Document) :
    Except Problem (Option Condition) :=
  d.readOptional (Condition.read source)

structure Task.Parts where
  id : Option String := none
  name : Option String := none
  requiredFields : Option NameSet := none
  passCondition : Option (Option Condition) := none
  visibilityCondition : Option (Option Condition) := none
  redoable : Option (Option Bool) := none

def Task.record : Record Task.Parts Task where
  name := "TaskDefinition"
  fields := [
    .slot "id" false (·.id) (fun parts a => { parts with id := some a }) anyString,
    .slot "name" false (·.name) (fun parts a => { parts with name := some a }) anyString,
    .slot "requiredFields" true (·.requiredFields)
      (fun parts a => { parts with requiredFields := some a })
      (fun source d => (d.readList source anyString).map NameSet.ofList),
    .slot "passCondition" true (·.passCondition)
      (fun parts a => { parts with passCondition := some a }) optionalCondition,
    .slot "visibilityCondition" true (·.visibilityCondition)
      (fun parts a => { parts with visibilityCondition := some a }) optionalCondition,
    .slot "redoable" true (·.redoable) (fun parts a => { parts with redoable := some a })
      (fun _ d => d.readOptional Document.readBool)]
  empty := {}
  finish parts := do
    let id ← Record.require "id" parts.id
    let name ← Record.require "name" parts.name
    return {
      id
      name
      requiredFields := parts.requiredFields.getD .empty
      passCondition := parts.passCondition.join
      visibilityCondition := parts.visibilityCondition.join
      redoable := parts.redoable.join }

def Task.read (source : Source) (d : Document) : Except Problem Task :=
  Task.record.read source d

structure Step.Parts where
  id : Option String := none
  name : Option String := none
  tasks : Option (List Task) := none

def Step.record : Record Step.Parts Step where
  name := "StepDefinition"
  fields := [
    .slot "id" false (·.id) (fun parts a => { parts with id := some a }) anyString,
    .slot "name" false (·.name) (fun parts a => { parts with name := some a }) anyString,
    .slot "tasks" true (·.tasks) (fun parts a => { parts with tasks := some a })
      (fun source d => d.readList source Task.read)]
  empty := {}
  finish parts := do
    let id ← Record.require "id" parts.id
    let name ← Record.require "name" parts.name
    return ⟨id, name, parts.tasks.getD []⟩

def Step.read (source : Source) (d : Document) : Except Problem Step :=
  Step.record.read source d

structure Flow.Parts where
  id : Option String := none
  name : Option String := none
  steps : Option (List Step) := none

def Flow.record : Record Flow.Parts Flow where
  name := "FlowDefinition"
  fields := [
    .slot "id" false (·.id) (fun parts a => { parts with id := some a }) anyString,
    .slot "name" false (·.name) (fun parts a => { parts with name := some a }) anyString,
    .slot "steps" false (·.steps) (fun parts a => { parts with steps := some a })
      (fun source d => d.readList source Step.read)]
  empty := {}
  finish parts := do
    let id ← Record.require "id" parts.id
    let name ← Record.require "name" parts.name
    let steps ← Record.require "steps" parts.steps
    return ⟨id, name, steps⟩

def Flow.read (source : Source) (d : Document) : Except Problem Flow :=
  Flow.record.read source d

/-! Writing. Members stand in the order of their keys; what a condition leaves out is not
written. -/

def double (x : Binary64) : Value :=
  .number (.double x)

def present (key : String) (value : Option Value) : List (String × Value) :=
  match value with
  | some value => [(key, value)]
  | none => []

def names (set : NameSet) : Value :=
  .array (set.names.map .string)

def Condition.toJson (condition : Condition) : Value :=
  .object (
    present "field" (condition.field.map .string) ++
    present "max" (condition.greatest.map double) ++
    present "min" (condition.least.map double) ++
    present "taskId" (condition.taskId.map .string) ++
    present "threshold" (condition.threshold.map double) ++
    [("type", .string condition.kind)] ++
    present "value" condition.value)

def orNull (value : Option Value) : Value :=
  value.getD .null

def Task.toJson (draft : Task) : Value :=
  .object [
    ("id", .string draft.id),
    ("name", .string draft.name),
    ("passCondition", orNull (draft.passCondition.map Condition.toJson)),
    ("redoable", orNull (draft.redoable.map .bool)),
    ("requiredFields", names draft.requiredFields),
    ("visibilityCondition", orNull (draft.visibilityCondition.map Condition.toJson))]

def Step.toJson (draft : Step) : Value :=
  .object [
    ("id", .string draft.id),
    ("name", .string draft.name),
    ("tasks", .array (draft.tasks.map Task.toJson))]

def Flow.toJson (draft : Flow) : Value :=
  .object [
    ("id", .string draft.id),
    ("name", .string draft.name),
    ("steps", .array (draft.steps.map Step.toJson))]

end Candidacy.Draft
