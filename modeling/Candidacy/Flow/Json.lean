import Candidacy.Draft.Json

/-!
Compiled flows as JSON values. Each is written like a draft of itself.
-/

namespace Candidacy

open Json (Value)

def Criterion.toJson : Criterion → Value
  | .always => .object [("type", .string "always")]
  | .scoreAbove field threshold =>
      .object [
        ("field", .string field),
        ("threshold", .number (.double threshold)),
        ("type", .string "scoreGreaterThan")]
  | .equals field text =>
      .object [("field", .string field), ("type", .string "equals"), ("value", .string text)]

def Visibility.toJson : Visibility → Value
  | .always => .object [("type", .string "always")]

def Task.toJson (task : Task) : Value :=
  .object [
    ("id", .string task.id),
    ("name", .string task.name),
    ("passCondition", task.criterion.toJson),
    ("redoable", .bool task.redoable),
    ("requiredFields", Draft.names task.requiredFields),
    ("visibilityCondition", task.visibility.toJson)]

def Step.toJson (step : Step) : Value :=
  .object [
    ("id", .string step.id),
    ("name", .string step.name),
    ("tasks", .array (step.tasks.map Task.toJson))]

def Flow.toJson (flow : Flow) : Value :=
  .object [
    ("id", .string flow.id),
    ("name", .string flow.name),
    ("steps", .array (flow.steps.map Step.toJson))]

end Candidacy
