import Candidacy.Flow.Loading
import Candidacy.Proofs.Rules
import Mathlib.Data.List.Defs

/-!
What a draft compiles to. All that can be wrong with a draft is listed in the order in which it is
met, step by step and task by task. Compiling gives the flow that the draft describes if there is
nothing in the list, and otherwise tells what stands first in it.
-/

namespace Candidacy.Draft

open Text (isBlankText)

/-! Results that tell the first of some problems. -/

section Telling

variable {ε φ δ α β : Type}

/-- The result is as wanted if there are no problems, and otherwise tells the first of them. -/
inductive Tells (wanted : α → Prop) : Except ε α → List ε → Prop
  | sound {a : α} (made : wanted a) : Tells wanted (.ok a) []
  | faulty (first : ε) (others : List ε) : Tells wanted (.error first) (first :: others)

namespace Tells

variable {wanted : α → Prop} {result : Except ε α} {problems : List ε}

theorem exists_ok_iff (told : Tells wanted result problems) :
    (∃ a, result = .ok a) ↔ problems = [] := by
  cases told <;> simp

theorem wanted_of_ok (told : Tells wanted result problems) {a : α} (made : result = .ok a) :
    wanted a := by
  cases told with
  | sound holds => exact Except.ok.inj made ▸ holds
  | faulty first others => cases made

theorem eq_error_iff (told : Tells wanted result problems) {e : ε} :
    result = .error e ↔ problems.head? = some e := by
  cases told <;> simp

theorem bind (told : Tells wanted result problems) {next : α → Except ε β}
    {wantedNext : β → Prop} {later : List ε}
    (toldNext : ∀ a, wanted a → Tells wantedNext (next a) later) :
    Tells wantedNext (result >>= next) (problems ++ later) := by
  cases told with
  | sound made => exact toldNext _ made
  | faulty first others => exact .faulty first (others ++ later)

theorem mapError (told : Tells wanted result problems) (label : ε → φ) :
    Tells wanted (result.mapError label) (problems.map label) := by
  cases told with
  | sound made => exact .sound made
  | faulty first others => exact .faulty (label first) (others.map label)

/-- One after the other, each tells its own problems. -/
theorem mapM {compile : δ → Except ε α} {problems : δ → List ε} {describes : δ → α → Prop}
    (told : ∀ draft, Tells (describes draft) (compile draft) (problems draft))
    (drafts : List δ) :
    Tells (List.Forall₂ describes drafts) (drafts.mapM compile) (drafts.flatMap problems) := by
  induction drafts with
  | nil => exact .sound .nil
  | cons draft rest ih =>
      have whole := (told draft).bind fun a first => ih.bind fun others later =>
        sound (List.Forall₂.cons first later)
      rw [List.append_nil] at whole
      rw [List.mapM_cons, List.flatMap_cons]
      exact whole

end Tells

/-- A problem, unless something is as it has to be. -/
def problemUnless (asWanted : Bool) (problem : ε) : List ε :=
  if asWanted then [] else [problem]

theorem problemUnless_eq_nil_iff {asWanted : Bool} {problem : ε} :
    problemUnless asWanted problem = [] ↔ asWanted = true := by
  cases asWanted <;> simp [problemUnless]

end Telling

def problemIfBlank (label : Label) (text : String) : List Error :=
  problemUnless (!isBlankText text) (.blank label)

/-! What can be wrong, in order. -/

namespace Condition

def hasField (condition : Condition) : Bool :=
  condition.field.any (!isBlankText ·)

def hasValue (condition : Condition) : Bool :=
  match condition.value with
  | none | some .null => false
  | some _ => true

def criterionProblems (condition : Condition) : List ConditionError :=
  if condition.kind = "always" then []
  else if condition.kind = "scoreGreaterThan" then
    problemUnless condition.hasField (.fieldWanted condition.kind) ++
      problemUnless condition.threshold.isSome .thresholdWanted
  else if condition.kind = "equals" then
    problemUnless condition.hasField (.fieldWanted condition.kind) ++
      problemUnless condition.hasValue .valueWanted
  else [.unknownCriterion condition.kind]

def visibilityProblems (condition : Condition) : List ConditionError :=
  problemUnless (condition.kind == "always") (.unknownVisibility condition.kind)

end Condition

def Task.problems (draft : Draft.Task) : List Error :=
  [(draft.passCondition.toList.flatMap Condition.criterionProblems).map (.inTask draft.id),
    (draft.visibilityCondition.toList.flatMap Condition.visibilityProblems).map
      (.inTask draft.id),
    problemIfBlank .taskId draft.id,
    problemIfBlank (.taskName draft.id) draft.name].flatten

def Step.problems (draft : Draft.Step) : List Error :=
  [draft.tasks.flatMap Task.problems,
    problemIfBlank .stepId draft.id,
    problemIfBlank (.stepName draft.id) draft.name].flatten

/-- The ids that have occurred before, each where it occurs again. -/
def repeated (ids : List String) : List String :=
  (ids.zipIdx.filter fun (id, index) => id ∈ ids.take index).map (·.1)

def Flow.taskIds (draft : Draft.Flow) : List String :=
  (draft.steps.flatMap Step.tasks).map Task.id

def Flow.problems (draft : Draft.Flow) : List Error :=
  [draft.steps.flatMap Step.problems,
    problemIfBlank .flowId draft.id,
    problemIfBlank .flowName draft.name,
    (repeated draft.taskIds).map .duplicateTask].flatten

/-! What is right, and what it means. -/

/-- What a condition has to say to decide on payloads. -/
inductive Condition.IsCriterion (condition : Condition) : Prop
  | always (kind : condition.kind = "always")
  | scoreAbove (kind : condition.kind = "scoreGreaterThan")
      (field : ∃ field, condition.field = some field ∧ isBlankText field = false)
      (threshold : ∃ threshold, condition.threshold = some threshold)
  | equals (kind : condition.kind = "equals")
      (field : ∃ field, condition.field = some field ∧ isBlankText field = false)
      (value : ∃ value, condition.value = some value ∧ value ≠ .null)

/-- The criterion that a condition stands for. -/
inductive Condition.Means (condition : Condition) : Criterion → Prop
  | always (kind : condition.kind = "always") : Means condition .always
  | scoreAbove {field : String} {threshold : Binary64} (kind : condition.kind = "scoreGreaterThan")
      (named : condition.field = some field) (notBlank : isBlankText field = false)
      (given : condition.threshold = some threshold) :
      Means condition (.scoreAbove (Text.trim field) threshold)
  | equalsString {field text : String} (kind : condition.kind = "equals")
      (named : condition.field = some field) (notBlank : isBlankText field = false)
      (given : condition.value = some (.string text)) :
      Means condition (.equals (Text.trim field) text)
  | equalsOther {field : String} {value : Json.Value} (kind : condition.kind = "equals")
      (named : condition.field = some field) (notBlank : isBlankText field = false)
      (given : condition.value = some value) (notNull : value ≠ .null)
      (noString : ∀ text, value ≠ .string text) :
      Means condition (.equals (Text.trim field) value.compact)

structure Task.IsSound (draft : Draft.Task) : Prop where
  id_not_blank : isBlankText draft.id = false
  name_not_blank : isBlankText draft.name = false
  pass : ∀ condition, draft.passCondition = some condition → condition.IsCriterion
  visibility : ∀ condition, draft.visibilityCondition = some condition → condition.kind = "always"

structure Step.IsSound (draft : Draft.Step) : Prop where
  id_not_blank : isBlankText draft.id = false
  name_not_blank : isBlankText draft.name = false
  tasks : ∀ task ∈ draft.tasks, task.IsSound

structure Flow.IsSound (draft : Draft.Flow) : Prop where
  id_not_blank : isBlankText draft.id = false
  name_not_blank : isBlankText draft.name = false
  steps : ∀ step ∈ draft.steps, step.IsSound
  taskIds_nodup : draft.taskIds.Nodup

structure Task.Describes (draft : Draft.Task) (task : Candidacy.Task) : Prop where
  id : task.id = draft.id
  name : task.name = draft.name
  requiredFields : task.requiredFields = draft.requiredFields
  redoable : task.redoable = draft.redoable.getD true
  absent : draft.passCondition = none → task.criterion = .always
  present : ∀ condition, draft.passCondition = some condition → condition.Means task.criterion

structure Step.Describes (draft : Draft.Step) (step : Candidacy.Step) : Prop where
  id : step.id = draft.id
  name : step.name = draft.name
  tasks : List.Forall₂ Task.Describes draft.tasks step.tasks

structure Flow.Describes (draft : Draft.Flow) (flow : Candidacy.Flow) : Prop where
  id : flow.id = draft.id
  name : flow.name = draft.name
  steps : List.Forall₂ Step.Describes draft.steps flow.steps

/-! A draft is sound if nothing is wrong with it. -/

theorem problemIfBlank_eq_nil_iff {label : Label} {text : String} :
    problemIfBlank label text = [] ↔ isBlankText text = false := by
  simp [problemIfBlank, problemUnless_eq_nil_iff]

namespace Condition

variable {condition : Condition}

theorem hasField_iff :
    condition.hasField = true ↔
      ∃ field, condition.field = some field ∧ isBlankText field = false := by
  simp [hasField, Option.any_eq_true]

theorem hasValue_iff :
    condition.hasValue = true ↔ ∃ value, condition.value = some value ∧ value ≠ .null := by
  rw [hasValue]
  split <;> simp_all

theorem criterionProblems_eq_nil_iff :
    condition.criterionProblems = [] ↔ condition.IsCriterion := by
  constructor
  · intro nothing
    rw [criterionProblems] at nothing
    split at nothing
    · next kind => exact .always kind
    split at nothing
    · next kind =>
        obtain ⟨field, threshold⟩ := List.append_eq_nil_iff.mp nothing
        exact .scoreAbove kind (hasField_iff.mp (problemUnless_eq_nil_iff.mp field))
          (Option.isSome_iff_exists.mp (problemUnless_eq_nil_iff.mp threshold))
    split at nothing
    · next kind =>
        obtain ⟨field, value⟩ := List.append_eq_nil_iff.mp nothing
        exact .equals kind (hasField_iff.mp (problemUnless_eq_nil_iff.mp field))
          (hasValue_iff.mp (problemUnless_eq_nil_iff.mp value))
    · cases nothing
  · intro criterion
    cases criterion with
    | always kind => simp [criterionProblems, kind]
    | scoreAbove kind field threshold =>
        obtain ⟨threshold, given⟩ := threshold
        simp [criterionProblems, kind, problemUnless_eq_nil_iff, hasField_iff.mpr field, given]
    | equals kind field value =>
        simp [criterionProblems, kind, problemUnless_eq_nil_iff, hasField_iff.mpr field,
          hasValue_iff.mpr value]

theorem visibilityProblems_eq_nil_iff :
    condition.visibilityProblems = [] ↔ condition.kind = "always" := by
  simp [visibilityProblems, problemUnless_eq_nil_iff]

end Condition

theorem Task.problems_eq_nil_iff {draft : Draft.Task} : draft.problems = [] ↔ draft.IsSound := by
  simp only [problems, List.flatten_eq_nil_iff, List.forall_mem_cons, List.map_eq_nil_iff,
    List.flatMap_eq_nil_iff, Option.mem_toList, problemIfBlank_eq_nil_iff,
    Condition.criterionProblems_eq_nil_iff, Condition.visibilityProblems_eq_nil_iff]
  constructor
  · rintro ⟨pass, visibility, id, name, _⟩
    exact ⟨id, name, pass, visibility⟩
  · rintro ⟨id, name, pass, visibility⟩
    exact ⟨pass, visibility, id, name, by simp⟩

theorem Step.problems_eq_nil_iff {draft : Draft.Step} : draft.problems = [] ↔ draft.IsSound := by
  simp only [problems, List.flatten_eq_nil_iff, List.forall_mem_cons, List.flatMap_eq_nil_iff,
    problemIfBlank_eq_nil_iff, Task.problems_eq_nil_iff]
  constructor
  · rintro ⟨tasks, id, name, _⟩
    exact ⟨id, name, tasks⟩
  · rintro ⟨id, name, tasks⟩
    exact ⟨tasks, id, name, by simp⟩

/-! The first repetition is the one that the search for it finds. -/

theorem head?_repeated_from {seen before rest : List String}
    (same : ∀ id, id ∈ seen ↔ id ∈ before) :
    firstRepeated? seen rest =
      (((rest.zipIdx before.length).filter
        fun (id, index) => id ∈ (before ++ rest).take index).map (·.1)).head? := by
  induction rest generalizing seen before with
  | nil => rfl
  | cons id rest ih =>
      have front : (before ++ id :: rest).take before.length = before := List.take_left
      have onward : before ++ id :: rest = (before ++ [id]) ++ rest := by simp
      have length : before.length + 1 = (before ++ [id]).length := by simp
      rw [firstRepeated?, List.zipIdx_cons, List.filter_cons]
      simp only [front, decide_eq_true_eq, ← same]
      split
      · rfl
      · rw [onward, length]
        apply ih
        intro other
        simp [same, or_comm]

theorem head?_repeated (ids : List String) : (repeated ids).head? = firstRepeated? [] ids :=
  (@head?_repeated_from [] [] ids fun _ => Iff.rfl).symm

theorem repeated_eq_nil_iff {ids : List String} : repeated ids = [] ↔ ids.Nodup := by
  rw [← List.head?_eq_none_iff, head?_repeated, firstRepeated?_eq_none_iff]
  simp

theorem Flow.problems_eq_nil_iff {draft : Draft.Flow} : draft.problems = [] ↔ draft.IsSound := by
  simp only [problems, List.flatten_eq_nil_iff, List.forall_mem_cons, List.flatMap_eq_nil_iff,
    problemIfBlank_eq_nil_iff, Step.problems_eq_nil_iff, List.map_eq_nil_iff, repeated_eq_nil_iff]
  constructor
  · rintro ⟨steps, id, name, distinct, _⟩
    exact ⟨id, name, steps, distinct⟩
  · rintro ⟨id, name, steps, distinct⟩
    exact ⟨steps, id, name, distinct, by simp⟩

/-! Every part of a draft tells its problems when it is compiled. -/

namespace Condition

variable (condition : Condition)

theorem tells_trimmedField :
    Tells
      (fun trimmed => ∃ field, condition.field = some field ∧ isBlankText field = false ∧
        trimmed = Text.trim field)
      condition.trimmedField
      (problemUnless condition.hasField (.fieldWanted condition.kind)) := by
  rw [trimmedField, hasField]
  cases named : condition.field with
  | none => exact .faulty _ []
  | some field =>
      cases blank : isBlankText field with
      | true =>
          simp only [Option.map_some, Text.trim_eq_empty_iff.mpr blank, Option.any_some, blank]
          exact .faulty _ []
      | false =>
          have solid : Text.trim field ≠ "" := by simp [Ne, Text.trim_eq_empty_iff, blank]
          simp only [Option.map_some, solid, Option.any_some, blank]
          exact .sound ⟨field, rfl, blank, rfl⟩

theorem tells_criterion :
    Tells condition.Means condition.criterion condition.criterionProblems := by
  rw [criterion, criterionProblems]
  split
  · next kind => exact .sound (.always kind)
  split
  · next kind =>
      apply condition.tells_trimmedField.bind
      rintro trimmed ⟨field, named, notBlank, rfl⟩
      cases given : condition.threshold with
      | none => exact .faulty _ []
      | some threshold => exact .sound (.scoreAbove kind named notBlank given)
  split
  · next kind =>
      apply condition.tells_trimmedField.bind
      rintro trimmed ⟨field, named, notBlank, rfl⟩
      rw [hasValue]
      cases given : condition.value with
      | none => exact .faulty _ []
      | some value =>
          cases value with
          | null => exact .faulty _ []
          | string text => exact .sound (.equalsString kind named notBlank given)
          | bool | number | array | object =>
              exact .sound (.equalsOther kind named notBlank given nofun nofun)
  · exact .faulty _ []

theorem tells_visibility :
    Tells (fun _ => True) condition.visibility condition.visibilityProblems := by
  rw [visibility, visibilityProblems]
  split
  · next kind => simpa [kind, problemUnless] using Tells.sound trivial
  · next kind => simpa [kind, problemUnless] using Tells.faulty _ []

end Condition

theorem inTask_eq_mapError (id : String) (result : Except ConditionError α) :
    inTask id result = result.mapError (.inTask id) := by
  cases result <;> rfl

theorem tells_criterionOf (condition? : Option Condition) :
    Tells
      (fun criterion => (condition? = none → criterion = .always) ∧
        ∀ condition, condition? = some condition → condition.Means criterion)
      (criterionOf condition?) (condition?.toList.flatMap Condition.criterionProblems) := by
  cases condition? with
  | none => exact .sound ⟨fun _ => rfl, nofun⟩
  | some condition =>
      simpa [criterionOf] using condition.tells_criterion

theorem tells_visibilityOf (condition? : Option Condition) :
    Tells (fun _ => True) (visibilityOf condition?)
      (condition?.toList.flatMap Condition.visibilityProblems) := by
  cases condition? with
  | none => exact .sound trivial
  | some condition => simpa [visibilityOf] using condition.tells_visibility

/-- What is labelled has to be more than white space. -/
theorem tells_labelled {α : Type} {wanted : α → Prop} {label : Label} {text : String}
    {next : isBlankText text = false → Except Error α} {later : List Error}
    (told : ∀ notBlank, Tells wanted (next notBlank) later) :
    Tells wanted
      (if notBlank : isBlankText text = false then next notBlank else .error (.blank label))
      (problemIfBlank label text ++ later) := by
  split
  · next notBlank =>
      rw [problemIfBlank_eq_nil_iff.mpr notBlank]
      exact told notBlank
  · next blank =>
      rw [problemIfBlank, problemUnless, if_neg (by simpa using blank)]
      exact .faulty _ later

theorem Task.tells_compile (draft : Draft.Task) :
    Tells draft.Describes draft.compile draft.problems := by
  rw [compile, problems]
  simp only [List.flatten_cons, List.flatten_nil, inTask_eq_mapError]
  apply ((tells_criterionOf draft.passCondition).mapError (Error.inTask draft.id)).bind
  rintro criterion ⟨absent, present⟩
  apply ((tells_visibilityOf draft.visibilityCondition).mapError (Error.inTask draft.id)).bind
  intro visibility _
  apply tells_labelled
  intro idNotBlank
  apply tells_labelled
  intro nameNotBlank
  exact .sound ⟨rfl, rfl, rfl, rfl, absent, present⟩

theorem compileTasks_eq_mapM (drafts : List Draft.Task) :
    compileTasks drafts = drafts.mapM Task.compile := by
  induction drafts with
  | nil => rfl
  | cons draft rest ih =>
      rw [compileTasks, List.mapM_cons, ih]

theorem Step.tells_compile (draft : Draft.Step) :
    Tells draft.Describes draft.compile draft.problems := by
  rw [compile, problems, compileTasks_eq_mapM]
  simp only [List.flatten_cons, List.flatten_nil]
  apply (Tells.mapM Task.tells_compile draft.tasks).bind
  intro tasks described
  apply tells_labelled
  intro idNotBlank
  apply tells_labelled
  intro nameNotBlank
  exact .sound ⟨rfl, rfl, described⟩

theorem compileSteps_eq_mapM (drafts : List Draft.Step) :
    compileSteps drafts = drafts.mapM Step.compile := by
  induction drafts with
  | nil => rfl
  | cons draft rest ih =>
      rw [compileSteps, List.mapM_cons, ih]

theorem map_id_of_described {drafts : List Draft.Task} {tasks : List Candidacy.Task}
    (described : List.Forall₂ Task.Describes drafts tasks) :
    tasks.map Candidacy.Task.id = drafts.map Task.id := by
  induction described with
  | nil => rfl
  | cons first others ih =>
      rw [List.map_cons, List.map_cons, first.id, ih]

/-- Compiled steps have the task ids of their drafts. -/
theorem taskIds_of_described {drafts : List Draft.Step} {steps : List Candidacy.Step}
    (described : List.Forall₂ Step.Describes drafts steps) :
    (steps.flatMap Candidacy.Step.tasks).map Candidacy.Task.id =
      (drafts.flatMap Step.tasks).map Task.id := by
  induction described with
  | nil => rfl
  | cons first others ih =>
      rw [List.flatMap_cons, List.map_append, ih, map_id_of_described first.tasks,
        List.flatMap_cons, List.map_append]

theorem Flow.tells_compile (draft : Draft.Flow) :
    Tells draft.Describes draft.compile draft.problems := by
  rw [compile, problems, compileSteps_eq_mapM]
  simp only [List.flatten_cons, List.flatten_nil]
  apply (Tells.mapM Step.tells_compile draft.steps).bind
  intro steps described
  apply tells_labelled
  intro idNotBlank
  apply tells_labelled
  intro nameNotBlank
  have same : (steps.flatMap Candidacy.Step.tasks).map Candidacy.Task.id = draft.taskIds :=
    taskIds_of_described described
  split
  · next unrepeated =>
      rw [same, ← head?_repeated, List.head?_eq_none_iff] at unrepeated
      rw [unrepeated]
      exact .sound ⟨rfl, rfl, described⟩
  · next id again =>
      rw [same, ← head?_repeated, List.head?_eq_some_iff] at again
      obtain ⟨others, repetitions⟩ := again
      rw [repetitions]
      exact .faulty _ _

/-- A draft compiles if and only if it is sound, to a flow that it describes; of what is wrong with
any other draft the first is told. -/
theorem Flow.compiles_or_tells (draft : Draft.Flow) :
    ((∃ flow, Candidacy.Flow.ofDraft draft = .ok flow) ↔ draft.IsSound) ∧
    (∀ flow, Candidacy.Flow.ofDraft draft = .ok flow → draft.Describes flow) ∧
    (∀ refusal, Candidacy.Flow.ofDraft draft = .error refusal ↔
      (draft.problems.map LoadError.draft).head? = some refusal) := by
  have told : Tells draft.Describes (Candidacy.Flow.ofDraft draft) (draft.problems.map .draft) :=
    draft.tells_compile.mapError LoadError.draft
  refine ⟨?_, ?_, ?_⟩
  · rw [told.exists_ok_iff, List.map_eq_nil_iff, problems_eq_nil_iff]
  · intro flow compiled
    exact told.wanted_of_ok compiled
  · intro refusal
    exact told.eq_error_iff

/-- The flow's own id is written first, but what is wrong inside is met before it. -/
example :
    let talk : Task := ⟨"talk", "Talk", .empty, some (.ofKind "never"), none, none⟩
    let draft : Flow := ⟨" ", "Admission", [⟨"talk", "", [talk]⟩]⟩
    draft.problems =
      [.inTask "talk" (.unknownCriterion "never"), .blank (.stepName "talk"), .blank .flowId] := by
  decide

end Candidacy.Draft
