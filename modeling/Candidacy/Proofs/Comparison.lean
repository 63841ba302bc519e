import Candidacy.Draft
import Candidacy.Json.Decoding
import Candidacy.Proofs.Independence
import Candidacy.Proofs.PrintedValues

/-!
Comparing values. A condition that asks for a value is met by the values of the same text, and the
same text is the same value unless just one of the two is a string.
-/

namespace Candidacy

/-! Members in order. -/

namespace Keyed

variable {α : Type} {entries others : Keyed α}

theorem get?_eq_of_contains {key : String} (both : entries.contains key = others.contains key)
    (each : ∀ v w, entries.get? key = some v → others.get? key = some w → v = w) :
    entries.get? key = others.get? key := by
  rw [contains, contains] at both
  cases first : entries.get? key with
  | none =>
      rw [first, Option.isSome_none, eq_comm, Option.isSome_eq_false_iff, Option.isNone_iff_eq_none]
        at both
      exact both.symm
  | some v =>
      rw [first] at both
      obtain ⟨w, second⟩ := Option.isSome_iff_exists.mp both.symm
      rw [second, each v w first second]

/-- Sorted entries are known by what can be looked up. -/
theorem Sorted.eq_of_get?_eq (sorted : entries.Sorted) (sortedToo : others.Sorted)
    (found : ∀ key, entries.get? key = others.get? key) : entries = others :=
  congrArg Table.entries (@Table.eq_of_get?_eq α ⟨entries, sorted⟩ ⟨others, sortedToo⟩ found)

theorem mem_of_mem_ofList {entry : String × α} {entries : List (String × α)}
    (member : entry ∈ ofList entries) : entry ∈ entries := by
  suffices grown : ∀ sorted : Keyed α,
      entry ∈ entries.foldl (fun sorted entry => insert entry.1 entry.2 sorted) sorted →
        entry ∈ sorted ∨ entry ∈ entries from
    (grown [] member).resolve_left List.not_mem_nil
  clear member
  induction entries with
  | nil => exact fun _ member => .inl member
  | cons first rest ih =>
      intro sorted member
      obtain inserted | later := ih _ member
      · obtain new | old := mem_insert inserted
        · exact .inr (new ▸ List.mem_cons_self)
        · exact .inl old
      · exact .inr (List.mem_cons_of_mem _ later)

end Keyed

namespace Json

/-! The same value. -/

/-- The same JSON value. Integers and doubles are told apart and so are the two zeros; the members of
an object have no order. -/
inductive Value.Same : Value → Value → Prop
  | null : Same .null .null
  | bool (b : Bool) : Same (.bool b) (.bool b)
  | int (n : Int) : Same (.number (.int n)) (.number (.int n))
  | double {x y : Binary64} (sign : x.negative = y.negative) (magnitude : x.units = y.units) :
      Same (.number (.double x)) (.number (.double y))
  | string (s : String) : Same (.string s) (.string s)
  | array {items copies : List Value} (length : items.length = copies.length)
      (each : ∀ (i : Nat) v w, items[i]? = some v → copies[i]? = some w → Same v w) :
      Same (.array items) (.array copies)
  | object {members copies : Members}
      (keys : ∀ key, members.contains key = copies.contains key)
      (each : ∀ key v w, members.get? key = some v → copies.get? key = some w → Same v w) :
      Same (.object members) (.object copies)

/-- The members of all objects inside stand in the order of their keys, each key once. -/
inductive Value.IsOrdered : Value → Prop
  | null : IsOrdered .null
  | bool (b : Bool) : IsOrdered (.bool b)
  | number (n : Number) : IsOrdered (.number n)
  | string (s : String) : IsOrdered (.string s)
  | array {items : List Value} (each : ∀ item ∈ items, IsOrdered item) : IsOrdered (.array items)
  | object {members : Members} (sorted : members.Sorted)
      (each : ∀ member ∈ members, IsOrdered member.2) : IsOrdered (.object members)

namespace Value

theorem Same.refl (v : Value) : v.Same v := by
  induction v using Value.nested with
  | null => exact .null
  | bool b => exact .bool b
  | number n =>
      cases n with
      | int n => exact .int n
      | double x => exact .double rfl rfl
  | string s => exact .string s
  | array items same =>
      refine .array rfl fun i v w found foundToo => ?_
      obtain rfl := Option.some.inj (found.symm.trans foundToo)
      exact same v (List.mem_of_getElem? found)
  | object members same =>
      refine .object (fun _ => rfl) fun key v w found foundToo => ?_
      obtain rfl := Option.some.inj (found.symm.trans foundToo)
      exact same _ (Keyed.mem_of_get? found)

/-- Ordered values are the same only if they are equal. -/
theorem Same.eq {v w : Value} (same : v.Same w) (ordered : v.IsOrdered)
    (orderedToo : w.IsOrdered) : v = w := by
  induction same with
  | null => rfl
  | bool b => rfl
  | int n => rfl
  | string s => rfl
  | double sign magnitude =>
      have rank := Binary64.unitsOf_strictMono.injective magnitude
      rw [Binary64.eq_of_rank sign rank]
  | @array items copies length each ih =>
      cases ordered with
      | array ordered =>
      cases orderedToo with
      | array orderedToo =>
      refine congrArg Value.array (List.ext_getElem length fun i inside insideToo => ?_)
      have found := List.getElem?_eq_getElem inside
      have foundToo := List.getElem?_eq_getElem insideToo
      exact ih i _ _ found foundToo (ordered _ (List.mem_of_getElem? found))
        (orderedToo _ (List.mem_of_getElem? foundToo))
  | @object members copies keys each ih =>
      cases ordered with
      | object sorted ordered =>
      cases orderedToo with
      | object sortedToo orderedToo =>
      have found (key : String) : members.get? key = copies.get? key :=
        Keyed.get?_eq_of_contains (keys key) fun v w first second =>
          ih key v w first second (ordered _ (Keyed.mem_of_get? first))
            (orderedToo _ (Keyed.mem_of_get? second))
      exact congrArg Value.object (sorted.eq_of_get?_eq sortedToo found)

theorem same_iff_eq {v w : Value} (ordered : v.IsOrdered) (orderedToo : w.IsOrdered) :
    v.Same w ↔ v = w :=
  ⟨fun same => same.eq ordered orderedToo, fun same => same ▸ .refl v⟩

end Value

/-! Values that were read are ordered. -/

namespace Document

mutual
theorem isOrdered_of_readValue {source : Source} {v : Value} (d : Document)
    (read : readValue source d = .ok v) : v.IsOrdered := by
  match d with
  | .null =>
      cases read
      exact .null
  | .bool b =>
      cases read
      exact .bool b
  | .number (some n) =>
      cases read
      exact .number n
  | .string (some s) =>
      cases read
      exact .string s
  | .array items ending =>
      rw [readValue, bind_eq_ok_iff] at read
      obtain ⟨inner, _, read⟩ := read
      obtain ⟨found, readItems, read⟩ := bind_eq_ok_iff.mp read
      obtain ⟨_, _, read⟩ := bind_eq_ok_iff.mp read
      cases read
      exact .array (isOrdered_of_readItems items readItems)
  | .object members ending =>
      rw [readValue, bind_eq_ok_iff] at read
      obtain ⟨inner, _, read⟩ := read
      obtain ⟨found, readMembers, read⟩ := bind_eq_ok_iff.mp read
      obtain ⟨_, _, read⟩ := bind_eq_ok_iff.mp read
      cases read
      exact .object (Keyed.sorted_ofList found) fun member inside =>
        isOrdered_of_readMembers members readMembers member (Keyed.mem_of_mem_ofList inside)

theorem isOrdered_of_readItems {source : Source} {items : List Value} (ds : List Document)
    (read : readItems source ds = .ok items) : ∀ item ∈ items, item.IsOrdered := by
  match ds with
  | [] =>
      cases read
      exact nofun
  | d :: rest =>
      rw [readItems, bind_eq_ok_iff] at read
      obtain ⟨first, readFirst, read⟩ := read
      obtain ⟨others, readOthers, read⟩ := bind_eq_ok_iff.mp read
      cases read
      exact List.forall_mem_cons.mpr
        ⟨isOrdered_of_readValue d readFirst, isOrdered_of_readItems rest readOthers⟩

theorem isOrdered_of_readMembers {source : Source} {members : List (String × Value)}
    (ds : List (Option String × Document)) (read : readMembers source ds = .ok members) :
    ∀ member ∈ members, member.2.IsOrdered := by
  match ds with
  | [] =>
      cases read
      exact nofun
  | (some key, d) :: rest =>
      rw [readMembers, bind_eq_ok_iff] at read
      obtain ⟨first, readFirst, read⟩ := read
      obtain ⟨others, readOthers, read⟩ := bind_eq_ok_iff.mp read
      cases read
      exact List.forall_mem_cons.mpr
        ⟨isOrdered_of_readValue d readFirst, isOrdered_of_readMembers rest readOthers⟩
end

theorem isOrdered_of_readObject {source : Source} {d : Document} {members : Members}
    (read : readObject source d = .ok members) {key : String} {v : Value}
    (found : members.get? key = some v) : v.IsOrdered := by
  cases d with
  | object entries ending =>
      rw [readObject, bind_eq_ok_iff] at read
      obtain ⟨inner, _, read⟩ := read
      obtain ⟨listed, readMembers, read⟩ := bind_eq_ok_iff.mp read
      obtain ⟨_, _, read⟩ := bind_eq_ok_iff.mp read
      cases read
      exact isOrdered_of_readMembers entries readMembers _
        (Keyed.mem_of_mem_ofList (Keyed.mem_of_get? found))
  | _ => cases read

end Document

/-! The compared text. -/

/-- Of a string its content, of other values their compact JSON. -/
def Value.plainText : Value → String
  | .string s => s
  | v => v.compact

def Value.isString : Value → Bool
  | .string _ => true
  | _ => false

theorem Value.plainText_of_isString {v : Value} (noString : v.isString = false) :
    v.plainText = v.compact := by
  cases v with
  | string s => cases noString
  | _ => rfl

theorem Value.comparedText?_eq {v : Value} (something : v ≠ .null) :
    v.comparedText? = some v.plainText := by
  cases v with
  | null => exact absurd rfl something
  | _ => rfl

end Json

open Json (Value)

namespace Criterion

/-- The criterion asks whether a field holds a value: by text, which for two values of which none is a
string means the same value, and for a string and another value that the string is the compact JSON
of the other. -/
structure AsksFor (criterion : Criterion) (field : String) (v : Value) : Prop where
  sameText (payload : Payload) : criterion.passes payload = true ↔
    ∃ w, payload.get? field = some w ∧ w ≠ .null ∧ w.plainText = v.plainText
  equal (payload : Payload) (w : Value) (found : payload.get? field = some w)
    (noString : v.isString = false) (noStringToo : w.isString = false) :
    criterion.passes payload = true ↔ w = v
  same (payload : Payload) (w : Value) (found : payload.get? field = some w)
    (noString : v.isString = false) (noStringToo : w.isString = false) (ordered : v.IsOrdered)
    (orderedToo : w.IsOrdered) : criterion.passes payload = true ↔ w.Same v
  wantedString (payload : Payload) (w : Value) (found : payload.get? field = some w)
    (something : w ≠ .null) (s : String) (isString : v = .string s) (noString : w.isString = false) :
    criterion.passes payload = true ↔ s = w.compact
  givenString (payload : Payload) (s : String) (found : payload.get? field = some (.string s))
    (noString : v.isString = false) : criterion.passes payload = true ↔ s = v.compact

/-- The value that is handed in is compared as the wanted one was: by its plain text. -/
theorem passes_equals_iff (field text : String) (payload : Payload) :
    (Criterion.equals field text).passes payload = true ↔
      ∃ w, payload.get? field = some w ∧ w ≠ .null ∧ w.plainText = text := by
  rw [passes]
  cases payload.get? field with
  | none => simp
  | some w => cases w <;> simp [Value.plainText]

theorem asksFor_equals {field : String} {v : Value} (something : v ≠ .null) :
    (Criterion.equals field v.plainText).AsksFor field v := by
  have passesIff (payload : Payload) (w : Value) (found : payload.get? field = some w) :
      (Criterion.equals field v.plainText).passes payload = true ↔
        w ≠ .null ∧ w.plainText = v.plainText := by
    simp [passes_equals_iff, found]
  have equal (payload : Payload) (w : Value) (found : payload.get? field = some w)
      (noString : v.isString = false) (noStringToo : w.isString = false) :
      (Criterion.equals field v.plainText).passes payload = true ↔ w = v := by
    rw [passesIff payload w found, Value.plainText_of_isString noString,
      Value.plainText_of_isString noStringToo, Value.compact_injective.eq_iff]
    exact and_iff_right_of_imp fun same => same ▸ something
  exact {
    sameText := passes_equals_iff field v.plainText
    equal
    same := fun payload w found noString noStringToo ordered orderedToo => by
      rw [equal payload w found noString noStringToo, Value.same_iff_eq orderedToo ordered]
    wantedString := fun payload w found somethingToo s isString noString => by
      rw [passesIff payload w found, Value.plainText_of_isString noString, isString]
      exact (and_iff_right somethingToo).trans eq_comm
    givenString := fun payload s found noString => by
      rw [passesIff payload _ found, Value.plainText_of_isString noString]
      exact and_iff_right nofun }

open Json (Document Source)

/-- However the members of its objects were ordered in the document, the same value passes. -/
theorem AsksFor.same_of_read {criterion : Criterion} {field : String} {v w : Value}
    (asks : criterion.AsksFor field v) {source : Source} {wanted given : Document}
    {payload : Payload} (readWanted : wanted.readValue source = .ok v)
    (readGiven : given.readObject source = .ok payload) (found : payload.get? field = some w)
    (noString : v.isString = false) (noStringToo : w.isString = false) :
    criterion.passes payload = true ↔ w.Same v :=
  asks.same payload w found noString noStringToo (Document.isOrdered_of_readValue wanted readWanted)
    (Document.isOrdered_of_readObject readGiven found)

end Criterion

namespace Draft

/-- A condition that asks for a value that is not null, in a field whose name is not blank, is
compiled to the criterion that asks for it. -/
theorem Condition.equals_asksFor {condition : Condition} {field : String} {v : Value}
    (kind : condition.kind = "equals") (named : condition.field = some field)
    (notBlank : Text.trim field ≠ "") (given : condition.value = some v) (something : v ≠ .null) :
    ∃ criterion, condition.criterion = .ok criterion ∧
      criterion.AsksFor (Text.trim field) v := by
  refine ⟨.equals (Text.trim field) v.plainText, ?_, Criterion.asksFor_equals something⟩
  have trimmed : condition.trimmedField = .ok (Text.trim field) := by
    rw [trimmedField, named]
    exact if_neg notBlank
  rw [criterion, kind, trimmed, given, Option.bind_some, Value.comparedText?_eq something]
  rfl

/-- An integer and a double that are both zero. -/
def zeros : Value :=
  .array [.number (.int 0), .number (.double .zero)]

theorem zeros_wanted :
    ∃ criterion,
      Condition.criterion { kind := "equals", field := some " marks ", value := some zeros } =
        .ok criterion ∧
      criterion.passes [("marks", zeros)] = true ∧
      criterion.passes [("marks", .string "[0,0.0]")] = true ∧
      criterion.passes [("marks", .array [.number (.int 0), .number (.double Binary64.zero.neg)])] =
        false := by
  have field : Text.trim " marks " = "marks" := by decide
  obtain ⟨criterion, compiled, asks⟩ := @Condition.equals_asksFor
    { kind := "equals", field := some " marks ", value := some zeros } " marks " zeros
    rfl rfl (by decide) rfl nofun
  rw [field] at asks
  refine ⟨criterion, compiled, (asks.equal _ _ rfl rfl rfl).mpr rfl,
    (asks.givenString _ _ rfl rfl).mpr (by decide), ?_⟩
  rw [Bool.eq_false_iff, ne_eq, asks.equal _ _ rfl rfl rfl]
  have different : Binary64.zero.neg ≠ .zero := by decide
  simp [zeros, different]

end Draft

end Candidacy
