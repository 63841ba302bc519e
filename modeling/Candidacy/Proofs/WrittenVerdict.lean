import Candidacy.Dossier.Json
import Candidacy.Proofs.LooseInstants
import Candidacy.Proofs.ReadTexts
import Candidacy.Proofs.WrittenDraft

/-!
Verdicts written as JSON text. A verdict of any instant that the calendar reaches is read from its text as
itself, as long as its payload is not nested too deep.
-/

namespace Candidacy

open Json (Document Number Source Value)

theorem Instant.read_text {instant : Instant} (proper : instant.IsProper) (source : Source) :
    Instant.read source (Document.ofValue (.string instant.text)) = .ok instant := by
  rw [Instant.read, Document.ofValue, Document.readStringAs, ok_bind]
  simp only [ofLoose?_text proper]
  rfl

namespace Verdict

theorem read_toJson {verdict : Verdict} (proper : verdict.resolvedAt.IsProper)
    (ordered : (Value.object verdict.payload).IsOrdered) {source : Source}
    (room : source.HasRoom verdict.toJson.depth) :
    read source (Document.ofValue verdict.toJson) = .ok verdict := by
  have deep : verdict.toJson.depth = (Value.object verdict.payload).depth + 1 := by
    simp [toJson, Value.depth, Json.membersDepth]
  rw [deep] at room
  obtain ⟨inner, enters, innerRoom⟩ := room.enter
  have readInstant := Instant.read_text proper inner
  have readPayload := Document.readObject_ofValue ordered innerRoom
  rw [read, toJson, Document.ofValue, Json.Record.read, enters, ok_bind]
  simp only [Document.ofMembers]
  rw [record.readMembers_slot rfl rfl rfl, record.readMembers_slot rfl rfl rfl,
    record.readMembers_slot rfl rfl readInstant, record.readMembers_slot rfl rfl readPayload]
  rfl

/-- The text of a verdict is read as this verdict, with or without line breaks. Its instant may be of the
years 0 to 9999 or of any other that the calendar has. The payload is one that can be read at all: the
keys of its objects are in order, and its numbers are read again from their own texts. -/
theorem written_verdict_reads_back {verdict : Verdict} (proper : verdict.resolvedAt.IsProper)
    (ordered : (Value.object verdict.payload).IsOrdered)
    (numbers : (Value.object verdict.payload).EachNumber Number.IsReread)
    (room : Source.newText.HasRoom verdict.toJson.depth) :
    Json.decodeText read verdict.toJson.compact = .ok verdict ∧
      Json.decodeText read verdict.toJson.indented = .ok verdict := by
  have whole : verdict.toJson.EachNumber Number.IsReread := by
    refine .object ?_
    simp only [List.forall_mem_cons]
    exact ⟨.string _, .bool _, .string _, numbers, List.forall_mem_nil _⟩
  rw [Json.decodeText_compact whole, Json.decodeText_indented whole]
  exact ⟨read_toJson proper ordered room, read_toJson proper ordered room⟩

/-- Ten to the twenty-first. -/
def sextillion : Binary64 := .ofInt (10 ^ 21)

/-- A power of ten that a double holds exactly is read without rounding. -/
theorem isReread_sextillion : (Number.double sextillion).IsReread := by
  have text : sextillion.text = ['1', 'e', '+', '2', '1'] := by decide +kernel
  have number : Number.ofNumeral? false false true ⟨['1'], [], 21⟩ = some (.double sextillion) := by
    decide +kernel
  have lexed : Json.lexNumber false ['1', 'e', '+', '2', '1'] =
      (.number (some (.double sextillion)), []) :=
    congrArg (fun n => (Json.Token.number n, [])) number
  refine .double ?_
  rw [Value.compact, Value.text, Number.text, text, Value.ofText, Json.decodeText,
    String.toList_ofList, Json.tokens_cons rfl, Json.lexToken_digit rfl, lexed, Json.tokens]
  rfl

/-- Decided in the middle of a leap second, with a quote, a control character and a letter beyond ASCII
in its texts. -/
def intricate : Verdict where
  task := "ensayo \"n\u00fam. 1\""
  passed := true
  resolvedAt := Timestamp.leapSecond
  payload := [
    ("", .array [.null, .object [("\u0001", .string "\\\n"), ("\u20ac", .bool false)]]),
    ("big", .number (.double sextillion)),
    ("small", .number (.int (-2 ^ 63)))]

theorem intricate_reads_back :
    Json.decodeText read intricate.toJson.compact = .ok intricate ∧
      Json.decodeText read intricate.toJson.indented = .ok intricate := by
  have proper : intricate.resolvedAt.IsProper := ⟨by decide, by decide, by decide⟩
  have ordered : (Value.object intricate.payload).IsOrdered := by
    refine .object (by rw [Keyed.Sorted]; decide) ?_
    simp only [intricate, List.forall_mem_cons]
    refine ⟨.array ?_, .number _, .number _, List.forall_mem_nil _⟩
    simp only [List.forall_mem_cons]
    refine ⟨.null, .object (by rw [Keyed.Sorted]; decide) ?_, List.forall_mem_nil _⟩
    simp only [List.forall_mem_cons]
    exact ⟨.string _, .bool _, List.forall_mem_nil _⟩
  have numbers : (Value.object intricate.payload).EachNumber Number.IsReread := by
    refine .object ?_
    simp only [intricate, List.forall_mem_cons]
    refine ⟨.array ?_, .number isReread_sextillion, .number (.int (by decide) (by decide)),
      List.forall_mem_nil _⟩
    simp only [List.forall_mem_cons]
    refine ⟨.null, .object ?_, List.forall_mem_nil _⟩
    simp only [List.forall_mem_cons]
    exact ⟨.string _, .bool _, List.forall_mem_nil _⟩
  have room : Source.newText.HasRoom intricate.toJson.depth := by
    change _ ≤ 127
    decide
  exact written_verdict_reads_back proper ordered numbers room

end Verdict

end Candidacy
