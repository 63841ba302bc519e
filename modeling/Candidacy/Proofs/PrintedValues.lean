import Candidacy.Json.Token
import Candidacy.Proofs.ShortestTexts

/-!
Compact text. From the text of a value and of anything that cannot go on with a number, both are
told: strings end at their own closing quote, numbers where no character of a number follows, and
arrays and objects at the bracket that closes them.
-/

namespace Candidacy.Json

/-- What passes from the items of an array and the members of an object to the whole holds of every
value. -/
@[elab_as_elim]
theorem Value.nested {motive : Value → Prop} (null : motive .null) (bool : ∀ b, motive (.bool b))
    (number : ∀ n, motive (.number n)) (string : ∀ s, motive (.string s))
    (array : ∀ items, (∀ item ∈ items, motive item) → motive (.array items))
    (object : ∀ members, (∀ member ∈ members, motive member.2) → motive (.object members)) :
    ∀ v, motive v
  | .null => null
  | .bool b => bool b
  | .number n => number n
  | .string s => string s
  | .array items =>
      array items fun item _ => nested null bool number string array object item
  | .object members =>
      object members fun member _ => nested null bool number string array object member.2
decreasing_by
  · have := List.sizeOf_lt_of_mem ‹_ ∈ _›
    rw [Value.array.sizeOf_spec]
    omega
  · have := List.sizeOf_lt_of_mem ‹_ ∈ _›
    rw [Value.object.sizeOf_spec]
    have : sizeOf member.2 < sizeOf member := by
      rw [Prod.mk.sizeOf_spec]
      omega
    omega

/-! Strings. -/

theorem hexDigit?_digitChar : ∀ n < 16, hexDigit? (Nat.digitChar n) = some n := by
  decide

theorem hexUnit?_control {c : Char} (control : c.toNat < 0x20) :
    hexUnit? '0' '0' (Nat.digitChar (c.toNat / 16)) (Nat.digitChar (c.toNat % 16)) =
      some c.toNat := by
  have zero : hexDigit? '0' = some 0 := by decide
  have high := hexDigit?_digitChar (c.toNat / 16) (by omega)
  have low := hexDigit?_digitChar (c.toNat % 16) (by omega)
  have value : ((0 * 16 + 0) * 16 + c.toNat / 16) * 16 + c.toNat % 16 = c.toNat := by omega
  rw [hexUnit?, zero, high, low]
  exact congrArg some value

theorem Content.pushUnit_toNat {content : Content} (noHalf : content.half = none) {c : Char}
    (control : c.toNat < 0x20) : content.pushUnit c.toNat = content.push c := by
  rw [pushUnit, noHalf]
  simp only
  rw [if_neg (by omega), if_neg (by omega), Char.ofNat_toNat]

theorem lexString_simple (content : Content) {e c : Char} (simple : simpleEscape? e = some c)
    (rest : List Char) :
    lexString content ('\\' :: e :: rest) = lexString (content.push c) rest := by
  have noUnit : e ≠ 'u' := by
    rintro rfl
    cases simple
  rw [lexString]
  · rw [simple]
  · exact fun _ _ _ _ _ unit => absurd unit noUnit
  · exact noUnit

theorem lexString_plain (content : Content) {c : Char} (noQuote : c ≠ '"') (noSlash : c ≠ '\\')
    (plain : ¬c.toNat < 0x20) (rest : List Char) :
    lexString content (c :: rest) = lexString (content.push c) rest := by
  rw [lexString]
  · rw [if_neg plain]
  · exact noQuote
  all_goals
    intros
    contradiction

/-- What is written for a character is read as this character. -/
theorem lexString_escapeChar {content : Content} (noHalf : content.half = none) (c : Char)
    (rest : List Char) :
    lexString content (escapeChar c ++ rest) = lexString (content.push c) rest := by
  fun_cases escapeChar c with
  | case8 _ _ _ _ _ _ _ control =>
      have unit := hexUnit?_control control
      simp only [controlDigits, List.cons_append, List.nil_append, lexString, unit]
      rw [Content.pushUnit_toNat noHalf control]
  | case9 noQuote noSlash _ _ _ _ _ plain => exact lexString_plain content noQuote noSlash plain rest
  -- The others have an escape of one letter.
  | _ =>
      subst c
      exact lexString_simple content (by decide) rest

theorem lexString_escaped (reversed cs rest : List Char) :
    lexString ⟨some reversed, none⟩ (cs.flatMap escapeChar ++ '"' :: rest) =
      (.string (some (String.ofList (reversed.reverse ++ cs))), rest) := by
  induction cs generalizing reversed with
  | nil =>
      rw [List.flatMap_nil, List.nil_append, lexString, List.append_nil]
      rfl
  | cons c cs ih =>
      rw [List.flatMap_cons, List.append_assoc, lexString_escapeChar rfl]
      have next := ih (c :: reversed)
      rw [List.reverse_cons, List.append_assoc] at next
      exact next

theorem stringText_append (s : String) (rest : List Char) :
    stringText s ++ rest = '"' :: (s.toList.flatMap escapeChar ++ '"' :: rest) := by
  rw [stringText, List.cons_append, List.cons_append, List.append_assoc]
  rfl

theorem eq_of_stringText {s t : String} {rest others : List Char}
    (same : stringText s ++ rest = stringText t ++ others) : s = t ∧ rest = others := by
  rw [stringText_append, stringText_append, List.cons.injEq] at same
  have read := congrArg (lexString ⟨some [], none⟩) same.2
  rw [lexString_escaped, lexString_escaped] at read
  simpa using read

/-! Kinds: the first character of a text tells the kind of its value. -/

inductive Kind
  | null
  | bool (b : Bool)
  | number
  | string
  | array
  | object

def Value.kind : Value → Kind
  | .null => .null
  | .bool b => .bool b
  | .number _ => .number
  | .string _ => .string
  | .array _ => .array
  | .object _ => .object

/-- The kind of the values that start with `c`. -/
def kindOf? (c : Char) : Option Kind :=
  if Number.isNumeric c then some .number
  else if c = 'n' then some .null
  else if c = 't' then some (.bool true)
  else if c = 'f' then some (.bool false)
  else if c = '"' then some .string
  else if c = '[' then some .array
  else if c = '\x7b' then some .object
  else none

theorem Value.exists_text (v : Value) :
    ∃ c rest, v.text = c :: rest ∧ kindOf? c = some v.kind := by
  cases v with
  | null => exact ⟨_, _, rfl, rfl⟩
  | bool b => cases b <;> exact ⟨_, _, rfl, rfl⟩
  | number n =>
      obtain ⟨c, rest, text⟩ := List.exists_cons_of_ne_nil n.text_ne_nil
      have numeric := n.isNumeric_text c (text ▸ List.mem_cons_self)
      exact ⟨c, rest, text, if_pos numeric⟩
  | string s => exact ⟨_, _, rfl, rfl⟩
  | array items => exact ⟨_, _, rfl, rfl⟩
  | object members => exact ⟨_, _, rfl, rfl⟩

theorem Value.kind_eq_of_text {v w : Value} {rest others : List Char}
    (same : v.text ++ rest = w.text ++ others) : v.kind = w.kind := by
  obtain ⟨c, behindC, textV, kindV⟩ := v.exists_text
  obtain ⟨d, behindD, textW, kindW⟩ := w.exists_text
  rw [textV, textW, List.cons_append, List.cons_append, List.cons.injEq] at same
  rw [same.1, kindW, Option.some.injEq] at kindV
  exact kindV.symm

/-- No value starts with what separates or closes. -/
theorem Value.text_ne_cons (v : Value) {c : Char} (noKind : kindOf? c = none)
    (rest others : List Char) : v.text ++ rest ≠ c :: others := by
  intro same
  obtain ⟨d, behind, text, kind⟩ := v.exists_text
  rw [text, List.cons_append, List.cons.injEq] at same
  rw [same.1, noKind] at kind
  cases kind

/-! What a text tells. -/

/-- The text of `a` is not the beginning of another one's, where no number goes on: what was written
and what follows are told from the whole. -/
def IsTold (write : α → List Char) (a : α) : Prop :=
  ∀ b rest others, Ends Number.isNumeric rest → Ends Number.isNumeric others →
    write a ++ rest = write b ++ others → a = b ∧ rest = others

theorem Number.isTold (n : Number) : IsTold Number.text n := by
  intro m rest others ends othersEnd same
  have texts := congrArg (List.takeWhile Number.isNumeric) same
  rw [takeWhile_row n.isNumeric_text ends, takeWhile_row m.isNumeric_text othersEnd] at texts
  obtain rfl := Number.text_injective texts
  exact ⟨rfl, List.append_cancel_left same⟩

/-! Lists. -/

section Lists

variable {α : Type} {write : α → List Char}

/-- Texts with commas between them. -/
def separated (write : α → List Char) : List α → List Char
  | [] => []
  | [a] => write a
  | a :: rest => write a ++ ',' :: separated write rest

/-- What follows the first of several. -/
def following (write : α → List Char) : List α → List Char
  | [] => []
  | a :: rest => ',' :: separated write (a :: rest)

theorem separated_cons (a : α) (rest : List α) :
    separated write (a :: rest) = write a ++ following write rest := by
  cases rest with
  | nil => rw [separated, following, List.append_nil]
  | cons b others => rw [separated, following]; exact nofun

theorem ends_following (as : List α) {close : Char} (noNumber : Number.isNumeric close = false)
    (rest : List Char) : Ends Number.isNumeric (following write as ++ close :: rest) := by
  cases as with
  | nil => simpa [Ends, following] using noNumber
  | cons a as => simp [Ends, following]; decide

theorem isTold_separated {close : Char} (noNumber : Number.isNumeric close = false)
    (noComma : close ≠ ',') (noClose : ∀ a rest others, write a ++ rest ≠ close :: others)
    {as : List α} (told : ∀ a ∈ as, IsTold write a) {bs : List α} {rest others : List Char}
    (same : separated write as ++ close :: rest = separated write bs ++ close :: others) :
    as = bs ∧ rest = others := by
  induction as generalizing bs with
  | nil =>
      cases bs with
      | nil => exact ⟨rfl, (List.cons.inj same).2⟩
      | cons b bs =>
          rw [separated_cons, List.append_assoc] at same
          exact absurd same.symm (noClose _ _ _)
  | cons a as ih =>
      rw [List.forall_mem_cons] at told
      cases bs with
      | nil =>
          rw [separated_cons, List.append_assoc] at same
          exact absurd same (noClose _ _ _)
      | cons b bs =>
          rw [separated_cons, separated_cons, List.append_assoc, List.append_assoc] at same
          -- What follows both is empty or starts with a comma, unlike what closes.
          obtain ⟨rfl, behind⟩ := told.1 b _ _ (ends_following as noNumber rest)
            (ends_following bs noNumber others) same
          cases as with
          | nil =>
              cases bs with
              | nil => exact ⟨rfl, (List.cons.inj behind).2⟩
              | cons b bs => exact absurd (List.cons.inj behind).1 noComma
          | cons a as =>
              cases bs with
              | nil => exact absurd (List.cons.inj behind).1.symm noComma
              | cons b bs =>
                  obtain ⟨tails, rests⟩ := ih told.2 (List.cons.inj behind).2
                  exact ⟨tails ▸ rfl, rests⟩

end Lists

theorem itemsText_eq (items : List Value) : itemsText items = separated Value.text items := by
  induction items with
  | nil => rw [itemsText, separated]
  | cons v rest ih =>
      cases rest with
      | nil => rw [itemsText, separated]
      | cons w others =>
          rw [itemsText, separated, ih]
          all_goals exact nofun

def memberText (member : String × Value) : List Char :=
  stringText member.1 ++ ':' :: member.2.text

theorem membersText_eq (members : List (String × Value)) :
    membersText members = separated memberText members := by
  induction members with
  | nil => rw [membersText, separated]
  | cons member rest ih =>
      obtain ⟨k, v⟩ := member
      cases rest with
      | nil => rw [membersText, separated, memberText]
      | cons other others =>
          rw [membersText, separated, ih, memberText, List.append_assoc, List.cons_append]
          all_goals exact nofun

/-! Values. -/

theorem isTold_memberText {k : String} {v : Value} (told : IsTold Value.text v) :
    IsTold memberText (k, v) := by
  rintro ⟨l, w⟩ rest others ends othersEnd same
  rw [memberText, memberText, List.append_assoc, List.append_assoc] at same
  obtain ⟨rfl, behind⟩ := eq_of_stringText same
  obtain ⟨rfl, rests⟩ := told w rest others ends othersEnd (List.cons.inj behind).2
  exact ⟨rfl, rests⟩

/-- The text of a value tells the value. -/
theorem Value.isTold (v : Value) : IsTold Value.text v := by
  induction v using Value.nested with
  | null =>
      intro w rest others _ _ same
      cases w with
      | null => exact ⟨rfl, List.append_cancel_left same⟩
      | _ => cases kind_eq_of_text same
  | bool b =>
      intro w rest others _ _ same
      cases w with
      | bool c =>
          cases kind_eq_of_text same
          exact ⟨rfl, List.append_cancel_left same⟩
      | _ => cases kind_eq_of_text same
  | number n =>
      intro w rest others ends othersEnd same
      cases w with
      | number m =>
          rw [text, text] at same
          obtain ⟨rfl, rests⟩ := n.isTold m rest others ends othersEnd same
          exact ⟨rfl, rests⟩
      | _ => cases kind_eq_of_text same
  | string s =>
      intro w rest others _ _ same
      cases w with
      | string t =>
          rw [text, text] at same
          obtain ⟨rfl, rests⟩ := eq_of_stringText same
          exact ⟨rfl, rests⟩
      | _ => cases kind_eq_of_text same
  | array items told =>
      intro w rest others _ _ same
      cases w with
      | array copies =>
          have noClose (item : Value) := @text_ne_cons item ']' (by decide)
          simp only [text, itemsText_eq, List.cons_append, List.append_assoc, List.nil_append,
            List.cons.injEq] at same
          obtain ⟨rfl, rests⟩ := isTold_separated (by decide) (by decide) noClose told same.2
          exact ⟨rfl, rests⟩
      | _ => cases kind_eq_of_text same
  | object members told =>
      intro w rest others _ _ same
      cases w with
      | object copies =>
          have noClose (entry : String × Value) (rest others : List Char) :
              memberText entry ++ rest ≠ '\x7d' :: others := nofun
          have membersTold (entry : String × Value) (inside : entry ∈ members) :=
            @isTold_memberText entry.1 entry.2 (told entry inside)
          simp only [text, membersText_eq, List.cons_append, List.append_assoc, List.nil_append,
            List.cons.injEq] at same
          obtain ⟨rfl, rests⟩ := isTold_separated (by decide) (by decide) noClose membersTold same.2
          exact ⟨rfl, rests⟩
      | _ => cases kind_eq_of_text same

/-- Different values have different compact texts. -/
theorem Value.compact_injective : Function.Injective Value.compact := by
  intro v w same
  have texts : v.text ++ [] = w.text ++ [] := by
    rw [List.append_nil, List.append_nil]
    exact String.ofList_injective same
  exact (v.isTold w [] [] nofun nofun texts).1

end Candidacy.Json
