import Candidacy.Proofs.NumberTokens

/-!
Printed text read again. Compact or indented, the text of a value has the same tokens, and from these
the value is read, whatever comes behind them.
-/

namespace Candidacy.Json

/-! The tokens of a value. -/

mutual
def Value.tokens : Value → List Token
  | .null => [.null]
  | .bool b => [.bool b]
  | .number n => [.number (some n)]
  | .string s => [.string (some s)]
  | .array [] => [.openBracket, .closeBracket]
  | .array (v :: rest) => .openBracket :: (v.tokens ++ (furtherItems rest ++ [.closeBracket]))
  | .object [] => [.openBrace, .closeBrace]
  | .object ((k, v) :: rest) =>
      .openBrace :: .string (some k) :: .colon ::
        (v.tokens ++ (furtherMembers rest ++ [.closeBrace]))

def furtherItems : List Value → List Token
  | [] => []
  | v :: rest => .comma :: (v.tokens ++ furtherItems rest)

def furtherMembers : List (String × Value) → List Token
  | [] => []
  | (k, v) :: rest =>
      .comma :: .string (some k) :: .colon :: (v.tokens ++ furtherMembers rest)
end

/-- Something holds of all numbers inside. -/
inductive Value.EachNumber (P : Number → Prop) : Value → Prop
  | null : EachNumber P .null
  | bool (b : Bool) : EachNumber P (.bool b)
  | number {n : Number} (holds : P n) : EachNumber P (.number n)
  | string (s : String) : EachNumber P (.string s)
  | array {items : List Value} (each : ∀ item ∈ items, EachNumber P item) :
      EachNumber P (.array items)
  | object {members : Members} (each : ∀ member ∈ members, EachNumber P member.2) :
      EachNumber P (.object members)

/-- A text for a value: where the value ends, so do its tokens. -/
def IsTextOf (text : List Char) (v : Value) : Prop :=
  ∀ rest, EndsValue rest → Json.tokens (text ++ rest) = v.tokens ++ Json.tokens rest

theorem tokens_string (s : String) (rest : List Char) :
    tokens (stringText s ++ rest) = .string (some s) :: tokens rest := by
  rw [stringText_append, tokens_cons rfl]
  change (lexString ⟨some [], none⟩ _).1 :: tokens (lexString ⟨some [], none⟩ _).2 = _
  rw [lexString_escaped, List.reverse_nil, List.nil_append, String.ofList_toList]

theorem isTextOf_null : IsTextOf Value.null.text .null := by
  intro rest _
  change tokens ('n' :: 'u' :: 'l' :: 'l' :: rest) = _
  rw [tokens_cons rfl]
  rfl

theorem isTextOf_bool (b : Bool) : IsTextOf (Value.bool b).text (.bool b) := by
  intro rest _
  cases b with
  | true =>
      change tokens ('t' :: 'r' :: 'u' :: 'e' :: rest) = _
      rw [tokens_cons rfl]
      rfl
  | false =>
      change tokens ('f' :: 'a' :: 'l' :: 's' :: 'e' :: rest) = _
      rw [tokens_cons rfl]
      rfl

theorem isTextOf_number {n : Number} (reread : (Value.number n).EachNumber Number.IsReread) :
    IsTextOf n.text (.number n) := by
  intro rest ends
  cases reread with
  | number reread => exact tokens_number reread ends

theorem isTextOf_string (s : String) : IsTextOf (stringText s) (.string s) :=
  fun rest _ => tokens_string s rest

/-! Compact text. -/

section Compact

theorem endsValue_following {α : Type} (write : α → List Char) (as : List α) {close : Char}
    (closes : close = ']' ∨ close = '\x7d') (rest : List Char) :
    EndsValue (following write as ++ close :: rest) := by
  intro c first
  cases as with
  | nil =>
      cases first
      exact .inr (closes.imp_right .inl)
  | cons a as =>
      cases first
      exact .inl rfl

theorem tokens_following {items : List Value} (each : ∀ item ∈ items, IsTextOf item.text item)
    (rest : List Char) :
    tokens (following Value.text items ++ ']' :: rest) =
      furtherItems items ++ .closeBracket :: tokens rest := by
  induction items with
  | nil =>
      rw [following, List.nil_append, tokens_cons rfl]
      rfl
  | cons item items ih =>
      rw [List.forall_mem_cons] at each
      have ends := endsValue_following Value.text items (.inl rfl) rest
      rw [following, List.cons_append, tokens_cons rfl, separated_cons, List.append_assoc]
      change .comma :: tokens (item.text ++ _) = _
      rw [each.1 _ ends, ih each.2, furtherItems, List.cons_append, List.append_assoc]

theorem tokens_memberText {member : String × Value} (value : IsTextOf member.2.text member.2)
    {rest : List Char} (ends : EndsValue rest) :
    tokens (memberText member ++ rest) =
      .string (some member.1) :: .colon :: (member.2.tokens ++ tokens rest) := by
  rw [memberText, List.append_assoc, List.cons_append, tokens_string, tokens_cons rfl]
  change _ :: .colon :: tokens (member.2.text ++ rest) = _
  rw [value rest ends]

theorem tokens_following_members {members : List (String × Value)}
    (each : ∀ member ∈ members, IsTextOf member.2.text member.2) (rest : List Char) :
    tokens (following memberText members ++ '\x7d' :: rest) =
      furtherMembers members ++ .closeBrace :: tokens rest := by
  induction members with
  | nil =>
      rw [following, List.nil_append, tokens_cons rfl]
      rfl
  | cons member members ih =>
      rw [List.forall_mem_cons] at each
      have ends := endsValue_following memberText members (.inr rfl) rest
      rw [following, List.cons_append, tokens_cons rfl, separated_cons, List.append_assoc]
      change .comma :: tokens (memberText member ++ _) = _
      rw [tokens_memberText each.1 ends, ih each.2, furtherMembers, List.cons_append,
        List.cons_append, List.cons_append, List.append_assoc]

theorem isTextOf_text {v : Value} (reread : v.EachNumber Number.IsReread) : IsTextOf v.text v := by
  induction v using Value.nested with
  | null => exact isTextOf_null
  | bool b => exact isTextOf_bool b
  | number n => exact isTextOf_number reread
  | string s => exact isTextOf_string s
  | array items ih =>
      cases reread with
      | array reread =>
      intro rest _
      have each : ∀ item ∈ items, IsTextOf item.text item :=
        fun item member => ih item member (reread item member)
      rw [Value.text, itemsText_eq, List.cons_append, List.cons_append, List.append_assoc,
        List.singleton_append, tokens_cons rfl]
      change .openBracket :: tokens (separated Value.text items ++ _) = _
      cases items with
      | nil =>
          rw [separated, List.nil_append, tokens_cons rfl]
          rfl
      | cons item items =>
          rw [List.forall_mem_cons] at each
          have ends := endsValue_following Value.text items (.inl rfl) rest
          rw [separated_cons, List.append_assoc, each.1 _ ends, tokens_following each.2]
          simp only [Value.tokens, List.cons_append, List.append_assoc, List.nil_append]
  | object members ih =>
      cases reread with
      | object reread =>
      intro rest _
      have each : ∀ member ∈ members, IsTextOf member.2.text member.2 :=
        fun member inside => ih member inside (reread member inside)
      rw [Value.text, membersText_eq, List.cons_append, List.cons_append, List.append_assoc,
        List.singleton_append, tokens_cons rfl]
      change .openBrace :: tokens (separated memberText members ++ _) = _
      cases members with
      | nil =>
          rw [separated, List.nil_append, tokens_cons rfl]
          rfl
      | cons member members =>
          rw [List.forall_mem_cons] at each
          have ends := endsValue_following memberText members (.inr rfl) rest
          rw [separated_cons, List.append_assoc, tokens_memberText each.1 ends,
            tokens_following_members each.2]
          simp only [Value.tokens, List.cons_append, List.append_assoc, List.nil_append]

end Compact

/-! Indented text. -/

section Indented

variable {depth : Nat} {rest : List Char}

theorem tokens_newLine (depth : Nat) (rest : List Char) :
    tokens (newLine depth ++ rest) = tokens rest := by
  have blanks (count : Nat) : tokens (List.replicate count ' ') = [] := by
    induction count with
    | zero => rw [List.replicate_zero, tokens]
    | succ count ih => rw [List.replicate_succ, tokens_space rfl, ih]
  refine tokens_append_of_nil ?_ rest
  rw [newLine, tokens_space rfl, blanks]

theorem endsValue_newLine (depth : Nat) (rest : List Char) : EndsValue (newLine depth ++ rest) := by
  intro c first
  cases first
  exact .inr (.inr (.inr rfl))

theorem EndsValue.indentedItems (ends : EndsValue rest) (items : List Value) :
    EndsValue (indentedItems depth items ++ rest) := by
  cases items with
  | nil => rwa [Json.indentedItems, List.nil_append]
  | cons item items =>
      intro c first
      cases first
      exact .inl rfl

theorem EndsValue.indentedMembers (ends : EndsValue rest) (members : List (String × Value)) :
    EndsValue (indentedMembers depth members ++ rest) := by
  cases members with
  | nil => rwa [Json.indentedMembers, List.nil_append]
  | cons member members =>
      intro c first
      cases first
      exact .inl rfl

theorem tokens_indentedItems {items : List Value}
    (each : ∀ item ∈ items, IsTextOf (item.indentedText depth) item) (ends : EndsValue rest) :
    tokens (indentedItems depth items ++ rest) = furtherItems items ++ tokens rest := by
  induction items with
  | nil => rfl
  | cons item items ih =>
      rw [List.forall_mem_cons] at each
      simp only [indentedItems, List.cons_append, List.append_assoc]
      rw [tokens_cons rfl]
      change .comma :: tokens (newLine depth ++ _) = _
      rw [tokens_newLine, each.1 _ (ends.indentedItems items), ih each.2, furtherItems,
        List.cons_append, List.append_assoc]

theorem tokens_indentedMember {member : String × Value}
    (value : IsTextOf (member.2.indentedText depth) member.2) (ends : EndsValue rest) :
    tokens (stringText member.1 ++ ':' :: ' ' :: (member.2.indentedText depth ++ rest)) =
      .string (some member.1) :: .colon :: (member.2.tokens ++ tokens rest) := by
  rw [tokens_string, tokens_cons rfl]
  change _ :: .colon :: tokens (' ' :: (member.2.indentedText depth ++ rest)) = _
  rw [tokens_space rfl, value rest ends]

theorem tokens_indentedMembers {members : List (String × Value)}
    (each : ∀ member ∈ members, IsTextOf (member.2.indentedText depth) member.2)
    (ends : EndsValue rest) :
    tokens (indentedMembers depth members ++ rest) = furtherMembers members ++ tokens rest := by
  induction members with
  | nil => rfl
  | cons member members ih =>
      rw [List.forall_mem_cons] at each
      simp only [indentedMembers, List.cons_append, List.append_assoc, List.nil_append]
      rw [tokens_cons rfl]
      change .comma :: tokens (newLine depth ++ _) = _
      rw [tokens_newLine, tokens_indentedMember each.1 (ends.indentedMembers members), ih each.2,
        furtherMembers]
      simp only [List.cons_append, List.append_assoc]

theorem isTextOf_indentedText {v : Value} (reread : v.EachNumber Number.IsReread) (depth : Nat) :
    IsTextOf (v.indentedText depth) v := by
  induction v using Value.nested generalizing depth with
  | null => exact isTextOf_null
  | bool b => exact isTextOf_bool b
  | number n => exact isTextOf_number reread
  | string s => exact isTextOf_string s
  | array items ih =>
      cases reread with
      | array reread =>
      intro rest _
      have each (depth : Nat) : ∀ item ∈ items, IsTextOf (item.indentedText depth) item :=
        fun item member => ih item member (reread item member) depth
      cases items with
      | nil =>
          rw [Value.indentedText, List.cons_append, List.singleton_append, tokens_cons rfl]
          change .openBracket :: tokens (']' :: rest) = _
          rw [tokens_cons rfl, Value.tokens]
          rfl
      | cons item items =>
          have below := each (depth + 1)
          rw [List.forall_mem_cons] at below
          have ends := endsValue_newLine depth (']' :: rest)
          simp only [Value.indentedText, List.cons_append, List.append_assoc, List.nil_append]
          rw [tokens_cons rfl]
          change .openBracket :: tokens (newLine (depth + 1) ++ _) = _
          rw [tokens_newLine, below.1 _ (ends.indentedItems items), tokens_indentedItems below.2 ends,
            tokens_newLine, tokens_cons rfl]
          simp only [Value.tokens, List.cons_append, List.append_assoc, List.nil_append]
          rfl
  | object members ih =>
      cases reread with
      | object reread =>
      intro rest _
      have each (depth : Nat) : ∀ member ∈ members,
          IsTextOf (member.2.indentedText depth) member.2 :=
        fun member inside => ih member inside (reread member inside) depth
      cases members with
      | nil =>
          rw [Value.indentedText, List.cons_append, List.singleton_append, tokens_cons rfl]
          change .openBrace :: tokens ('\x7d' :: rest) = _
          rw [tokens_cons rfl, Value.tokens]
          rfl
      | cons member members =>
          have below := each (depth + 1)
          rw [List.forall_mem_cons] at below
          have ends := endsValue_newLine depth ('\x7d' :: rest)
          simp only [Value.indentedText, List.cons_append, List.append_assoc, List.nil_append]
          rw [tokens_cons rfl]
          change .openBrace :: tokens (newLine (depth + 1) ++ _) = _
          rw [tokens_newLine, tokens_indentedMember below.1 (ends.indentedMembers members),
            tokens_indentedMembers below.2 ends, tokens_newLine, tokens_cons rfl]
          simp only [Value.tokens, List.cons_append, List.append_assoc, List.nil_append]
          rfl

end Indented

/-! Reading. -/

namespace Document

/-- Reading goes on with these tokens. -/
def Progress.resume : Progress → List Token → Document × List Token
  | .going outer want, ts => readOn outer want ts
  | .finished d, ts => (d, ts)

theorem readOn_cons (outer : List Frame) (want : Want) (t : Token) (ts : List Token) :
    readOn outer want (t :: ts) = (advance outer want t).resume ts := by
  rw [readOn]
  cases advance outer want t <;> rfl

/-- Wherever a value is wanted, this one is read from its tokens. -/
def IsRead (v : Value) : Prop :=
  ∀ outer mayClose ts,
    readOn outer (.value mayClose) (v.tokens ++ ts) = (place (ofValue v) outer).resume ts

theorem readOn_furtherItems {items : List Value} (each : ∀ item ∈ items, IsRead item)
    (outer : List Frame) (before : List Document) (ts : List Token) :
    readOn outer (.afterItem before) (furtherItems items ++ .closeBracket :: ts) =
      (place (.array (before.reverse ++ ofItems items) .closed) outer).resume ts := by
  induction items generalizing before with
  | nil =>
      rw [furtherItems, List.nil_append, readOn_cons, ofItems, List.append_nil]
      rfl
  | cons item items ih =>
      rw [List.forall_mem_cons] at each
      rw [furtherItems, List.cons_append, readOn_cons, List.append_assoc]
      change readOn (.items before :: outer) (.value false) (item.tokens ++ _) = _
      rw [each.1]
      change readOn outer (.afterItem (ofValue item :: before)) _ = _
      rw [ih each.2, List.reverse_cons, List.append_assoc]
      rfl

theorem readOn_furtherMembers {members : List (String × Value)}
    (each : ∀ member ∈ members, IsRead member.2) (outer : List Frame)
    (before : List (Option String × Document)) (ts : List Token) :
    readOn outer (.afterMember before) (furtherMembers members ++ .closeBrace :: ts) =
      (place (.object (before.reverse ++ ofMembers members) .closed) outer).resume ts := by
  induction members generalizing before with
  | nil =>
      rw [furtherMembers, List.nil_append, readOn_cons, ofMembers, List.append_nil]
      rfl
  | cons member members ih =>
      rw [List.forall_mem_cons] at each
      rw [furtherMembers]
      simp only [List.cons_append, List.append_assoc]
      change readOn (.members before (some member.1) :: outer) (.value false)
        (member.2.tokens ++ _) = _
      rw [each.1]
      change readOn outer (.afterMember ((some member.1, ofValue member.2) :: before)) _ = _
      rw [ih each.2, List.reverse_cons, List.append_assoc]
      rfl

theorem isRead (v : Value) : IsRead v := by
  induction v using Value.nested with
  | null => exact fun outer mayClose ts => readOn_cons outer (.value mayClose) .null ts
  | bool b => exact fun outer mayClose ts => readOn_cons outer (.value mayClose) (.bool b) ts
  | number n =>
      exact fun outer mayClose ts => readOn_cons outer (.value mayClose) (.number (some n)) ts
  | string s =>
      exact fun outer mayClose ts => readOn_cons outer (.value mayClose) (.string (some s)) ts
  | array items each =>
      intro outer mayClose ts
      cases items with
      | nil =>
          rw [Value.tokens, List.cons_append, readOn_cons]
          exact readOn_cons (.items [] :: outer) (.value true) .closeBracket ts
      | cons item items =>
          rw [List.forall_mem_cons] at each
          simp only [Value.tokens, List.cons_append, List.append_assoc, List.nil_append]
          change readOn (.items [] :: outer) (.value true) (item.tokens ++ _) = _
          rw [each.1]
          exact readOn_furtherItems each.2 outer [ofValue item] ts
  | object members each =>
      intro outer mayClose ts
      cases members with
      | nil =>
          rw [Value.tokens, List.cons_append, readOn_cons]
          exact readOn_cons outer (.key [] true) .closeBrace ts
      | cons member members =>
          rw [List.forall_mem_cons] at each
          simp only [Value.tokens, List.cons_append, List.append_assoc, List.nil_append]
          change readOn (.members [] (some member.1) :: outer) (.value false)
            (member.2.tokens ++ _) = _
          rw [each.1]
          exact readOn_furtherMembers each.2 outer [(some member.1, ofValue member.2)] ts

theorem ofTokens_tokens (v : Value) : ofTokens v.tokens = (ofValue v, []) := by
  have whole := isRead v [] false []
  rw [List.append_nil] at whole
  exact whole

end Document

/-- What a reader makes of a value, it makes of every text of this value. -/
theorem decodeText_of_isTextOf {α : Type} {read : Source → Document → Except Problem α}
    {cs : List Char} {v : Value} (isText : IsTextOf cs v) :
    decodeText read (String.ofList cs) = read .newText (Document.ofValue v) := by
  have all := isText [] nofun
  rw [List.append_nil, tokens, List.append_nil] at all
  rw [decodeText, String.toList_ofList, all, Document.ofTokens_tokens]
  change (read .newText (Document.ofValue v) >>= fun a => .ok a) = _
  cases read .newText (Document.ofValue v) <;> rfl

theorem decodeText_compact {α : Type} {read : Source → Document → Except Problem α} {v : Value}
    (reread : v.EachNumber Number.IsReread) :
    decodeText read v.compact = read .newText (Document.ofValue v) :=
  decodeText_of_isTextOf (isTextOf_text reread)

theorem decodeText_indented {α : Type} {read : Source → Document → Except Problem α} {v : Value}
    (reread : v.EachNumber Number.IsReread) :
    decodeText read v.indented = read .newText (Document.ofValue v) :=
  decodeText_of_isTextOf (isTextOf_indentedText reread 0)

end Candidacy.Json
