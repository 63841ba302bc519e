import Candidacy.Proofs.RereadValues

/-!
Numbers as tokens. A number that is read again when it stands alone is read again inside any value too,
and integers of 64 bits always are.
-/

namespace Candidacy

/-! Rows of digits. -/

/-- What stands behind a text leaves the digits at its front as they are. -/
theorem spanDigits_append {cs rest : List Char} (ends : Ends Char.isDigit rest) :
    spanDigits (cs ++ rest) = ((spanDigits cs).1, (spanDigits cs).2 ++ rest) := by
  induction cs with
  | nil => exact (spanDigits_row nofun ends : spanDigits ([] ++ rest) = ([], rest))
  | cons c cs ih =>
      simp only [spanDigits, Prod.mk.injEq] at ih
      cases digit : c.isDigit with
      | true => simp [spanDigits, digit, ih]
      | false => simp [spanDigits, digit]

theorem le_digitsValue (start : Nat) (digits : List Char) : start ≤ digitsValue start digits := by
  induction digits generalizing start with
  | nil => exact Nat.le_refl start
  | cons c rest ih =>
      have first := ih (10 * start + (c.toNat - '0'.toNat))
      change start ≤ digitsValue (10 * start + (c.toNat - '0'.toNat)) rest
      omega

/-- Only zero is written with a zero in front. -/
theorem toDigits_ne_zero_cons {n : Nat} (positive : n ≠ 0) (rest : List Char) :
    Nat.toDigits 10 n ≠ '0' :: rest := by
  induction n using Nat.strongRecOn generalizing rest with
  | ind n ih =>
      by_cases small : n < 10
      · have digits : ∀ m < 10, m ≠ 0 → Nat.digitChar m ≠ '0' := by decide
        rw [Nat.toDigits_of_lt_base small]
        intro same
        exact digits n small positive (List.cons.inj same).1
      · have split := Nat.toDigits_append_toDigits (b := 10) (n := n / 10) (d := n % 10)
          (by decide) (by omega) (Nat.mod_lt n (by decide))
        rw [Nat.div_add_mod] at split
        rw [← split]
        intro same
        obtain ⟨c, digits, front⟩ := List.exists_cons_of_ne_nil
          (Nat.toDigits_ne_nil (n := n / 10) (b := 10))
        rw [front, List.cons_append, List.cons.injEq] at same
        exact ih (n / 10) (by omega) (by omega) digits (same.1 ▸ front)

namespace Json

/-! A number and what stands behind it. -/

/-- The end of the text, or what may follow a value: a comma, a closing bracket or a line's end. -/
def EndsValue (rest : List Char) : Prop :=
  ∀ c ∈ rest.head?, c = ',' ∨ c = ']' ∨ c = '\x7d' ∨ c = '\n'

variable {rest : List Char}

theorem EndsValue.endsDigits (ends : EndsValue rest) : Ends Char.isDigit rest := by
  intro c first
  obtain rfl | rfl | rfl | rfl := ends c first <;> rfl

variable {negative hasPoint : Bool} {whole fraction cs left : List Char} {n : Option Number}

theorem lexStop_ne_number : lexStop cs ≠ (.number n, left) := by
  cases cs <;> exact nofun

theorem takeSign_append (some : cs ≠ []) :
    takeSign (cs ++ rest) = ((takeSign cs).1, (takeSign cs).2 ++ rest) := by
  cases cs with
  | nil => exact absurd rfl some
  | cons c cs =>
      simp only [takeSign, List.cons_append]
      split
      · rfl
      · split <;> rfl

theorem lexExponent_append (ends : EndsValue rest)
    (read : lexExponent negative hasPoint whole fraction cs = (.number n, left)) :
    lexExponent negative hasPoint whole fraction (cs ++ rest) = (.number n, left ++ rest) := by
  cases cs with
  | nil => cases read
  | cons c cs =>
      simp only [lexExponent] at read ⊢
      rw [takeSign_append (List.cons_ne_nil c cs), spanDigits_append ends.endsDigits]
      split at read
      · exact absurd read lexStop_ne_number
      · next some =>
          rw [if_neg some]
          rw [Prod.mk.injEq] at read
          rw [← read.2, read.1]

theorem lexEnd_append (ends : EndsValue rest)
    (read : lexEnd negative hasPoint whole fraction cs = (.number n, left)) :
    lexEnd negative hasPoint whole fraction (cs ++ rest) = (.number n, left ++ rest) := by
  cases cs with
  | nil =>
      cases read
      cases rest with
      | nil => rfl
      | cons c rest =>
          have noExponent : ¬(c = 'e' ∨ c = 'E') := by
            obtain rfl | rfl | rfl | rfl := ends c rfl <;> decide
          exact if_neg noExponent
  | cons c cs =>
      simp only [lexEnd, List.cons_append] at read ⊢
      split at read
      · next mark =>
          rw [if_pos mark]
          exact lexExponent_append ends read
      · next noMark =>
          rw [if_neg noMark]
          cases read
          rfl

theorem lexFraction_append (ends : EndsValue rest)
    (read : lexFraction negative whole cs = (.number n, left)) :
    lexFraction negative whole (cs ++ rest) = (.number n, left ++ rest) := by
  simp only [lexFraction] at read ⊢
  rw [spanDigits_append ends.endsDigits]
  split at read
  · exact absurd read lexStop_ne_number
  · next some =>
      rw [if_neg some]
      exact lexEnd_append ends read

theorem lexPoint_append (ends : EndsValue rest)
    (read : lexPoint negative whole cs = (.number n, left)) :
    lexPoint negative whole (cs ++ rest) = (.number n, left ++ rest) := by
  have noPoint {others : List Char} (other : ∀ c ∈ others.head?, c ≠ '.') :
      lexPoint negative whole others = lexEnd negative false whole [] others := by
    unfold lexPoint
    split
    · exact absurd rfl (other '.' rfl)
    · rfl
  cases cs with
  | nil =>
      have other : ∀ c ∈ rest.head?, c ≠ '.' := fun c first => by
        obtain rfl | rfl | rfl | rfl := ends c first <;> decide
      rw [List.nil_append, noPoint other]
      change lexEnd negative false whole [] [] = _ at read
      exact lexEnd_append ends read
  | cons c cs =>
      by_cases point : c = '.'
      · subst point
        exact lexFraction_append ends read
      · have other {tail : List Char} : ∀ d ∈ (c :: tail).head?, d ≠ '.' := fun d first =>
          Option.some.inj first ▸ point
        rw [noPoint other] at read
        rw [List.cons_append, noPoint other]
        exact lexEnd_append ends read

/-- What stands behind a number does not change how it is read. -/
theorem lexNumber_append (ends : EndsValue rest)
    (read : lexNumber negative cs = (.number n, left)) :
    lexNumber negative (cs ++ rest) = (.number n, left ++ rest) := by
  simp only [lexNumber] at read ⊢
  rw [spanDigits_append ends.endsDigits]
  split at read
  · exact absurd read lexStop_ne_number
  · cases read
  · next whole _ _ => exact lexPoint_append ends read

/-! Numbers. -/

theorem takeUp_eq {start : Nat} {digits : List Char}
    (held : digitsValue start digits < UInt64.size) :
    takeUp start digits = (digitsValue start digits, []) := by
  induction digits generalizing start with
  | nil => rfl
  | cons c rest ih =>
      have first : digitsValue start [c] ≤ digitsValue start (c :: rest) :=
        le_digitsValue (digitsValue start [c]) rest
      rw [takeUp, if_pos (first.trans_lt held)]
      exact ih held

/-- A whole number is an integer if 64 bits hold it. -/
theorem Number.ofNumeral?_int {n : Numeral} {m : Nat} (taken : takeUp 0 n.whole = (m, []))
    (fits : negative = true → 0 < m ∧ m ≤ 1 <<< 63) :
    ofNumeral? negative false false n = some (.int (if negative then -m else m)) := by
  have held : (!negative || (0 < m && m ≤ 1 <<< 63)) = true := by
    cases negative with
    | false => rfl
    | true =>
        rw [decide_eq_true (fits rfl).1, decide_eq_true (fits rfl).2]
        rfl
  rw [ofNumeral?, taken]
  exact if_pos held

theorem lexNumber_toDigits (negative : Bool) {m : Nat} (held : m < UInt64.size)
    (fits : negative = true → 0 < m ∧ m ≤ 1 <<< 63) :
    lexNumber negative (Nat.toDigits 10 m) =
      (.number (some (.int (if negative then -m else m))), []) := by
  have row : spanDigits (Nat.toDigits 10 m) = (Nat.toDigits 10 m, []) := by
    have whole : spanDigits (Nat.toDigits 10 m ++ []) = (Nat.toDigits 10 m, []) :=
      spanDigits_row (fun c => @isDigit_toDigits m c) nofun
    rwa [List.append_nil] at whole
  have value : digitsValue 0 (Nat.toDigits 10 m) < UInt64.size := by rwa [digitsValue_toDigits]
  have taken := takeUp_eq value
  rw [digitsValue_toDigits] at taken
  have number := Number.ofNumeral?_int (n := ⟨Nat.toDigits 10 m, [], 0⟩) taken fits
  simp only [lexNumber, row]
  split
  · next empty => exact absurd empty Nat.toDigits_ne_nil
  · next second rest front =>
      by_cases zero : m = 0
      · subst zero
        cases front
      · exact absurd front (toDigits_ne_zero_cons zero _)
  · exact congrArg (fun n => (Token.number n, [])) number

theorem tokens_cons {c : Char} (solid : isSpace c = false) (cs : List Char) :
    tokens (c :: cs) = (lexToken c cs).1 :: tokens (lexToken c cs).2 := by
  rw [tokens, solid]
  rfl

theorem tokens_space {c : Char} (space : isSpace c = true) (cs : List Char) :
    tokens (c :: cs) = tokens cs := by
  rw [tokens, space]
  rfl

theorem lexToken_digit {c : Char} (digit : c.isDigit = true) (cs : List Char) :
    lexToken c cs = lexNumber false (c :: cs) := by
  have other {d : Char} (noDigit : d.isDigit = false) : c ≠ d := by
    rintro rfl
    exact absurd digit (by simp [noDigit])
  simp only [lexToken]
  rw [if_neg (other rfl), if_neg (other rfl), if_neg (other rfl), if_neg (other rfl),
    if_neg (other rfl), if_neg (other rfl), if_neg (other rfl), if_neg (other rfl), if_pos digit]

theorem lexToken_minus (cs : List Char) : lexToken '-' cs = lexNumber true cs := rfl

/-- A text without tokens says nothing in front of another. -/
theorem tokens_append_of_nil {cs : List Char} (nothing : tokens cs = []) (rest : List Char) :
    tokens (cs ++ rest) = tokens rest := by
  induction cs with
  | nil => rfl
  | cons c cs ih =>
      cases space : isSpace c with
      | false =>
          rw [tokens_cons space] at nothing
          cases nothing
      | true =>
          rw [tokens_space space] at nothing
          rw [List.cons_append, tokens_space space]
          exact ih nothing

/-- A number that is read again from its own text. Integers of 64 bits are. -/
inductive Number.IsReread : Number → Prop
  | int {i : Int} (least : -2 ^ 63 ≤ i) (greatest : i < 2 ^ 64) : IsReread (.int i)
  | double {x : Binary64}
      (reads : Value.ofText (Value.number (.double x)).compact = .ok (.number (.double x))) :
      IsReread (.double x)

/-- What a number is read as, if it is read at all. -/
def Lexeme.IsNumber (lexeme : Lexeme) : Prop :=
  (∃ n, lexeme.1 = .number n) ∨ ∃ s, lexeme.1 = .spoilt s

theorem isNumber_lexStop (cs : List Char) : (lexStop cs).IsNumber := by
  cases cs with
  | nil => exact .inr ⟨_, rfl⟩
  | cons c cs => exact .inr ⟨_, rfl⟩

theorem isNumber_lexEnd (negative hasPoint : Bool) (whole fraction cs : List Char) :
    (lexEnd negative hasPoint whole fraction cs).IsNumber := by
  cases cs with
  | nil => exact .inl ⟨_, rfl⟩
  | cons c cs =>
      simp only [lexEnd, lexExponent]
      split
      · split
        · exact isNumber_lexStop _
        · exact .inl ⟨_, rfl⟩
      · exact .inl ⟨_, rfl⟩

theorem isNumber_lexNumber (negative : Bool) (cs : List Char) :
    (lexNumber negative cs).IsNumber := by
  simp only [lexNumber]
  split
  · exact isNumber_lexStop _
  · exact .inr ⟨_, rfl⟩
  · unfold lexPoint
    split
    · simp only [lexFraction]
      split
      · exact isNumber_lexStop _
      · exact isNumber_lexEnd _ _ _ _ _
    · exact isNumber_lexEnd _ _ _ _ _

theorem lexToken_numeric {c : Char} (numeric : Number.isNumeric c = true) (cs : List Char) :
    (∃ negative digits, ∀ rest, lexToken c (cs ++ rest) = lexNumber negative (digits ++ rest)) ∨
      lexToken c cs = (.spoilt (.always .malformed), []) := by
  simp only [Number.isNumeric, Bool.or_eq_true, beq_iff_eq] at numeric
  obtain (((digit | rfl) | rfl) | rfl) | rfl := numeric
  · exact .inl ⟨false, c :: cs, fun rest => lexToken_digit digit (cs ++ rest)⟩
  · exact .inl ⟨true, cs, fun rest => lexToken_minus (cs ++ rest)⟩
  · exact .inr rfl
  · exact .inr rfl
  · exact .inr rfl

theorem isSpace_of_isNumeric {c : Char} (numeric : Number.isNumeric c = true) :
    isSpace c = false := by
  have spaces : ∀ d ∈ [' ', '\t', '\n', '\r'], Number.isNumeric d = false := by
    simp [Number.isNumeric]
  cases space : isSpace c with
  | false => rfl
  | true =>
      have member : c ∈ [' ', '\t', '\n', '\r'] := by
        simpa [isSpace, or_assoc] using space
      rw [spaces c member] at numeric
      cases numeric

theorem Document.eq_number_of_readValue {source : Source} {d : Document} {n : Number}
    (read : d.readValue source = .ok (.number n)) : d = .number (some n) := by
  cases d with
  | number m =>
      cases m with
      | none => cases read
      | some m =>
          cases read
          rfl
  | string s => cases s <;> cases read
  | array items ending =>
      obtain ⟨_, _, read⟩ := bind_eq_ok_iff.mp read
      obtain ⟨_, _, read⟩ := bind_eq_ok_iff.mp read
      obtain ⟨_, _, read⟩ := bind_eq_ok_iff.mp read
      cases read
  | object members ending =>
      obtain ⟨_, _, read⟩ := bind_eq_ok_iff.mp read
      obtain ⟨_, _, read⟩ := bind_eq_ok_iff.mp read
      obtain ⟨_, _, read⟩ := bind_eq_ok_iff.mp read
      cases read
  | _ => cases read

/-- A text that holds a number has one token. -/
theorem ofTokens_of_ofText {text : String} {n : Number}
    (reads : Value.ofText text = .ok (.number n)) :
    Document.ofTokens (tokens text.toList) = (.number (some n), []) := by
  simp only [Value.ofText, decodeText] at reads
  obtain ⟨v, readValue, atEnd⟩ := bind_eq_ok_iff.mp reads
  split at atEnd
  · next nothing =>
      cases atEnd
      refine Prod.ext (Document.eq_number_of_readValue readValue) nothing
  · cases atEnd

theorem tokens_digits {m : Nat} (held : m < UInt64.size) (ends : EndsValue rest) :
    tokens (Nat.toDigits 10 m ++ rest) = .number (some (.int m)) :: tokens rest := by
  have read := lexNumber_append ends (lexNumber_toDigits false held nofun)
  obtain ⟨c, cs, text⟩ := List.exists_cons_of_ne_nil (Nat.toDigits_ne_nil (n := m) (b := 10))
  have digit : c.isDigit = true := isDigit_toDigits (text ▸ List.mem_cons_self)
  rw [text, List.cons_append] at read
  rw [text, List.cons_append, tokens_cons (isSpace_of_isNumeric (Number.isNumeric_of_isDigit digit)),
    lexToken_digit digit, read]
  rfl

/-- What a double's text was read as alone decides how it is read in front of something else. -/
theorem tokens_double {x : Binary64}
    (reads : Value.ofText (Value.number (.double x)).compact = .ok (.number (.double x)))
    (ends : EndsValue rest) :
    tokens ((Number.double x).text ++ rest) = .number (some (.double x)) :: tokens rest := by
  obtain ⟨c, cs, text⟩ := List.exists_cons_of_ne_nil (Number.double x).text_ne_nil
  have numeric := (Number.double x).isNumeric_text c (text ▸ List.mem_cons_self)
  have solid := isSpace_of_isNumeric numeric
  have document := ofTokens_of_ofText reads
  rw [Value.compact, String.toList_ofList, Value.text, text, tokens_cons solid] at document
  rw [text, List.cons_append, tokens_cons solid]
  obtain ⟨negative, digits, same⟩ | spoilt := lexToken_numeric numeric cs
  · have alone := same []
    rw [List.append_nil, List.append_nil] at alone
    rw [alone] at document
    obtain ⟨m, isNumber⟩ | ⟨s, isSpoilt⟩ := isNumber_lexNumber negative digits
    · rw [isNumber] at document
      obtain ⟨rfl, nothing⟩ : m = some (.double x) ∧
          tokens (lexNumber negative digits).2 = [] := by
        simpa [Document.ofTokens, Document.readOn, Document.advance, Document.place] using
          document
      have read := lexNumber_append ends (Prod.ext isNumber rfl)
      rw [same, read, tokens_append_of_nil nothing]
    · rw [isSpoilt] at document
      cases document
  · rw [spoilt] at document
    cases document

/-- The text of a number is read as this number, whatever value it stands in. -/
theorem tokens_number {n : Number} (reread : n.IsReread) (ends : EndsValue rest) :
    tokens (n.text ++ rest) = .number (some n) :: tokens rest := by
  cases reread with
  | @int i least greatest =>
      cases i with
      | ofNat m => exact tokens_digits (Int.ofNat_lt.mp greatest) ends
      | negSucc m =>
          have fits : m + 1 ≤ 2 ^ 63 := by omega
          have held : m + 1 < UInt64.size := fits.trans_lt (by decide)
          have read := lexNumber_append ends
            (lexNumber_toDigits true held fun _ => ⟨Nat.succ_pos m, fits⟩)
          change tokens ('-' :: (Nat.toDigits 10 (m + 1) ++ rest)) = _
          rw [tokens_cons rfl, lexToken_minus, read]
          rfl
  | double reads => exact tokens_double reads ends

end Json

end Candidacy
