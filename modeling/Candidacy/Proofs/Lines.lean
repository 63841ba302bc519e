import Candidacy.Menu

/-!
Text as it arrives. The bytes of a text are read back as the text, and the lines of the bytes are
those of its characters, since only the line end itself has a byte 10.
-/

namespace Candidacy

/-! Reading the bytes of a text. -/

namespace Text.Utf8

theorem scalar?_toNat {least : Nat} {c : Char} (enough : least ≤ c.toNat) :
    scalar? least c.toNat = some c := by
  have isScalar : least ≤ c.toNat ∧ c.toNat.isValidChar := ⟨enough, c.valid⟩
  rw [scalar?, dif_pos isScalar]
  rfl

theorem isContinuation_ofNat (n : Nat) : isContinuation (UInt8.ofNat (n % 64 + 0x80)) = true := by
  have value : (UInt8.ofNat (n % 64 + 0x80)).toNat = n % 64 + 0x80 :=
    UInt8.toNat_ofNat_of_lt' (show n % 64 + 0x80 < 256 by omega)
  simp only [isContinuation, UInt8.le_iff_toNat_le, UInt8.lt_iff_toNat_lt, value, Bool.and_eq_true,
    decide_eq_true_eq]
  exact ⟨Nat.le_add_left _ _, show n % 64 + 0x80 < 0xC0 by omega⟩

theorem sixBits_ofNat (n : Nat) : sixBits (UInt8.ofNat (n % 64 + 0x80)) = n % 64 := by
  rw [sixBits, UInt8.toNat_ofNat']
  omega

section Widths

variable {a b c d : UInt8} (rest : List UInt8)

theorem next?_one (head : a.toNat < 0x80) :
    next? (a :: rest) = (scalar? 0 a.toNat).map (·, rest) := by
  rw [next?.eq_def]
  exact if_pos (UInt8.lt_iff_toNat_lt.mpr head)

theorem next?_two (least : 0xC0 ≤ a.toNat) (head : a.toNat < 0xE0)
    (second : isContinuation b = true) :
    next? (a :: b :: rest) =
      (scalar? 0x80 (a.toNat % 32 * 64 + sixBits b)).map (·, rest) := by
  simp only [next?, UInt8.lt_iff_toNat_lt, UInt8.reduceToNat, head, second, if_true,
    if_neg (show ¬a.toNat < 128 by omega), if_neg (show ¬a.toNat < 192 by omega)]

theorem next?_three (least : 0xE0 ≤ a.toNat) (head : a.toNat < 0xF0)
    (second : isContinuation b = true) (third : isContinuation c = true) :
    next? (a :: b :: c :: rest) =
      (scalar? 0x800 ((a.toNat % 16 * 64 + sixBits b) * 64 + sixBits c)).map (·, rest) := by
  simp only [next?, UInt8.lt_iff_toNat_lt, UInt8.reduceToNat, head, second, third, Bool.and_self,
    if_true, if_neg (show ¬a.toNat < 128 by omega), if_neg (show ¬a.toNat < 192 by omega),
    if_neg (show ¬a.toNat < 224 by omega)]

theorem next?_four (least : 0xF0 ≤ a.toNat) (head : a.toNat < 0xF8)
    (second : isContinuation b = true) (third : isContinuation c = true)
    (fourth : isContinuation d = true) :
    next? (a :: b :: c :: d :: rest) =
      (scalar? 0x10000
        (((a.toNat % 8 * 64 + sixBits b) * 64 + sixBits c) * 64 + sixBits d)).map (·, rest) := by
  simp only [next?, UInt8.lt_iff_toNat_lt, UInt8.reduceToNat, head, second, third, fourth,
    Bool.and_self, if_true, if_neg (show ¬a.toNat < 128 by omega),
    if_neg (show ¬a.toNat < 192 by omega), if_neg (show ¬a.toNat < 224 by omega),
    if_neg (show ¬a.toNat < 240 by omega)]

end Widths

theorem toNat_lt (c : Char) : c.toNat < 0x110000 := by
  obtain low | ⟨_, high⟩ := c.valid
  · exact Nat.lt_trans low (by decide)
  · exact high

/-- The bytes of a character are read as this character. -/
theorem next?_encode (c : Char) (rest : List UInt8) :
    next? (String.utf8EncodeChar c ++ rest) = some (c, rest) := by
  have bound : c.val.toNat < 0x110000 := toNat_lt c
  fun_cases String.utf8EncodeChar c with
  | case1 v one =>
      have head : (UInt8.ofNat v).toNat = v := UInt8.toNat_ofNat_of_lt' (show v < 256 by omega)
      rw [List.cons_append, List.nil_append, next?_one rest (by omega), head,
        show v = c.toNat from rfl, scalar?_toNat (Nat.zero_le _)]
      rfl
  | case2 v one two =>
      have head : (UInt8.ofNat (v / 64 % 0x20 + 0xC0)).toNat = v / 64 % 0x20 + 0xC0 :=
        UInt8.toNat_ofNat_of_lt' (show _ < 256 by omega)
      have value : (v / 64 % 0x20 + 0xC0) % 32 * 64 + v % 64 = c.toNat :=
        show _ = v by omega
      rw [List.cons_append, List.cons_append, List.nil_append,
        next?_two rest (by omega) (by omega) (isContinuation_ofNat v), head, sixBits_ofNat, value,
        scalar?_toNat (show 0x80 ≤ v by omega)]
      rfl
  | case3 v one two three =>
      have head : (UInt8.ofNat (v / 4096 % 0x10 + 0xE0)).toNat = v / 4096 % 0x10 + 0xE0 :=
        UInt8.toNat_ofNat_of_lt' (show _ < 256 by omega)
      have value : ((v / 4096 % 0x10 + 0xE0) % 16 * 64 + v / 64 % 64) * 64 + v % 64 = c.toNat :=
        show _ = v by omega
      rw [List.cons_append, List.cons_append, List.cons_append, List.nil_append,
        next?_three rest (by omega) (by omega) (isContinuation_ofNat (v / 64))
          (isContinuation_ofNat v),
        head, sixBits_ofNat, sixBits_ofNat, value, scalar?_toNat (show 0x800 ≤ v by omega)]
      rfl
  | case4 v one two three =>
      have head : (UInt8.ofNat (v / 262144 % 0x08 + 0xF0)).toNat = v / 262144 % 0x08 + 0xF0 :=
        UInt8.toNat_ofNat_of_lt' (show _ < 256 by omega)
      have value : (((v / 262144 % 0x08 + 0xF0) % 8 * 64 + v / 4096 % 64) * 64 + v / 64 % 64) * 64 +
          v % 64 = c.toNat :=
        show _ = v by omega
      rw [List.cons_append, List.cons_append, List.cons_append, List.cons_append, List.nil_append,
        next?_four rest (by omega) (by omega) (isContinuation_ofNat (v / 4096))
          (isContinuation_ofNat (v / 64)) (isContinuation_ofNat v),
        head, sixBits_ofNat, sixBits_ofNat, sixBits_ofNat, value,
        scalar?_toNat (show 0x10000 ≤ v by omega)]
      rfl

def encode (cs : List Char) : List UInt8 :=
  cs.flatMap String.utf8EncodeChar

theorem encode_cons (c : Char) (rest : List Char) :
    encode (c :: rest) = String.utf8EncodeChar c ++ encode rest :=
  List.flatMap_cons

theorem pieces_encode (cs : List Char) {fuel : Nat} (enough : cs.length ≤ fuel) :
    pieces fuel (encode cs) = cs.map Sum.inl := by
  induction cs generalizing fuel with
  | nil => cases fuel <;> rfl
  | cons c rest ih =>
      obtain ⟨fuel, rfl⟩ := Nat.exists_eq_add_one_of_ne_zero (Nat.ne_zero_of_lt enough)
      obtain ⟨b, bytes, split⟩ := List.exists_cons_of_ne_nil (@String.utf8EncodeChar_ne_nil c)
      have first := next?_encode c (encode rest)
      rw [split, List.cons_append] at first
      rw [encode_cons, split, List.cons_append, pieces, first, List.map_cons]
      exact congrArg _ (ih (Nat.le_of_succ_le_succ enough))

theorem length_le_length_encode (cs : List Char) : cs.length ≤ (encode cs).length := by
  induction cs with
  | nil => exact Nat.le_refl 0
  | cons c rest ih =>
      have some : 0 < (String.utf8EncodeChar c).length :=
        List.length_pos_iff.mpr String.utf8EncodeChar_ne_nil
      rw [encode_cons, List.length_append, List.length_cons]
      omega

/-- The bytes of a text are read as this text. -/
theorem decode?_encode (cs : List Char) : decode? (encode cs) = some (String.ofList cs) := by
  have characters : (cs.map (Sum.inl : Char → Char ⊕ UInt8)).mapM Sum.getLeft? = some cs := by
    rw [List.mapM_map]
    change cs.mapM (fun c => (pure c : Option Char)) = _
    rw [List.mapM_pure, List.map_id_fun']
    rfl
  rw [decode?, pieces_encode cs (length_le_length_encode cs), characters, Option.map_some]

/-- Only of no bytes at all the text is empty. -/
theorem decode?_ne_empty {bytes : List UInt8} (more : bytes ≠ []) : decode? bytes ≠ some "" := by
  obtain ⟨b, rest, rfl⟩ := List.exists_cons_of_ne_nil more
  obtain ⟨first, others, split⟩ : ∃ first others,
      pieces (b :: rest).length (b :: rest) = first :: others := by
    rw [List.length_cons, pieces]
    split <;> exact ⟨_, _, rfl⟩
  rw [decode?, split, List.mapM_cons]
  intro read
  simp [Option.bind_eq_some_iff] at read

/-- What a text is kept as are its bytes. -/
theorem bytes_eq_encode (text : String) : text.toUTF8.data.toList = encode text.toList := by
  have bytes : text.toUTF8 = text.toList.utf8Encode := by
    rw [String.toUTF8_eq_toByteArray, ← String.toByteArray_ofList, String.ofList_toList]
  rw [bytes, List.utf8Encode, List.toList_data_toByteArray, encode]

end Text.Utf8

/-! Lines. -/

namespace Menu

open Text.Utf8 (encode encode_cons)

/-- The first line with its line end, and what stands behind it. At the end of a text the line is
empty. -/
def takeLine : List Char → List Char × List Char
  | [] => ([], [])
  | c :: rest =>
      if c = '\n' then ([c], rest)
      else (c :: (takeLine rest).1, (takeLine rest).2)

theorem length_takeLine_lt {cs : List Char} (more : cs ≠ []) :
    (takeLine cs).2.length < cs.length := by
  induction cs with
  | nil => exact absurd rfl more
  | cons c rest ih =>
      rw [takeLine]
      split
      · exact Nat.lt_succ_self _
      · cases rest with
        | nil => exact Nat.lt_succ_self _
        | cons d others => exact Nat.lt_succ_of_lt (ih nofun)

theorem newline_notMem_encode {c : Char} (different : c ≠ '\n') :
    ∀ b ∈ String.utf8EncodeChar c, b ≠ 10 := by
  have byte_ne {n : Nat} (small : n < 256) (other : n ≠ 10) : UInt8.ofNat n ≠ 10 := by
    intro same
    exact other ((UInt8.toNat_ofNat_of_lt' small).symm.trans (congrArg UInt8.toNat same))
  have other : c.val.toNat ≠ 10 := by
    intro same
    exact different (Char.ext (UInt32.toNat_inj.mp same))
  have bound : c.val.toNat < 0x110000 := Text.Utf8.toNat_lt c
  fun_cases String.utf8EncodeChar c with
  | case1 v one =>
      rw [List.forall_mem_singleton]
      exact byte_ne (by omega) other
  | case2 v one two =>
      simp only [List.forall_mem_cons]
      refine ⟨?_, ?_, nofun⟩
      all_goals exact byte_ne (by omega) (by omega)
  | case3 v one two three =>
      simp only [List.forall_mem_cons]
      refine ⟨?_, ?_, ?_, nofun⟩
      all_goals exact byte_ne (by omega) (by omega)
  | case4 v one two three =>
      simp only [List.forall_mem_cons]
      refine ⟨?_, ?_, ?_, ?_, nofun⟩
      all_goals exact byte_ne (by omega) (by omega)

theorem splitLines_append {front : List UInt8} (some : front ≠ []) (closed : ∀ b ∈ front, b ≠ 10)
    (bytes : List UInt8) :
    splitLines (front ++ bytes) =
      match splitLines bytes with
      | [] => [front]
      | line :: others => (front ++ line) :: others := by
  induction front with
  | nil => exact absurd rfl some
  | cons b rest ih =>
      rw [List.forall_mem_cons] at closed
      rw [List.cons_append, splitLines, if_neg closed.1]
      cases rest with
      | nil => rfl
      | cons d others =>
          rw [ih nofun closed.2]
          cases splitLines bytes <;> rfl

theorem splitLines_encode {cs : List Char} (more : cs ≠ []) :
    splitLines (encode cs) = encode (takeLine cs).1 :: splitLines (encode (takeLine cs).2) := by
  induction cs with
  | nil => exact absurd rfl more
  | cons c rest ih =>
      rw [takeLine]
      split
      · next newline =>
          subst newline
          rfl
      · next different =>
          rw [encode_cons, splitLines_append String.utf8EncodeChar_ne_nil
            (newline_notMem_encode different)]
          cases rest with
          | nil =>
            simp [takeLine, encode, splitLines]
          | cons d others => 
            rw [ih nofun, encode_cons]

theorem ne_nil_of_mem_splitLines (bytes : List UInt8) : ∀ line ∈ splitLines bytes, line ≠ [] := by
  induction bytes with
  | nil => exact nofun
  | cons b rest ih =>
      rw [splitLines]
      split
      · exact List.forall_mem_cons.mpr ⟨nofun, ih⟩
      · split
        · exact List.forall_mem_singleton.mpr nofun
        · next line others lines =>
            rw [lines, List.forall_mem_cons] at ih
            exact List.forall_mem_cons.mpr ⟨nofun, ih.2⟩

/-- A line has at least the byte that it ends with. -/
theorem ne_empty_of_mem_inputLines (bytes : List UInt8) :
    ∀ line ∈ inputLines bytes, line ≠ some "" := by
  rw [inputLines, List.forall_mem_map]
  intro line member
  exact Text.Utf8.decode?_ne_empty (ne_nil_of_mem_splitLines bytes line member)

theorem inputLines_encode {cs : List Char} (more : cs ≠ []) :
    inputLines (encode cs) =
      some (String.ofList (takeLine cs).1) :: inputLines (encode (takeLine cs).2) := by
  rw [inputLines, splitLines_encode more, List.map_cons, Text.Utf8.decode?_encode]
  rfl

end Menu

end Candidacy
