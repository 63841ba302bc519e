import Candidacy.Json.Printer
import Candidacy.Proofs.Basins
import Candidacy.Proofs.Decimals

/-!
The texts of numbers. Read as a numeral, the text of a magnitude lies in its basin, and so different
numbers have different texts.
-/

namespace Candidacy

namespace Numeral

/-! What a numeral stands for. -/

def value (n : Numeral) : ℚ :=
  n.digits * 10 ^ n.place

/-- Zeros at either end of a row only move its place. -/
theorem value_eq {whole fraction digits : List Char} {exponent : Int} {front back : Nat}
    (row : whole ++ fraction =
      List.replicate front '0' ++ (digits ++ List.replicate back '0')) :
    value ⟨whole, fraction, exponent⟩ =
      digitsValue 0 digits * 10 ^ (back + exponent - fraction.length) := by
  have total : Numeral.digits ⟨whole, fraction, exponent⟩ = 10 ^ back * digitsValue 0 digits := by
    rw [Numeral.digits, ← digitsValue_append, row, digitsValue_append, digitsValue_append,
      digitsValue_zeros, digitsValue_zeros, Nat.mul_zero]
  have place : (back : Int) + exponent - fraction.length =
      back + place ⟨whole, fraction, exponent⟩ :=
    Int.add_sub_assoc back exponent fraction.length
  rw [value, total, place, zpow_add₀ (by norm_num), zpow_natCast]
  push_cast
  ring

/-! Reading numerals. -/

variable {whole fraction : List Char}

theorem takeSign_signed (exponent : Int) (rest : List Char) :
    takeSign ((if exponent < 0 then '-' else '+') :: rest) = (decide (exponent < 0), rest) := by
  by_cases negative : exponent < 0 <;> simp [takeSign, negative]

theorem exponent?_signed (exponent : Int) :
    exponent? ((if exponent < 0 then '-' else '+') :: Nat.toDigits 10 exponent.natAbs) =
      some exponent := by
  have digits : (Nat.toDigits 10 exponent.natAbs).all Char.isDigit = true :=
    List.all_eq_true.mpr fun c => isDigit_toDigits
  have notEmpty : (Nat.toDigits 10 exponent.natAbs).isEmpty = false :=
    List.isEmpty_eq_false_iff.mpr Nat.toDigits_ne_nil
  have value : (if exponent < 0 then -(exponent.natAbs : Int) else exponent.natAbs) = exponent := by
    split <;> omega
  simp only [exponent?, takeSign_signed, digits, notEmpty, digitsValue_toDigits, decide_eq_true_eq,
    value]
  rfl

/-- Where digits end, the text ends too, or an exponent follows. -/
inductive IsEnd : List Char → Int → Prop
  | nothing : IsEnd [] 0
  | exponent (exponent : Int) :
      IsEnd ('e' :: (if exponent < 0 then '-' else '+') :: Nat.toDigits 10 exponent.natAbs) exponent

theorem IsEnd.endsDigits {rest : List Char} {exponent : Int} (isEnd : IsEnd rest exponent) :
    Ends Char.isDigit rest := by
  cases isEnd <;> simp [Ends]

theorem ofChars?_point {rest : List Char} {exponent : Int} (isEnd : IsEnd rest exponent)
    (notEmpty : whole ≠ []) (wholeDigits : ∀ c ∈ whole, c.isDigit = true)
    (fractionDigits : ∀ c ∈ fraction, c.isDigit = true) :
    ofChars? (whole ++ '.' :: (fraction ++ rest)) = some ⟨whole, fraction, exponent⟩ := by
  have point : Ends Char.isDigit ('.' :: (fraction ++ rest)) := by simp [Ends]
  have hasWhole : whole.isEmpty = false := List.isEmpty_eq_false_iff.mpr notEmpty
  simp only [ofChars?, spanDigits_row wholeDigits point,
    spanDigits_row fractionDigits isEnd.endsDigits, hasWhole, Bool.false_and]
  cases isEnd with
  | nothing => rfl
  | exponent => simp [exponent?_signed]

theorem ofChars?_exponent (notEmpty : whole ≠ []) (wholeDigits : ∀ c ∈ whole, c.isDigit = true)
    (exponent : Int) :
    ofChars? (whole ++ 'e' :: (if exponent < 0 then '-' else '+') ::
      Nat.toDigits 10 exponent.natAbs) = some ⟨whole, [], exponent⟩ := by
  have hasWhole : whole.isEmpty = false := List.isEmpty_eq_false_iff.mpr notEmpty
  simp [ofChars?, spanDigits_row wholeDigits (IsEnd.exponent exponent).endsDigits,
    hasWhole, exponent?_signed]

end Numeral

namespace Binary64

/-! The layout of digits. -/

section Layout

variable {digits : List Char} {first : Int}

/-- The text is a numeral that stands for digits of which the first is at a place. -/
def Writes (text digits : List Char) (first : Int) : Prop :=
  ∃ n, Numeral.ofChars? text = some n ∧
    n.value = digitsValue 0 digits * 10 ^ (first + 1 - digits.length)

theorem writes_of_row {text whole fraction : List Char} {exponent : Int} {front back : Nat}
    (read : Numeral.ofChars? text = some ⟨whole, fraction, exponent⟩)
    (row : whole ++ fraction = List.replicate front '0' ++ (digits ++ List.replicate back '0'))
    (place : back + exponent - fraction.length = first + 1 - digits.length) :
    Writes text digits first :=
  ⟨_, read, place ▸ Numeral.value_eq row⟩

section

variable (notEmpty : digits ≠ []) (isDigit : ∀ c ∈ digits, c.isDigit = true)
include isDigit

/-- Zeros stand between the point and the digits. -/
theorem behindPoint_writes (below : first < 0) :
    Writes (['0', '.'] ++ List.replicate ((-first).toNat - 1) '0' ++ digits) digits first := by
  have fractionDigits : ∀ c ∈ List.replicate ((-first).toNat - 1) '0' ++ digits,
      c.isDigit = true :=
    List.forall_mem_append.mpr ⟨fun _ => isDigit_zeros, isDigit⟩
  have read := @Numeral.ofChars?_point ['0'] _ [] 0 .nothing nofun (fun _ => @isDigit_zeros 1 _)
    fractionDigits
  have zeros : (-first).toNat = (-first).toNat - 1 + 1 := by omega
  rw [List.append_nil] at read
  refine @writes_of_row digits first _ _ _ 0 (-first).toNat 0 read ?_ ?_
  · rw [zeros, List.replicate_succ, List.replicate_zero, List.append_nil]
    rfl
  · rw [List.length_append, List.length_replicate]
    omega

include notEmpty

/-- Zeros stand between the digits and the point. -/
theorem beforePoint_writes (whole : 0 ≤ first) (short : digits.length ≤ first.toNat + 1) :
    Writes (digits ++ List.replicate (first.toNat + 1 - digits.length) '0' ++ ['.', '0'])
      digits first := by
  have wholeDigits : ∀ c ∈ digits ++ List.replicate (first.toNat + 1 - digits.length) '0',
      c.isDigit = true :=
    List.forall_mem_append.mpr ⟨isDigit, fun _ => isDigit_zeros⟩
  have read := @Numeral.ofChars?_point _ ['0'] [] 0 .nothing (by simp [notEmpty]) wholeDigits
    fun _ => @isDigit_zeros 1 _
  refine @writes_of_row digits first _ _ _ 0 0 (first.toNat + 1 - digits.length + 1) read ?_ ?_
  · rw [List.replicate_succ', List.replicate_zero, List.nil_append, List.append_assoc]
  · rw [List.length_singleton]
    omega

theorem aroundPoint_writes (whole : 0 ≤ first) (long : first.toNat + 1 < digits.length) :
    Writes (digits.take (first.toNat + 1) ++ '.' :: digits.drop (first.toNat + 1))
      digits first := by
  have read := @Numeral.ofChars?_point (digits.take (first.toNat + 1))
    (digits.drop (first.toNat + 1)) [] 0 .nothing (by simp [notEmpty])
    (fun c member => isDigit c (List.mem_of_mem_take member))
    (fun c member => isDigit c (List.mem_of_mem_drop member))
  rw [List.append_nil] at read
  refine @writes_of_row digits first _ _ _ 0 0 0 read ?_ ?_
  · rw [List.take_append_drop, List.replicate_zero, List.append_nil, List.nil_append]
  · rw [List.length_drop]
    omega

theorem positional_writes : Writes (positional digits first) digits first := by
  simp only [positional]
  split
  · next below => exact behindPoint_writes isDigit below
  · next whole =>
      split
      · next short => exact beforePoint_writes notEmpty isDigit (Int.not_lt.mp whole) short
      · next long =>
          exact aroundPoint_writes notEmpty isDigit (Int.not_lt.mp whole) (Nat.not_le.mp long)

theorem scientific_writes : Writes (scientific digits first) digits first := by
  have firstDigit : digits.take 1 ≠ [] := by simp [notEmpty]
  have wholeDigits : ∀ c ∈ digits.take 1, c.isDigit = true :=
    fun c member => isDigit c (List.mem_of_mem_take member)
  have row : digits.take 1 ++ digits.drop 1 =
      List.replicate 0 '0' ++ (digits ++ List.replicate 0 '0') := by
    rw [List.take_append_drop, List.replicate_zero, List.append_nil, List.nil_append]
  have positive : 0 < digits.length := List.length_pos_iff.mpr notEmpty
  rw [scientific]
  split
  · next single =>
      have read := Numeral.ofChars?_exponent firstDigit wholeDigits first
      have nothing : digits.drop 1 = [] := List.drop_eq_nil_of_le single
      rw [nothing] at row
      rw [List.append_nil, List.append_assoc]
      refine writes_of_row read row ?_
      rw [List.length_nil]
      omega
  · have fractionDigits : ∀ c ∈ digits.drop 1, c.isDigit = true :=
      fun c member => isDigit c (List.mem_of_mem_drop member)
    have read := Numeral.ofChars?_point (.exponent first) firstDigit wholeDigits fractionDigits
    rw [List.append_assoc, List.append_assoc]
    refine writes_of_row read row ?_
    rw [List.length_drop]
    omega

end

end Layout

/-! The digits of a number. -/

/-- The digits without the zeros at their end. -/
theorem Digits.leading_spec (d : Digits) :
    ∃ zeros : Nat, Nat.toDigits 10 d.value = d.leading.1 ++ List.replicate zeros '0' := by
  generalize all : Nat.toDigits 10 d.value = digits
  have split := @List.takeWhile_append_dropWhile _ (· == '0') digits.reverse
  have zeros : ∀ c ∈ (digits.reverse.takeWhile (· == '0')).reverse, c = '0' := by
    intro c member
    exact beq_iff_eq.mp (List.all_eq_true.mp List.all_takeWhile c (List.mem_reverse.mp member))
  refine ⟨(digits.reverse.takeWhile (· == '0')).reverse.length, ?_⟩
  rw [← List.eq_replicate_of_mem zeros, leading, all, ← List.reverse_append, split,
    List.reverse_reverse]

variable {d : Digits}

theorem Digits.isDigit_leading {c : Char} (member : c ∈ d.leading.1) : c.isDigit = true := by
  obtain ⟨zeros, all⟩ := d.leading_spec
  exact isDigit_toDigits (all ▸ List.mem_append_left _ member)

/-- Dropping zeros moves the last place, not the first. -/
theorem Digits.leading_value (d : Digits) :
    (digitsValue 0 d.leading.1 : ℚ) * 10 ^ (d.leading.2 + 1 - d.leading.1.length) =
      d.value * 10 ^ d.place := by
  obtain ⟨zeros, all⟩ := d.leading_spec
  have value : d.value = 10 ^ zeros * digitsValue 0 d.leading.1 := by
    rw [← digitsValue_zeros, ← digitsValue_append, ← all, digitsValue_toDigits]
  have length : (Nat.toDigits 10 d.value).length = d.leading.1.length + zeros := by
    rw [all, List.length_append, List.length_replicate]
  have place : d.leading.2 + 1 - d.leading.1.length = zeros + d.place := by
    have first : d.leading.2 = d.place + (Nat.toDigits 10 d.value).length - 1 := rfl
    omega
  rw [place, zpow_add₀ (by norm_num), zpow_natCast]
  conv_rhs => rw [value]
  push_cast
  ring

theorem Digits.leading_ne_nil (positive : d.value ≠ 0) : d.leading.1 ≠ [] := by
  intro nothing
  have value := d.leading_value
  rw [nothing, digitsValue, List.foldl_nil, Nat.cast_zero, zero_mul, eq_comm, mul_eq_zero] at value
  obtain zero | zero := value
  · exact positive (Nat.cast_eq_zero.mp zero)
  · exact absurd zero (zpow_ne_zero _ (by norm_num))

/-! The text of a magnitude. -/

variable {x y : Binary64}

theorem not_contains_zero (positive : x.rank ≠ 0) : ¬x.basin.Contains (quarters 0) := by
  intro inside
  obtain ⟨before, next⟩ := Nat.exists_eq_add_one_of_ne_zero positive
  have low := inside.bounds.1
  have step := stepOf_pos before
  rw [quarters, mul_zero, zero_mul, basin_low next, Nat.cast_nonpos, edgeOf] at low
  omega

theorem shortest_value_ne_zero (positive : x.rank ≠ 0) : x.shortest.value ≠ 0 := by
  intro zero
  have inside := (x.basin.holds_iff _ _).mp (holds_shortest positive)
  rw [zero, Nat.cast_zero, zero_mul] at inside
  exact not_contains_zero positive inside

theorem magnitudeText_zero (zero : x.rank = 0) : x.magnitudeText = ['0', '.', '0'] :=
  if_pos (beq_iff_eq.mpr zero)

theorem magnitudeText_eq (positive : x.rank ≠ 0) :
    x.magnitudeText =
      if -5 ≤ x.shortest.leading.2 ∧ x.shortest.leading.2 ≤ 15 then
        positional x.shortest.leading.1 x.shortest.leading.2
      else scientific x.shortest.leading.1 x.shortest.leading.2 :=
  if_neg fun zero => positive (beq_iff_eq.mp zero)

/-- The text of a magnitude is a numeral in its basin. -/
theorem magnitudeText_reads (positive : x.rank ≠ 0) :
    ∃ n, Numeral.ofChars? x.magnitudeText = some n ∧ x.basin.Contains (quarters n.value) := by
  have notEmpty := Digits.leading_ne_nil (shortest_value_ne_zero positive)
  have isDigit : ∀ c ∈ x.shortest.leading.1, c.isDigit = true := fun c => Digits.isDigit_leading
  have inside := (x.basin.holds_iff _ _).mp (holds_shortest positive)
  have writes : Writes x.magnitudeText x.shortest.leading.1 x.shortest.leading.2 := by
    rw [magnitudeText_eq positive]
    split
    · exact positional_writes notEmpty isDigit
    · exact scientific_writes notEmpty isDigit
  obtain ⟨n, read, value⟩ := writes
  rw [Digits.leading_value] at value
  exact ⟨n, read, value ▸ inside⟩

theorem magnitudeText_ne_zero (positive : x.rank ≠ 0) : x.magnitudeText ≠ ['0', '.', '0'] := by
  intro same
  obtain ⟨n, read, inside⟩ := magnitudeText_reads positive
  have zero : Numeral.ofChars? ['0', '.', '0'] = some ⟨['0'], ['0'], 0⟩ := by decide
  rw [same, zero, Option.some.injEq] at read
  have value : Numeral.value ⟨['0'], ['0'], 0⟩ = 0 := by
    rw [@Numeral.value_eq ['0'] ['0'] [] 0 2 0 rfl, digitsValue, List.foldl_nil, Nat.cast_zero,
      zero_mul]
  rw [← read, value] at inside
  exact not_contains_zero positive inside

/-- Different magnitudes have different texts. -/
theorem rank_eq_of_magnitudeText (same : x.magnitudeText = y.magnitudeText) : x.rank = y.rank := by
  by_cases zeroX : x.rank = 0
  · rw [magnitudeText_zero zeroX] at same
    by_contra different
    exact magnitudeText_ne_zero (fun zeroY => different (zeroX.trans zeroY.symm)) same.symm
  · by_cases zeroY : y.rank = 0
    · rw [magnitudeText_zero zeroY] at same
      exact absurd same (magnitudeText_ne_zero zeroX)
    · obtain ⟨n, readX, inX⟩ := magnitudeText_reads zeroX
      obtain ⟨m, readY, inY⟩ := magnitudeText_reads zeroY
      rw [same, readY, Option.some.injEq] at readX
      exact rank_eq_of_contains inX (readX ▸ inY)

/-! The text of a double. -/

theorem magnitudeText_ne_minus (x : Binary64) (rest : List Char) :
    x.magnitudeText ≠ '-' :: rest := by
  intro minus
  by_cases zero : x.rank = 0
  · rw [magnitudeText_zero zero] at minus
    cases minus
  · obtain ⟨n, read, _⟩ := magnitudeText_reads zero
    have noNumeral : Numeral.ofChars? ('-' :: rest) = none := by
      simp [Numeral.ofChars?, spanDigits]
    rw [minus, noNumeral] at read
    cases read

/-- Different doubles have different texts, and so do the two zeros. -/
theorem text_injective : Function.Injective text := by
  intro x y same
  have signs : x.negative = y.negative ∧ x.magnitudeText = y.magnitudeText := by
    cases signX : x.negative <;> cases signY : y.negative <;> rw [text, text, signX, signY] at same
    · exact ⟨rfl, same⟩
    · exact absurd same (x.magnitudeText_ne_minus _)
    · exact absurd same.symm (y.magnitudeText_ne_minus _)
    · exact ⟨rfl, (List.cons.inj same).2⟩
  exact eq_of_rank signs.1 (rank_eq_of_magnitudeText signs.2)

end Binary64

namespace Json.Number

/-! The text of a number. -/

/-- The characters of which numbers consist. -/
def isNumeric (c : Char) : Bool :=
  c.isDigit || c == '-' || c == '+' || c == '.' || c == 'e'

theorem isNumeric_of_isDigit {c : Char} (digit : c.isDigit = true) : isNumeric c = true := by
  simp [isNumeric, digit]

end Json.Number

namespace Binary64

open Json.Number (isNumeric isNumeric_of_isDigit)

section

variable {digits : List Char} {first : Int}

theorem isNumeric_positional (isDigit : ∀ c ∈ digits, c.isDigit = true) :
    ∀ c ∈ positional digits first, isNumeric c = true := by
  have numeric : ∀ c ∈ digits, isNumeric c = true :=
    fun c member => isNumeric_of_isDigit (isDigit c member)
  have zeros (count : Nat) : ∀ c ∈ List.replicate count '0', isNumeric c = true :=
    fun c member => isNumeric_of_isDigit (isDigit_zeros member)
  simp only [positional]
  split
  · simp only [List.forall_mem_append, List.forall_mem_cons]
    exact ⟨⟨⟨rfl, rfl, nofun⟩, zeros _⟩, numeric⟩
  · split
    · simp only [List.forall_mem_append, List.forall_mem_cons]
      exact ⟨⟨numeric, zeros _⟩, rfl, rfl, nofun⟩
    · simp only [List.forall_mem_append, List.forall_mem_cons]
      exact ⟨fun c member => numeric c (List.mem_of_mem_take member), rfl,
        fun c member => numeric c (List.mem_of_mem_drop member)⟩

theorem isNumeric_scientific (isDigit : ∀ c ∈ digits, c.isDigit = true) :
    ∀ c ∈ scientific digits first, isNumeric c = true := by
  have numeric : ∀ c ∈ digits, isNumeric c = true :=
    fun c member => isNumeric_of_isDigit (isDigit c member)
  have fraction : ∀ c ∈ if digits.length ≤ 1 then [] else '.' :: digits.drop 1,
      isNumeric c = true := by
    split
    · exact nofun
    · rw [List.forall_mem_cons]
      exact ⟨rfl, fun c member => numeric c (List.mem_of_mem_drop member)⟩
  have sign : isNumeric (if first < 0 then '-' else '+') = true := by
    split <;> rfl
  simp only [scientific, List.forall_mem_append, List.forall_mem_cons]
  exact ⟨⟨⟨fun c member => numeric c (List.mem_of_mem_take member), fraction⟩,
    rfl, sign, nofun⟩, fun c member => isNumeric_of_isDigit (isDigit_toDigits member)⟩

/-- A double is not taken for an integer. -/
theorem mark_mem_positional : '.' ∈ positional digits first := by
  simp only [positional]
  split
  · simp
  · split <;> simp

theorem mark_mem_scientific : 'e' ∈ scientific digits first := by
  simp [scientific]

end

theorem isNumeric_magnitudeText (x : Binary64) : ∀ c ∈ x.magnitudeText, isNumeric c = true := by
  have isDigit : ∀ c ∈ x.shortest.leading.1, c.isDigit = true := fun c => Digits.isDigit_leading
  by_cases zero : x.rank = 0
  · rw [magnitudeText_zero zero, List.forall_mem_cons, List.forall_mem_cons]
    exact ⟨rfl, rfl, List.forall_mem_singleton.mpr rfl⟩
  · rw [magnitudeText_eq zero]
    split
    · exact isNumeric_positional isDigit
    · exact isNumeric_scientific isDigit

theorem mark_mem_magnitudeText (x : Binary64) :
    '.' ∈ x.magnitudeText ∨ 'e' ∈ x.magnitudeText := by
  by_cases zero : x.rank = 0
  · rw [magnitudeText_zero zero]
    decide
  · rw [magnitudeText_eq zero]
    split
    · exact .inl mark_mem_positional
    · exact .inr mark_mem_scientific

theorem magnitudeText_sublist_text (x : Binary64) : x.magnitudeText ⊆ x.text := by
  rw [text]
  split
  · exact List.subset_cons_self _ _
  · exact List.Subset.refl _

end Binary64

namespace Json.Number

theorem isNumeric_text (n : Number) : ∀ c ∈ n.text, isNumeric c = true := by
  have digits (m : Nat) : ∀ c ∈ Nat.toDigits 10 m, isNumeric c = true :=
    fun c member => isNumeric_of_isDigit (isDigit_toDigits member)
  match n with
  | .int (.ofNat m) => exact digits m
  | .int (.negSucc m) => exact List.forall_mem_cons.mpr ⟨by decide, digits (m + 1)⟩
  | .double x =>
      rw [text, Binary64.text]
      split
      · exact List.forall_mem_cons.mpr ⟨by decide, x.isNumeric_magnitudeText⟩
      · exact x.isNumeric_magnitudeText

theorem text_ne_nil (n : Number) : n.text ≠ [] := by
  match n with
  | .int (.ofNat m) => exact Nat.toDigits_ne_nil
  | .int (.negSucc m) => exact List.cons_ne_nil _ _
  | .double x =>
      obtain point | exponent := x.mark_mem_magnitudeText
      · exact List.ne_nil_of_mem (x.magnitudeText_sublist_text point)
      · exact List.ne_nil_of_mem (x.magnitudeText_sublist_text exponent)

/-- An integer has neither a point nor an exponent, and a double has one of them. -/
theorem int_text_ne_double_text (value : Int) (x : Binary64) :
    (Number.int value).text ≠ (Number.double x).text := by
  intro same
  have plain : ∀ c ∈ (Number.int value).text, c.isDigit = true ∨ c = '-' := by
    cases value with
    | ofNat n => exact fun c member => .inl (isDigit_toDigits member)
    | negSucc n =>
        exact List.forall_mem_cons.mpr ⟨.inr rfl, fun c member => .inl (isDigit_toDigits member)⟩
  rw [same] at plain
  obtain point | exponent := x.mark_mem_magnitudeText
  · exact absurd (plain _ (x.magnitudeText_sublist_text point)) (by decide)
  · exact absurd (plain _ (x.magnitudeText_sublist_text exponent)) (by decide)

theorem toDigits_injective {m n : Nat} (same : Nat.toDigits 10 m = Nat.toDigits 10 n) : m = n := by
  have value := congrArg (digitsValue 0) same
  rwa [digitsValue_toDigits, digitsValue_toDigits] at value

theorem toDigits_ne_minus (n : Nat) (rest : List Char) : Nat.toDigits 10 n ≠ '-' :: rest := by
  intro minus
  have digit : '-'.isDigit = true := isDigit_toDigits (minus ▸ List.mem_cons_self)
  exact absurd digit (by decide)

theorem int_text_injective {a b : Int} (same : (Number.int a).text = (Number.int b).text) :
    a = b := by
  cases a with
  | ofNat m =>
      cases b with
      | ofNat n => exact congrArg Int.ofNat (toDigits_injective same)
      | negSucc n => exact absurd same (toDigits_ne_minus m _)
  | negSucc m =>
      cases b with
      | ofNat n => exact absurd same.symm (toDigits_ne_minus n _)
      | negSucc n =>
          exact congrArg Int.negSucc (Nat.succ.inj (toDigits_injective (List.cons.inj same).2))

/-- Different numbers have different texts. -/
theorem text_injective : Function.Injective Number.text := by
  intro a b same
  cases a with
  | int a =>
      cases b with
      | int b => exact congrArg Number.int (int_text_injective same)
      | double y => exact absurd same (int_text_ne_double_text a y)
  | double x =>
      cases b with
      | int b => exact absurd same.symm (int_text_ne_double_text b x)
      | double y => exact congrArg Number.double (Binary64.text_injective same)

end Json.Number

end Candidacy
