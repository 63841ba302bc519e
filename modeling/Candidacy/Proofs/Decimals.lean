import Candidacy.Instant.Rfc3339
import Mathlib.Tactic.Ring

/-!
Rows of digits. A number is read back from its decimal digits, also with zeros in front and whatever
stands behind them.
-/

namespace Candidacy

/-! The value of a row. -/

theorem digitsValue_append (start : Nat) (front back : List Char) :
    digitsValue start (front ++ back) = digitsValue (digitsValue start front) back :=
  Nat.ofDigitChars_append start

theorem digitsValue_zeros (start count : Nat) :
    digitsValue start (List.replicate count '0') = 10 ^ count * start :=
  Nat.ofDigitChars_replicate_zero

@[simp] theorem digitsValue_toDigits (n : Nat) : digitsValue 0 (Nat.toDigits 10 n) = n :=
  Nat.ofDigitChars_ten_toDigits

theorem isDigit_toDigits {n : Nat} {c : Char} (member : c ∈ Nat.toDigits 10 n) :
    c.isDigit = true :=
  Nat.isDigit_of_mem_toDigits (by decide) (by decide) member

theorem isDigit_zeros {count : Nat} {c : Char} (member : c ∈ List.replicate count '0') :
    c.isDigit = true := by
  rw [List.eq_of_mem_replicate member]
  rfl

/-! Where a row ends. -/

/-- The text does not go on with a character of this kind. -/
def Ends (kind : Char → Bool) (rest : List Char) : Prop :=
  ∀ c ∈ rest.head?, kind c = false

section Row

variable {kind : Char → Bool} {row rest : List Char}

theorem takeWhile_row (each : ∀ c ∈ row, kind c = true) (ends : Ends kind rest) :
    (row ++ rest).takeWhile kind = row := by
  rw [List.takeWhile_append_of_pos each]
  cases rest with
  | nil => simp
  | cons c rest => simp [ends c rfl]

theorem dropWhile_row (each : ∀ c ∈ row, kind c = true) (ends : Ends kind rest) :
    (row ++ rest).dropWhile kind = rest := by
  rw [List.dropWhile_append_of_pos each]
  cases rest with
  | nil => rfl
  | cons c rest => simp [ends c rfl]

theorem spanDigits_row (isDigit : ∀ c ∈ row, c.isDigit = true) (ends : Ends Char.isDigit rest) :
    spanDigits (row ++ rest) = (row, rest) := by
  rw [spanDigits, takeWhile_row isDigit ends, dropWhile_row isDigit ends]

end Row

namespace Instant

/-! Rows of a bounded width. -/

/-- Only a row that has room for more digits has to be followed by something else. -/
theorem takeNumber_row {digits rest : List Char} {least most : Nat}
    (isDigit : ∀ c ∈ digits, c.isDigit = true) (enough : least ≤ digits.length)
    (notMore : digits.length ≤ most) (ends : digits.length < most → Ends Char.isDigit rest) :
    takeNumber least most (digits ++ rest) = some (digitsValue 0 digits, rest) := by
  have cut : Ends Char.isDigit (rest.take (most - digits.length)) := by
    intro c first
    rw [List.head?_take] at first
    split at first
    · cases first
    · next room => exact ends (by omega) c first
  have taken : ((digits ++ rest).take most).takeWhile Char.isDigit = digits := by
    rw [List.take_append, List.take_of_length_le notMore, takeWhile_row isDigit cut]
  simp [takeNumber, taken, enough]

theorem takeNumber_full {digits : List Char} {least : Nat}
    (isDigit : ∀ c ∈ digits, c.isDigit = true) (enough : least ≤ digits.length) (rest : List Char) :
    takeNumber least digits.length (digits ++ rest) = some (digitsValue 0 digits, rest) :=
  takeNumber_row isDigit enough (Nat.le_refl _) fun more => absurd more (Nat.lt_irrefl _)

variable {width n : Nat}

theorem isDigit_padded {c : Char} (member : c ∈ padded width n) : c.isDigit = true := by
  obtain zero | digit := List.mem_append.mp member
  · exact isDigit_zeros zero
  · exact isDigit_toDigits digit

theorem digitsValue_padded (width n : Nat) : digitsValue 0 (padded width n) = n := by
  rw [padded, digitsValue_append, digitsValue_zeros, Nat.mul_zero, digitsValue_toDigits]

theorem length_padded (positive : 0 < width) (fits : n < 10 ^ width) :
    (padded width n).length = width := by
  have short : (Nat.toDigits 10 n).length ≤ width :=
    (Nat.length_toDigits_le_iff (by decide) positive).mpr fits
  rw [padded, List.length_append, List.length_replicate, Nat.sub_add_cancel short]

theorem padded_ne_nil (width n : Nat) : padded width n ≠ [] :=
  List.append_ne_nil_of_right_ne_nil _ Nat.toDigits_ne_nil

/-- A number is read at the width that it was written with, whatever follows it. -/
theorem takeNumber_padded {least : Nat} (positive : 0 < width) (fits : n < 10 ^ width)
    (enough : least ≤ width) (rest : List Char) :
    takeNumber least width (padded width n ++ rest) = some (n, rest) := by
  have length := length_padded positive fits
  have row := takeNumber_full (fun c => @isDigit_padded width n c) (enough.trans_eq length.symm) rest
  rwa [length, digitsValue_padded] at row

end Instant

end Candidacy
