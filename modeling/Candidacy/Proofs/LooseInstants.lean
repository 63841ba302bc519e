import Candidacy.Instant.Loose
import Candidacy.Proofs.StrictForm

/-!
Instants read in the looser form. Whatever is read in the form of RFC 3339 is read as the same instant.
Beyond that, every instant that the calendar reaches is read from its text in universal time, those
before the year 0 and behind the year 9999 included.
-/

namespace Candidacy.Instant

open Text (isBlank trimStart trimStart_cons)

variable {row cs rest : List Char} {n : Nat}

/-! Parts. Where no white space stands, none is cut off. -/

theorem trimStart_row (isDigit : ∀ c ∈ row, c.isDigit = true) (notEmpty : row ≠ [])
    (rest : List Char) : trimStart (row ++ rest) = row ++ rest := by
  obtain ⟨c, digits, rfl⟩ := List.exists_cons_of_ne_nil notEmpty
  have solid := Text.isBlank_of_isDigit (isDigit c List.mem_cons_self)
  rw [List.cons_append, trimStart_cons solid]

theorem IsRow.ne_nil {width : Nat} (isRow : IsRow width row) (positive : 0 < width) : row ≠ [] :=
  List.ne_nil_of_length_pos (positive.trans_eq isRow.length.symm)

theorem isRow_padded {width : Nat} (positive : 0 < width) (fits : n < 10 ^ width) :
    IsRow width (padded width n) :=
  ⟨length_padded positive fits, fun _ => isDigit_padded⟩

theorem IsRow.takePart_eq (isRow : IsRow 2 row) (rest : List Char) :
    takePart (row ++ rest) = some (digitsValue 0 row, rest) := by
  rw [takePart, trimStart_row isRow.isDigit (isRow.ne_nil (by decide)),
    isRow.takeNumber_of_le (by decide)]

theorem takePart_padded (fits : n < 100) (rest : List Char) :
    takePart (padded 2 n ++ rest) = some (n, rest) := by
  rw [(isRow_padded (by decide) fits).takePart_eq, digitsValue_padded]

theorem takePart_of_takeNumber (read : takeNumber 2 2 cs = some (n, rest)) :
    takePart cs = some (n, rest) := by
  obtain ⟨row, isRow, rfl, rfl⟩ := takeNumber_eq_some_iff.mp read
  exact isRow.takePart_eq rest

theorem takeSeparator_cons {mark : Char} (solid : isBlank mark = false) (rest : List Char) :
    takeSeparator mark (mark :: rest) = some rest := by
  rw [takeSeparator, trimStart_cons solid, takeMark, if_pos BEq.rfl]

theorem takeSeparator_hyphen (rest : List Char) : takeSeparator '-' ('-' :: rest) = some rest :=
  takeSeparator_cons rfl rest

theorem takeSeparator_colon (rest : List Char) : takeSeparator ':' (':' :: rest) = some rest :=
  takeSeparator_cons rfl rest

theorem takeSeparator_of_takeMark {mark : Char} (solid : isBlank mark = false)
    (read : takeMark (· == mark) cs = some rest) : takeSeparator mark cs = some rest := by
  obtain ⟨c, same, rfl⟩ := takeMark_eq_some_iff.mp read
  rw [eq_of_beq same, takeSeparator_cons solid]

/-! Dates. -/

/-- Four digits without a sign are a year. -/
theorem IsRow.takeSignedYear_eq (isRow : IsRow 4 row) (rest : List Char) :
    takeSignedYear (row ++ rest) = some ((digitsValue 0 row : Int), rest) := by
  have read := isRow.takeNumber_of_le (by decide : 1 ≤ 4) rest
  have notEmpty := isRow.ne_nil (by decide)
  rw [takeSignedYear, trimStart_row isRow.isDigit notEmpty]
  obtain ⟨c, digits, rfl⟩ := List.exists_cons_of_ne_nil notEmpty
  have digit : c.isDigit = true := isRow.isDigit c List.mem_cons_self
  split
  · next same => exact absurd (List.cons.inj same).1 (ne_of_isDigit digit rfl)
  · next same => exact absurd (List.cons.inj same).1 (ne_of_isDigit digit rfl)
  · rw [read]
    rfl

/-- Behind a sign, all digits are those of the year. -/
theorem takeSignedYear_signed {sign : Char} (isSign : sign = '+' ∨ sign = '-')
    (ends : Ends Char.isDigit rest) :
    takeSignedYear (sign :: (padded 4 n ++ rest)) =
      some (if sign = '-' then -(n : Int) else n, rest) := by
  have notEmpty := List.length_pos_iff.mpr (padded_ne_nil 4 n)
  have read : takeNumber 1 (padded 4 n ++ rest).length (padded 4 n ++ rest) = some (n, rest) := by
    rw [takeNumber_row (fun _ => isDigit_padded) notEmpty (by simp) fun _ => ends,
      digitsValue_padded]
  obtain rfl | rfl := isSign
  all_goals
    rw [takeSignedYear, trimStart_cons rfl]
    simp only [read]
    rfl

/-- A year is read as it is written, with its sign or without. -/
theorem takeSignedYear_yearText (year : Int) (rest : List Char) :
    takeSignedYear (yearText year ++ '-' :: rest) = some (year, '-' :: rest) := by
  have ends : Ends Char.isDigit ('-' :: rest) := by simp [Ends]
  rw [yearText]
  split
  · next fourDigits =>
      have isRow := isRow_padded (by decide : 0 < 4) (by omega : year.toNat < 10 ^ 4)
      rw [isRow.takeSignedYear_eq, digitsValue_padded, Int.toNat_of_nonneg fourDigits.1]
  · have isSign : (if year < 0 then '-' else '+') = '+' ∨ (if year < 0 then '-' else '+') = '-' := by
      split <;> simp
    rw [List.cons_append, takeSignedYear_signed isSign ends]
    split <;> grind

theorem takeLooseDate_written {date : Date} (isDate : date.exists? = true) (rest : List Char) :
    takeLooseDate (yearText date.year ++ '-' :: (padded 2 date.month ++
      '-' :: (padded 2 date.day ++ rest))) = some (date, rest) := by
  obtain ⟨month, day⟩ := Date.two_digits isDate
  simp [takeLooseDate, takeSignedYear_yearText, takeSeparator_hyphen, takePart_padded month,
    takePart_padded day]

theorem takeLooseDate_of_takeDate {date : Date} (read : takeDate cs = some (date, rest)) :
    takeLooseDate cs = some (date, rest) := by
  obtain ⟨year, month, day, yearRow, monthRow, dayRow, rfl, rfl⟩ := takeDate_eq_some_iff.mp read
  simp [takeLooseDate, yearRow.takeSignedYear_eq, takeSeparator_hyphen, monthRow.takePart_eq,
    dayRow.takePart_eq]

/-! Offsets. -/

theorem isOffsetGap_of_isDigit {c : Char} (digit : c.isDigit = true) : isOffsetGap c = false := by
  have noColon : c ≠ ':' := ne_of_isDigit digit rfl
  simp [isOffsetGap, noColon, Text.isBlank_of_isDigit digit]

/-- One colon is a gap between hours and minutes. -/
theorem takeLooseOffset_signed {sign : Char} (isSign : sign = '+' ∨ sign = '-' ∨ sign = '−')
    {hours minutes : List Char} (hoursRow : IsRow 2 hours) (minutesRow : IsRow 2 minutes)
    (inHour : digitsValue 0 minutes ≤ 59) :
    takeLooseOffset (sign :: (hours ++ ':' :: minutes)) =
      some (if sign = '+' then
          ((digitsValue 0 hours * 3600 + digitsValue 0 minutes * 60 : Nat) : Int)
        else -((digitsValue 0 hours * 3600 + digitsValue 0 minutes * 60 : Nat) : Int), []) := by
  have hoursRead := hoursRow.takeNumber_eq (':' :: minutes)
  have minutesRead := minutesRow.takeNumber_eq []
  rw [List.append_nil] at minutesRead
  have gap : (':' :: minutes).dropWhile isOffsetGap = minutes := by
    have behind : Ends isOffsetGap minutes := fun c first =>
      isOffsetGap_of_isDigit (minutesRow.isDigit c (List.mem_of_mem_head? first))
    exact dropWhile_row (by simp [isOffsetGap] : ∀ c ∈ [':'], isOffsetGap c = true) behind
  have early : ¬60 ≤ digitsValue 0 minutes := by omega
  have noLetters (others : List Char) :
      ¬((sign :: others).take 3).map Char.toUpper = ['U', 'T', 'C'] := by
    obtain rfl | rfl | rfl := isSign <;> exact fun same => absurd (List.cons.inj same).1 (by decide)
  rw [takeLooseOffset, if_neg (noLetters _)]
  obtain rfl | rfl | rfl := isSign
  all_goals
    simp [hoursRead, gap, minutesRead, early]

theorem takeLooseOffset_of_takeOffset {zone : List Char} {offset : Int}
    (read : takeOffset zone = some offset) :
    takeLooseOffset (trimStart zone) = some (offset, []) := by
  cases zone with
  | nil => cases read
  | cons sign others =>
      by_cases more : others = []
      · subst more
        simp only [takeOffset, Option.ite_none_right_eq_some, Bool.or_eq_true, beq_iff_eq] at read
        obtain ⟨rfl | rfl, same⟩ := read
        all_goals
          cases same
          rfl
      · obtain ⟨hours, minutes, hoursRow, minutesRow, inHour, rfl, ⟨rfl, rfl⟩ | ⟨isMinus, rfl⟩⟩ :=
          (takeOffset_signed_eq_some_iff more).mp read
        · exact takeLooseOffset_signed (.inl rfl) hoursRow minutesRow inHour
        · obtain rfl | rfl := isMinus
          · exact takeLooseOffset_signed (.inr (.inl rfl)) hoursRow minutesRow inHour
          · exact takeLooseOffset_signed (.inr (.inr rfl)) hoursRow minutesRow inHour

/-! The whole text. -/

/-- A text in the stricter form is read as the same instant. -/
theorem ofLoose?_of_ofRfc3339? {instant : Instant} (isRead : ofRfc3339? cs = some instant) :
    ofLoose? cs = some instant := by
  simp only [ofRfc3339?, Option.bind_eq_bind, Option.bind_eq_some_iff, Prod.exists] at isRead
  obtain ⟨date, _, dateRead, _, markRead, hour, _, hourRead, _, colonRead, minute, _, minuteRead,
    _, nextRead, second, _, secondRead, nanos, _, fractionRead, offset, offsetRead, isInstant⟩ :=
    isRead
  simp only [ofLoose?, Option.bind_eq_bind, takeLooseDate_of_takeDate dateRead, Option.bind_some,
    markRead, takePart_of_takeNumber hourRead, takeSeparator_of_takeMark rfl colonRead,
    takePart_of_takeNumber minuteRead, takeSeparator_of_takeMark rfl nextRead,
    takePart_of_takeNumber secondRead, fractionRead, takeLooseOffset_of_takeOffset offsetRead,
    List.all_nil, if_true, isInstant]

/-- The looser form has more texts. -/
example : ofRfc3339? "2025-1-5 3:4 : 5 utc".toList = none ∧
    ofLoose? "2025-1-5 3:4 : 5 utc".toList = ofRfc3339? "2025-01-05T03:04:05Z".toList := by
  decide

/-- What is written for a date and a time of day is read as these. -/
theorem ofLoose?_localText {date : Date} (isDate : date.exists? = true) {second : Nat}
    (inDay : second < 86400) (leap : Bool) {nanos : Nat} (bound : nanos < 1000000000) :
    ofLoose? (localText date second leap nanos ++ ['Z']) =
      ofLocal? ⟨date, second / 3600, second / 60 % 60, second % 60 + if leap then 1 else 0,
        nanos, 0⟩ := by
  have hour : second / 3600 < 100 := by omega
  have minute : second / 60 % 60 < 100 := by omega
  have last : (second % 60 + if leap then 1 else 0) < 100 := by
    split <;> omega
  have mark (rest : List Char) :
      takeMark (fun c => c == 'T' || c == 't' || c == ' ') ('T' :: rest) = some rest := rfl
  have fraction := takeFraction_fractionText bound (IsZone.endsFraction .universal)
  have zone : takeLooseOffset (trimStart ['Z']) = some (0, []) := rfl
  simp only [localText, List.append_assoc, List.cons_append, ofLoose?, Option.bind_eq_bind,
    takeLooseDate_written isDate, Option.bind_some, mark, takePart_padded hour, takeSeparator_colon,
    takePart_padded minute, takePart_padded last, fraction, zone, List.all_nil, if_true]

/-- Any instant that the calendar reaches is read from its text. -/
theorem ofLoose?_text {instant : Instant} (proper : instant.IsProper) :
    ofLoose? instant.text.toList = some instant := by
  have year := inRange_iff_year.mp proper.inRange
  have inDay : ((instant.secs + 0 * 60) % 86400).toNat < 86400 := by omega
  rw [text, String.toList_ofList, textAt]
  change ofLoose? (localText _ _ _ _ ++ ['Z']) = _
  rw [ofLoose?_localText (Date.exists?_ofDays _) inDay _ (Nat.mod_lt _ (by decide))]
  have shown := ofLocal?_shownOn proper (by decide : (0 : Int).natAbs < 1440) year
  simpa [shownOn] using shown

/-- The first instant whose year has five digits. -/
example : Instant.text ⟨253402300800, 0⟩ = "+10000-01-01T00:00:00Z" ∧
    ofLoose? "+10000-01-01T00:00:00Z".toList = some ⟨253402300800, 0⟩ := by
  decide

end Candidacy.Instant
