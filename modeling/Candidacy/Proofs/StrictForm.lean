import Candidacy.Proofs.WrittenInstants
import Mathlib.Data.List.Induction

/-!
The strict form of an instant. A text that is no mail date names an instant just if it is in this form
to the letter; and no text in this form is a mail date.
-/

namespace Candidacy

/-! Days of a year. -/

theorem Date.toDays_bounds {date : Date} (isDate : date.exists? = true) :
    yearStart date.year ≤ date.toDays ∧ date.toDays < yearStart (date.year + 1) := by
  rw [exists?] at isDate
  cases found : (monthLengths (isLeap date.year))[date.month - 1]? with
  | none => simp [found] at isDate
  | some length =>
      obtain ⟨inside, rfl⟩ := List.getElem?_eq_some_iff.mp found
      simp only [found, Bool.and_eq_true, decide_eq_true_eq] at isDate
      have parts := congrArg List.sum
        (List.take_append_drop (date.month - 1) (monthLengths (isLeap date.year)))
      rw [List.sum_append, List.drop_eq_getElem_cons inside, List.sum_cons, sum_monthLengths]
        at parts
      rw [toDays, monthStart, ← List.sum_eq_foldl, yearStart_succ]
      omega

theorem digitsValue_lt {row : List Char} (isDigit : ∀ c ∈ row, c.isDigit = true) :
    digitsValue 0 row < 10 ^ row.length := by
  induction row using List.reverseRecOn with
  | nil => decide
  | append_singleton front last ih =>
      have before := ih fun c member => isDigit c (List.mem_append_left _ member)
      have digit := (Char.isDigit_iff_toNat.mp
        (isDigit last (List.mem_append_right _ List.mem_cons_self))).2
      change last.toNat ≤ 57 at digit
      rw [digitsValue_append, List.length_append, List.length_singleton, Nat.pow_succ]
      change 10 * digitsValue 0 front + (last.toNat - 48) < _
      omega

namespace Instant

/-! The form. -/

structure IsRow (width : Nat) (row : List Char) : Prop where
  length : row.length = width
  isDigit : ∀ c ∈ row, c.isDigit = true

/-- Year, month and day of a date that the calendar has. -/
inductive IsDateText : List Char → Prop
  | intro {year month day : List Char} (yearRow : IsRow 4 year) (monthRow : IsRow 2 month)
      (dayRow : IsRow 2 day)
      (isDate : Date.exists?
        ⟨digitsValue 0 year, digitsValue 0 month, digitsValue 0 day⟩ = true) :
      IsDateText (year ++ '-' :: (month ++ '-' :: day))

/-- Nothing, or a point with any digits behind it. -/
inductive IsFraction : List Char → Prop
  | whole : IsFraction []
  | digits {row : List Char} (notEmpty : row ≠ []) (isDigit : ∀ c ∈ row, c.isDigit = true) :
      IsFraction ('.' :: row)

/-- Hour, minute and second of a day, and what follows the second's point. -/
inductive IsTimeText : List Char → Prop
  | intro {hour minute second fraction : List Char} (hourRow : IsRow 2 hour)
      (minuteRow : IsRow 2 minute) (secondRow : IsRow 2 second) (isFraction : IsFraction fraction)
      (inDay : digitsValue 0 hour ≤ 23) (inHour : digitsValue 0 minute ≤ 59)
      (inMinute : digitsValue 0 second ≤ 60) :
      IsTimeText (hour ++ ':' :: (minute ++ ':' :: (second ++ fraction)))

/-- What may stand between date and time, for universal time, and as the sign of an offset. -/
structure Spelling where
  marks : List Char
  letters : List Char
  signs : List Char

/-- A letter for universal time, or a sign with the hours and minutes of less than a day. -/
inductive IsOffset (spelling : Spelling) : List Char → Prop
  | universal {letter : Char} (allowed : letter ∈ spelling.letters) : IsOffset spelling [letter]
  | signed {sign : Char} {hours minutes : List Char} (allowed : sign ∈ spelling.signs)
      (hoursRow : IsRow 2 hours) (minutesRow : IsRow 2 minutes)
      (inHour : digitsValue 0 minutes ≤ 59)
      (inDay : digitsValue 0 hours * 60 + digitsValue 0 minutes < 24 * 60) :
      IsOffset spelling (sign :: (hours ++ ':' :: minutes))

/-- Date, time and offset, and nothing else. -/
inductive IsTextIn (spelling : Spelling) : List Char → Prop
  | intro {date time offset : List Char} {mark : Char} (isDate : IsDateText date)
      (allowed : mark ∈ spelling.marks) (isTime : IsTimeText time)
      (isOffset : IsOffset spelling offset) :
      IsTextIn spelling (date ++ mark :: (time ++ offset))

def Spelling.strict : Spelling := ⟨['T'], ['Z'], ['+', '-']⟩

/-- All that the reader takes: small letters, a blank and the sign U+2212 too. -/
def Spelling.lax : Spelling := ⟨['T', 't', ' '], ['Z', 'z'], ['+', '-', '−']⟩

theorem IsOffset.head_mem {spelling : Spelling} {c : Char} {cs : List Char}
    (isOffset : IsOffset spelling (c :: cs)) : c ∈ spelling.letters ++ spelling.signs := by
  cases isOffset with
  | universal allowed => exact List.mem_append_left _ allowed
  | signed allowed => exact List.mem_append_right _ allowed

theorem IsOffset.lax_of_strict {offset : List Char} (isOffset : IsOffset .strict offset) :
    IsOffset .lax offset := by
  have letters : ∀ c ∈ Spelling.strict.letters, c ∈ Spelling.lax.letters := by
    simp [Spelling.strict, Spelling.lax]
  have signs : ∀ c ∈ Spelling.strict.signs, c ∈ Spelling.lax.signs := by
    simp [Spelling.strict, Spelling.lax]
  cases isOffset with
  | universal allowed => exact .universal (letters _ allowed)
  | signed allowed hoursRow minutesRow inHour inDay =>
      exact .signed (signs _ allowed) hoursRow minutesRow inHour inDay

theorem IsTextIn.begins {spelling : Spelling} {cs : List Char} (isText : IsTextIn spelling cs) :
    ∃ a b c rest, a.isDigit = true ∧ b.isDigit = true ∧ c.isDigit = true ∧
      cs = a :: b :: c :: rest := by
  cases isText with
  | intro isDate =>
  cases isDate with
  | intro yearRow =>
      obtain ⟨a, others, rfl⟩ := List.exists_cons_of_length_eq_add_one yearRow.length
      obtain ⟨b, c, d, rfl⟩ := List.length_eq_three.mp (Nat.succ.inj yearRow.length)
      exact ⟨a, b, c, _, yearRow.isDigit a (by simp), yearRow.isDigit b (by simp),
        yearRow.isDigit c (by simp), rfl⟩

/-! The steps of the reader, backwards. -/

variable {cs rest : List Char} {n : Nat}

theorem IsRow.takeNumber_of_le {width least : Nat} {row : List Char} (isRow : IsRow width row)
    (enough : least ≤ width) (rest : List Char) :
    takeNumber least width (row ++ rest) = some (digitsValue 0 row, rest) := by
  have taken := takeNumber_full isRow.isDigit (enough.trans_eq isRow.length.symm) rest
  rwa [isRow.length] at taken

theorem IsRow.takeNumber_eq {width : Nat} {row : List Char} (isRow : IsRow width row)
    (rest : List Char) : takeNumber width width (row ++ rest) = some (digitsValue 0 row, rest) :=
  isRow.takeNumber_of_le (Nat.le_refl width) rest

theorem takeNumber_eq_some_iff {width : Nat} :
    takeNumber width width cs = some (n, rest) ↔
      ∃ row, IsRow width row ∧ cs = row ++ rest ∧ digitsValue 0 row = n := by
  constructor
  · intro taken
    simp only [takeNumber] at taken
    split at taken
    · cases taken
    · next enough =>
        simp only [Option.some.injEq, Prod.mk.injEq] at taken
        obtain ⟨rfl, rfl⟩ := taken
        have front : (cs.take width).takeWhile Char.isDigit <+: cs :=
          (List.takeWhile_prefix _).trans (List.take_prefix width cs)
        have short := (List.takeWhile_sublist Char.isDigit (l := cs.take width)).length_le
        rw [List.length_take] at short
        refine ⟨_, ⟨by omega, ?_⟩, (List.prefix_iff_eq_append.mp front).symm, rfl⟩
        exact fun c member => List.all_eq_true.mp List.all_takeWhile c member
  · intro apart
    obtain ⟨row, isRow, rfl, rfl⟩ := apart
    exact isRow.takeNumber_eq rest

theorem takeMark_eq_some_iff {mark : Char → Bool} :
    takeMark mark cs = some rest ↔ ∃ c, mark c = true ∧ cs = c :: rest := by
  cases cs with
  | nil => simp [takeMark]
  | cons c others =>
      simp only [takeMark, List.cons.injEq]
      constructor
      · intro taken
        split at taken
        · next marked =>
            cases taken
            exact ⟨c, marked, rfl, rfl⟩
        · cases taken
      · intro apart
        obtain ⟨d, marked, rfl, rfl⟩ := apart
        exact if_pos marked

theorem takeDate_eq_some_iff {date : Date} :
    takeDate cs = some (date, rest) ↔
      ∃ year month day, IsRow 4 year ∧ IsRow 2 month ∧ IsRow 2 day ∧
        cs = year ++ '-' :: (month ++ '-' :: (day ++ rest)) ∧
        date = ⟨digitsValue 0 year, digitsValue 0 month, digitsValue 0 day⟩ := by
  constructor
  · intro taken
    simp only [takeDate, Option.bind_eq_bind, Option.pure_def, Option.bind_eq_some_iff,
      Prod.exists, takeNumber_eq_some_iff, takeMark_eq_some_iff, beq_iff_eq, exists_eq_left,
      Option.some.injEq, Prod.mk.injEq] at taken
    obtain ⟨_, _, ⟨year, yearRow, rfl, rfl⟩, _, rfl, _, _, ⟨month, monthRow, rfl, rfl⟩, _, rfl,
      _, _, ⟨day, dayRow, rfl, rfl⟩, rfl, rfl⟩ := taken
    exact ⟨year, month, day, yearRow, monthRow, dayRow, rfl, rfl⟩
  · intro apart
    obtain ⟨year, month, day, yearRow, monthRow, dayRow, rfl, rfl⟩ := apart
    simp [takeDate, yearRow.takeNumber_eq, monthRow.takeNumber_eq, dayRow.takeNumber_eq, takeMark]

theorem takeFraction_eq_some (taken : takeFraction cs = some (n, rest)) :
    ∃ fraction, IsFraction fraction ∧ cs = fraction ++ rest := by
  unfold takeFraction at taken
  split at taken
  · next digits =>
      simp only [spanDigits] at taken
      by_cases empty : digits.takeWhile Char.isDigit = []
      · simp [empty] at taken
      · simp only [List.isEmpty_iff, empty, if_false, Option.pure_def, Option.some.injEq,
          Prod.mk.injEq] at taken
        obtain ⟨_, rfl⟩ := taken
        refine ⟨'.' :: digits.takeWhile Char.isDigit, .digits empty ?_, ?_⟩
        · exact fun c member => List.all_eq_true.mp List.all_takeWhile c member
        · rw [List.cons_append, List.takeWhile_append_dropWhile]
  · cases taken
    exact ⟨[], .whole, rfl⟩

theorem IsFraction.takeFraction_eq {fraction : List Char} (isFraction : IsFraction fraction)
    (ends : EndsFraction rest) : ∃ nanos, takeFraction (fraction ++ rest) = some (nanos, rest) := by
  cases isFraction with
  | whole =>
      cases rest with
      | nil => exact ⟨0, rfl⟩
      | cons c rest =>
          have other := (ends c rfl).2
          exact ⟨0, by simp [takeFraction, other]⟩
  | digits notEmpty isDigit =>
      simp [takeFraction, spanDigits_row isDigit ends.endsDigits, notEmpty]

theorem takeOffset_signed_eq_some_iff {sign : Char} {offset : Int} (more : cs ≠ []) :
    takeOffset (sign :: cs) = some offset ↔
      ∃ hours minutes, IsRow 2 hours ∧ IsRow 2 minutes ∧ digitsValue 0 minutes ≤ 59 ∧
        cs = hours ++ ':' :: minutes ∧
        ((sign = '+' ∧
            offset = ((digitsValue 0 hours * 3600 + digitsValue 0 minutes * 60 : Nat) : Int)) ∨
          ((sign = '-' ∨ sign = '−') ∧
            offset = -((digitsValue 0 hours * 3600 + digitsValue 0 minutes * 60 : Nat) : Int))) := by
  obtain ⟨c, others, rfl⟩ := List.exists_cons_of_ne_nil more
  simp only [takeOffset, Option.bind_eq_bind, Option.pure_def, Option.bind_eq_some_iff,
    Prod.exists, takeNumber_eq_some_iff, takeMark_eq_some_iff, beq_iff_eq, exists_eq_left]
  constructor
  · intro taken
    obtain ⟨_, _, ⟨hours, hoursRow, split, rfl⟩, _, rfl, _, rest, ⟨minutes, minutesRow, rfl, rfl⟩,
      signed⟩ := taken
    by_cases atEnd : digitsValue 0 minutes < 60 ∧ rest = []
    · obtain ⟨inHour, rfl⟩ := atEnd
      rw [List.append_nil] at split
      refine ⟨hours, minutes, hoursRow, minutesRow, Nat.le_of_lt_succ inHour, split, ?_⟩
      grind
    · simp [atEnd] at signed
  · intro apart
    obtain ⟨hours, minutes, hoursRow, minutesRow, inHour, split, signed⟩ := apart
    refine ⟨_, _, ⟨hours, hoursRow, split, rfl⟩, _, rfl, _, [],
      ⟨minutes, minutesRow, (List.append_nil minutes).symm, rfl⟩, ?_⟩
    grind

/-- An offset of less than a day is read just from what the reader's spelling allows. -/
theorem takeOffset_eq_some_iff {zone : List Char} :
    (∃ offset, takeOffset zone = some offset ∧ offset.natAbs < 86400) ↔
      IsOffset .lax zone := by
  constructor
  · intro taken
    obtain ⟨offset, taken, near⟩ := taken
    cases zone with
    | nil => cases taken
    | cons sign others =>
        by_cases more : others = []
        · subst more
          refine .universal ?_
          simp only [takeOffset] at taken
          simp only [Spelling.lax]
          grind
        · obtain ⟨hours, minutes, hoursRow, minutesRow, inHour, rfl, signed⟩ :=
            (takeOffset_signed_eq_some_iff more).mp taken
          refine .signed ?_ hoursRow minutesRow inHour (by omega)
          simp only [Spelling.lax]
          grind
  · intro isOffset
    cases isOffset with
    | universal allowed =>
        simp only [Spelling.lax] at allowed
        refine ⟨0, ?_, by decide⟩
        simp only [takeOffset]
        grind
    | @signed sign hours minutes allowed hoursRow minutesRow inHour inDay =>
        have more : hours ++ ':' :: minutes ≠ [] := by simp
        have near : (digitsValue 0 hours * 3600 + digitsValue 0 minutes * 60 : Nat) < 86400 := by
          omega
        simp only [Spelling.lax, List.mem_cons, List.not_mem_nil, or_false] at allowed
        obtain ahead | behind := allowed
        · refine ⟨_, (takeOffset_signed_eq_some_iff more).mpr
            ⟨hours, minutes, hoursRow, minutesRow, inHour, rfl, .inl ⟨ahead, rfl⟩⟩, ?_⟩
          rwa [Int.natAbs_natCast]
        · refine ⟨_, (takeOffset_signed_eq_some_iff more).mpr
            ⟨hours, minutes, hoursRow, minutesRow, inHour, rfl, .inr ⟨behind, rfl⟩⟩, ?_⟩
          rwa [Int.natAbs_neg, Int.natAbs_natCast]

theorem IsOffset.endsFraction {zone : List Char} (isOffset : IsOffset .lax zone) :
    EndsFraction zone := by
  have closes : ∀ c ∈ Spelling.lax.letters ++ Spelling.lax.signs,
      c.isDigit = false ∧ c ≠ '.' := by simp [Spelling.lax]
  intro c first
  obtain ⟨rest, rfl⟩ := List.head?_eq_some_iff.mp first
  exact closes c isOffset.head_mem

/-! The whole reader. It takes just the texts of the lax spelling. -/

/-- A clock of the years 0 to 9999 always shows an instant. -/
theorem exists_ofLocal? (moment : Local) (isDate : moment.date.exists? = true)
    (year : 0 ≤ moment.date.year ∧ moment.date.year ≤ 9999) (inDay : moment.hour ≤ 23)
    (inHour : moment.minute ≤ 59) (inMinute : moment.second ≤ 60)
    (offset : moment.offset.natAbs < 86400) : ∃ instant, ofLocal? moment = some instant := by
  have isMoment : moment.exists? = true := by
    simp only [Local.exists?, isDate, Bool.true_and, Bool.and_eq_true, decide_eq_true_eq]
    omega
  obtain ⟨reached, before⟩ := Date.toDays_bounds isDate
  have first := Date.yearStart_le_yearStart year.1
  have last := Date.yearStart_le_yearStart (Int.add_le_add_right year.2 1)
  have yearZero : Date.yearStart 0 = -719528 := by decide
  have yearTenThousand : Date.yearStart (9999 + 1) = 2932897 := by decide
  have inRange : inRange (moment.date.toDays * 86400 + (moment.hour * 3600 + moment.minute * 60 +
      min moment.second 59 : Nat) - moment.offset) = true := by
    rw [Instant.inRange, Bool.and_eq_true, decide_eq_true_eq, decide_eq_true_eq]
    omega
  exact ⟨_, if_pos (by rw [isMoment, inRange, Bool.and_self])⟩

theorem isTextIn_of_ofRfc3339? {instant : Instant} (isRead : ofRfc3339? cs = some instant) :
    IsTextIn .lax cs := by
  simp only [ofRfc3339?, Option.bind_eq_bind, Option.bind_eq_some_iff, Prod.exists,
    takeDate_eq_some_iff, takeMark_eq_some_iff, takeNumber_eq_some_iff, Bool.or_eq_true,
    beq_iff_eq, exists_eq_left] at isRead
  obtain ⟨_, _, ⟨year, month, day, yearRow, monthRow, dayRow, rfl, rfl⟩,
    _, ⟨mark, isMark, rfl⟩, _, _, ⟨hour, hourRow, rfl, rfl⟩, _, rfl,
    _, _, ⟨minute, minuteRow, rfl, rfl⟩, _, rfl, _, _, ⟨second, secondRow, rfl, rfl⟩,
    nanos, zone, taken, offset, zoneTaken, isInstant⟩ := isRead
  obtain ⟨fraction, isFraction, rfl⟩ := takeFraction_eq_some taken
  simp only [ofLocal?, Option.ite_none_right_eq_some, Local.exists?, Bool.and_eq_true,
    decide_eq_true_eq] at isInstant
  obtain ⟨⟨⟨⟨⟨⟨⟨⟨isDate, _⟩, _⟩, inDay⟩, inHour⟩, inMinute⟩, near⟩, _⟩, _⟩ := isInstant
  have allowed : mark ∈ Spelling.lax.marks := by
    simp only [Spelling.lax]
    grind
  have isText := IsTextIn.intro (.intro yearRow monthRow dayRow isDate) allowed
    (.intro hourRow minuteRow secondRow isFraction (Nat.le_of_lt_succ inDay)
      (Nat.le_of_lt_succ inHour) inMinute)
    (takeOffset_eq_some_iff.mp ⟨offset, zoneTaken, near⟩)
  simpa only [List.append_assoc, List.cons_append] using isText

theorem IsTextIn.exists_ofRfc3339? (isText : IsTextIn .lax cs) :
    ∃ instant, ofRfc3339? cs = some instant := by
  cases isText with
  | @intro date time offset mark isDate allowed isTime isOffset =>
  cases isDate with
  | @intro year month day yearRow monthRow dayRow isDate =>
  cases isTime with
  | @intro hour minute second fraction hourRow minuteRow secondRow isFraction inDay inHour
      inMinute =>
  obtain ⟨nanos, fractionTaken⟩ := isFraction.takeFraction_eq isOffset.endsFraction
  obtain ⟨ahead, offsetTaken, near⟩ := takeOffset_eq_some_iff.mpr isOffset
  have isMark : (mark = 'T' ∨ mark = 't') ∨ mark = ' ' := by
    simpa [Spelling.lax, or_assoc] using allowed
  have fourDigits := digitsValue_lt yearRow.isDigit
  rw [yearRow.length] at fourDigits
  have inYears : 0 ≤ (digitsValue 0 year : Int) ∧ (digitsValue 0 year : Int) ≤ 9999 := by omega
  have dateTaken (rest : List Char) :
      takeDate (year ++ '-' :: (month ++ '-' :: (day ++ rest))) =
        some (⟨digitsValue 0 year, digitsValue 0 month, digitsValue 0 day⟩, rest) :=
    takeDate_eq_some_iff.mpr ⟨year, month, day, yearRow, monthRow, dayRow, rfl, rfl⟩
  obtain ⟨instant, isInstant⟩ := exists_ofLocal? ⟨⟨digitsValue 0 year,
    digitsValue 0 month, digitsValue 0 day⟩, digitsValue 0 hour, digitsValue 0 minute,
    digitsValue 0 second, nanos, ahead⟩ isDate inYears inDay inHour inMinute near
  refine ⟨instant, ?_⟩
  have markTaken (rest : List Char) :
      takeMark (fun c => c == 'T' || c == 't' || c == ' ') (mark :: rest) = some rest := by
    simp [takeMark, isMark]
  have colonTaken (rest : List Char) : takeMark (· == ':') (':' :: rest) = some rest := rfl
  simp only [List.append_assoc, List.cons_append, ofRfc3339?, Option.bind_eq_bind, dateTaken,
    markTaken, colonTaken, Option.bind_some, hourRow.takeNumber_eq, minuteRow.takeNumber_eq,
    secondRow.takeNumber_eq, fractionTaken, offsetTaken, isInstant]

/-! The bytes of a text. -/

variable {date time offset : List Char}

theorem ne_of_isDigit {c d : Char} (digit : c.isDigit = true) (other : d.isDigit = false) :
    c ≠ d := by
  intro same
  rw [same, other] at digit
  cases digit

theorem IsRow.toNat_lt {width : Nat} {row : List Char} (isRow : IsRow width row) :
    ∀ c ∈ row, c.toNat < 128 :=
  fun c member => Text.Utf8.toNat_lt_of_isDigit (isRow.isDigit c member)

theorem IsDateText.length_eq (isDate : IsDateText date) : date.length = 10 := by
  cases isDate with
  | intro yearRow monthRow dayRow =>
      simp [yearRow.length, monthRow.length, dayRow.length]

theorem IsDateText.toNat_lt (isDate : IsDateText date) : ∀ c ∈ date, c.toNat < 128 := by
  cases isDate with
  | intro yearRow monthRow dayRow =>
      simp only [List.forall_mem_append, List.forall_mem_cons]
      exact ⟨yearRow.toNat_lt, by decide, monthRow.toNat_lt, by decide, dayRow.toNat_lt⟩

theorem IsFraction.toNat_lt {fraction : List Char} (isFraction : IsFraction fraction) :
    ∀ c ∈ fraction, c.toNat < 128 := by
  cases isFraction with
  | whole => simp
  | digits _ isDigit =>
      rw [List.forall_mem_cons]
      exact ⟨by decide, fun c member => Text.Utf8.toNat_lt_of_isDigit (isDigit c member)⟩

theorem IsTimeText.toNat_lt (isTime : IsTimeText time) : ∀ c ∈ time, c.toNat < 128 := by
  cases isTime with
  | intro hourRow minuteRow secondRow isFraction =>
      simp only [List.forall_mem_append, List.forall_mem_cons]
      exact ⟨hourRow.toNat_lt, by decide, minuteRow.toNat_lt, by decide, secondRow.toNat_lt,
        isFraction.toNat_lt⟩

theorem IsFraction.ne_colon {fraction : List Char} (isFraction : IsFraction fraction) :
    ∀ c ∈ fraction, c ≠ ':' := by
  cases isFraction with
  | whole => simp
  | digits _ isDigit =>
      rw [List.forall_mem_cons]
      exact ⟨by decide, fun c member => ne_of_isDigit (isDigit c member) rfl⟩

/-- No colon follows the one before the seconds. -/
theorem IsTimeText.ends (isTime : IsTimeText time) :
    ∃ front c d, time = front ++ [c, d] ∧ c ≠ ':' := by
  cases isTime with
  | @intro hour minute second fraction hourRow minuteRow secondRow isFraction =>
      have two : (second ++ fraction).length - ((second ++ fraction).length - 2) = 2 := by
        rw [List.length_append, secondRow.length]
        omega
      rw [← List.length_drop] at two
      obtain ⟨c, d, last⟩ := List.length_eq_two.mp two
      have member : c ∈ second ++ fraction :=
        List.mem_of_mem_drop (last ▸ List.mem_cons_self)
      refine ⟨hour ++ ':' :: (minute ++ ':' ::
        (second ++ fraction).take ((second ++ fraction).length - 2)), c, d, ?_, ?_⟩
      · simp only [List.append_assoc, List.cons_append]
        rw [← last, List.take_append_drop]
      · obtain digit | inFraction := List.mem_append.mp member
        · exact ne_of_isDigit (secondRow.isDigit c digit) rfl
        · exact isFraction.ne_colon c inFraction

end Instant

theorem Text.Utf8.toUInt8_inj {c d : Char} (ascii : c.toNat < 128) (asciiToo : d.toNat < 128) :
    c.toUInt8 = d.toUInt8 ↔ c = d := by
  rw [← UInt8.toNat_inj, ← Char.toNat_inj]
  change c.toNat % 256 = d.toNat % 256 ↔ _
  omega

namespace Timestamp

open Instant Text.Utf8

/-! The bytes that the strict form is told by. -/

@[simp] theorem endsInOffset_append (front : List UInt8) (sign a b colon c d : UInt8) :
    endsInOffset (front ++ [sign, a, b, colon, c, d]) =
      ((sign == '+'.toUInt8 || sign == '-'.toUInt8) && colon == ':'.toUInt8) := by
  simp [endsInOffset]

/-- The third byte from the end is a colon. -/
theorem colon_of_endsInOffset {front : List UInt8} {a b c : UInt8}
    (ends : endsInOffset (front ++ [a, b, c]) = true) : a = ':'.toUInt8 := by
  simp only [endsInOffset, List.reverse_append, List.reverse_cons, List.reverse_nil,
    List.nil_append, List.cons_append] at ends
  split at ends
  · next split =>
      obtain ⟨_, _, rfl, _⟩ := by simpa only [List.cons.injEq] using split
      rw [Bool.and_eq_true] at ends
      exact eq_of_beq ends.2
  · cases ends

variable {date time offset : List Char}

/-- What the end of a strict form is told by. -/
def HasStrictEnd (bytes : List UInt8) : Prop :=
  (bytes.getLast? == some 'Z'.toUInt8 || endsInOffset bytes) = true

theorem not_hasStrictEnd_small (isTime : IsTimeText time) (front : List UInt8) :
    ¬HasStrictEnd (front ++ (time.map Char.toUInt8 ++ ['z'.toUInt8])) := by
  obtain ⟨others, c, d, rfl, solid⟩ := isTime.ends
  have ascii := isTime.toNat_lt c (by simp)
  have three : front ++ ((others ++ [c, d]).map Char.toUInt8 ++ ['z'.toUInt8]) =
      (front ++ others.map Char.toUInt8) ++ [c.toUInt8, d.toUInt8, 'z'.toUInt8] := by simp
  rw [HasStrictEnd, three, Bool.or_eq_true]
  intro ends
  obtain letter | zone := ends
  · rw [List.getLast?_append_of_ne_nil _ (List.cons_ne_nil _ _)] at letter
    exact absurd letter (by simp; decide)
  · exact solid ((toUInt8_inj ascii (by decide)).mp (colon_of_endsInOffset zone))

section Signed

variable {hours minutes : List Char}

theorem exists_encode_rows (hoursRow : IsRow 2 hours) (minutesRow : IsRow 2 minutes) :
    ∃ a b c d, encode (hours ++ ':' :: minutes) = [a, b, ':'.toUInt8, c, d] ∧
      d ≠ 'Z'.toUInt8 := by
  have ascii : ∀ c ∈ hours ++ ':' :: minutes, c.toNat < 128 := by
    rw [List.forall_mem_append, List.forall_mem_cons]
    exact ⟨hoursRow.toNat_lt, by decide, minutesRow.toNat_lt⟩
  obtain ⟨a, b, rfl⟩ := List.length_eq_two.mp hoursRow.length
  obtain ⟨c, d, rfl⟩ := List.length_eq_two.mp minutesRow.length
  have other : d ≠ 'Z' := ne_of_isDigit (minutesRow.isDigit d (by simp)) rfl
  have digit : d.toNat < 128 := minutesRow.toNat_lt d (by simp)
  exact ⟨_, _, _, _, encode_ascii ascii, mt (toUInt8_inj digit (by decide)).mp other⟩

theorem hasStrictEnd_signed {sign : Char} (strict : sign ∈ Spelling.strict.signs)
    (hoursRow : IsRow 2 hours) (minutesRow : IsRow 2 minutes) (front : List UInt8) :
    HasStrictEnd (front ++ encode (sign :: (hours ++ ':' :: minutes))) := by
  obtain ⟨a, b, c, d, bytes, _⟩ := exists_encode_rows hoursRow minutesRow
  have signs : sign = '+' ∨ sign = '-' := by simpa [Spelling.strict] using strict
  have six : front ++ (String.utf8EncodeChar sign ++ [a, b, ':'.toUInt8, c, d]) =
      front ++ [sign.toUInt8, a, b, ':'.toUInt8, c, d] := by
    obtain rfl | rfl := signs <;> rfl
  rw [HasStrictEnd, encode_cons, bytes, six, endsInOffset_append]
  obtain rfl | rfl := signs <;> simp

/-- Of the three bytes of the minus sign the last one stands where a sign's only byte would. -/
theorem not_hasStrictEnd_minus (hoursRow : IsRow 2 hours) (minutesRow : IsRow 2 minutes)
    (front : List UInt8) :
    ¬HasStrictEnd (front ++ encode ('−' :: (hours ++ ':' :: minutes))) := by
  obtain ⟨a, b, c, d, bytes, other⟩ := exists_encode_rows hoursRow minutesRow
  have six : front ++ (String.utf8EncodeChar '−' ++ [a, b, ':'.toUInt8, c, d]) =
      (front ++ [0xE2, 0x88]) ++ [0x92, a, b, ':'.toUInt8, c, d] := by
    rw [List.append_assoc]
    rfl
  rw [HasStrictEnd, encode_cons, bytes, six, endsInOffset_append, Bool.or_eq_true]
  intro ends
  obtain letter | sign := ends
  · rw [List.getLast?_append_of_ne_nil _ (List.cons_ne_nil _ _)] at letter
    exact other (by simpa using letter)
  · exact absurd sign (by simp; decide)

end Signed

/-- Behind a time, an offset in the lax spelling has the bytes of a strict one just if it is one. -/
theorem hasStrictEnd_iff (isTime : IsTimeText time) (isOffset : IsOffset .lax offset)
    (front : List UInt8) :
    HasStrictEnd (front ++ (time.map Char.toUInt8 ++ encode offset)) ↔
      IsOffset .strict offset := by
  cases isOffset with
  | @universal letter allowed =>
      have letters : letter = 'Z' ∨ letter = 'z' := by simpa [Spelling.lax] using allowed
      rw [encode_ascii (by obtain rfl | rfl := letters <;> simp)]
      obtain rfl | rfl := letters
      · exact iff_of_true (by simp [HasStrictEnd]) (.universal (by decide))
      · exact iff_of_false (not_hasStrictEnd_small isTime front)
          fun strict => absurd strict.head_mem (by decide)
  | @signed sign hours minutes allowed hoursRow minutesRow inHour inDay =>
      rw [← List.append_assoc]
      by_cases strict : sign ∈ Spelling.strict.signs
      · exact iff_of_true (hasStrictEnd_signed strict hoursRow minutesRow _)
          (.signed strict hoursRow minutesRow inHour inDay)
      · have minus : sign = '−' := by
          simp only [Spelling.lax, Spelling.strict] at allowed strict
          grind
        subst minus
        exact iff_of_false (not_hasStrictEnd_minus hoursRow minutesRow _)
          fun strict => absurd strict.head_mem (by decide)

theorem isStrict_iff (isDate : IsDateText date) {mark : Char} (allowed : mark ∈ Spelling.lax.marks)
    (isTime : IsTimeText time) (isOffset : IsOffset .lax offset) :
    isStrict (String.ofList (date ++ mark :: (time ++ offset))) = true ↔
      mark ∈ Spelling.strict.marks ∧ IsOffset .strict offset := by
  have marks : ∀ c ∈ Spelling.lax.marks, c.toNat < 128 := by simp [Spelling.lax]
  have ascii : ∀ c ∈ date ++ mark :: time, c.toNat < 128 := by
    rw [List.forall_mem_append, List.forall_mem_cons]
    exact ⟨isDate.toNat_lt, marks mark allowed, isTime.toNat_lt⟩
  have bytes : (String.ofList (date ++ mark :: (time ++ offset))).toUTF8.data.toList =
      date.map Char.toUInt8 ++ mark.toUInt8 :: (time.map Char.toUInt8 ++ encode offset) := by
    rw [bytes_eq_encode, String.toList_ofList]
    have parts : date ++ mark :: (time ++ offset) = (date ++ mark :: time) ++ offset := by simp
    rw [parts, encode, List.flatMap_append, ← encode, ← encode, encode_ascii ascii]
    simp
  have ten : (date.map Char.toUInt8).length = 10 := by rw [List.length_map, isDate.length_eq]
  have tenth : (date.map Char.toUInt8 ++
      mark.toUInt8 :: (time.map Char.toUInt8 ++ encode offset))[10]? = some mark.toUInt8 := by
    rw [List.getElem?_append_right ten.le, ten]
    rfl
  have ends := hasStrictEnd_iff isTime isOffset (date.map Char.toUInt8 ++ [mark.toUInt8])
  simp only [HasStrictEnd, List.append_assoc, List.singleton_append] at ends
  simp only [isStrict, bytes, tenth, Bool.and_eq_true, ends, beq_iff_eq, Option.some.injEq,
    toUInt8_inj (marks mark allowed) (by decide : 'T'.toNat < 128), Spelling.strict,
    List.mem_singleton]

/-- The strict form is what the test of the bytes leaves of the lax spelling. -/
theorem isTextIn_strict_iff {cs : List Char} :
    IsTextIn .strict cs ↔ IsTextIn .lax cs ∧ isStrict (String.ofList cs) = true := by
  have marks : ∀ c ∈ Spelling.strict.marks, c ∈ Spelling.lax.marks := by
    simp [Spelling.strict, Spelling.lax]
  constructor
  · intro isText
    cases isText with
    | intro isDate allowed isTime isOffset =>
        have strict := (isStrict_iff isDate (marks _ allowed) isTime isOffset.lax_of_strict).mpr
          ⟨allowed, isOffset⟩
        exact ⟨.intro isDate (marks _ allowed) isTime isOffset.lax_of_strict, strict⟩
  · intro apart
    obtain ⟨isText, strict⟩ := apart
    cases isText with
    | intro isDate allowed isTime isOffset =>
        obtain ⟨mark, offset⟩ := (isStrict_iff isDate allowed isTime isOffset).mp strict
        exact .intro isDate mark isTime offset

/-! Mail dates. -/

theorem takeName_dayNames {c : Char} (digit : c.isDigit = true) (rest : List Char) :
    takeName dayNames (c :: rest) = none := by
  have letters : ∀ name ∈ dayNames, ∀ d ∈ name.head?, d.isDigit = false := by
    simp [dayNames]
  rw [takeName, Option.map_eq_none_iff, List.findIdx?_eq_none_iff]
  intro name member
  refine beq_false_of_ne fun same => ?_
  have head : name.head? = some c := by
    rw [same, List.take_succ_cons, List.map_cons, List.head?_cons, toLower_of_isDigit digit]
  rw [letters name member c head] at digit
  cases digit

/-- A text that begins with three digits is no mail date. -/
theorem ofRfc2822?_eq_none {a b c : Char} (first : a.isDigit = true) (second : b.isDigit = true)
    (third : c.isDigit = true) (rest : List Char) : ofRfc2822? (a :: b :: c :: rest) = none := by
  have noDay : takeWeekday (a :: b :: c :: rest) = some (none, a :: b :: c :: rest) := by
    rw [takeWeekday, takeName_dayNames first]
  have day : takeNumber 1 2 (a :: b :: c :: rest) = some (digitsValue 0 [a, b], c :: rest) := by
    simp [takeNumber, first, second]
  have noBlank : takeBlanks (c :: rest) = none := by
    simp [takeBlanks, Text.isBlank_of_isDigit third]
  have solid := Text.isBlank_of_isDigit first
  rw [ofRfc2822?, Text.trimStart_cons solid, noDay]
  change (takeNumber 1 2 (Text.trimStart (a :: b :: c :: rest))).bind _ = none
  rw [Text.trimStart_cons solid, day]
  change (takeBlanks (c :: rest)).bind _ = none
  rw [noBlank, Option.bind_none]

theorem ofRfc2822?_eq_none_of_isTextIn {spelling : Spelling} {cs : List Char}
    (isText : IsTextIn spelling cs) : ofRfc2822? cs = none := by
  obtain ⟨a, b, c, rest, first, second, third, rfl⟩ := isText.begins
  exact ofRfc2822?_eq_none first second third rest

theorem isNow_of_isTextIn {spelling : Spelling} {cs : List Char}
    (isText : IsTextIn spelling cs) : isNow (String.ofList cs) = false := by
  obtain ⟨a, _, _, _, first, _, _, rfl⟩ := isText.begins
  exact isNow_of_isDigit first _

/-! What a text names. -/

theorem ofRfc3339?_eq_none {text : String} (strict : isStrict text = true)
    (other : ¬IsTextIn .strict text.toList) : ofRfc3339? text.toList = none := by
  rw [← String.ofList_toList (s := text)] at strict
  cases read : ofRfc3339? text.toList with
  | none => rfl
  | some instant =>
      have lax := isTextIn_of_ofRfc3339? read
      exact absurd (isTextIn_strict_iff.mpr ⟨lax, strict⟩) other

/-- A text that is no mail date names an instant just if it is in the strict form, and stands for the
present if it is not. No text in the strict form is a mail date: it would do as well to try mail dates
first. -/
theorem only_strict_texts_name_instants (text : String) :
    (IsTextIn .strict text.toList → ofRfc2822? text.toList = none) ∧
      (ofRfc2822? text.toList = none →
        ((∃ instant, ∀ now, resolve (some (.string text)) now = instant) ↔
            IsTextIn .strict text.toList) ∧
          (¬IsTextIn .strict text.toList → ∀ now, resolve (some (.string text)) now = now)) ∧
      ofText? text = if isNow text then none
        else (ofRfc2822? text.toList).or
          (if isStrict text then ofRfc3339? text.toList else none) := by
  have fixed (strict : IsTextIn .strict text.toList) :
      ∃ instant, ∀ now, resolve (some (.string text)) now = instant := by
    have noWord := isNow_of_isTextIn strict
    obtain ⟨lax, bytes⟩ := isTextIn_strict_iff.mp strict
    obtain ⟨instant, read⟩ := lax.exists_ofRfc3339?
    rw [String.ofList_toList] at noWord bytes
    exact ⟨instant, fun now => by simp [resolve, read?, ofText?, noWord, bytes, read]⟩
  have present (noMail : ofRfc2822? text.toList = none) (other : ¬IsTextIn .strict text.toList)
      (now : Instant) : resolve (some (.string text)) now = now := by
    have nothing : ofText? text = none := by
      cases strict : isStrict text with
      | false => simp [ofText?, strict, noMail]
      | true => simp [ofText?, ofRfc3339?_eq_none strict other, noMail]
    rw [resolve, read?, nothing, Option.getD_none]
  refine ⟨ofRfc2822?_eq_none_of_isTextIn, fun noMail => ⟨⟨?_, fixed⟩, present noMail⟩, ?_⟩
  · intro named
    obtain ⟨instant, always⟩ := named
    by_contra other
    have one := (always ⟨0, 0⟩).symm.trans (present noMail other ⟨0, 0⟩)
    have another := (always ⟨1, 0⟩).symm.trans (present noMail other ⟨1, 0⟩)
    exact absurd (one.symm.trans another) (by decide)
  · by_cases strict : IsTextIn .strict text.toList
    · simp [ofText?, ofRfc2822?_eq_none_of_isTextIn strict]
    · cases bytes : isStrict text with
      | false => simp [ofText?, bytes]
      | true => simp [ofText?, ofRfc3339?_eq_none bytes strict]

/-- Half a second into a leap second, with a hyphen and with the minus sign. -/
theorem minus_sign_is_not_strict :
    IsTextIn .strict "2024-02-29T23:59:60.5-00:30".toList ∧
      ¬IsTextIn .strict "2024-02-29T23:59:60.5−00:30".toList := by
  have isRead : read? (some (.string "2024-02-29T23:59:60.5-00:30")) =
      some ⟨1709252999, 1500000000⟩ := by decide +kernel
  have notRead : read? (some (.string "2024-02-29T23:59:60.5−00:30")) = none := by
    decide +kernel
  have noMail : ofRfc2822? "2024-02-29T23:59:60.5-00:30".toList = none := by decide +kernel
  have noMailEither : ofRfc2822? "2024-02-29T23:59:60.5−00:30".toList = none := by
    decide +kernel
  constructor
  · refine ((only_strict_texts_name_instants _).2.1 noMail).1.mp
      ⟨⟨1709252999, 1500000000⟩, fun now => ?_⟩
    rw [resolve, isRead, Option.getD_some]
  · intro isText
    obtain ⟨instant, always⟩ :=
      ((only_strict_texts_name_instants _).2.1 noMailEither).1.mpr isText
    simp only [resolve, notRead, Option.getD_none] at always
    exact absurd ((always ⟨0, 0⟩).trans (always ⟨1, 0⟩).symm) (by decide)

end Timestamp

end Candidacy
