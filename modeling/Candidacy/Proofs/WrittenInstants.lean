import Candidacy.Proofs.Days
import Candidacy.Proofs.Decimals
import Candidacy.Proofs.Lines
import Candidacy.Timestamp
import Mathlib.Data.List.Basic

/-!
Instants as text. Whatever clock an instant of the years 0 to 9999 is written on, its text is in the
strict form and is read as this very instant.
-/

namespace Candidacy

namespace Instant

/-! An instant on a clock. -/

/-- The year that a clock shows which is so many minutes ahead. -/
def yearOn (minutes : Int) (instant : Instant) : Int :=
  (Date.ofDays ((instant.secs + minutes * 60) / 86400)).year

/-- The moment that a clock shows which is so many minutes ahead. -/
def shownOn (minutes : Int) (instant : Instant) : Local where
  date := Date.ofDays ((instant.secs + minutes * 60) / 86400)
  hour := ((instant.secs + minutes * 60) % 86400).toNat / 3600
  minute := ((instant.secs + minutes * 60) % 86400).toNat / 60 % 60
  second := ((instant.secs + minutes * 60) % 86400).toNat % 60 +
    if 1000000000 ≤ instant.nanos then 1 else 0
  nanos := instant.nanos % 1000000000
  offset := minutes * 60

/-- An instant that the calendar reaches. Only a minute's last second may be followed by a sixtieth. -/
structure IsProper (instant : Instant) : Prop where
  nanos_lt : instant.nanos < 2000000000
  leap : 1000000000 ≤ instant.nanos → instant.secs % 60 = 59
  inRange : inRange instant.secs = true

/-- An instant of the years 0 to 9999. Only a minute's last second may be followed by a sixtieth. -/
structure IsWritable (instant : Instant) : Prop where
  nanos_lt : instant.nanos < 2000000000
  leap : 1000000000 ≤ instant.nanos → instant.secs % 60 = 59
  year : 0 ≤ instant.yearOn 0 ∧ instant.yearOn 0 ≤ 9999

variable {instant : Instant} {minutes : Int}

theorem reached_of_fourDigits {year : Int} (fourDigits : 0 ≤ year ∧ year ≤ 9999) :
    -262143 ≤ year ∧ year ≤ 262142 :=
  ⟨by omega, by omega⟩

theorem inRange_iff_year :
    inRange instant.secs = true ↔ -262143 ≤ instant.yearOn 0 ∧ instant.yearOn 0 ≤ 262142 := by
  obtain ⟨reached, before⟩ := Date.yearOf_spec ((instant.secs + 0 * 60) / 86400)
  have start : Date.yearStart (-262143) = -96465292 := by decide
  have stop : Date.yearStart (262142 + 1) = 95026237 := by decide
  change _ ↔ -262143 ≤ Date.yearOf _ ∧ Date.yearOf _ ≤ 262142
  rw [Instant.inRange, Bool.and_eq_true, decide_eq_true_eq, decide_eq_true_eq]
  constructor
  · intro inRange
    constructor
    · by_contra early
      have := Date.yearStart_le_yearStart (Int.add_one_le_of_lt (Int.not_le.mp early))
      omega
    · by_contra late
      have := Date.yearStart_le_yearStart (Int.add_one_le_of_lt (Int.not_le.mp late))
      omega
  · intro year
    have first := Date.yearStart_le_yearStart year.1
    have last := Date.yearStart_le_yearStart (Int.add_le_add_right year.2 1)
    omega

theorem IsWritable.isProper (writable : instant.IsWritable) : instant.IsProper :=
  ⟨writable.nanos_lt, writable.leap, inRange_iff_year.mpr (reached_of_fourDigits writable.year)⟩

/-- The seconds of a clock's day, from its hours, minutes and seconds. -/
theorem clock_seconds (second : Nat) (leap : Prop) [Decidable leap]
    (last : leap → second % 60 = 59) :
    second / 3600 * 3600 + second / 60 % 60 * 60 +
      min (second % 60 + if leap then 1 else 0) 59 = second := by
  split
  · next isLeap =>
      have := last isLeap
      omega
  · omega

theorem exists?_shownOn (ahead : minutes.natAbs < 1440)
    (year : -262143 ≤ instant.yearOn minutes ∧ instant.yearOn minutes ≤ 262142) :
    (instant.shownOn minutes).exists? = true := by
  have date : (instant.shownOn minutes).date.exists? = true := Date.exists?_ofDays _
  have early : -262143 ≤ (instant.shownOn minutes).date.year := year.1
  have late : (instant.shownOn minutes).date.year ≤ 262142 := year.2
  have hour : (instant.shownOn minutes).hour < 24 := by
    simp only [shownOn]
    omega
  have minute : (instant.shownOn minutes).minute < 60 := Nat.mod_lt _ (by decide)
  have second : (instant.shownOn minutes).second ≤ 60 := by
    simp only [shownOn]
    split <;> omega
  have offset : (instant.shownOn minutes).offset.natAbs < 86400 := by
    simp only [shownOn]
    omega
  simp [Local.exists?, date, early, late, hour, minute, second, offset]

/-- What a clock shows is the instant that it shows. -/
theorem ofLocal?_shownOn (proper : instant.IsProper) (ahead : minutes.natAbs < 1440)
    (year : -262143 ≤ instant.yearOn minutes ∧ instant.yearOn minutes ≤ 262142) :
    ofLocal? (instant.shownOn minutes) = some instant := by
  have last : 1000000000 ≤ instant.nanos →
      ((instant.secs + minutes * 60) % 86400).toNat % 60 = 59 := by
    intro leap
    have := proper.leap leap
    omega
  have clock := clock_seconds ((instant.secs + minutes * 60) % 86400).toNat
    (1000000000 ≤ instant.nanos) last
  have secs : (instant.shownOn minutes).date.toDays * 86400 +
      ((instant.shownOn minutes).hour * 3600 + (instant.shownOn minutes).minute * 60 +
        min (instant.shownOn minutes).second 59 : Nat) - (instant.shownOn minutes).offset =
      instant.secs := by
    simp only [shownOn, Date.toDays_ofDays, clock]
    omega
  have nanos : ((instant.shownOn minutes).nanos +
      if (instant.shownOn minutes).second = 60 then 1000000000 else 0) = instant.nanos := by
    have bound := proper.nanos_lt
    simp only [shownOn]
    grind
  simp only [ofLocal?, secs, nanos, exists?_shownOn ahead year, proper.inRange, Bool.and_self,
    if_true]

/-! The parts of a text. -/

/-- The sign, the hours and the minutes of an offset, zero included. -/
def signedOffset (minutes : Int) : List Char :=
  (if minutes < 0 then '-' else '+') :: padded 2 (minutes.natAbs / 60) ++
    ':' :: padded 2 (minutes.natAbs % 60)

theorem offsetText_eq (minutes : Int) :
    offsetText minutes = if minutes = 0 then ['Z'] else signedOffset minutes := rfl

/-- What follows a fraction: the text goes on with neither a digit nor a point. -/
def EndsFraction (rest : List Char) : Prop :=
  ∀ c ∈ rest.head?, c.isDigit = false ∧ c ≠ '.'

theorem EndsFraction.endsDigits {rest : List Char} (ends : EndsFraction rest) :
    Ends Char.isDigit rest :=
  fun c first => (ends c first).1

theorem endsFraction_signedOffset (minutes : Int) : EndsFraction (signedOffset minutes) := by
  intro c first
  rw [signedOffset, List.cons_append, List.head?_cons, Option.mem_some] at first
  subst first
  split <;> decide

theorem takeOffset_signed {hours minutes : Nat} (hoursBound : hours < 100)
    (minutesBound : minutes < 60) (sign : Char) :
    takeOffset (sign :: (padded 2 hours ++ ':' :: padded 2 minutes)) =
      if sign == '+' then some ((hours * 3600 + minutes * 60 : Nat) : Int)
      else if sign == '-' || sign == '−' then some (-((hours * 3600 + minutes * 60 : Nat) : Int))
      else none := by
  have hoursRead := @takeNumber_padded 2 hours 2 (by decide) hoursBound (Nat.le_refl 2)
    (':' :: padded 2 minutes)
  have minutesRead := @takeNumber_padded 2 minutes 2 (by decide) (by omega) (Nat.le_refl 2) []
  rw [List.append_nil] at minutesRead
  -- More than one character follows the sign, so that it is no letter for universal time.
  obtain ⟨c, tail, split⟩ := List.exists_cons_of_ne_nil
    (List.append_ne_nil_of_right_ne_nil (padded 2 hours) (List.cons_ne_nil ':' (padded 2 minutes)))
  rw [split] at hoursRead ⊢
  simp [takeOffset, hoursRead, takeMark, minutesRead, minutesBound]

theorem takeOffset_signedOffset (near : minutes.natAbs < 1440) :
    takeOffset (signedOffset minutes) = some (minutes * 60) := by
  have hours : minutes.natAbs / 60 < 100 := by omega
  rw [signedOffset, List.cons_append, takeOffset_signed hours (Nat.mod_lt _ (by decide))]
  by_cases behind : minutes < 0
  · simp only [if_pos behind]
    change some (-_) = _
    rw [Option.some.injEq]
    omega
  · simp only [if_neg behind]
    change some _ = _
    rw [Option.some.injEq]
    omega

theorem takeFraction_digits {digits rest : List Char} (isDigit : ∀ c ∈ digits, c.isDigit = true)
    (notEmpty : digits ≠ []) (short : digits.length ≤ 9) (ends : Ends Char.isDigit rest) :
    takeFraction ('.' :: (digits ++ rest)) =
      some (digitsValue 0 digits * 10 ^ (9 - digits.length), rest) := by
  simp only [takeFraction, spanDigits_row isDigit ends, List.isEmpty_iff, notEmpty, if_false,
    List.take_of_length_le short, digitsValue_append, digitsValue_zeros, Nat.mul_comm]
  rfl

/-- Either there is no fraction, or its digits, filled up to nine with zeros, are the nanoseconds. -/
theorem fractionText_spec {nanos : Nat} (bound : nanos < 1000000000) :
    nanos = 0 ∧ fractionText nanos = [] ∨
      ∃ width part, 0 < width ∧ width ≤ 9 ∧ part < 10 ^ width ∧ part * 10 ^ (9 - width) = nanos ∧
        fractionText nanos = '.' :: padded width part := by
  rw [fractionText]
  split
  · next zero => exact .inl ⟨zero, rfl⟩
  · split
    · exact .inr ⟨3, _, by decide, by decide, by omega, by omega, rfl⟩
    · split
      · exact .inr ⟨6, _, by decide, by decide, by omega, by omega, rfl⟩
      · exact .inr ⟨9, _, by decide, by decide, by omega, by omega, rfl⟩

theorem takeFraction_fractionText {nanos : Nat} (bound : nanos < 1000000000) {rest : List Char}
    (ends : EndsFraction rest) : takeFraction (fractionText nanos ++ rest) = some (nanos, rest) := by
  obtain ⟨rfl, nothing⟩ | ⟨width, part, positive, short, fits, value, digits⟩ :=
    fractionText_spec bound
  · rw [nothing]
    cases rest with
    | nil => rfl
    | cons c rest =>
        have other := (ends c rfl).2
        simp [takeFraction, other]
  · have length := length_padded positive fits
    have notEmpty : padded width part ≠ [] :=
      List.ne_nil_of_length_pos (positive.trans_eq length.symm)
    have read := takeFraction_digits (fun c => @isDigit_padded width part c) notEmpty
      (length.trans_le short) ends.endsDigits
    rw [length, digitsValue_padded, value] at read
    rw [digits]
    exact read

theorem takeDate_written {year month day : Nat} (yearBound : year < 10000)
    (monthBound : month < 100) (dayBound : day < 100) (rest : List Char) :
    takeDate (padded 4 year ++ '-' :: (padded 2 month ++ '-' :: (padded 2 day ++ rest))) =
      some (⟨year, month, day⟩, rest) := by
  simp [takeDate, takeNumber_padded, yearBound, monthBound, dayBound, takeMark]

/-! The whole text. -/

/-- The text of a moment of the years 0 to 9999, before any zone. -/
def Local.written (moment : Local) (zone : List Char) : List Char :=
  padded 4 moment.date.year.toNat ++ '-' :: (padded 2 moment.date.month ++
    '-' :: (padded 2 moment.date.day ++ 'T' :: (padded 2 moment.hour ++
      ':' :: (padded 2 moment.minute ++ ':' :: (padded 2 moment.second ++
        (fractionText moment.nanos ++ zone))))))

theorem ofRfc3339?_written {moment : Local} {zone : List Char} (isMoment : moment.exists? = true)
    (year : 0 ≤ moment.date.year ∧ moment.date.year ≤ 9999) (nanos : moment.nanos < 1000000000)
    (ends : EndsFraction zone) (offset : takeOffset zone = some moment.offset) :
    ofRfc3339? (moment.written zone) = ofLocal? moment := by
  simp only [Local.exists?, Bool.and_eq_true, decide_eq_true_eq] at isMoment
  obtain ⟨⟨⟨⟨⟨⟨isDate, _⟩, _⟩, hour⟩, minute⟩, second⟩, _⟩ := isMoment
  obtain ⟨month, day⟩ := Date.two_digits isDate
  have date := takeDate_written (by omega : moment.date.year.toNat < 10000) month day
    ('T' :: (padded 2 moment.hour ++ ':' :: (padded 2 moment.minute ++ ':' ::
      (padded 2 moment.second ++ (fractionText moment.nanos ++ zone)))))
  have whole : ((moment.date.year.toNat : Nat) : Int) = moment.date.year :=
    Int.toNat_of_nonneg year.1
  have fraction := takeFraction_fractionText nanos ends
  simp [ofRfc3339?, Local.written, date, takeMark, takeNumber_padded, (by omega : moment.hour < 100),
    (by omega : moment.minute < 100), (by omega : moment.second < 100), fraction, offset, whole]

theorem textAt_eq (year : 0 ≤ instant.yearOn minutes ∧ instant.yearOn minutes ≤ 9999) :
    textAt minutes instant = (instant.shownOn minutes).written (offsetText minutes) := by
  have fourDigits : yearText (Date.ofDays ((instant.secs + minutes * 60) / 86400)).year =
      padded 4 (instant.yearOn minutes).toNat := if_pos year
  simp only [textAt, localText, fourDigits, Local.written, shownOn, yearOn, List.append_assoc,
    List.cons_append, decide_eq_true_eq]

/-- What stands behind the time on a clock that is so many minutes ahead. -/
inductive IsZone : Int → List Char → Prop
  | universal : IsZone 0 ['Z']
  | signed (minutes : Int) : IsZone minutes (signedOffset minutes)

theorem isZone_offsetText (minutes : Int) : IsZone minutes (offsetText minutes) := by
  rw [offsetText_eq]
  split
  · next zero => exact zero ▸ .universal
  · exact .signed minutes

variable {zone : List Char}

theorem IsZone.endsFraction (isZone : IsZone minutes zone) : EndsFraction zone := by
  cases isZone with
  | universal => simp [EndsFraction]
  | signed => exact endsFraction_signedOffset minutes

theorem IsZone.takeOffset_eq (isZone : IsZone minutes zone) (ahead : minutes.natAbs < 1440) :
    takeOffset zone = some (minutes * 60) := by
  cases isZone with
  | universal => rfl
  | signed => exact takeOffset_signedOffset ahead

theorem nanos_shownOn (instant : Instant) (minutes : Int) :
    (instant.shownOn minutes).nanos < 1000000000 :=
  Nat.mod_lt _ (by decide)

/-- A text of the years 0 to 9999 is read as the instant that it was written for. -/
theorem ofRfc3339?_shownOn (writable : instant.IsWritable) (ahead : minutes.natAbs < 1440)
    (year : 0 ≤ instant.yearOn minutes ∧ instant.yearOn minutes ≤ 9999)
    (isZone : IsZone minutes zone) :
    ofRfc3339? ((instant.shownOn minutes).written zone) = some instant := by
  have reached := reached_of_fourDigits year
  rw [ofRfc3339?_written (exists?_shownOn ahead reached) year (nanos_shownOn instant minutes)
    isZone.endsFraction (isZone.takeOffset_eq ahead)]
  exact ofLocal?_shownOn writable.isProper ahead reached

end Instant

/-! The bytes of a text. -/

namespace Text.Utf8

/-- Characters below 128 are their own bytes. -/
theorem encode_ascii {cs : List Char} (ascii : ∀ c ∈ cs, c.toNat < 128) :
    encode cs = cs.map Char.toUInt8 := by
  induction cs with
  | nil => rfl
  | cons c rest ih =>
      rw [List.forall_mem_cons] at ascii
      have small : c.val ≤ 127 := UInt32.le_iff_toNat_le.mpr (Nat.le_of_lt_succ ascii.1)
      rw [encode_cons, String.utf8EncodeChar_eq_singleton (Char.utf8Size_eq_one_iff.mpr small),
        ih ascii.2]
      rfl

theorem toNat_lt_of_isDigit {c : Char} (digit : c.isDigit = true) : c.toNat < 128 :=
  Nat.lt_of_le_of_lt (Char.isDigit_iff_toNat.mp digit).2 (by decide)

end Text.Utf8

theorem Text.isBlank_of_isDigit {c : Char} (digit : c.isDigit = true) : isBlank c = false := by
  have range := Char.isDigit_iff_toNat.mp digit
  change 48 ≤ c.toNat ∧ c.toNat ≤ 57 at range
  simp [isBlank]
  omega

theorem toLower_of_isDigit {c : Char} (digit : c.isDigit = true) : c.toLower = c := by
  have range := Char.isDigit_iff_toNat.mp digit
  change 48 ≤ c.toNat ∧ c.toNat ≤ 57 at range
  refine dif_neg fun capital => ?_
  have := UInt32.le_iff_toNat_le.mp capital.1
  change 65 ≤ c.toNat at this
  omega

namespace Instant

variable {minutes : Int} {zone : List Char}

theorem toNat_lt_of_mem_padded {width n : Nat} {c : Char} (member : c ∈ padded width n) :
    c.toNat < 128 :=
  Text.Utf8.toNat_lt_of_isDigit (isDigit_padded member)

theorem toNat_lt_of_mem_fractionText {nanos : Nat} (bound : nanos < 1000000000) {c : Char}
    (member : c ∈ fractionText nanos) : c.toNat < 128 := by
  obtain ⟨_, nothing⟩ | ⟨width, part, _, _, _, _, digits⟩ := fractionText_spec bound
  · rw [nothing] at member
    cases member
  · rw [digits, List.mem_cons] at member
    obtain rfl | digit := member
    · decide
    · exact toNat_lt_of_mem_padded digit

theorem IsZone.toNat_lt (isZone : IsZone minutes zone) {c : Char} (member : c ∈ zone) :
    c.toNat < 128 := by
  cases isZone with
  | universal =>
      rw [List.mem_singleton.mp member]
      decide
  | signed =>
      simp only [signedOffset, List.mem_append, List.mem_cons] at member
      rcases member with (rfl | hours) | rfl | digits
      · split <;> decide
      · exact toNat_lt_of_mem_padded hours
      · decide
      · exact toNat_lt_of_mem_padded digits

theorem Local.toNat_lt_of_mem_written {moment : Local} (nanos : moment.nanos < 1000000000)
    (isZone : IsZone minutes zone) : ∀ c ∈ moment.written zone, c.toNat < 128 := by
  simp only [written, List.forall_mem_append, List.forall_mem_cons]
  exact ⟨fun _ => toNat_lt_of_mem_padded, by decide, fun _ => toNat_lt_of_mem_padded, by decide,
    fun _ => toNat_lt_of_mem_padded, by decide, fun _ => toNat_lt_of_mem_padded, by decide,
    fun _ => toNat_lt_of_mem_padded, by decide, fun _ => toNat_lt_of_mem_padded,
    fun _ => toNat_lt_of_mem_fractionText nanos, fun _ => isZone.toNat_lt⟩

/-- Ten characters stand before the T, and the zone stands at the end. -/
theorem Local.written_eq {moment : Local} (isMoment : moment.exists? = true)
    (year : 0 ≤ moment.date.year ∧ moment.date.year ≤ 9999) (zone : List Char) :
    ∃ front time, front.length = 10 ∧ moment.written zone = front ++ 'T' :: (time ++ zone) := by
  simp only [Local.exists?, Bool.and_eq_true] at isMoment
  obtain ⟨⟨⟨⟨⟨⟨isDate, _⟩, _⟩, _⟩, _⟩, _⟩, _⟩ := isMoment
  obtain ⟨month, day⟩ := Date.two_digits isDate
  refine ⟨padded 4 moment.date.year.toNat ++ '-' :: (padded 2 moment.date.month ++
    '-' :: padded 2 moment.date.day), padded 2 moment.hour ++ ':' :: (padded 2 moment.minute ++
    ':' :: (padded 2 moment.second ++ fractionText moment.nanos)), ?_, ?_⟩
  · simp only [List.length_append, List.length_cons,
      length_padded (by decide : 0 < 4) (by omega : moment.date.year.toNat < 10 ^ 4),
      length_padded (by decide : 0 < 2) month, length_padded (by decide : 0 < 2) day]
  · simp only [written, List.append_assoc, List.cons_append]

end Instant

namespace Timestamp

open Instant

variable {minutes : Int} {zone : List Char}

theorem endsInOffset_signedOffset (ahead : minutes.natAbs < 1440) (front : List UInt8) :
    endsInOffset (front ++ (signedOffset minutes).map Char.toUInt8) = true := by
  have twoHours : (padded 2 (minutes.natAbs / 60)).length = 2 :=
    length_padded (by decide) (by omega)
  have twoMinutes : (padded 2 (minutes.natAbs % 60)).length = 2 :=
    length_padded (by decide) (by omega)
  obtain ⟨a, b, hours⟩ := List.length_eq_two.mp twoHours
  obtain ⟨c, d, rest⟩ := List.length_eq_two.mp twoMinutes
  simp only [signedOffset, hours, rest, endsInOffset]
  by_cases behind : minutes < 0 <;> simp [behind]

theorem ends_of_isZone (isZone : IsZone minutes zone) (ahead : minutes.natAbs < 1440)
    (front : List UInt8) :
    ((front ++ zone.map Char.toUInt8).getLast? == some 'Z'.toUInt8 ||
      endsInOffset (front ++ zone.map Char.toUInt8)) = true := by
  cases isZone with
  | universal => simp
  | signed => rw [endsInOffset_signedOffset ahead, Bool.or_true]

theorem isStrict_written {moment : Local} (isMoment : moment.exists? = true)
    (year : 0 ≤ moment.date.year ∧ moment.date.year ≤ 9999) (nanos : moment.nanos < 1000000000)
    (isZone : IsZone minutes zone) (ahead : minutes.natAbs < 1440) :
    isStrict (String.ofList (moment.written zone)) = true := by
  have bytes : (String.ofList (moment.written zone)).toUTF8.data.toList =
      (moment.written zone).map Char.toUInt8 := by
    rw [Text.Utf8.bytes_eq_encode, String.toList_ofList,
      Text.Utf8.encode_ascii (Local.toNat_lt_of_mem_written nanos isZone)]
  obtain ⟨front, time, ten, split⟩ := Local.written_eq isMoment year zone
  have ends := ends_of_isZone isZone ahead
    (front.map Char.toUInt8 ++ 'T'.toUInt8 :: time.map Char.toUInt8)
  simp only [List.append_assoc, List.cons_append] at ends
  rw [split, List.map_append, List.map_cons, List.map_append] at bytes
  rw [split]
  simp only [isStrict, bytes, ends, Bool.and_true]
  simp [ten]

/-- A text that begins with a digit is not the word for the present. -/
theorem isNow_of_isDigit {c : Char} (digit : c.isDigit = true) (rest : List Char) :
    isNow (String.ofList (c :: rest)) = false := by
  have solid := Text.isBlank_of_isDigit digit
  have other : c ≠ 'n' := by
    rintro rfl
    exact absurd digit (by decide)
  simp [isNow, Text.trim, Text.trimStart_cons solid, Text.trimEnd_cons solid,
    toLower_of_isDigit digit, other]

theorem isNow_written {moment : Local} (year : moment.date.year ≤ 9999) (zone : List Char) :
    isNow (String.ofList (moment.written zone)) = false := by
  have length : (padded 4 moment.date.year.toNat).length = 4 :=
    length_padded (by decide) (by omega)
  obtain ⟨c, digits, split⟩ := List.exists_cons_of_length_eq_add_one length
  rw [Local.written, split, List.cons_append]
  exact isNow_of_isDigit (isDigit_padded (split ▸ List.mem_cons_self)) _

/-- Every instant of the years 0 to 9999 that is written on a clock of these years is read as this
instant. -/
theorem text_names_instant {instant : Instant} {minutes : Int} (writable : instant.IsWritable)
    (ahead : minutes.natAbs < 1440)
    (year : 0 ≤ instant.yearOn minutes ∧ instant.yearOn minutes ≤ 9999) (now : Instant) :
    resolve (some (.string (String.ofList (textAt minutes instant)))) now = instant ∧
      resolve (some (.string (String.ofList
        ((instant.shownOn minutes).written (signedOffset minutes))))) now = instant := by
  have resolves (zone : List Char) (isZone : IsZone minutes zone) :
      resolve (some (.string (String.ofList ((instant.shownOn minutes).written zone)))) now =
        instant := by
    have isText : isNow (String.ofList ((instant.shownOn minutes).written zone)) = false :=
      isNow_written year.2 zone
    have strict := isStrict_written (exists?_shownOn ahead (reached_of_fourDigits year)) year
      (nanos_shownOn instant minutes) isZone ahead
    rw [resolve, read?, ofText?, isText, strict, String.toList_ofList,
      ofRfc3339?_shownOn writable ahead year isZone]
    rfl
  rw [textAt_eq year]
  exact ⟨resolves _ (isZone_offsetText minutes), resolves _ (.signed minutes)⟩

/-- The middle of the leap second that ended the year 2016. -/
def leapSecond : Instant := ⟨1483228799, 1500000000⟩

theorem leap_second_on_a_clock_ahead :
    textAt 330 leapSecond = "2017-01-01T05:29:60.500+05:30".toList ∧
      resolve (some (.string (String.ofList (textAt 330 leapSecond)))) ⟨0, 0⟩ = leapSecond := by
  have writable : leapSecond.IsWritable := ⟨by decide, by decide, by decide⟩
  exact ⟨by decide, (text_names_instant writable (by decide) (by decide) ⟨0, 0⟩).1⟩

end Timestamp

end Candidacy
