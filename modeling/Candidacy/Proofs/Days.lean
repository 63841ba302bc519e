import Candidacy.Calendar
import Mathlib.Tactic.Ring

/-!
The calendar from days to dates and back. Every day lies in one year, in one of its months, so the
date of a day exists and leads back to it.
-/

namespace Candidacy.Date

/-! Years. -/

def yearLength (year : Int) : Nat :=
  if isLeap year then 366 else 365

theorem sum_monthLengths (year : Int) : (monthLengths (isLeap year)).sum = yearLength year := by
  rw [yearLength]
  cases isLeap year <;> rfl

theorem isLeap_iff (year : Int) :
    isLeap year = true ↔ year % 4 = 0 ∧ (year % 100 ≠ 0 ∨ year % 400 = 0) := by
  simp [isLeap]

theorem yearStart_succ (year : Int) : yearStart (year + 1) = yearStart year + yearLength year := by
  have before : year + 1 - 1 = year := by omega
  simp only [yearStart, before, leapDays, yearLength]
  split
  · next leap =>
      rw [isLeap_iff] at leap
      omega
  · next common =>
      rw [isLeap_iff] at common
      omega

theorem yearStart_le_yearStart {year later : Int} (before : year ≤ later) :
    yearStart year ≤ yearStart later := by
  have ascending : Monotone yearStart := by
    apply monotone_int_of_le_succ
    intro year
    rw [yearStart_succ, yearLength]
    split <;> omega
  exact ascending before

/-- The year by the mean length is right, or off by one. -/
theorem yearStart_mean (days : Int) :
    yearStart (days * 400 / 146097 + 1970 - 1) ≤ days ∧
      days < yearStart (days * 400 / 146097 + 1970 + 1 + 1) := by
  simp only [yearStart, leapDays]
  omega

theorem yearOf_spec (days : Int) :
    yearStart (yearOf days) ≤ days ∧ days < yearStart (yearOf days + 1) := by
  obtain ⟨low, high⟩ := yearStart_mean days
  simp only [yearOf]
  split
  · next before =>
      rw [Int.sub_add_cancel]
      exact ⟨low, before⟩
  · next fromStart =>
      split
      · next after => exact ⟨after, high⟩
      · next inside => exact ⟨Int.not_lt.mp fromStart, Int.not_le.mp inside⟩

/-! Months. -/

theorem monthAndDay_spec {lengths : List Nat} {day : Nat} (inYear : day < lengths.sum) :
    let place := monthAndDay lengths day
    ∃ length, lengths[place.1]? = some length ∧ place.2 < length ∧
      (lengths.take place.1).sum + place.2 = day := by
  induction lengths generalizing day with
  | nil => simp at inYear
  | cons length rest ih =>
      rw [monthAndDay]
      split
      · next inside => exact ⟨length, rfl, inside, by simp⟩
      · next outside =>
          rw [List.sum_cons] at inYear
          obtain ⟨found, place, inside, same⟩ := ih (by omega : day - length < rest.sum)
          refine ⟨found, place, inside, ?_⟩
          simp only [List.take_succ_cons, List.sum_cons]
          omega

/-! Days. -/

/-- A day is its year's start, the months before its own and the days before it in the month. -/
theorem ofDays_spec (days : Int) :
    let date := ofDays days
    date.year = yearOf days ∧
    ∃ length, (monthLengths (isLeap date.year))[date.month - 1]? = some length ∧
      1 ≤ date.month ∧ 1 ≤ date.day ∧ date.day ≤ length ∧
      days = yearStart date.year +
        (((monthLengths (isLeap date.year)).take (date.month - 1)).sum + (date.day - 1) : Nat) := by
  intro date
  obtain ⟨low, high⟩ := yearOf_spec days
  rw [yearStart_succ] at high
  have inYear : (days - yearStart (yearOf days)).toNat <
      (monthLengths (isLeap (yearOf days))).sum := by
    rw [sum_monthLengths]
    omega
  obtain ⟨length, found, inside, same⟩ := monthAndDay_spec inYear
  refine ⟨rfl, length, found, Nat.le_add_left _ _, Nat.le_add_left _ _, inside, ?_⟩
  change days = yearStart (yearOf days) + (_ : Nat)
  simp only [date, ofDays, Nat.add_sub_cancel, same]
  omega

theorem exists?_ofDays (days : Int) : (ofDays days).exists? = true := by
  obtain ⟨_, length, found, month, day, last, _⟩ := ofDays_spec days
  rw [exists?, found]
  simp [month, day, last]

theorem toDays_ofDays (days : Int) : (ofDays days).toDays = days := by
  obtain ⟨_, _, _, _, _, _, same⟩ := ofDays_spec days
  rw [toDays, monthStart, ← List.sum_eq_foldl]
  omega

/-- The numbers of a month and of a day have two digits. -/
theorem two_digits {date : Date} (isDate : date.exists? = true) :
    date.month < 100 ∧ date.day < 100 := by
  rw [exists?] at isDate
  cases found : (monthLengths (isLeap date.year))[date.month - 1]? with
  | none => simp [found] at isDate
  | some length =>
      obtain ⟨bound, _⟩ := List.getElem?_eq_some_iff.mp found
      have short : ∀ length ∈ monthLengths (isLeap date.year), length ≤ 31 := by
        cases isLeap date.year <;> decide
      have months : (monthLengths (isLeap date.year)).length = 12 := rfl
      have length_le := short length (List.mem_of_getElem? found)
      simp only [found, Bool.and_eq_true, decide_eq_true_eq] at isDate
      omega

end Candidacy.Date
