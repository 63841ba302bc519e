import Candidacy.Proofs.Doubles
import Candidacy.Timestamp

/-!
Numbers as instants. A number of seconds or milliseconds names its instant exactly as long as the
calendar reaches that far; any other number, those beyond 63 bits included, stands for the present.
-/

namespace Candidacy

/-- An instant from the first day to the last, on the seconds that every minute has. -/
structure Instant.Within (instant : Instant) (first last : Date) : Prop where
  from_first : first.toDays * 86400 ≤ instant.secs
  to_last : instant.secs < (last.toDays + 1) * 86400
  nanos_lt : instant.nanos < 1000000000

namespace Timestamp

theorem epochNumber_of_le {n : Int} (small : n ≤ 9223372036854775807) :
    epochNumber (.int n) = n :=
  if_pos small

/-- Numbers beyond 63 bits, rounded to a double, come out as the greatest of 63 bits. -/
theorem epochNumber_of_lt {n : Int} (large : 9223372036854775807 < n) (below : n < 2 ^ 64) :
    epochNumber (.int n) = 9223372036854775807 := by
  obtain ⟨magnitude, rfl⟩ := Int.eq_ofNat_of_zero_le (by omega : 0 ≤ n)
  have positive : magnitude ≠ 0 := by omega
  have exponent : magnitude.log2 = 63 := by
    rw [Nat.log2_eq_iff positive]
    omega
  have rounded := Binary64.le_truncate_ofInt positive (by omega)
  rw [exponent] at rounded
  have clamped (m : Int) (high : 9223372036854775808 ≤ m) : clamp m = 9223372036854775807 := by
    change max (-9223372036854775808) (min m 9223372036854775807) = _
    omega
  have beyond : ¬(magnitude : Int) ≤ Int64.maxValue.toInt := Int.not_le.mpr large
  rw [epochNumber, if_neg beyond]
  exact clamped _ rounded

theorem inRange_iff {secs : Int} :
    Instant.inRange secs = true ↔ -8334601228800 ≤ secs ∧ secs ≤ 8210266876799 := by
  simp [Instant.inRange]

/-- The instant that an integer names, if it names one. -/
theorem ofEpochNumber?_eq (n : Int) :
    ofEpochNumber? n =
      if -8334601228800 ≤ n ∧ n < 946684800000 then some ⟨n, 0⟩
      else if 946684800000 ≤ n ∧ n ≤ 8210266876799999 then
        some ⟨n / 1000, (n % 1000).toNat * 1000000⟩
      else none := by
  rw [ofEpochNumber?, firstMillis, Instant.ofSecs?, Instant.ofMillis?]
  simp only [inRange_iff]
  grind

theorem ofEpochNumber?_epochNumber {n : Int} (below : n < 2 ^ 64) :
    ofEpochNumber? (epochNumber (.int n)) = ofEpochNumber? n := by
  by_cases small : n ≤ 9223372036854775807
  · rw [epochNumber_of_le small]
  · rw [epochNumber_of_lt (Int.not_le.mp small) below, ofEpochNumber?_eq, ofEpochNumber?_eq]
    -- Neither number is one of the calendar.
    have beyond : 8210266876799999 < n := by omega
    rw [if_neg (by omega), if_neg (by omega), if_neg (by omega), if_neg (by omega)]

theorem within_calendar {instant : Instant} (low : -8334601228800 ≤ instant.secs)
    (high : instant.secs < 8210266876800) (fraction : instant.nanos < 1000000000) :
    instant.Within ⟨-262143, 1, 1⟩ ⟨262142, 12, 31⟩ := by
  have first : Date.toDays ⟨-262143, 1, 1⟩ * 86400 = -8334601228800 := by decide
  have last : (Date.toDays ⟨262142, 12, 31⟩ + 1) * 86400 = 8210266876800 := by decide
  exact ⟨first.trans_le low, last.symm ▸ high, fraction⟩

/-- The instant of a numeric timestamp. Below the year 2000 in milliseconds a number counts seconds,
from there on milliseconds, and beyond the calendar at either end it stands for the present. So the
instant is the present or one of the calendar. -/
theorem number_names_instant {n : Int} (below : n < 2 ^ 64) (now : Instant) :
    let instant := resolve (some (.number (.int n))) now
    (-8334601228800 ≤ n → n < 946684800000 → instant = ⟨n, 0⟩) ∧
    (946684800000 ≤ n → n ≤ 8210266876799999 →
      instant = ⟨n.fdiv 1000, (n.fmod 1000).toNat * 1000000⟩) ∧
    (n < -8334601228800 ∨ 8210266876799999 < n → instant = now) ∧
    (instant = now ∨ instant.Within ⟨-262143, 1, 1⟩ ⟨262142, 12, 31⟩) := by
  intro instant
  have resolved : instant = (ofEpochNumber? n).getD now := by
    rw [← ofEpochNumber?_epochNumber below]
    rfl
  rw [ofEpochNumber?_eq] at resolved
  rw [Int.fdiv_eq_ediv_of_nonneg n (by decide), Int.fmod_eq_emod_of_nonneg n (by decide)]
  split at resolved
  · next inSeconds =>
      refine ⟨fun _ _ => resolved, by omega, by omega, .inr ?_⟩
      rw [resolved]
      apply within_calendar <;> simp only [Option.getD_some] <;> omega
  · next =>
      split at resolved
      · next inMillis =>
          refine ⟨by omega, fun _ _ => resolved, by omega, .inr ?_⟩
          rw [resolved]
          apply within_calendar <;> simp only [Option.getD_some] <;> omega
      · next => exact ⟨by omega, by omega, fun _ => resolved, .inl resolved⟩

/-- The last number of 64 bits, the last number of seconds and the first of milliseconds. -/
theorem numbers_at_the_edges :
    resolve (some (.number (.int 18446744073709551615))) ⟨1, 0⟩ = ⟨1, 0⟩ ∧
      resolve (some (.number (.int 946684799999))) ⟨1, 0⟩ = ⟨946684799999, 0⟩ ∧
      resolve (some (.number (.int 946684800000))) ⟨1, 0⟩ = ⟨946684800, 0⟩ := by
  obtain ⟨_, _, beyond, _⟩ := @number_names_instant 18446744073709551615 (by decide) ⟨1, 0⟩
  obtain ⟨seconds, _, _, _⟩ := @number_names_instant 946684799999 (by decide) ⟨1, 0⟩
  obtain ⟨_, millis, _, _⟩ := @number_names_instant 946684800000 (by decide) ⟨1, 0⟩
  exact ⟨beyond (by decide), seconds (by decide) (by decide), millis (by decide) (by decide)⟩

end Timestamp

end Candidacy
