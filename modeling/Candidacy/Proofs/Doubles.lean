import Candidacy.Binary64
import Mathlib.Order.Monotone.Basic
import Mathlib.Tactic.Ring

/-!
Doubles by rank. The next magnitude lies one step of its binade above, so the magnitudes grow with
the rank. An integer is rounded to a double that is finite, and not below the power of two under it.
-/

namespace Candidacy.Binary64

theorem perOne_eq : perOne = 2 ^ 1074 := by
  have shifted : ∀ n : Nat, 1 <<< n = 2 ^ n := Nat.one_shiftLeft
  exact shifted 1074

theorem perOne_pos : 0 < perOne := by
  have positive : ∀ n : Nat, 0 < 2 ^ n := Nat.two_pow_pos
  exact perOne_eq ▸ positive 1074

/-! Magnitudes. -/

/-- The magnitude of a rank in smallest units. -/
def unitsOf (rank : Nat) : Nat :=
  mantissaOf rank <<< scaleOf rank

/-- How far above a rank's magnitude the next one lies, in smallest units. -/
def stepOf (rank : Nat) : Nat :=
  2 ^ scaleOf rank

theorem units_eq (x : Binary64) : x.units = unitsOf x.rank := rfl

theorem unitsOf_eq (rank : Nat) : unitsOf rank = mantissaOf rank * stepOf rank :=
  Nat.shiftLeft_eq _ _

theorem stepOf_pos (rank : Nat) : 0 < stepOf rank :=
  Nat.two_pow_pos _

theorem scaleOf_eq (rank : Nat) : scaleOf rank = rank / 2 ^ 52 - 1 := by
  rw [scaleOf, Nat.shiftRight_eq_div_pow]

theorem mantissaOf_of_lt {rank : Nat} (small : rank < 2 ^ 52) : mantissaOf rank = rank :=
  if_pos small

theorem mantissaOf_of_le {rank : Nat} (large : 2 ^ 52 ≤ rank) :
    mantissaOf rank = 2 ^ 52 + rank % 2 ^ 52 :=
  if_neg (Nat.not_lt.mpr large)

/-- Where a binade ends the mantissa starts anew, with a step twice as long. -/
theorem mantissaOf_succ_of_last {rank : Nat} (full : (rank + 1) % 2 ^ 52 = 0)
    (large : 2 ^ 52 < rank + 1) :
    scaleOf (rank + 1) = scaleOf rank + 1 ∧ mantissaOf (rank + 1) = 2 ^ 52 ∧
      mantissaOf rank = 2 ^ 53 - 1 := by
  rw [scaleOf_eq, scaleOf_eq, mantissaOf_of_le (by omega), mantissaOf_of_le (by omega)]
  omega

theorem mantissaOf_succ {rank : Nat} (inside : ¬((rank + 1) % 2 ^ 52 = 0 ∧ 2 ^ 52 < rank + 1)) :
    scaleOf (rank + 1) = scaleOf rank ∧ mantissaOf (rank + 1) = mantissaOf rank + 1 := by
  constructor
  · rw [scaleOf_eq, scaleOf_eq]
    omega
  · by_cases small : rank + 1 < 2 ^ 52
    · rw [mantissaOf_of_lt small, mantissaOf_of_lt (Nat.lt_of_succ_lt small)]
    · rw [mantissaOf_of_le (Nat.not_lt.mp small)]
      by_cases first : rank < 2 ^ 52
      · rw [mantissaOf_of_lt first]
        omega
      · rw [mantissaOf_of_le (Nat.not_lt.mp first)]
        omega

theorem unitsOf_succ (rank : Nat) : unitsOf (rank + 1) = unitsOf rank + stepOf rank := by
  rw [unitsOf_eq, unitsOf_eq, stepOf, stepOf]
  by_cases last : (rank + 1) % 2 ^ 52 = 0 ∧ 2 ^ 52 < rank + 1
  · obtain ⟨scale, mantissa, before⟩ := mantissaOf_succ_of_last last.1 last.2
    rw [scale, mantissa, before, Nat.pow_succ]
    ring
  · obtain ⟨scale, mantissa⟩ := mantissaOf_succ last
    rw [scale, mantissa, Nat.succ_mul]

theorem unitsOf_strictMono : StrictMono unitsOf := by
  apply strictMono_nat_of_lt_succ
  intro rank
  rw [unitsOf_succ]
  exact Nat.lt_add_of_pos_right (stepOf_pos rank)

theorem eq_of_rank {x y : Binary64} (sign : x.negative = y.negative) (rank : x.rank = y.rank) :
    x = y := by
  cases x
  cases y
  cases sign
  cases rank
  rfl

/-- From the first rank of a binade on. -/
theorem le_unitsOf {binade rank : Nat} (above : (binade + 1) * 2 ^ 52 ≤ rank) :
    2 ^ (binade + 52) ≤ unitsOf rank := by
  have first : unitsOf ((binade + 1) * 2 ^ 52) = 2 ^ (binade + 52) := by
    rw [unitsOf_eq, stepOf, scaleOf_eq, mantissaOf_of_le (by omega), Nat.pow_add, Nat.mul_comm,
      Nat.mul_mod_left, Nat.mul_div_left _ (Nat.two_pow_pos 52), Nat.add_sub_cancel, Nat.add_zero]
  rw [← first]
  exact unitsOf_strictMono.monotone above

/-! Rounding. -/

theorem le_nearest (q r d : Nat) : q ≤ nearest q r d := by
  rw [nearest]
  split <;> omega

theorem nearest_le (q r d : Nat) : nearest q r d ≤ q + 1 := by
  rw [nearest]
  split <;> omega

theorem log2_mul_two_pow {n : Nat} (positive : n ≠ 0) (k : Nat) :
    (n * 2 ^ k).log2 = n.log2 + k := by
  rw [Nat.log2_eq_iff (Nat.mul_ne_zero positive (Nat.two_pow_pos k).ne')]
  have low := Nat.mul_le_mul_right (2 ^ k) (Nat.log2_self_le positive)
  have high := Nat.mul_lt_mul_of_pos_right (@Nat.lt_log2_self n) (Nat.two_pow_pos k)
  rw [← Nat.pow_add] at low high
  exact ⟨low, by rwa [Nat.add_right_comm] at high⟩

theorem rankOfRatio_one {n : Nat} (positive : n ≠ 0) :
    (n.log2 + 1023) * 2 ^ 52 ≤ rankOfRatio n 1 ∧
      rankOfRatio n 1 ≤ (n.log2 + 1024) * 2 ^ 52 := by
  have total : (n * perOne).log2 = n.log2 + 1074 := perOne_eq ▸ log2_mul_two_pow positive 1074
  have totalPositive : n * perOne ≠ 0 := Nat.mul_ne_zero positive perOne_pos.ne'
  have low : 2 ^ 52 ≤ n * perOne / 2 ^ (n.log2 + 1022) := by
    apply (Nat.le_div_iff_mul_le (Nat.two_pow_pos _)).mpr
    rw [← Nat.pow_add, ← Nat.le_log2 totalPositive, total]
    omega
  have high : n * perOne / 2 ^ (n.log2 + 1022) < 2 ^ 53 := by
    apply Nat.div_lt_of_lt_mul
    rw [← Nat.pow_add, ← Nat.log2_lt totalPositive, total]
    omega
  have scale : n.log2 + 1074 - 52 = n.log2 + 1022 := by omega
  have rank : rankOfRatio n 1 = (n.log2 + 1022) * 2 ^ 52 +
      nearest (n * perOne / 2 ^ (n.log2 + 1022)) (n * perOne % 2 ^ (n.log2 + 1022))
        (2 ^ (n.log2 + 1022)) := by
    simp only [rankOfRatio, Nat.div_one, total, scale, Nat.shiftLeft_eq, Nat.one_mul]
  have lowest := le_nearest (n * perOne / 2 ^ (n.log2 + 1022)) (n * perOne % 2 ^ (n.log2 + 1022))
    (2 ^ (n.log2 + 1022))
  have highest := nearest_le (n * perOne / 2 ^ (n.log2 + 1022))
    (n * perOne % 2 ^ (n.log2 + 1022)) (2 ^ (n.log2 + 1022))
  rw [rank]
  omega

/-- Rounding to a double does not lead below the power of two under an integer. -/
theorem le_truncate_ofInt {n : Nat} (positive : n ≠ 0) (finite : n.log2 < 1023) :
    ((2 ^ n.log2 : Nat) : Int) ≤ (ofInt n).truncate := by
  obtain ⟨low, high⟩ := rankOfRatio_one positive
  have isFinite : rankOfRatio n 1 < 2047 <<< 52 := by
    rw [Nat.shiftLeft_eq]
    omega
  have rounded : ofInt n = ⟨false, rankOfRatio n 1, isFinite⟩ := by
    simp only [ofInt, ofRatio?, ofRank?, Int.natAbs_natCast, dif_pos isFinite, Option.getD_some,
      Int.natCast_nonneg, Int.not_lt.mpr, decide_false]
  have units : 2 ^ n.log2 * perOne ≤ unitsOf (rankOfRatio n 1) := by
    have binade := @le_unitsOf (n.log2 + 1022) (rankOfRatio n 1) low
    rw [perOne_eq, ← Nat.pow_add]
    exact binade
  have whole := (Nat.le_div_iff_mul_le perOne_pos).mpr units
  rw [rounded]
  exact Int.ofNat_le.mpr whole

end Candidacy.Binary64
