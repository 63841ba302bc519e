import Candidacy.Binary64.Shortest
import Candidacy.Proofs.Doubles
import Mathlib.Algebra.Order.Field.Power
import Mathlib.Tactic.FieldSimp
import Mathlib.Tactic.Linarith
import Mathlib.Tactic.Positivity

/-!
Basins. The basins of different magnitudes have no number in common, and seventeen digits are always
enough to meet one, so the digits that are written for a magnitude lie in its basin alone.
-/

namespace Candidacy.Binary64

/-! Edges: each basin ends where the next one begins, halfway between their magnitudes. -/

/-- Halfway from a rank's magnitude to the next, in a quarter of the smallest unit. -/
def edgeOf (rank : Nat) : Nat :=
  4 * unitsOf rank + 2 * stepOf rank

theorem edgeOf_strictMono : StrictMono edgeOf := by
  apply strictMono_nat_of_lt_succ
  intro rank
  have step := stepOf_pos rank
  have next := stepOf_pos (rank + 1)
  rw [edgeOf, edgeOf, unitsOf_succ]
  omega

theorem basin_high (x : Binary64) : x.basin.high = edgeOf x.rank := by
  simp only [basin, units_eq, Nat.one_shiftLeft, edgeOf, stepOf]

theorem basin_low {x : Binary64} {rank : Nat} (next : x.rank = rank + 1) :
    x.basin.low = edgeOf rank := by
  have units : x.units = unitsOf rank + stepOf rank := by
    rw [units_eq, next, unitsOf_succ]
  have power : 1 <<< 52 = 2 ^ 52 := rfl
  simp only [basin, units, next, Nat.one_shiftLeft, edgeOf, power]
  split
  · next last =>
      obtain ⟨scale, _⟩ := mantissaOf_succ_of_last last.1 last.2
      rw [scale, Nat.pow_succ, stepOf]
      omega
  · next inside =>
      obtain ⟨scale, _⟩ := mantissaOf_succ inside
      rw [scale, stepOf]
      omega

theorem parity_succ (rank : Nat) : mantissaOf (rank + 1) % 2 ≠ mantissaOf rank % 2 := by
  by_cases last : (rank + 1) % 2 ^ 52 = 0 ∧ 2 ^ 52 < rank + 1
  · obtain ⟨_, mantissa, before⟩ := mantissaOf_succ_of_last last.1 last.2
    rw [mantissa, before]
    decide
  · obtain ⟨_, mantissa⟩ := mantissaOf_succ last
    omega

/-! Basins as intervals. -/

/-- The number, in a quarter of the smallest unit, lies in the basin. -/
def Basin.Contains (b : Basin) (number : ℚ) : Prop :=
  if b.closed then b.low ≤ number ∧ number ≤ b.high else b.low < number ∧ number < b.high

theorem Basin.contains_of_lt {b : Basin} {number : ℚ} (low : b.low < number)
    (high : number < b.high) : b.Contains number := by
  rw [Contains]
  split
  · exact ⟨low.le, high.le⟩
  · exact ⟨low, high⟩

theorem Basin.Contains.bounds {b : Basin} {number : ℚ} (contains : b.Contains number) :
    b.low ≤ number ∧ number ≤ b.high := by
  rw [Contains] at contains
  split at contains
  · exact contains
  · exact ⟨contains.1.le, contains.2.le⟩

theorem Basin.Contains.closed_of_low {b : Basin} {number : ℚ} (contains : b.Contains number)
    (edge : number = b.low) : b.closed = true := by
  rw [Contains] at contains
  split at contains
  · assumption
  · exact absurd edge contains.1.ne'

theorem Basin.Contains.closed_of_high {b : Basin} {number : ℚ} (contains : b.Contains number)
    (edge : number = b.high) : b.closed = true := by
  rw [Contains] at contains
  split at contains
  · assumption
  · exact absurd edge contains.2.ne

theorem not_lt_of_contains {x y : Binary64} {number : ℚ} (inX : x.basin.Contains number)
    (inY : y.basin.Contains number) : ¬x.rank < y.rank := by
  intro less
  obtain ⟨before, next⟩ := Nat.exists_eq_add_one_of_ne_zero (Nat.ne_zero_of_lt less)
  have high := inX.bounds.2
  have low := inY.bounds.1
  rw [basin_high] at high
  rw [basin_low next] at low
  have order : edgeOf x.rank ≤ edgeOf before := edgeOf_strictMono.monotone (by omega)
  have squeezed : edgeOf before ≤ edgeOf x.rank := Nat.cast_le.mp (low.trans high)
  have same : x.rank = before := edgeOf_strictMono.injective (order.antisymm squeezed)
  -- The number is the edge itself, and an edge belongs to the even one of its two magnitudes.
  have atEdge : number = edgeOf before := le_antisymm (same ▸ high) low
  have evenX := inX.closed_of_high (by rw [basin_high, same, atEdge])
  have evenY := inY.closed_of_low (by rw [basin_low next, atEdge])
  simp only [basin, next, same, beq_iff_eq] at evenX evenY
  exact parity_succ before (evenY.trans evenX.symm)

/-- Of all magnitudes' basins at most one contains a number. -/
theorem rank_eq_of_contains {x y : Binary64} {number : ℚ} (inX : x.basin.Contains number)
    (inY : y.basin.Contains number) : x.rank = y.rank :=
  Nat.le_antisymm (Nat.not_lt.mp (not_lt_of_contains inY inX))
    (Nat.not_lt.mp (not_lt_of_contains inX inY))

/-! Decimals in a basin. -/

/-- The decimal, in a quarter of the smallest unit. -/
def quarters (value : ℚ) : ℚ :=
  4 * value * perOne

theorem ten_zpow (place : Int) :
    (10 : ℚ) ^ place = (tenRatio place).1 / (tenRatio place).2 := by
  have split : place = (place.toNat : Int) - ((-place).toNat : Int) := by omega
  rw [split, zpow_sub₀ (by norm_num), ← split, zpow_natCast, zpow_natCast, tenRatio]
  simp

theorem tenRatio_pos (place : Int) : (0 : ℚ) < (tenRatio place).2 :=
  Nat.cast_pos.mpr (Nat.pow_pos (by decide))

theorem quarters_eq (n : Nat) (place : Int) :
    quarters (n * 10 ^ place) =
      (4 * n * (tenRatio place).1 * perOne : Nat) / (tenRatio place).2 := by
  rw [quarters, ten_zpow]
  push_cast
  ring

theorem quarters_mul (n : Nat) (value : ℚ) : quarters (n * value) = n * quarters value := by
  rw [quarters, quarters]
  ring

theorem Basin.holds_iff (b : Basin) (n : Nat) (place : Int) :
    b.holds n place = true ↔ b.Contains (quarters (n * 10 ^ place)) := by
  have positive := tenRatio_pos place
  simp only [holds, Contains, quarters_eq, le_div_iff₀ positive, div_le_iff₀ positive,
    lt_div_iff₀ positive, div_lt_iff₀ positive]
  split
  · simp only [Bool.and_eq_true, decide_eq_true_eq]
    norm_cast
  · simp only [Bool.and_eq_true, decide_eq_true_eq]
    norm_cast

/-! The coarsest grid that meets the basin. -/

theorem Basin.holds_of_onGrid? {b : Basin} {n : Nat} {place : Int}
    (met : b.onGrid? place = some n) : b.holds n place = true := by
  simp only [onGrid?] at met
  split at met
  · next floor above =>
      rw [Option.some.injEq, nearest] at met
      split at met
      · exact met ▸ above
      · exact met ▸ floor
  · next floor _ => exact Option.some.inj met ▸ floor
  · next _ above => exact Option.some.inj met ▸ above
  · cases met

/-- The centre lies between the two multiples around it. -/
theorem Basin.floor_spec (b : Basin) (place : Int) {floor : Nat}
    (isFloor : floor = b.centre * (tenRatio place).2 / (4 * (tenRatio place).1 * perOne)) :
    quarters (floor * 10 ^ place) ≤ b.centre ∧
      b.centre < quarters ((floor + 1 : Nat) * 10 ^ place) := by
  have num : 0 < (tenRatio place).1 := Nat.pow_pos (by decide)
  have bottom : 0 < 4 * (tenRatio place).1 * perOne :=
    Nat.mul_pos (Nat.mul_pos (by decide) num) perOne_pos
  have low := Nat.div_mul_le_self (b.centre * (tenRatio place).2) (4 * (tenRatio place).1 * perOne)
  have high := Nat.lt_mul_div_succ (b.centre * (tenRatio place).2) bottom
  rw [← isFloor] at low high
  rw [quarters_eq, quarters_eq, div_le_iff₀ (tenRatio_pos place),
    lt_div_iff₀ (tenRatio_pos place)]
  norm_cast
  constructor
  · calc
      4 * floor * (tenRatio place).1 * perOne = floor * (4 * (tenRatio place).1 * perOne) := by ring
      _ ≤ _ := low
  · calc
      _ < 4 * (tenRatio place).1 * perOne * (floor + 1) := high
      _ = 4 * (floor + 1) * (tenRatio place).1 * perOne := by ring

/-- A grid whose step is shorter than the basin meets it around the centre. -/
theorem Basin.onGrid?_isSome {b : Basin} {place : Int} (below : b.low < b.centre)
    (above : b.centre < b.high) (fine : quarters (10 ^ place) < b.high - b.low) :
    (b.onGrid? place).isSome = true := by
  obtain ⟨low, high⟩ := b.floor_spec place rfl
  generalize isFloor : b.centre * (tenRatio place).2 / (4 * (tenRatio place).1 * perOne) = floor
    at low high
  have next : quarters ((floor + 1 : Nat) * 10 ^ place) =
      quarters (floor * 10 ^ place) + quarters (10 ^ place) := by
    rw [quarters_mul, quarters_mul, Nat.cast_add_one, add_one_mul]
  have belowCentre : (b.low : ℚ) < b.centre := Nat.cast_lt.mpr below
  have aboveCentre : (b.centre : ℚ) < b.high := Nat.cast_lt.mpr above
  have inside : b.low < quarters (floor * 10 ^ place) ∨
      quarters ((floor + 1 : Nat) * 10 ^ place) < b.high := by
    by_contra! outside
    linarith
  have met : b.holds floor place = true ∨ b.holds (floor + 1) place = true := by
    rw [holds_iff, holds_iff]
    obtain floorIn | nextIn := inside
    · exact .inl (contains_of_lt floorIn (low.trans_lt aboveCentre))
    · exact .inr (contains_of_lt (belowCentre.trans high) nextIn)
  simp only [onGrid?, isFloor]
  split
  · rfl
  · rfl
  · rfl
  · next floorOut aboveOut => simp [floorOut, aboveOut] at met

/-! The place of the first digit. -/

theorem placeBelowOne_spec {fuel units : Nat} (enough : perOne ≤ 10 ^ fuel * units) :
    ∃ k : Nat, placeBelowOne fuel units = -k ∧ perOne ≤ 10 ^ k * units := by
  induction fuel generalizing units with
  | zero => exact ⟨0, rfl, enough⟩
  | succ fuel ih =>
      rw [placeBelowOne]
      split
      · next whole => exact ⟨0, rfl, by rwa [Nat.pow_zero, Nat.one_mul]⟩
      · have tenfold : perOne ≤ 10 ^ fuel * (10 * units) := by
          rwa [← Nat.mul_assoc, ← Nat.pow_succ]
        obtain ⟨k, place, bound⟩ := ih tenfold
        refine ⟨k + 1, ?_, by rwa [Nat.pow_succ, Nat.mul_assoc]⟩
        rw [place]
        omega

theorem perOne_le_pow {fuel : Nat} (many : 1074 ≤ 3 * fuel) : perOne ≤ 10 ^ fuel := by
  have eights : 8 ^ fuel ≤ 10 ^ fuel := Nat.pow_le_pow_left (by decide) fuel
  have wider (n : Nat) (few : n ≤ 3 * fuel) : 2 ^ n ≤ 10 ^ fuel := by
    rw [← Nat.pow_mul 2 3 fuel] at eights
    exact (Nat.pow_le_pow_right (by decide) few).trans eights
  exact perOne_eq.trans_le (wider 1074 many)

/-- A number is at least the power of ten at its first digit. -/
theorem pow_length_le {n : Nat} (positive : n ≠ 0) :
    10 ^ ((Nat.toDigits 10 n).length - 1) ≤ n := by
  by_cases one : (Nat.toDigits 10 n).length - 1 = 0
  · rw [one, Nat.pow_zero]
    exact Nat.one_le_iff_ne_zero.mpr positive
  · apply Nat.not_lt.mp
    intro less
    have short := (Nat.length_toDigits_le_iff (by decide) (Nat.pos_of_ne_zero one)).mpr less
    omega

variable {x : Binary64}

theorem units_pos (positive : x.rank ≠ 0) : 0 < x.units :=
  unitsOf_strictMono (Nat.pos_of_ne_zero positive)

/-- A magnitude is at least the power of ten at its first digit. -/
theorem pow_leadingPlace_le (positive : x.rank ≠ 0) :
    (10 : ℚ) ^ x.leadingPlace * perOne ≤ x.units := by
  rw [leadingPlace]
  split
  · next whole =>
      have positive : x.units / perOne ≠ 0 := (Nat.div_pos whole perOne_pos).ne'
      have first := (Nat.le_div_iff_mul_le perOne_pos).mp (pow_length_le positive)
      have atLeastOne : 0 < (Nat.toDigits 10 (x.units / perOne)).length := Nat.length_toDigits_pos
      rw [← Nat.cast_pred atLeastOne, zpow_natCast]
      exact_mod_cast first
  · have enough : perOne ≤ 10 ^ 400 * x.units :=
      (perOne_le_pow (by decide)).trans (Nat.le_mul_of_pos_right _ (units_pos positive))
    obtain ⟨k, place, bound⟩ := placeBelowOne_spec enough
    have tens : (0 : ℚ) < 10 ^ k := by positivity
    rw [place, zpow_neg, zpow_natCast, inv_mul_le_iff₀ tens]
    exact_mod_cast bound

theorem mantissaOf_pos {rank : Nat} (positive : rank ≠ 0) : 0 < mantissaOf rank := by
  by_cases small : rank < 2 ^ 52
  · rw [mantissaOf_of_lt small]
    omega
  · rw [mantissaOf_of_le (Nat.not_lt.mp small)]
    omega

theorem mantissaOf_lt (rank : Nat) : mantissaOf rank < 2 ^ 53 := by
  by_cases small : rank < 2 ^ 52
  · rw [mantissaOf_of_lt small]
    omega
  · rw [mantissaOf_of_le (Nat.not_lt.mp small)]
    omega

/-- How far a basin reaches. Below a power of two it is half as far, but there the mantissa is the
least of its binade. -/
theorem basin_width (positive : x.rank ≠ 0) :
    x.basin.low < x.basin.centre ∧ x.basin.centre < x.basin.high ∧
      4 * x.units < 10 ^ 16 * (x.basin.high - x.basin.low) := by
  have step := stepOf_pos x.rank
  have least := Nat.mul_le_mul_right (stepOf x.rank) (mantissaOf_pos positive)
  have bound := Nat.mul_le_mul_right (stepOf x.rank) (Nat.le_sub_one_of_lt (mantissaOf_lt x.rank))
  have units : x.units = mantissaOf x.rank * stepOf x.rank := unitsOf_eq x.rank
  have power : 1 <<< 52 = 2 ^ 52 := rfl
  have stepEq : 1 <<< scaleOf x.rank = stepOf x.rank := Nat.one_shiftLeft _
  simp only [basin, stepEq, power]
  split
  · next first =>
      have lowest : mantissaOf x.rank = 2 ^ 52 := by
        rw [mantissaOf_of_le first.2.le, first.1, Nat.add_zero]
      rw [units, lowest]
      omega
  · rw [units]
    omega

/-- The seventeenth digit stands on a grid that is finer than the basin. -/
theorem quarters_lt (positive : x.rank ≠ 0) :
    quarters (10 ^ (x.leadingPlace - 16)) < (x.basin.high : ℚ) - x.basin.low := by
  obtain ⟨below, above, width⟩ := basin_width positive
  have leading := pow_leadingPlace_le positive
  have widthCast : (4 : ℚ) * x.units < 10 ^ 16 * (x.basin.high - x.basin.low) := by
    rw [← Nat.cast_sub (below.trans above).le]
    exact_mod_cast width
  calc
    quarters (10 ^ (x.leadingPlace - 16))
        = 4 * (10 ^ x.leadingPlace * perOne) / 10 ^ 16 := by
      rw [quarters, zpow_sub₀ (by norm_num)]
      norm_cast
      ring
    _ ≤ 4 * x.units / 10 ^ 16 := by gcongr
    _ < x.basin.high - x.basin.low := by
      rw [div_lt_iff₀ (by positivity), mul_comm _ (10 ^ 16 : ℚ)]
      exact widthCast

/-- The digits of a magnitude lie in its basin. -/
theorem holds_shortest (positive : x.rank ≠ 0) :
    x.basin.holds x.shortest.value x.shortest.place = true := by
  obtain ⟨below, above, _⟩ := basin_width positive
  have met := Basin.onGrid?_isSome below above (quarters_lt positive)
  simp only [shortest]
  -- Whichever grid is the first to meet the basin, what it meets lies in the basin.
  cases found : ((List.range 17).map fun (n : Nat) => x.leadingPlace - n).findSome?
      fun place => (x.basin.onGrid? place).map (Digits.mk · place) with
  | none =>
      rw [List.findSome?_eq_none_iff] at found
      have last := found (x.leadingPlace - 16)
        (List.mem_map.mpr ⟨16, List.mem_range.mpr (by decide), rfl⟩)
      rw [Option.map_eq_none_iff] at last
      rw [last] at met
      cases met
  | some digits =>
      obtain ⟨place, _, isDigits⟩ := List.exists_of_findSome?_eq_some found
      obtain ⟨n, onGrid, rfl⟩ := Option.map_eq_some_iff.mp isDigits
      exact Basin.holds_of_onGrid? onGrid

end Candidacy.Binary64
