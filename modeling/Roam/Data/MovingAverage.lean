import Mathlib.Algebra.BigOperators.Intervals
import Mathlib.Algebra.BigOperators.Ring.Finset
import Mathlib.Algebra.Order.Field.Basic
import Mathlib.Tactic.FieldSimp
import Mathlib.Tactic.Linarith
import Mathlib.Tactic.Ring

/-!
# A mean that turns into a moving average

Every value moves the average towards itself by one part in the number of values
seen so far, and by one part in the period once there are that many.  Up to the
period the average is the mean; from then on older values fade geometrically.
-/

namespace Roam.Data

variable {K : Type} [Field K] [LinearOrder K] [IsStrictOrderedRing K]

/-- The average of the first values of a sequence that is numbered from one. -/
def movingAverage (period : ℕ) (value : ℕ → K) : ℕ → K
  | 0 => 0
  | count + 1 =>
      let before := movingAverage period value count
      before + (value (count + 1) - before) / (min (count + 1) period : ℕ)

section

variable {period : ℕ} {value : ℕ → K} {count : ℕ}

theorem movingAverage_succ :
    movingAverage period value (count + 1) =
      (1 - 1 / (min (count + 1) period : ℕ)) * movingAverage period value count +
        1 / (min (count + 1) period : ℕ) * value (count + 1) := by
  show movingAverage period value count +
    (value (count + 1) - movingAverage period value count) / (min (count + 1) period : ℕ) = _
  ring

/-- Up to the period the average is the mean. -/
theorem movingAverage_eq_mean (few : count ≤ period) :
    movingAverage period value count = (∑ i ∈ Finset.Icc 1 count, value i) / count := by
  induction count with
  | zero => simp [movingAverage]
  | succ count ih =>
      have next : ((count + 1 : ℕ) : K) ≠ 0 := Nat.cast_ne_zero.2 (Nat.succ_ne_zero count)
      rw [movingAverage_succ, ih (Nat.le_of_succ_le few), min_eq_left few,
        Finset.sum_Icc_succ_top (Nat.le_add_left 1 count)]
      rcases Nat.eq_zero_or_pos count with rfl | some
      · simp
      · have old : (count : K) ≠ 0 := Nat.cast_ne_zero.2 (Nat.pos_iff_ne_zero.1 some)
        rw [Nat.cast_succ] at next ⊢
        field_simp
        ring

/-- Behind the period the mean of the first values fades, and so does each later value. -/
theorem movingAverage_eq_decay (many : period ≤ count) :
    movingAverage period value count =
      (1 - 1 / (period : K)) ^ (count - period) *
          ((∑ i ∈ Finset.Icc 1 period, value i) / period) +
        ∑ i ∈ Finset.Icc (period + 1) count,
          1 / (period : K) * (1 - 1 / (period : K)) ^ (count - i) * value i := by
  induction count, many using Nat.le_induction with
  | base => simp [movingAverage_eq_mean]
  | succ count many ih =>
      have full : min (count + 1) period = period := min_eq_right (Nat.le_succ_of_le many)
      have faded : ∑ i ∈ Finset.Icc (period + 1) count,
            1 / (period : K) * (1 - 1 / (period : K)) ^ (count + 1 - i) * value i =
          (1 - 1 / (period : K)) * ∑ i ∈ Finset.Icc (period + 1) count,
            1 / (period : K) * (1 - 1 / (period : K)) ^ (count - i) * value i := by
        rw [Finset.mul_sum]
        refine Finset.sum_congr rfl fun i member => ?_
        rw [Nat.succ_sub (Finset.mem_Icc.1 member).2, pow_succ]
        ring
      rw [movingAverage_succ, full, ih, Finset.sum_Icc_succ_top (Nat.succ_le_succ many), faded,
        Nat.succ_sub many, pow_succ, Nat.sub_self, pow_zero]
      ring

theorem movingAverage_neg (period : ℕ) (value : ℕ → K) (count : ℕ) :
    movingAverage period (fun i => -value i) count = -movingAverage period value count := by
  induction count with
  | zero => exact neg_zero.symm
  | succ count ih =>
      rw [movingAverage_succ, movingAverage_succ, ih]
      ring

/-- The share of a new value lies between zero and one, and is below one for every
value but the first. -/
theorem share_bounds (long : 2 ≤ period) (count : ℕ) :
    0 < 1 / ((min (count + 1) period : ℕ) : K) ∧ 1 / ((min (count + 1) period : ℕ) : K) ≤ 1 ∧
      (0 < count → 1 / ((min (count + 1) period : ℕ) : K) < 1) := by
  have positive : 0 < min (count + 1) period := by omega
  have divisor : (0 : K) < (min (count + 1) period : ℕ) := Nat.cast_pos.2 positive
  refine ⟨one_div_pos.2 divisor, ?_, fun later => ?_⟩
  · rw [div_le_one divisor]
    exact Nat.one_le_cast.2 positive
  · rw [div_lt_one divisor]
    exact Nat.one_lt_cast.2 (by omega)

/-- The average is no lower than the values, and as low only if they all are. -/
theorem movingAverage_lower (long : 2 ≤ period) {lower : K} (some : 1 ≤ count)
    (bounded : ∀ i ∈ Finset.Icc 1 count, lower ≤ value i) :
    lower ≤ movingAverage period value count ∧
      (movingAverage period value count = lower ↔ ∀ i ∈ Finset.Icc 1 count, value i = lower) := by
  induction count, some using Nat.le_induction with
  | base =>
      have first : movingAverage period value 1 = value 1 := by
        simp [movingAverage, min_eq_left (Nat.le_of_succ_le long)]
      simp only [Finset.Icc_self, Finset.mem_singleton, forall_eq] at bounded ⊢
      rw [first]
      exact ⟨bounded, Iff.rfl⟩
  | succ count some ih =>
      obtain ⟨positive, _, proper⟩ := share_bounds (K := K) long count
      have rest := proper some
      have earlier := ih fun i member =>
        bounded i (Finset.Icc_subset_Icc_right (Nat.le_succ count) member)
      have last := bounded (count + 1) (Finset.mem_Icc.2 ⟨Nat.le_add_left 1 count, le_rfl⟩)
      have split : (∀ i ∈ Finset.Icc 1 (count + 1), value i = lower) ↔
          (∀ i ∈ Finset.Icc 1 count, value i = lower) ∧ value (count + 1) = lower := by
        rw [← Finset.insert_Icc_right_eq_Icc_add_one (Nat.le_add_left 1 count)]
        simp only [Finset.forall_mem_insert]
        exact and_comm
      rw [movingAverage_succ, split, ← earlier.2]
      generalize 1 / ((min (count + 1) period : ℕ) : K) = share at positive rest
      generalize movingAverage period value count = before at earlier
      have low := earlier.1
      have gap : (1 - share) * before + share * value (count + 1) - lower =
          (1 - share) * (before - lower) + share * (value (count + 1) - lower) := by ring
      have first : 0 ≤ (1 - share) * (before - lower) :=
        mul_nonneg (by linarith) (by linarith)
      have second : 0 ≤ share * (value (count + 1) - lower) :=
        mul_nonneg positive.le (by linarith)
      constructor
      · linarith
      · rw [← sub_eq_zero, gap, add_eq_zero_iff_of_nonneg first second, mul_eq_zero, mul_eq_zero,
          sub_eq_zero (a := before), sub_eq_zero (a := value (count + 1))]
        exact and_congr (or_iff_right (by linarith)) (or_iff_right positive.ne')

/-- The average is no higher than the values, and as high only if they all are. -/
theorem movingAverage_upper (long : 2 ≤ period) {upper : K} (some : 1 ≤ count)
    (bounded : ∀ i ∈ Finset.Icc 1 count, value i ≤ upper) :
    movingAverage period value count ≤ upper ∧
      (movingAverage period value count = upper ↔ ∀ i ∈ Finset.Icc 1 count, value i = upper) := by
  have below : ∀ i ∈ Finset.Icc 1 count, -upper ≤ -value i :=
    fun i member => neg_le_neg (bounded i member)
  have mirrored := movingAverage_lower long some below
  simp only [movingAverage_neg, neg_le_neg_iff, neg_inj] at mirrored
  exact mirrored

end

end Roam.Data
