import Mathlib.Data.Rat.Cast.CharZero
import Roam.Data.MovingAverage
import Roam.Node.Session

/-!
# The packet statistics over long runs

Between two resets the packet error fraction is a moving average over six packets
of the failures.  The two counters have 32 bits and are cleared by a reset only,
so the statistics hold what they say for as long as fewer than 2^32 packets are
counted between two resets.
-/

namespace Roam.Node

open Roam.Data

/-! ## Calls on the statistics -/

inductive StatisticsCall where
  | updatePacketErrorFraction (packetSuccess : Bool)
  | resetPacketErrorFraction
  deriving DecidableEq, Repr

namespace StatisticsCall

def on (node : LoraPoint2Point) : StatisticsCall → LoraPoint2Point
  | .updatePacketErrorFraction packetSuccess => node.updatePacketErrorFraction packetSuccess
  | .resetPacketErrorFraction => node.resetPacketErrorFraction

/-- Packets counted since the last reset, once this call is made. -/
def count (counted : Nat) : StatisticsCall → Nat
  | .updatePacketErrorFraction _ => counted + 1
  | .resetPacketErrorFraction => 0

/-- Packets counted since the last reset. -/
def sinceReset (calls : List StatisticsCall) : Nat := calls.foldl count 0

theorem sinceReset_append_singleton (calls : List StatisticsCall) (call : StatisticsCall) :
    sinceReset (calls ++ [call]) = call.count (sinceReset calls) := by
  rw [sinceReset, List.foldl_append]
  rfl

/-- A count that has been passed was reached by an update. -/
theorem exists_sinceReset_eq {calls : List StatisticsCall} {limit : Nat}
    (passed : limit + 1 ≤ sinceReset calls) :
    ∃ before packetSuccess after,
      calls = before ++ .updatePacketErrorFraction packetSuccess :: after ∧
        sinceReset before = limit := by
  induction calls using List.reverseRecOn with
  | nil => exact absurd passed (Nat.not_succ_le_zero limit)
  | append_singleton calls call ih =>
      rw [sinceReset_append_singleton] at passed
      rcases Nat.lt_or_ge limit (sinceReset calls) with earlier | now
      · obtain ⟨before, packetSuccess, after, rfl, reached⟩ := ih earlier
        refine ⟨before, packetSuccess, after ++ [call], ?_, reached⟩
        rw [List.append_assoc, List.cons_append]
      · cases call with
        | updatePacketErrorFraction packetSuccess =>
            have reached : limit + 1 ≤ sinceReset calls + 1 := passed
            exact ⟨calls, packetSuccess, [], rfl, by omega⟩
        | resetPacketErrorFraction => exact absurd passed (Nat.not_succ_le_zero limit)

end StatisticsCall

namespace LoraPoint2Point

/-- The listed calls, one after the other. -/
def calling (node : LoraPoint2Point) (calls : List StatisticsCall) : LoraPoint2Point :=
  calls.foldl StatisticsCall.on node

theorem calling_append (node : LoraPoint2Point) (first second : List StatisticsCall) :
    node.calling (first ++ second) = (node.calling first).calling second :=
  List.foldl_append

/-- `MIN(packetCount, packetErrorMovingAvgPeriod)`, which the last update has divided by. -/
def divisor (node : LoraPoint2Point) : UInt32 :=
  min node.packetCount node.packetErrorMovingAvgPeriod.toUInt32

theorem packetErrorFraction_update (node : LoraPoint2Point) (packetSuccess : Bool) :
    (node.updatePacketErrorFraction packetSuccess).packetErrorFraction =
      node.packetErrorFraction + ((if packetSuccess then 0 else 1) - node.packetErrorFraction) /
        (node.updatePacketErrorFraction packetSuccess).divisor.toNat := rfl

theorem divisor_toNat (node : LoraPoint2Point) :
    node.divisor.toNat =
      min node.packetCount.toNat node.packetErrorMovingAvgPeriod.toUInt32.toNat := by
  rw [divisor, Nat.min_def]
  exact apply_ite UInt32.toNat _ _ _

/-- No call on the statistics touches the period. -/
theorem calling_period (node : LoraPoint2Point) (calls : List StatisticsCall) :
    (node.calling calls).packetErrorMovingAvgPeriod = node.packetErrorMovingAvgPeriod := by
  induction calls generalizing node with
  | nil => rfl
  | cons call calls ih =>
      refine (ih (call.on node)).trans ?_
      cases call <;> rfl

end LoraPoint2Point

/-! ## The counters -/

/-- The counters after `counted` packets, `errors` of them failed. -/
structure Counters (errors counted : Nat) (node : LoraPoint2Point) : Prop where
  errors_le : errors ≤ counted
  packetCount : node.packetCount.toNat = counted % 2 ^ 32
  packetErrorCount : node.packetErrorCount.toNat = errors % 2 ^ 32

namespace Counters

variable {errors counted : Nat} {node : LoraPoint2Point}

theorem reset (node : LoraPoint2Point) : Counters 0 0 node.resetPacketErrorFraction :=
  ⟨Nat.le_refl 0, rfl, rfl⟩

theorem update (counters : Counters errors counted node) (packetSuccess : Bool) :
    Counters (errors + if packetSuccess then 0 else 1) (counted + 1)
      (node.updatePacketErrorFraction packetSuccess) where
  errors_le := by
    have errors_le := counters.errors_le
    split <;> omega
  packetCount := by
    show (node.packetCount + 1).toNat = _
    rw [UInt32.toNat_add, counters.packetCount, Nat.mod_add_mod]
    rfl
  packetErrorCount := by
    show (node.packetErrorCount + if packetSuccess then 0 else 1).toNat = _
    rw [UInt32.toNat_add, counters.packetErrorCount, Nat.mod_add_mod]
    cases packetSuccess <;> rfl

/-- A count below 2^32 is what the counter shows. -/
theorem unwrapped (counters : Counters errors counted node) (small : counted < 2 ^ 32) :
    node.packetCount.toNat = counted ∧ node.packetErrorCount.toNat = errors := by
  have errors_le := counters.errors_le
  rw [counters.packetCount, counters.packetErrorCount]
  exact ⟨Nat.mod_eq_of_lt small, Nat.mod_eq_of_lt (by omega)⟩

theorem of_calls (thisAddress : UInt8) (calls : List StatisticsCall) :
    ∃ errors, Counters errors (StatisticsCall.sinceReset calls)
      ((LoraPoint2Point.initial thisAddress).calling calls) := by
  induction calls using List.reverseRecOn with
  | nil => exact ⟨0, Nat.le_refl 0, rfl, rfl⟩
  | append_singleton calls call ih =>
      obtain ⟨errors, counters⟩ := ih
      rw [StatisticsCall.sinceReset_append_singleton, LoraPoint2Point.calling_append]
      cases call with
      | updatePacketErrorFraction packetSuccess => exact ⟨_, counters.update packetSuccess⟩
      | resetPacketErrorFraction => exact ⟨0, reset _⟩

end Counters

/-! ## Runs of any length -/

/-- After each call there are no more errors than packets, and no update has
divided by zero. -/
def CountsSafely (thisAddress : UInt8) (calls : List StatisticsCall) : Prop :=
  ∀ before call after, calls = before ++ call :: after →
    let node := (LoraPoint2Point.initial thisAddress).calling (before ++ [call])
    node.packetErrorCount ≤ node.packetCount ∧
      ∀ packetSuccess, call = .updatePacketErrorFraction packetSuccess → node.divisor ≠ 0

/-- The 2^32nd packet since a reset is divided by zero. -/
theorem divisor_wraps (thisAddress : UInt8) {calls : List StatisticsCall} (packetSuccess : Bool)
    (full : StatisticsCall.sinceReset calls = 2 ^ 32 - 1) :
    ((LoraPoint2Point.initial thisAddress).calling
      (calls ++ [.updatePacketErrorFraction packetSuccess])).divisor = 0 := by
  obtain ⟨errors, counters⟩ :=
    Counters.of_calls thisAddress (calls ++ [.updatePacketErrorFraction packetSuccess])
  have zero := counters.packetCount
  rw [StatisticsCall.sinceReset_append_singleton, StatisticsCall.count, full] at zero
  have wrapped : ((LoraPoint2Point.initial thisAddress).calling
      (calls ++ [.updatePacketErrorFraction packetSuccess])).packetCount = 0 :=
    UInt32.toNat_inj.1 (zero.trans rfl)
  rw [LoraPoint2Point.divisor, wrapped]
  exact if_pos (UInt32.le_iff_toNat_le.2 (Nat.zero_le _))

/-- However the statistics are updated and reset, no update divides by zero and there
are never more errors than packets, exactly if fewer than 2^32 packets are counted
between two resets. -/
theorem counts_safely_iff (thisAddress : UInt8) (calls : List StatisticsCall) :
    CountsSafely thisAddress calls ↔
      ∀ front, front <+: calls → StatisticsCall.sinceReset front < 2 ^ 32 := by
  constructor
  · rintro safe front ⟨rest, rfl⟩
    by_contra many
    have passed : 2 ^ 32 - 1 + 1 ≤ StatisticsCall.sinceReset front := Nat.le_of_not_lt many
    obtain ⟨before, packetSuccess, after, rfl, full⟩ :=
      StatisticsCall.exists_sinceReset_eq passed
    have divided := (safe before (.updatePacketErrorFraction packetSuccess) (after ++ rest)
      (by rw [List.append_assoc, List.cons_append])).2 packetSuccess rfl
    exact divided (divisor_wraps thisAddress packetSuccess full)
  · rintro few before call after rfl
    have small := few (before ++ [call]) ⟨after, by rw [List.append_assoc]; rfl⟩
    obtain ⟨errors, counters⟩ := Counters.of_calls thisAddress (before ++ [call])
    obtain ⟨packets, failures⟩ := counters.unwrapped small
    refine ⟨?_, ?_⟩
    · rw [UInt32.le_iff_toNat_le, packets, failures]
      exact counters.errors_le
    · rintro packetSuccess rfl zero
      have positive : 0 < StatisticsCall.sinceReset
          (before ++ [.updatePacketErrorFraction packetSuccess]) := by
        rw [StatisticsCall.sinceReset_append_singleton]
        exact Nat.succ_pos _
      have least := LoraPoint2Point.divisor_toNat ((LoraPoint2Point.initial thisAddress).calling
        (before ++ [.updatePacketErrorFraction packetSuccess]))
      rw [zero, packets, LoraPoint2Point.calling_period] at least
      exact (lt_min positive (by decide : 0 < (6 : UInt16).toUInt32.toNat)).ne least

/-- A node that is left running on one setting counts 2^32 packets. -/
theorem counter_wraps :
    ¬ ∀ (thisAddress : UInt8) (calls : List StatisticsCall), CountsSafely thisAddress calls := by
  intro always
  have counted : ∀ packets,
      StatisticsCall.sinceReset (List.replicate packets (.updatePacketErrorFraction true)) =
        packets := by
    intro packets
    induction packets with
    | zero => rfl
    | succ packets ih =>
        rw [List.replicate_succ', StatisticsCall.sinceReset_append_singleton, ih]
        rfl
  have safe := always 1 (List.replicate (2 ^ 32 - 1) (.updatePacketErrorFraction true) ++
    [.updatePacketErrorFraction true]) _ _ [] rfl
  exact safe.2 true rfl (divisor_wraps 1 true (counted _))

/-! ## The fraction in closed form -/

/-- The node after so many packets, numbered from one, of which the ones marked have failed. -/
def counting (node : LoraPoint2Point) (failed : ℕ → Bool) : ℕ → LoraPoint2Point
  | 0 => node
  | packets + 1 => (counting node failed packets).updatePacketErrorFraction (!failed (packets + 1))

/-- One for a packet that failed, zero for one that did not. -/
def failure (failed : ℕ → Bool) (packet : ℕ) : ℚ := if failed packet then 1 else 0

section Counting

variable {node : LoraPoint2Point} (failed : ℕ → Bool) (packets : ℕ)

theorem counting_counters (start : Counters 0 0 node) :
    ∃ errors, Counters errors packets (counting node failed packets) ∧
      (errors : ℚ) = ∑ packet ∈ Finset.Icc 1 packets, failure failed packet := by
  induction packets with
  | zero => exact ⟨0, start, by simp⟩
  | succ packets ih =>
      obtain ⟨errors, counters, total⟩ := ih
      refine ⟨_, counters.update (!failed (packets + 1)), ?_⟩
      rw [Finset.sum_Icc_succ_top (Nat.le_add_left 1 packets), ← total, Nat.cast_add, failure]
      cases failed (packets + 1) <;> simp

/-- Below 2^32 packets the divisor is the one of a moving average over six. -/
theorem counting_fraction (start : Counters 0 0 node) (period : node.packetErrorMovingAvgPeriod = 6)
    (empty : node.packetErrorFraction = 0) (small : packets < 2 ^ 32) :
    (counting node failed packets).packetErrorFraction =
        movingAverage 6 (failure failed) packets ∧
      (counting node failed packets).packetErrorMovingAvgPeriod = 6 := by
  induction packets with
  | zero => exact ⟨empty, period⟩
  | succ packets ih =>
      obtain ⟨fraction, period⟩ := ih (Nat.lt_of_succ_lt small)
      obtain ⟨_, counters, _⟩ := counting_counters failed (packets + 1) start
      have shown := (counters.unwrapped small).1
      refine ⟨?_, period⟩
      have divisor : (counting node failed (packets + 1)).divisor.toNat = min (packets + 1) 6 := by
        rw [LoraPoint2Point.divisor_toNat, shown]
        exact congrArg (fun period : UInt16 => min (packets + 1) period.toUInt32.toNat) period
      rw [movingAverage, ← fraction, ← divisor, failure]
      refine (LoraPoint2Point.packetErrorFraction_update _ _).trans ?_
      cases failed (packets + 1) <;> rfl

end Counting

/-- Since the last reset, fewer than 2^32 packets have made the fraction their mean, up
to six of them, and from then on a moving average; it lies between zero and one, and
is zero only if no packet has failed, one only if all have. -/
theorem packetErrorFraction_closed_form (thisAddress : UInt8) (calls : List StatisticsCall)
    (failed : ℕ → Bool) (packets : ℕ) (some : 1 ≤ packets) (small : packets < 2 ^ 32) :
    let reset := ((LoraPoint2Point.initial thisAddress).calling calls).resetPacketErrorFraction
    let node := counting reset failed packets
    (node.packetErrorCount.toNat : ℚ) = ∑ i ∈ Finset.Icc 1 packets, failure failed i ∧
      node.packetErrorCount ≤ node.packetCount ∧ node.packetCount.toNat = packets ∧
      (packets ≤ 6 → node.getPacketErrorFraction =
        (∑ i ∈ Finset.Icc 1 packets, failure failed i) / packets) ∧
      (6 < packets → node.getPacketErrorFraction =
        (5 / 6) ^ (packets - 6) * ((∑ i ∈ Finset.Icc 1 6, failure failed i) / 6) +
          ∑ i ∈ Finset.Icc 7 packets, 1 / 6 * (5 / 6) ^ (packets - i) * failure failed i) ∧
      0 ≤ node.getPacketErrorFraction ∧ node.getPacketErrorFraction ≤ 1 ∧
      (node.getPacketErrorFraction = 0 ↔ ∀ i ∈ Finset.Icc 1 packets, failed i = false) ∧
      (node.getPacketErrorFraction = 1 ↔ ∀ i ∈ Finset.Icc 1 packets, failed i = true) := by
  intro reset node
  have start : Counters 0 0 reset := Counters.reset _
  have period : reset.packetErrorMovingAvgPeriod = 6 := LoraPoint2Point.calling_period _ _
  obtain ⟨errors, counters, total⟩ := counting_counters failed packets start
  obtain ⟨count, errorCount⟩ := counters.unwrapped small
  have fraction : node.getPacketErrorFraction = movingAverage 6 (failure failed) packets :=
    (counting_fraction failed packets start period rfl small).1
  have low : ∀ i ∈ Finset.Icc 1 packets, 0 ≤ failure failed i := by
    intro i _
    unfold failure
    split <;> norm_num
  have high : ∀ i ∈ Finset.Icc 1 packets, failure failed i ≤ 1 := by
    intro i _
    unfold failure
    split <;> norm_num
  obtain ⟨nonnegative, zero⟩ := movingAverage_lower (by decide : 2 ≤ 6) some low
  obtain ⟨atMostOne, one⟩ := movingAverage_upper (by decide : 2 ≤ 6) some high
  rw [fraction]
  refine ⟨by rw [errorCount, total], ?_, count, movingAverage_eq_mean, fun many => ?_,
    nonnegative, atMostOne, ?_, ?_⟩
  · rw [UInt32.le_iff_toNat_le, count, errorCount]
    exact counters.errors_le
  · have decay : movingAverage 6 (failure failed) packets = _ :=
      movingAverage_eq_decay (Nat.le_of_lt many)
    norm_num at decay ⊢
    exact decay
  · rw [zero]
    refine forall₂_congr fun i _ => ?_
    unfold failure
    cases failed i <;> simp
  · rw [one]
    refine forall₂_congr fun i _ => ?_
    unfold failure
    cases failed i <;> simp

/-- Eight packets, of which the second and the last have failed. -/
theorem packetErrorFraction_closed_form_eight :
    (counting (LoraPoint2Point.initial 1) (fun i => i = 2 ∨ i = 8) 8).getPacketErrorFraction =
      61 / 216 := by
  have closed := (packetErrorFraction_closed_form 1 [] (fun i => i = 2 ∨ i = 8) 8
    (by decide) (by decide)).2.2.2.2.1 (by decide)
  refine closed.trans ?_
  decide +kernel

end Roam.Node
