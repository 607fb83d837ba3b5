import Mathlib.Data.Rat.Cast.CharZero
import Mathlib.Tactic.FieldSimp
import Mathlib.Tactic.Linarith
import Mathlib.Tactic.Ring
import Roam.Node.Walk

/-!
# The packet error fraction

The statistics count every transmission of `serviceTx` that is acknowledged or
fails, and every message received.  Over up to six packets the fraction is the
mean of what has been counted, so a reception dilutes it.
-/

namespace Roam.Node

open Roam.Interaction

/-! ## What a run lets the node count -/

/-- Packets counted since a setter last accepted a value, by kind. -/
structure Tally where
  /-- Transmissions of `serviceTx` to one address that were not acknowledged. -/
  failed : Nat := 0
  acknowledged : Nat := 0
  failedBroadcasts : Nat := 0
  received : Nat := 0
  /-- The next frame is the link change procedure's own and is not counted. -/
  ownFrame : Bool := false
  /-- A link change message is being handled; it is counted after that. -/
  handling : Bool := false
  deriving DecidableEq, Repr

namespace Tally

/-- A transmission of `serviceTx`. -/
def transmitted (tally : Tally) (destAddress : UInt8) (acknowleged : Bool) : Tally :=
  if destAddress = broadcastAddress then
    if acknowleged then tally else { tally with failedBroadcasts := tally.failedBroadcasts + 1 }
  else if acknowleged then { tally with acknowledged := tally.acknowledged + 1 }
  else { tally with failed := tally.failed + 1 }

/-- Every transmission is counted, except for a broadcast that was sent. -/
theorem transmitted_counts (tally : Tally) {destAddress : UInt8} {acknowleged : Bool}
    (counts : ¬ (destAddress = broadcastAddress ∧ acknowleged = true)) :
    let later := tally.transmitted destAddress acknowleged
    later.failed + later.acknowledged + later.failedBroadcasts =
        tally.failed + tally.acknowledged + tally.failedBroadcasts + 1 ∧
      later.failed + later.failedBroadcasts =
        tally.failed + tally.failedBroadcasts + if acknowleged then 0 else 1 := by
  unfold transmitted
  by_cases broadcast : destAddress = broadcastAddress
  · cases acknowleged with
    | true => exact absurd ⟨broadcast, rfl⟩ counts
    | false =>
        rw [if_pos broadcast]
        exact ⟨rfl, rfl⟩
  · rw [if_neg broadcast]
    cases acknowleged with
    | true =>
        constructor
        · show tally.failed + (tally.acknowledged + 1) + tally.failedBroadcasts = _
          omega
        · rfl
    | false =>
        constructor
        · show tally.failed + 1 + tally.acknowledged + tally.failedBroadcasts = _
          omega
        · show tally.failed + 1 + tally.failedBroadcasts = tally.failed + tally.failedBroadcasts + 1
          omega

/-- A transmission moves nothing but the counters of transmissions. -/
theorem transmitted_frame (tally : Tally) (destAddress : UInt8) (acknowleged : Bool) :
    let later := tally.transmitted destAddress acknowleged
    later.received = tally.received ∧ later.ownFrame = tally.ownFrame ∧
      later.handling = tally.handling := by
  unfold transmitted
  split_ifs <;> exact ⟨rfl, rfl, rfl⟩

/-- An accepted setting.  A message under way is counted after it. -/
def cleared (tally : Tally) : Tally :=
  { tally with
    failed := 0
    acknowledged := 0
    failedBroadcasts := 0
    received := tally.handling.toNat }

def observe (tally : Tally) : (action : Action) → action.Answer → Tally
  | .enter .linkChangeReq, _ => { tally with ownFrame := true }
  | .enter .serviceLinkChangeReq, _ => { tally with ownFrame := true, handling := true }
  | .enter .serviceLinkChangeRsp, _ => { tally with handling := true }
  | .leave .serviceLinkChangeReq, _ => { tally with handling := false }
  | .leave .serviceLinkChangeRsp, _ => { tally with handling := false }
  | .sendtoWait _ destAddress, acknowleged =>
      if tally.ownFrame then { tally with ownFrame := false }
      else tally.transmitted destAddress acknowleged
  | .rf95SetModeIdle, _ => tally.cleared
  | .recvfromAckTimeout _ _, .message .. => { tally with received := tally.received + 1 }
  | _, _ => tally

/-- The tally of a whole run. -/
def of (trace : List NodeStep) : Tally :=
  trace.foldl (fun tally step => tally.observe step.action step.answer) {}

/-- Everything the node counts. -/
def counted (tally : Tally) : Nat :=
  tally.failed + tally.acknowledged + tally.failedBroadcasts + tally.received

/-- Everything the node counts as an error. -/
def errors (tally : Tally) : Nat := tally.failed + tally.failedBroadcasts

/-- The share of the transmissions to one address that were not acknowledged. -/
def fraction (tally : Tally) : ℚ := tally.failed / (tally.failed + tally.acknowledged : ℕ)

/-- What is counted besides these transmissions leaves their share alone.  Where no
broadcast fails, this says that nothing failed or nothing was received. -/
def Undiluted (tally : Tally) : Prop :=
  (tally.failed = 0 → tally.failedBroadcasts = 0) ∧
    tally.failedBroadcasts * tally.acknowledged = tally.failed * tally.received

instance (tally : Tally) : Decidable tally.Undiluted := inferInstanceAs (Decidable (_ ∧ _))

/-- The share of errors in everything counted is the share of the transmissions
exactly if it is undiluted. -/
theorem mean_eq_fraction_iff (tally : Tally) :
    (tally.errors : ℚ) / tally.counted = tally.fraction ↔ tally.Undiluted := by
  obtain ⟨failed, acknowledged, failedBroadcasts, received, ownFrame, handling⟩ := tally
  simp only [errors, counted, fraction, Undiluted]
  rcases Nat.eq_zero_or_pos (failed + acknowledged) with none | some
  · obtain ⟨rfl, rfl⟩ := Nat.add_eq_zero_iff.1 none
    simp only [Nat.zero_add, Nat.cast_zero, zero_div, div_eq_zero_iff, Nat.cast_eq_zero,
      Nat.mul_zero, Nat.zero_mul, forall_const, and_true]
    omega
  · have all : ((failed + acknowledged + failedBroadcasts + received : ℕ) : ℚ) ≠ 0 :=
      Nat.cast_ne_zero.2 (by omega)
    have sent : ((failed + acknowledged : ℕ) : ℚ) ≠ 0 := Nat.cast_ne_zero.2 (by omega)
    rw [div_eq_div_iff all sent, ← Nat.cast_mul, ← Nat.cast_mul, Nat.cast_inj]
    constructor
    · intro same
      have product : failedBroadcasts * acknowledged = failed * received := by
        linarith
      refine ⟨?_, product⟩
      rintro rfl
      rw [Nat.zero_mul] at product
      rcases Nat.mul_eq_zero.1 product with nothing | nothing
      · exact nothing
      · omega
    · rintro ⟨_, product⟩
      linarith

end Tally

/-! ## The running mean -/

/-- The statistics are those of `count` packets, `errors` of them failed, as long
as these are no more than six. -/
structure Averages (errors count : Nat) (period : UInt16) (packetCount : UInt32)
    (packetErrorFraction : ℚ) : Prop where
  period : period = 6
  errors_le : errors ≤ count
  packetCount : count ≤ 6 → packetCount.toNat = count
  fraction : count ≤ 6 → packetErrorFraction = (errors : ℚ) / count

/-- Moving a mean towards one more value by its share gives the mean with that value. -/
theorem mean_next {errors count : Nat} (value : Nat) (bounded : errors ≤ count) :
    (errors : ℚ) / count + (value - errors / count) / (count + 1 : ℕ) =
      (errors + value : ℕ) / (count + 1 : ℕ) := by
  have next : ((count + 1 : ℕ) : ℚ) ≠ 0 := Nat.cast_ne_zero.2 (Nat.succ_ne_zero count)
  rcases Nat.eq_zero_or_pos count with rfl | some
  · obtain rfl := Nat.le_zero.1 bounded
    simp
  · have old : (count : ℚ) ≠ 0 := Nat.cast_ne_zero.2 (by omega)
    rw [eq_div_iff next, add_mul, div_mul_cancel₀ _ next, Nat.cast_add, Nat.cast_add, Nat.cast_one]
    field_simp
    ring

theorem Averages.update {errors count : Nat} {node : LoraPoint2Point}
    (averages : Averages errors count node.packetErrorMovingAvgPeriod node.packetCount
      node.packetErrorFraction) (packetSuccess : Bool) :
    let counted := node.updatePacketErrorFraction packetSuccess
    Averages (errors + if packetSuccess then 0 else 1) (count + 1)
      counted.packetErrorMovingAvgPeriod counted.packetCount counted.packetErrorFraction := by
  have incremented (few : count + 1 ≤ 6) : (node.packetCount + 1).toNat = count + 1 := by
    have before := averages.packetCount (by omega)
    have one : (1 : UInt32).toNat = 1 := rfl
    rw [UInt32.toNat_add, before, one]
    omega
  have errors_le := averages.errors_le
  constructor
  · exact averages.period
  · split <;> omega
  · exact incremented
  · intro few
    have divisor : (min (node.packetCount + 1) node.packetErrorMovingAvgPeriod.toUInt32).toNat =
        count + 1 := by
      have least : node.packetCount + 1 ≤ node.packetErrorMovingAvgPeriod.toUInt32 := by
        rw [averages.period, UInt32.le_iff_toNat_le, incremented few]
        exact few
      have smaller : min (node.packetCount + 1) node.packetErrorMovingAvgPeriod.toUInt32 =
          node.packetCount + 1 := if_pos least
      rw [smaller, incremented few]
    have mean := mean_next (if packetSuccess then 0 else 1) errors_le
    simp only [LoraPoint2Point.updatePacketErrorFraction, divisor, averages.fraction (by omega)]
    rw [← mean]
    cases packetSuccess <;> simp

/-! ## The node keeps the tally -/

/-- The contract that collects the tally. -/
abbrev tallying : Contract LoraPoint2Point Action Action.Answer Tally :=
  Contract.watching fun tally _ action answer => tally.observe action answer

/-- The statistics hold the tally, except for `due` receptions not yet counted. -/
def Counts (due : Nat) (ownFrame handling : Bool) (tally : Tally) (node : LoraPoint2Point) :
    Prop :=
  Averages tally.errors (tally.counted - due) node.packetErrorMovingAvgPeriod node.packetCount
      node.packetErrorFraction ∧
    due ≤ tally.received ∧ tally.ownFrame = ownFrame ∧ tally.handling = handling

/-- An action the tally does not see. -/
theorem tallying_perform {keep : Tally → LoraPoint2Point → Prop} {action : Action}
    (unseen : ∀ tally : Tally, ∀ answer, tally.observe action answer = tally) :
    Keeps tallying keep (perform action) := by
  intro tally node kept
  refine ⟨trivial, fun answer _ => ?_⟩
  show keep (tally.observe action answer) node
  rw [unseen]
  exact kept

namespace Counts

variable {due : Nat} {ownFrame handling : Bool}

theorem plain (action : Action) (plain : action.plain = true) :
    Keeps tallying (Counts due ownFrame handling) (perform action) := by
  apply tallying_perform
  intro tally answer
  cases action <;> first | rfl | cases plain

theorem reads : ReadsAnywhere tallying (Counts due ownFrame handling) :=
  fun _ _ _ => tallying_perform fun _ _ => rfl

/-- A transmission is one more packet, unless it is a broadcast that was sent. -/
theorem transmitted {tally : Tally} {node : LoraPoint2Point}
    (counts : Counts due false handling tally node) (destAddress : UInt8) (acknowleged : Bool) :
    Counts due false handling (tally.transmitted destAddress acknowleged)
      (if destAddress = broadcastAddress ∧ acknowleged = true then node
        else node.updatePacketErrorFraction acknowleged) := by
  by_cases broadcast : destAddress = broadcastAddress ∧ acknowleged = true
  · rw [if_pos broadcast, Tally.transmitted, if_pos broadcast.1, if_pos broadcast.2]
    exact counts
  · obtain ⟨averages, received, own, handles⟩ := counts
    obtain ⟨more, errors⟩ := tally.transmitted_counts broadcast
    obtain ⟨sameReceived, sameOwn, sameHandling⟩ :=
      tally.transmitted_frame destAddress acknowleged
    rw [if_neg broadcast]
    refine ⟨?_, sameReceived ▸ received, sameOwn.trans own, sameHandling.trans handles⟩
    have count : (tally.transmitted destAddress acknowleged).counted - due =
        tally.counted - due + 1 := by
      unfold Tally.counted
      omega
    rw [count, Tally.errors, errors]
    exact averages.update acknowleged

theorem sendAndCount (payload : List UInt8) (destAddress : UInt8) :
    Keeps tallying (Counts due false handling) (sendAndCount payload destAddress) := by
  intro tally node counts
  refine Resumption.Meets.bind_iff.2 ⟨trivial, fun acknowleged _ => ?_⟩
  have own : tally.ownFrame = false := counts.2.2.1
  have counted := counts.transmitted destAddress acknowleged
  have seen : tally.observe (.sendtoWait payload destAddress) acknowleged =
      tally.transmitted destAddress acknowleged := by
    simp only [Tally.observe, own, Bool.false_eq_true, ↓reduceIte]
  show Resumption.Meets tallying _ (tally.observe (.sendtoWait payload destAddress) acknowleged) _
  rw [seen]
  cases acknowleged with
  | true =>
      by_cases broadcast : destAddress = broadcastAddress
      · simp only [broadcast, and_self, ↓reduceIte] at counted ⊢
        simpa using counted
      · simp only [broadcast, false_and, ↓reduceIte] at counted
        simp only [↓reduceIte, ne_eq, broadcast, not_false_eq_true]
        exact ⟨trivial, fun _ _ => counted⟩
  | false =>
      simp only [and_false, ↓reduceIte, Bool.false_eq_true] at counted ⊢
      exact counted

theorem transmits : Transmits (fun _ => True) tallying (Counts due false handling) where
  plain := plain
  index array position size _ := reads array position size
  sendAndCount payload destAddress _ := sendAndCount payload destAddress
  heartbeatReq _ := trivial
  heartbeatRsp _ := trivial
  heartbeatTimer _ _ _ := id

/-- An accepted setting clears the statistics; a message that is being handled
stays due. -/
theorem settles (ownFrame handling : Bool) :
    Settles tallying (Counts handling.toNat ownFrame handling) := by
  have adjusts : Adjusts tallying (Counts handling.toNat ownFrame handling)
      (Counts handling.toNat ownFrame handling) := {
    index := fun array position size _ => reads array position size
    driver := by
      intro action adjusts
      apply tallying_perform
      intro tally answer
      cases action <;> first | rfl | cases adjusts
    setFrequency := by
      intro tenthMegahertz tally node counts
      exact ⟨trivial, fun _ _ => ⟨counts, fun _ => trivial⟩⟩
    storeSetting := by
      rintro store stored tally node ⟨averages, _, own, handles⟩
      refine ⟨trivial, fun _ _ => ⟨trivial, fun _ _ => stored _ _ ?_⟩⟩
      have nothing : tally.cleared.counted - handling.toNat = 0 := by
        simp only [Tally.cleared, Tally.counted, handles]
        omega
      refine ⟨?_, ?_, own, handles⟩
      · show Averages 0 (tally.cleared.counted - handling.toNat) node.packetErrorMovingAvgPeriod 0 0
        rw [nothing]
        exact ⟨averages.period, Nat.le_refl 0, fun _ => rfl, fun _ => by simp⟩
      · show handling.toNat ≤ tally.handling.toNat
        rw [handles] }
  exact adjusts.settles fun _ _ _ _ => id

theorem onLinkTimer (change : SimpleTimer → SimpleTimer) :
    Keeps tallying (Counts due ownFrame handling) (onLinkTimer change) :=
  .update fun _ _ => id

theorem serviceTimers (handling : Bool) :
    Keeps tallying (Counts handling.toNat false handling) serviceTimers := by
  refine transmits.serviceTimers ?_ (fun _ _ counts _ => counts) ?_
  · intro tally node counts
    exact ⟨trivial, fun _ _ _ => counts⟩
  · have rolledBack : Keeps tallying (Counts handling.toNat false handling)
        linkChangeReqTimeout :=
      (settles false handling).linkChangeReqTimeout (tallying_perform fun _ _ => rfl)
        (tallying_perform fun _ _ => rfl) (onLinkTimer _)
    exact (rolledBack.bind fun _ => onLinkTimer _).pre fun _ _ => And.left

/-- The frame of a link change procedure is not counted. -/
theorem sendtoWait_own (payload : List UInt8) (destAddress : UInt8) :
    Triple tallying (Counts due true handling) (sendtoWait payload destAddress)
      fun _ => Counts due false handling := by
  rintro tally node ⟨averages, received, own, handles⟩
  refine ⟨trivial, fun acknowleged _ => ?_⟩
  have seen : tally.observe (.sendtoWait payload destAddress) acknowleged =
      { tally with ownFrame := false } := by
    simp only [Tally.observe, own, ↓reduceIte]
  show Counts due false handling (tally.observe (.sendtoWait payload destAddress) acknowleged) node
  rw [seen]
  exact ⟨averages, received, rfl, handles⟩

/-- What both ends of a link change do to the rollback timer. -/
theorem rearm (handling : Bool) (timeoutMillis : UInt32) :
    Keeps tallying (Counts handling.toNat false handling) (do
      Node.onLinkTimer .pause
      Node.onLinkTimer .clearDone
      Node.onLinkTimer (·.setTimeout timeoutMillis)
      Node.serviceTimers
      Node.onLinkTimer .start) :=
  rearm_triple (onLinkTimer _) (onLinkTimer _) (onLinkTimer _) (serviceTimers handling)
    (onLinkTimer _)

theorem linkChangeReq (destAddress : UInt8) (settings : Settings) :
    Keeps tallying (Counts 0 false false) (linkChangeReq destAddress settings) := by
  have enter : Triple tallying (Counts 0 false false) (perform (.enter .linkChangeReq))
      fun _ => Counts 0 true false := by
    rintro tally node ⟨averages, received, _, handles⟩
    exact ⟨trivial, fun _ _ => ⟨averages, received, rfl, handles⟩⟩
  have leave : Keeps tallying (Counts 0 false false) (perform (.leave .linkChangeReq)) :=
    tallying_perform fun _ _ => rfl
  refine enter.bind fun _ => Triple.bind ?_ fun _ => leave
  refine Triple.bind (reads.printSettings settings) fun _ => ?_
  refine (sendtoWait_own _ _).bind fun acknowleged => Keeps.ite ?_ (Keeps.pure ())
  exact ((settles false false).setAll settings).bind fun _ => rearm false _

theorem serviceLinkChangeReq (srcAddress : UInt8) (settings : Settings) :
    Keeps tallying (Counts 1 false false) (serviceLinkChangeReq srcAddress settings) := by
  have enter : Triple tallying (Counts 1 false false) (perform (.enter .serviceLinkChangeReq))
      fun _ => Counts 1 true true := by
    rintro tally node ⟨averages, received, _, _⟩
    exact ⟨trivial, fun _ _ => ⟨averages, received, rfl, rfl⟩⟩
  have leave : Triple tallying (Counts 1 false true) (perform (.leave .serviceLinkChangeReq))
      fun _ => Counts 1 false false := by
    rintro tally node ⟨averages, received, own, _⟩
    exact ⟨trivial, fun _ _ => ⟨averages, received, own, rfl⟩⟩
  exact serviceLinkChangeReq_triple enter (reads.printSettings settings)
    ((settles true true).setAll settings) (plain _ rfl) (fun _ => sendtoWait_own _ _)
    (settles false true).setAll leave

theorem serviceLinkChangeRsp : Keeps tallying (Counts 1 false false) serviceLinkChangeRsp := by
  have enter : Triple tallying (Counts 1 false false) (perform (.enter .serviceLinkChangeRsp))
      fun _ => Counts 1 false true := by
    rintro tally node ⟨averages, received, own, _⟩
    exact ⟨trivial, fun _ _ => ⟨averages, received, own, rfl⟩⟩
  have leave : Triple tallying (Counts 1 false true) (perform (.leave .serviceLinkChangeRsp))
      fun _ => Counts 1 false false := by
    rintro tally node ⟨averages, received, own, _⟩
    exact ⟨trivial, fun _ _ => ⟨averages, received, own, rfl⟩⟩
  exact enter.bind fun _ => Triple.bind (rearm true _) fun _ => leave

theorem dispatch (rxMsg : Message) : Keeps tallying (Counts 1 false false) (dispatch rxMsg) := by
  refine dispatch_triple (fun _ => serviceLinkChangeReq _ _) (fun _ => serviceLinkChangeRsp)
    ?_ ?_ ?_
  · intro _
    exact transmits.serviceHeartbeatReq _ (tallying_perform fun _ _ => rfl)
      (tallying_perform fun _ _ => rfl)
  · intro _
    exact serviceHeartbeatRsp_keeps (tallying_perform fun _ _ => rfl)
      (tallying_perform fun _ _ => rfl)
  · exact fun _ _ _ _ _ => id

/-- The reception that was due is counted. -/
theorem trustRule :
    Triple tallying (Counts 1 false false) trustRule fun _ => Counts 0 false false := by
  have counted : Triple tallying (Counts 1 false false) (modify (·.updatePacketErrorFraction true))
      fun _ => Counts 0 false false := by
    refine Triple.update ?_
    rintro tally node ⟨averages, received, own, handles⟩
    have next := averages.update true
    have whole : tally.counted - 1 + 1 = tally.counted - 0 := by
      simp only [Tally.counted]
      omega
    rw [whole] at next
    exact ⟨next, Nat.zero_le _, own, handles⟩
  exact trustRule_triple counted (fun _ => onLinkTimer _) (onLinkTimer _) (onLinkTimer _)
    (serviceTimers false)

/-- A message taken in is due until the trust rule counts it. -/
theorem recvfromAckTimeout :
    Triple tallying (Counts 0 false false) recvfromAckTimeout fun taken =>
      if taken then Counts 1 false false else Counts 0 false false := by
  rintro tally node ⟨averages, received, own, handles⟩
  refine ⟨trivial, fun reception _ => ?_⟩
  cases reception with
  | nothing => exact ⟨averages, received, own, handles⟩
  | filtered payload => exact ⟨averages, received, own, handles⟩
  | message payload srcAddr destAddr msgId flags =>
      exact ⟨averages, Nat.succ_le_succ (Nat.zero_le _), own, handles⟩

theorem serviceRx : Keeps tallying (Counts 0 false false) serviceRx := by
  refine (serviceTimers false).bind fun _ => recvfromAckTimeout.bind fun taken => ?_
  cases taken with
  | false => exact Keeps.pure ()
  | true =>
      have reported : Keeps tallying (Counts 1 false false) (withRxMsg report) :=
        withRxMsg_keeps fun _ => report_keeps (plain _ rfl) (plain _ rfl) (reads.printBuffer _ _)
      refine Triple.bind reported fun _ => Triple.bind (withRxMsg_keeps dispatch) fun _ => ?_
      exact trustRule.bind fun _ => Keeps.update fun _ _ => id

theorem endures : Endures tallying (Counts 0 false false) := by
  have types : Types (Counts 0 false false) :=
    { txMsg := fun _ _ _ => id, serialCmd := fun _ _ _ _ => id }
  exact {
    carries := transmits
    settles := settles false false
    texts := types.texts transmits.toEmits reads
    buildStringFromSerial :=
      types.buildStringFromSerial transmits.toEmits reads (settles false false)
    serviceTimers := serviceTimers false
    serviceRx := serviceRx
    linkChangeReq := linkChangeReq }

end Counts

/-! ## Every run -/

/-- Between two calls the statistics are those of the tally. -/
theorem counts_of_session {thisAddress : UInt8} {operations : List Operation}
    {trace : List NodeStep} {node : LoraPoint2Point} {ok : Bool}
    (run : Resumption.Runs (session operations (LoraPoint2Point.initial thisAddress)) trace
      (.done node ok)) : Counts 0 false false (Tally.of trace) node := by
  have start : Counts 0 false false {} (LoraPoint2Point.initial thisAddress) :=
    ⟨⟨rfl, Nat.le_refl 0, fun _ => rfl, fun _ => by simp [Tally.errors]; rfl⟩, Nat.le_refl 0,
      rfl, rfl⟩
  have meets := Counts.endures.session operations {} _ start
  exact meets.runs run (Contract.watching_allows _ trace)

/-- As long as no more than six packets have been counted since a setter last
accepted a value, the packet error fraction is the share of unacknowledged
transmissions exactly if nothing else that was counted has diluted it. -/
theorem packetErrorFraction_iff (thisAddress : UInt8) (operations : List Operation)
    (trace : List NodeStep) (node : LoraPoint2Point) (ok : Bool)
    (run : Resumption.Runs (session operations (LoraPoint2Point.initial thisAddress)) trace
      (.done node ok)) (few : (Tally.of trace).counted ≤ 6) :
    node.getPacketErrorFraction = (Tally.of trace).fraction ↔ (Tally.of trace).Undiluted := by
  obtain ⟨averages, _⟩ := counts_of_session run
  have mean : node.packetErrorFraction =
      ((Tally.of trace).errors : ℚ) / (Tally.of trace).counted := averages.fraction few
  rw [LoraPoint2Point.getPacketErrorFraction, mean]
  exact (Tally.of trace).mean_eq_fraction_iff

/-- Only the first transmission is acknowledged, and a data message comes in whenever the node
listens. -/
def mixedTraffic (operations : List Operation) : List NodeStep × NodeRun Bool :=
  Surroundings.run {
    acknowledges := fun position => position < 28
    receives := fun _ => .message [1, 66] 9 1 0 0 } operations 1

theorem mixedTraffic_runs (operations : List Operation)
    (through : (mixedTraffic operations).2.awaits.isNone = true) :
    ∃ ok, Resumption.Runs (session operations (LoraPoint2Point.initial 1))
      (mixedTraffic operations).1 (.done (mixedTraffic operations).2.state ok) := by
  have run : Resumption.Runs (session operations (LoraPoint2Point.initial 1))
      (mixedTraffic operations).1 (mixedTraffic operations).2 := Surroundings.run_runs _ _ _
  obtain ⟨ok, ended⟩ := Resumption.eq_done_of_awaits through
  rw [ended] at run
  exact ⟨ok, run⟩

/-- One message is acknowledged, one is received and one fails. -/
def mixedCalls : List Operation :=
  [.serviceTxSpan 9 [1, 65] 2 true, .serviceRx, .serviceTxSpan 9 [1, 65] 2 true]

/-- The reception dilutes the fraction; a broadcast that fails makes up for it. -/
theorem packetErrorFraction_iff_mixed :
    let some := mixedTraffic mixedCalls
    let all := mixedTraffic (mixedCalls ++ [.serviceTxSpan broadcastAddress [1, 65] 2 true])
    some.2.state.getPacketErrorFraction ≠ (Tally.of some.1).fraction ∧
      all.2.state.getPacketErrorFraction = (Tally.of all.1).fraction := by
  intro some all
  obtain ⟨_, early⟩ := mixedTraffic_runs mixedCalls (by decide +kernel)
  obtain ⟨_, late⟩ := mixedTraffic_runs
    (mixedCalls ++ [.serviceTxSpan broadcastAddress [1, 65] 2 true]) (by decide +kernel)
  constructor
  · exact mt (packetErrorFraction_iff 1 _ _ _ _ early (by decide +kernel)).1 (by decide +kernel)
  · exact (packetErrorFraction_iff 1 _ _ _ _ late (by decide +kernel)).2 (by decide +kernel)

/-- A data message to one address is not acknowledged; then the node receives one. -/
def lossThenReception (operations : List Operation) : List NodeStep × NodeRun Bool :=
  Surroundings.run { acknowledges := fun _ => false, receives := fun _ => .message [1, 66] 9 1 0 0 }
    operations 1

/-- A reception halves the fraction of a node whose only message was lost. -/
theorem reception_dilutes_fraction :
    ¬ ∀ (thisAddress : UInt8) (operations : List Operation) (trace : List NodeStep)
      (node : LoraPoint2Point) (ok : Bool),
      Resumption.Runs (session operations (LoraPoint2Point.initial thisAddress)) trace
        (.done node ok) →
      (Tally.of trace).counted ≤ 6 →
        node.getPacketErrorFraction = (Tally.of trace).fraction := by
  intro always
  let calls : List Operation := [.serviceTxSpan 9 [1, 65] 2 true, .serviceRx]
  have undiluted := always 1 calls (lossThenReception calls).1 _ true
    (Surroundings.run_runs _ _ _) (by decide)
  exact absurd undiluted (by decide +kernel)

end Roam.Node
