import Roam.Node.TrueTime
import Roam.Node.Walk

/-!
# Timers against real time

A timer is started without a look at its reference, and a reset copies the clock as
`serviceTimers` has read it last.  Both are right about the time as long as that
reading is fresh.  The watch below follows a run in real time and notes when each
timer really began; the timers of a run never fire early if each of them has a
reference no more than a millisecond old whenever it begins.
-/

namespace Roam.Node

open Roam.Interaction

/-! ## One timer -/

namespace SimpleTimer

variable {timer : SimpleTimer} {since time : Nat}

/-- How far the reference is behind a true time. -/
def lag (timer : SimpleTimer) (time : Nat) : Nat := (shown time - timer.referenceMillis).toNat

theorem lag_of_le (timer : SimpleTimer) (past : since ≤ time) :
    timer.lag time = (timer.lag since + (time - since)) % 2 ^ 32 := by
  have reference := timer.referenceMillis.toNat_lt
  unfold lag shown
  rw [UInt32.toNat_sub, UInt32.toNat_sub, UInt32.toNat_ofNat', UInt32.toNat_ofNat']
  omega

theorem expired_iff_lag :
    timer.Expired (shown time) ↔ timer.started = true ∧ timer.timeoutMillis.toNat < timer.lag time :=
  and_congr_right' UInt32.lt_iff_toNat_lt

/-- A timer that begins with a fresh reference waits for its timeout. -/
theorem waits (fresh : timer.lag since ≤ 1) (past : since ≤ time)
    (expired : timer.Expired (shown time)) : since + timer.timeoutMillis.toNat ≤ time := by
  have late := (expired_iff_lag.1 expired).2
  rw [timer.lag_of_le past] at late
  have wrapped := Nat.mod_le (timer.lag since + (time - since)) (2 ^ 32)
  omega

/-- Freshness is exactly what keeps a running timer from firing early. -/
theorem fires_early_iff (running : timer.started = true) (positive : 0 < timer.timeoutMillis)
    (finite : timer.timeoutMillis ≠ 0xFFFFFFFF) :
    (∃ time, since ≤ time ∧ time < since + timer.timeoutMillis.toNat ∧
      timer.Expired (shown time)) ↔ 2 ≤ timer.lag since := by
  constructor
  · rintro ⟨time, past, early, expired⟩
    by_contra fresh
    have waited := waits (by omega) past expired
    omega
  · intro stale
    have positive : 0 < timer.timeoutMillis.toNat := UInt32.lt_iff_toNat_lt.1 positive
    have short : timer.timeoutMillis.toNat + 1 < 2 ^ 32 := by
      have bound := timer.timeoutMillis.toNat_lt
      have other : timer.timeoutMillis.toNat ≠ 2 ^ 32 - 1 := fun same =>
        finite (UInt32.toNat_inj.1 same)
      omega
    have small : timer.lag since < 2 ^ 32 := UInt32.toNat_lt _
    -- the first moment from `since` on at which the reference is far enough behind
    refine ⟨since + (timer.timeoutMillis.toNat + 1 - timer.lag since), by omega, by omega, ?_⟩
    refine expired_iff_lag.2 ⟨running, ?_⟩
    rw [timer.lag_of_le (Nat.le_add_right _ _), Nat.add_sub_cancel_left]
    rw [Nat.mod_eq_of_lt (by omega)]
    omega

end SimpleTimer

/-! ## Watching a run -/

/-- When a timer last began to measure, and whether it ran when it was last seen. -/
structure Beginning where
  since : Nat := 0
  running : Bool := false
  deriving DecidableEq

namespace Beginning

/-- The timer has been started from a stop, or reset, since it was last seen. -/
def Renewed (beginning : Beginning) (reset : Bool) (timer : SimpleTimer) : Prop :=
  timer.started = true ∧ (beginning.running = false ∨ reset = true)

instance (beginning : Beginning) (reset : Bool) (timer : SimpleTimer) :
    Decidable (beginning.Renewed reset timer) :=
  inferInstanceAs (Decidable (_ ∧ _))

def see (beginning : Beginning) (reset : Bool) (timer : SimpleTimer) (time : Nat) : Beginning where
  since := if beginning.Renewed reset timer then time else beginning.since
  running := timer.started

/-- A timer that fires is reset by its own update. -/
def update (beginning : Beginning) (timer : SimpleTimer) (time : Nat) : Beginning :=
  if timer.Expired (shown time) then { beginning with since := time } else beginning

end Beginning

/-- Real time along a run, and when the timers of the node began. -/
structure Stopwatch where
  position : Nat := 0
  time : Nat := 0
  /-- The call in progress has indicated a message. -/
  heard : Bool := false
  heartbeat : Beginning := {}
  linkChangeTimeout : Beginning := {}
  deriving DecidableEq

namespace Stopwatch

/-- The application waits for its next call.  The call before it has reset the rollback
timer, if it has indicated a message and left that timer running. -/
def reset (watch : Stopwatch) (action : Action) : Bool :=
  match action with
  | .delay 0 => watch.heard
  | _ => false

/-- Whatever happened to the timers since the last step happened at the present time. -/
def see (watch : Stopwatch) (node : LoraPoint2Point) (action : Action) : Stopwatch :=
  { watch with
    heartbeat := watch.heartbeat.see false node.heartbeatTimer watch.time
    linkChangeTimeout := watch.linkChangeTimeout.see (watch.reset action)
      node.linkChangeTimeoutTimer watch.time }

/-- Where a step ends, if the step at each position takes the given time. -/
def next (elapsed : Nat → Nat) (watch : Stopwatch) : Nat := watch.time + elapsed watch.position

def observe (elapsed : Nat → Nat) (watch : Stopwatch) (node : LoraPoint2Point) (action : Action) :
    Stopwatch :=
  let time := watch.next elapsed
  let seen := watch.see node action
  let later := { seen with position := watch.position + 1, time := time }
  match action with
  | .millis =>
      { later with
        heartbeat := seen.heartbeat.update node.heartbeatTimer time
        linkChangeTimeout := seen.linkChangeTimeout.update node.linkChangeTimeoutTimer time }
  | .rxInd _ => { later with heard := true }
  | .delay 0 => { later with heard := false }
  | _ => later

/-- The reference of a timer that has begun is no more than a millisecond behind. -/
def Prompt (watch : Stopwatch) (node : LoraPoint2Point) (action : Action) : Prop :=
  (watch.heartbeat.Renewed false node.heartbeatTimer → node.heartbeatTimer.lag watch.time ≤ 1) ∧
    (watch.linkChangeTimeout.Renewed (watch.reset action) node.linkChangeTimeoutTimer →
      node.linkChangeTimeoutTimer.lag watch.time ≤ 1)

instance (watch : Stopwatch) (node : LoraPoint2Point) (action : Action) :
    Decidable (watch.Prompt node action) :=
  inferInstanceAs (Decidable ((_ → _) ∧ (_ → _)))

/-- No timer that fires at this time has begun less than its timeout ago. -/
def Waited (watch : Stopwatch) (node : LoraPoint2Point) (time : Nat) : Prop :=
  (node.heartbeatTimer.Expired (shown time) →
      watch.heartbeat.since + node.heartbeatTimer.timeoutMillis.toNat ≤ time) ∧
    (node.linkChangeTimeoutTimer.Expired (shown time) →
      watch.linkChangeTimeout.since + node.linkChangeTimeoutTimer.timeoutMillis.toNat ≤ time)

instance (watch : Stopwatch) (node : LoraPoint2Point) (time : Nat) :
    Decidable (watch.Waited node time) :=
  inferInstanceAs (Decidable ((_ → _) ∧ (_ → _)))

end Stopwatch

namespace Action

def readsClock : Action → Bool
  | .millis => true
  | _ => false

/-- What the clock has answered, if it has been asked. -/
def reading? : (action : Action) → action.Answer → Option UInt32
  | .millis, now => some now
  | _, _ => none

/-- The clock, if it has been asked, has shown this true time. -/
def Tells (time : Nat) (action : Action) (answer : action.Answer) : Prop :=
  action.reading? answer = none ∨ action.reading? answer = some (shown time)

instance (time : Nat) (action : Action) (answer : action.Answer) :
    Decidable (action.Tells time answer) :=
  inferInstanceAs (Decidable (_ ∨ _))

end Action

/-- As long as timers begin with a fresh reference and the clock is right, no timer
fires early.  Timers are updated where the clock has been read. -/
def realTime (elapsed : Nat → Nat) : Contract LoraPoint2Point Action Action.Answer Stopwatch where
  require watch node action :=
    action.readsClock = true → watch.Prompt node action →
      (watch.see node action).Waited node (watch.next elapsed)
  allow watch node action answer :=
    watch.Prompt node action ∧ action.Tells (watch.next elapsed) answer
  record watch node action _ := watch.observe elapsed node action

/-! ## References that fit -/

namespace Beginning

variable {beginning : Beginning} {reset : Bool} {time later : Nat} {timer changed : SimpleTimer}

/-- The timer has begun in the past, and with a fresh reference if it ran when last seen. -/
structure Fits (beginning : Beginning) (time : Nat) (timer : SimpleTimer) : Prop where
  past : beginning.since ≤ time
  fresh : beginning.running = true → timer.lag beginning.since ≤ 1

/-- The same, unless the timer is at rest or has been reset. -/
structure Loose (reset : Bool) (beginning : Beginning) (time : Nat) (timer : SimpleTimer) :
    Prop where
  past : beginning.since ≤ time
  fresh : timer.started = true → reset = false → beginning.running = true →
    timer.lag beginning.since ≤ 1

theorem Fits.loose (fits : beginning.Fits time timer) : beginning.Loose reset time timer :=
  ⟨fits.past, fun _ _ => fits.fresh⟩

theorem Fits.congr (fits : beginning.Fits time timer)
    (same : changed.referenceMillis = timer.referenceMillis) : beginning.Fits time changed := by
  obtain ⟨past, fresh⟩ := fits
  refine ⟨past, fun running => ?_⟩
  unfold SimpleTimer.lag
  rw [same]
  exact fresh running

theorem Fits.onwards (fits : beginning.Fits time timer) (onwards : time ≤ later) :
    beginning.Fits later timer :=
  ⟨Nat.le_trans fits.past onwards, fits.fresh⟩

/-- A fresh beginning is noticed when the timer is next seen. -/
theorem Loose.see (loose : beginning.Loose reset time timer)
    (prompt : beginning.Renewed reset timer → timer.lag time ≤ 1) :
    (beginning.see reset timer time).Fits time timer := by
  unfold Beginning.see
  by_cases renewed : beginning.Renewed reset timer
  · rw [if_pos renewed]
    exact ⟨Nat.le_refl time, fun _ => prompt renewed⟩
  · rw [if_neg renewed]
    refine ⟨loose.past, fun started => ?_⟩
    have unchanged := not_or.1 fun either => renewed ⟨started, either⟩
    exact loose.fresh started (Bool.eq_false_iff.2 unchanged.2) (Bool.not_eq_false _ ▸ unchanged.1)

/-- A timer that has been seen with a fitting reference does not fire early. -/
theorem Fits.waits (fits : beginning.Fits time timer) (seen : beginning.running = timer.started)
    (onwards : time ≤ later) (expired : timer.Expired (shown later)) :
    beginning.since + timer.timeoutMillis.toNat ≤ later :=
  SimpleTimer.waits (fits.fresh (seen.trans expired.1)) (Nat.le_trans fits.past onwards) expired

/-- An update gives a timer that fires or rests the reference of this moment. -/
theorem Fits.update (fits : beginning.Fits time timer) (seen : beginning.running = timer.started)
    (onwards : time ≤ later) :
    (beginning.update timer later).Fits later (timer.update (shown later)) := by
  unfold Beginning.update
  by_cases expired : timer.Expired (shown later)
  · rw [if_pos expired]
    refine ⟨Nat.le_refl later, fun _ => ?_⟩
    have reset : (timer.update (shown later)).referenceMillis = shown later := by
      cases repeats : timer.repeating <;>
        simp [SimpleTimer.update, SimpleTimer.updateCalling, expired.1, expired.2, repeats,
          SimpleTimer.reset, SimpleTimer.pause]
    rw [SimpleTimer.lag, reset, UInt32.sub_self]
    exact Nat.zero_le 1
  · rw [if_neg expired]
    refine ⟨Nat.le_trans fits.past onwards, fun running => ?_⟩
    rw [SimpleTimer.update_of_running (seen.symm.trans running) expired]
    exact fits.fresh running

end Beginning

/-- Both timers of the node fit the watch, and a message in work has been heard. -/
structure Timely (handling : Prop) (watch : Stopwatch) (node : LoraPoint2Point) : Prop where
  heartbeat : watch.heartbeat.Fits watch.time node.heartbeatTimer
  linkChangeTimeout : watch.linkChangeTimeout.Fits watch.time node.linkChangeTimeoutTimer
  heard : handling → watch.heard = true

/-- The same, with a rollback timer that may be at rest or have been reset. -/
structure Lax (reset : Bool) (handling : Prop) (watch : Stopwatch) (node : LoraPoint2Point) :
    Prop where
  heartbeat : watch.heartbeat.Fits watch.time node.heartbeatTimer
  linkChangeTimeout : watch.linkChangeTimeout.Loose reset watch.time node.linkChangeTimeoutTimer
  heard : handling → watch.heard = true

section Walk

variable {elapsed : Nat → Nat} {handling : Prop} {reset : Bool}
variable {watch : Stopwatch} {node later : LoraPoint2Point} {action : Action}

theorem Timely.lax (timely : Timely handling watch node) : Lax reset handling watch node :=
  ⟨timely.heartbeat, timely.linkChangeTimeout.loose, timely.heard⟩

/-- Nothing but the references of the two timers counts. -/
theorem Timely.congr (timely : Timely handling watch node)
    (heartbeat : later.heartbeatTimer.referenceMillis = node.heartbeatTimer.referenceMillis)
    (linkChangeTimeout : later.linkChangeTimeoutTimer.referenceMillis =
      node.linkChangeTimeoutTimer.referenceMillis) :
    Timely handling watch later :=
  ⟨timely.heartbeat.congr heartbeat, timely.linkChangeTimeout.congr linkChangeTimeout, timely.heard⟩

/-- At a prompt step the two timers fit what is seen of them. -/
theorem Lax.see (lax : Lax (watch.reset action) handling watch node)
    (prompt : watch.Prompt node action) : Timely handling (watch.see node action) node :=
  ⟨lax.heartbeat.loose.see prompt.1, lax.linkChangeTimeout.see prompt.2, lax.heard⟩

theorem Lax.waited (lax : Lax (watch.reset action) handling watch node)
    (prompt : watch.Prompt node action) :
    (watch.see node action).Waited node (watch.next elapsed) := by
  have seen := lax.see prompt
  have onwards : watch.time ≤ watch.next elapsed := Nat.le_add_right _ _
  exact ⟨seen.heartbeat.waits rfl onwards, seen.linkChangeTimeout.waits rfl onwards⟩

/-- A step that does not read the clock lets time pass and nothing else. -/
theorem Lax.observe (lax : Lax (watch.reset action) handling watch node)
    (prompt : watch.Prompt node action) (other : action.readsClock = false)
    {after : Prop} (heard : after → (watch.observe elapsed node action).heard = true) :
    Timely after (watch.observe elapsed node action) node := by
  have seen := lax.see prompt
  have onwards : watch.time ≤ watch.next elapsed := Nat.le_add_right _ _
  have kept : (watch.observe elapsed node action).heartbeat = (watch.see node action).heartbeat ∧
      (watch.observe elapsed node action).linkChangeTimeout =
        (watch.see node action).linkChangeTimeout ∧
      (watch.observe elapsed node action).time = watch.next elapsed := by
    unfold Stopwatch.observe
    split
    · cases other
    · exact ⟨rfl, rfl, rfl⟩
    · exact ⟨rfl, rfl, rfl⟩
    · exact ⟨rfl, rfl, rfl⟩
  obtain ⟨heartbeat, linkChangeTimeout, time⟩ := kept
  constructor
  · rw [heartbeat, time]
    exact seen.heartbeat.onwards onwards
  · rw [linkChangeTimeout, time]
    exact seen.linkChangeTimeout.onwards onwards
  · exact heard

theorem heard_observe (lasting : action ≠ .delay 0) (heard : watch.heard = true) :
    (watch.observe elapsed node action).heard = true := by
  unfold Stopwatch.observe
  split
  · exact heard
  · rfl
  · exact absurd rfl lasting
  · exact heard

/-! ## The actions of a call -/

theorem perform_timely (other : action.readsClock = false) (lasting : action ≠ .delay 0) :
    Keeps (realTime elapsed) (Timely handling) (perform action) := by
  intro watch node timely
  refine ⟨fun clock => absurd (other.symm.trans clock) nofun, fun answer allowed => ?_⟩
  exact timely.lax.observe allowed.1 other fun handled => heard_observe lasting (timely.heard handled)

theorem index_timely : ReadsAnywhere (realTime elapsed) (Timely handling) :=
  fun _ _ _ => perform_timely rfl nofun

theorem emits_timely : Emits (fun _ => True) (realTime elapsed) (Timely handling) where
  internal action internal := by
    refine perform_timely ?_ ?_
    · cases action <;> first | rfl | cases internal
    · rintro rfl
      cases internal
  index _ _ _ _ := index_timely _ _ _
  sendAndCount payload destAddress _ := by
    refine sendAndCount_keeps ?_ ?_ ?_ ?_ payload destAddress
    · exact perform_timely rfl nofun
    · exact fun _ _ => perform_timely rfl nofun
    · exact fun _ _ _ timely => timely.congr rfl rfl
    · exact fun _ _ _ timely => timely.congr rfl rfl
  heartbeatReq _ := trivial
  heartbeatRsp _ := trivial

theorem tunable_timely : Tunable (realTime elapsed) (Timely handling) where
  index _ _ _ _ := index_timely _ _ _
  tunes action tunes := by
    refine perform_timely ?_ ?_
    · cases action <;> first | rfl | cases tunes
    · rintro rfl
      cases tunes
  setFrequency _ := setFrequency_keeps (perform_timely rfl nofun) (perform_timely rfl nofun)
  reset _ _ timely := timely.congr rfl rfl

theorem settles_timely : Settles (realTime elapsed) (Timely handling) :=
  tunable_timely.toAdjusts.settles fun _ _ _ _ timely => timely.congr rfl rfl

theorem types_timely : Types (Timely handling) where
  txMsg _ _ _ timely := timely.congr rfl rfl
  serialCmd _ _ _ _ timely := timely.congr rfl rfl

/-! ## Timers -/

/-- Operations that leave the reference of a timer alone. -/
theorem onLinkTimer_timely {change : SimpleTimer → SimpleTimer}
    (same : ∀ timer, (change timer).referenceMillis = timer.referenceMillis) :
    Keeps (realTime elapsed) (Timely handling) (onLinkTimer change) :=
  Keeps.update fun _ _ timely => timely.congr rfl (same _)

theorem onHeartbeatTimer_timely {change : SimpleTimer → SimpleTimer}
    (same : ∀ timer, (change timer).referenceMillis = timer.referenceMillis) :
    Keeps (realTime elapsed) (Timely handling) (onHeartbeatTimer change) :=
  Keeps.update fun _ _ timely => timely.congr (same _) rfl

/-- Where the clock is read the timers are seen and updated. -/
theorem millis_timely : Triple (realTime elapsed) (Lax false handling) millis
    fun now watch node => Timely handling watch { node with
      currentMillis := now
      linkChangeTimeoutTimer := node.linkChangeTimeoutTimer.update now
      heartbeatTimer := node.heartbeatTimer.update now } := by
  intro watch node lax
  have reads : Lax (watch.reset .millis) handling watch node := lax
  refine ⟨fun _ => reads.waited, ?_⟩
  rintro now ⟨prompt, right⟩
  have seen := reads.see prompt
  have onwards : watch.time ≤ watch.next elapsed := Nat.le_add_right _ _
  rcases right with silent | right
  · cases silent
  · cases right
    exact ⟨seen.heartbeat.update rfl onwards, seen.linkChangeTimeout.update rfl onwards,
      seen.heard⟩

theorem linkChangeReqTimeout_timely :
    Keeps (realTime elapsed) (Timely handling) linkChangeReqTimeout := by
  refine settles_timely.linkChangeReqTimeout ?_ ?_ ?_
  · exact perform_timely rfl nofun
  · exact perform_timely rfl nofun
  · exact onLinkTimer_timely fun _ => rfl

theorem serviceTimers_lax : Triple (realTime elapsed) (Lax false handling) serviceTimers
    fun _ => Timely handling := by
  refine emits_timely.serviceTimers millis_timely (fun _ _ timely _ => timely) ?_ ?_
  · refine Triple.pre ?_ fun _ _ => And.left
    exact linkChangeReqTimeout_timely.bind fun _ => onLinkTimer_timely fun _ => rfl
  · exact onHeartbeatTimer_timely fun _ => rfl

theorem serviceTimers_timely : Keeps (realTime elapsed) (Timely handling) serviceTimers :=
  serviceTimers_lax.pre fun _ _ timely => timely.lax

/-- Whenever the rollback timer is set up anew, only its update moves the reference. -/
theorem rearm_timely (timeoutMillis : UInt32) :
    Keeps (realTime elapsed) (Timely handling) (do
      onLinkTimer .pause
      onLinkTimer .clearDone
      onLinkTimer (·.setTimeout timeoutMillis)
      serviceTimers
      onLinkTimer .start) := by
  refine rearm_triple ?_ ?_ ?_ serviceTimers_timely ?_
  · exact onLinkTimer_timely fun _ => rfl
  · exact onLinkTimer_timely fun _ => rfl
  · exact onLinkTimer_timely fun _ => rfl
  · exact onLinkTimer_timely fun _ => rfl

theorem within_timely (procedure : Procedure) {body : NodeM Unit}
    (keeps : Keeps (realTime elapsed) (Timely handling) body) :
    Keeps (realTime elapsed) (Timely handling) (within procedure body) := by
  refine Keeps.bind (perform_timely rfl nofun) fun _ => ?_
  exact keeps.bind fun _ => perform_timely rfl nofun

theorem linkChangeReq_timely (destAddress : UInt8) (settings : Settings) :
    Keeps (realTime elapsed) (Timely handling) (linkChangeReq destAddress settings) := by
  refine within_timely _ ?_
  refine Keeps.bind (index_timely.printSettings settings) fun _ => ?_
  refine Keeps.bind (perform_timely rfl nofun) fun _ => Keeps.ite ?_ (Keeps.pure ())
  exact (settles_timely.setAll settings).bind fun _ => rearm_timely _

/-! ## Reception -/

theorem serviceLinkChangeReq_timely (srcAddress : UInt8) (settings : Settings) :
    Keeps (realTime elapsed) (Timely handling) (serviceLinkChangeReq srcAddress settings) := by
  have settles : Settles (realTime elapsed) (Timely handling) := settles_timely
  refine serviceLinkChangeReq_triple ?_ (index_timely.printSettings settings)
    (settles.setAll settings) ?_ ?_ settles.setAll ?_
  · exact perform_timely rfl nofun
  · exact perform_timely rfl nofun
  · exact fun _ => perform_timely rfl nofun
  · exact perform_timely rfl nofun

theorem dispatch_timely (rxMsg : Message) :
    Keeps (realTime elapsed) (Timely handling) (dispatch rxMsg) := by
  refine dispatch_triple (fun _ => serviceLinkChangeReq_timely _ _)
    (fun _ => within_timely _ (rearm_timely _)) ?_ ?_ ?_
  · intro _
    exact emits_timely.serviceHeartbeatReq _ (perform_timely rfl nofun) (perform_timely rfl nofun)
  · intro _
    exact serviceHeartbeatRsp_keeps (perform_timely rfl nofun) (perform_timely rfl nofun)
  · exact fun _ _ _ _ _ => id

/-- Between two calls the rollback timer may have been reset by the handling of a message. -/
def Between (watch : Stopwatch) (node : LoraPoint2Point) : Prop := Lax watch.heard False watch node

theorem Timely.between (timely : Timely handling watch node) : Between watch node :=
  ⟨timely.heartbeat, timely.linkChangeTimeout.loose, False.elim⟩

/-- The next step after a reset is the application's, unless the timer is stopped first. -/
theorem trustRule_timely :
    Triple (realTime elapsed) (Timely True) trustRule fun _ => Between := by
  intro watch node timely
  rw [trustRule_apply]
  have counted : Timely True watch (node.updatePacketErrorFraction true) := timely.congr rfl rfl
  dsimp only
  split_ifs
  · have serviced : Triple (realTime elapsed) (Lax false True) serviceTimers fun _ => Between :=
      serviceTimers_lax.post fun _ _ _ => Timely.between
    exact serviced watch _
      ⟨counted.heartbeat, ⟨counted.linkChangeTimeout.past, nofun⟩, timely.heard⟩
  · refine ⟨counted.heartbeat, ⟨counted.linkChangeTimeout.past, fun _ unheard => ?_⟩, False.elim⟩
    exact absurd (unheard.symm.trans (timely.heard trivial)) nofun
  · exact counted.between

theorem handleMessage_timely :
    Triple (realTime elapsed) (Timely False) handleMessage fun _ => Between := by
  have indicated (rxMsg : Message) : Triple (realTime elapsed) (Timely False)
      (perform (.rxInd rxMsg)) fun _ => Timely True := by
    intro watch node timely
    exact ⟨nofun, fun _ allowed => timely.lax.observe allowed.1 rfl fun _ => rfl⟩
  have reported : Triple (realTime elapsed) (Timely False) (withRxMsg report)
      fun _ => Timely True := by
    refine withRxMsg_holds fun message => Triple.pre ?_ fun _ _ => And.left
    refine (indicated message).bind fun _ => ?_
    exact Keeps.bind (perform_timely rfl nofun) fun _ => index_timely.printBuffer _ _
  refine reported.bind fun _ => Triple.bind (withRxMsg_keeps dispatch_timely) fun _ => ?_
  refine trustRule_timely.bind fun _ => Triple.update fun _ _ between => ?_
  exact ⟨between.heartbeat, between.linkChangeTimeout, between.heard⟩

theorem serviceRx_timely :
    Triple (realTime elapsed) (Timely False) serviceRx fun _ => Between := by
  have received : Keeps (realTime elapsed) (Timely False) recvfromAckTimeout := by
    refine Keeps.get_bind fun _ => Keeps.bind (perform_timely rfl nofun) fun _ => ?_
    exact (Keeps.update fun _ _ timely => timely.congr rfl rfl).bind fun _ => Keeps.pure _
  refine Triple.bind serviceTimers_timely fun _ => Triple.bind received fun taken => ?_
  exact Triple.ite (fun _ => handleMessage_timely) fun _ =>
    Triple.pure () fun _ _ => Timely.between

/-! ## Whole runs -/

theorem operation_timely (operation : Operation) :
    Triple (realTime elapsed) (Timely False) operation.run fun _ => Between := by
  have texts : Texts (realTime elapsed) (Timely False) :=
    types_timely.texts emits_timely index_timely
  have still {program : NodeM Unit} (keeps : Keeps (realTime elapsed) (Timely False) program) :
      Triple (realTime elapsed) (Timely False) program fun _ => Between :=
    keeps.post fun _ _ _ => Timely.between
  cases operation with
  | setSpreadingFactor value => exact still (settles_timely.setSpreadingFactor value)
  | setBandwidth value => exact still (settles_timely.setBandwidth value)
  | setFrequencyChannel value => exact still (settles_timely.setFrequencyChannel value)
  | setTxPower value => exact still (settles_timely.setTxPower value)
  | setTxMessage contents numChars => exact still (texts.setTxMessage contents numChars).map
  | buildStringFromSerial pending =>
      exact still (types_timely.buildStringFromSerial emits_timely index_timely settles_timely
        pending).map
  | startHeartbeats => exact still (onHeartbeatTimer_timely fun _ => rfl)
  | stopHeartbeats => exact still (onHeartbeatTimer_timely fun _ => rfl)
  | serviceTx destAddress => exact still (texts.serviceTx destAddress)
  | serviceTxSpan destAddress buf bufLen ascii =>
      exact still (emits_timely.serviceTxSpan _ _ _ _ fun _ => trivial)
  | serviceRx => exact serviceRx_timely
  | linkChangeReq destAddress settings => exact still (linkChangeReq_timely destAddress settings)
  | serviceTimers => exact still serviceTimers_timely

end Walk

/-- A call of the application, which may set the radio up at any time. -/
inductive Call where
  | setupRadio
  | member (operation : Operation)
  deriving DecidableEq, Repr

def Call.run : Call → NodeM Unit
  | .setupRadio => discard Node.setupRadio
  | .member operation => operation.run

/-- The listed calls, with a wait before each of them that stands for whatever the
application does in the meantime. -/
def application (calls : List Call) : NodeM Unit :=
  calls.forM fun call => do
    perform (.delay 0)
    call.run

theorem application_timely (elapsed : Nat → Nat) (calls : List Call) :
    Keeps (realTime elapsed) Between (application calls) := by
  refine Keeps.forM (fun call => ?_) calls
  have waited : Triple (realTime elapsed) Between (perform (.delay 0))
      fun _ => Timely False := by
    intro watch node between
    have lax : Lax (watch.reset (.delay 0)) False watch node := between
    exact ⟨nofun, fun _ allowed => lax.observe allowed.1 rfl False.elim⟩
  refine waited.bind fun _ => ?_
  cases call with
  | setupRadio =>
      have ready : Keeps (realTime elapsed) (Timely False) Node.setupRadio :=
        emits_timely.setupRadio settles_timely
      exact Triple.post ready.map fun _ _ _ => Timely.between
  | member operation => exact operation_timely operation

namespace Surroundings

/-- The run of an application in given surroundings. -/
def serve (surroundings : Surroundings) (calls : List Call) (thisAddress : UInt8) :
    List NodeStep × NodeRun Unit :=
  Resumption.drive surroundings.answer 0 (application calls (LoraPoint2Point.initial thisAddress))

theorem serve_runs (surroundings : Surroundings) (calls : List Call) (thisAddress : UInt8) :
    Resumption.Runs (application calls (LoraPoint2Point.initial thisAddress))
      (surroundings.serve calls thisAddress).1 (surroundings.serve calls thisAddress).2 :=
  Resumption.drive_runs _ _ _

end Surroundings

/-- Something holds of every step of a run and of the watch before it. -/
def Throughout (elapsed : Nat → Nat) (holds : Stopwatch → NodeStep → Prop) :
    Stopwatch → List NodeStep → Prop
  | _, [] => True
  | watch, step :: trace =>
      holds watch step ∧ Throughout elapsed holds (watch.observe elapsed step.state step.action) trace

instance decidableThroughout (elapsed : Nat → Nat) (holds : Stopwatch → NodeStep → Prop)
    [∀ watch step, Decidable (holds watch step)] :
    ∀ watch trace, Decidable (Throughout elapsed holds watch trace)
  | _, [] => isTrue trivial
  | watch, step :: trace =>
      have := decidableThroughout elapsed holds (watch.observe elapsed step.state step.action) trace
      inferInstanceAs (Decidable (_ ∧ _))

/-- A run that keeps the contract does what is required at every step. -/
theorem throughout_required {elapsed : Nat → Nat} {good : Stopwatch → LoraPoint2Point → Unit → Prop}
    {watch : Stopwatch} {first last : NodeRun Unit} {trace : List NodeStep}
    (meets : first.Meets (realTime elapsed) good watch) (run : Resumption.Runs first trace last)
    (right : Throughout elapsed
      (fun watch step => step.action.Tells (watch.next elapsed) step.answer) watch trace)
    (prompt : Throughout elapsed
      (fun watch step => watch.Prompt step.state step.action) watch trace) :
    Throughout elapsed (fun watch step => step.action.readsClock = true →
      (watch.see step.state step.action).Waited step.state (watch.next elapsed)) watch trace := by
  induction run generalizing watch with
  | refl => trivial
  | step answer rest ih =>
      obtain ⟨tells, right⟩ := right
      obtain ⟨fresh, prompt⟩ := prompt
      obtain ⟨duty, answered⟩ := meets
      exact ⟨fun clock => duty clock fresh, ih (answered answer ⟨fresh, tells⟩) right prompt⟩

/-- No timer fires early in a run in which every timer begins with a fresh reference. -/
theorem timers_wait (elapsed : Nat → Nat) (thisAddress : UInt8) (calls : List Call)
    {trace : List NodeStep} {last : NodeRun Unit}
    (run : Resumption.Runs (application calls (LoraPoint2Point.initial thisAddress)) trace last)
    (right : Throughout elapsed
      (fun watch step => step.action.Tells (watch.next elapsed) step.answer) {} trace)
    (prompt : Throughout elapsed
      (fun watch step => watch.Prompt step.state step.action) {} trace) :
    Throughout elapsed (fun watch step => step.action.readsClock = true →
      (watch.see step.state step.action).Waited step.state (watch.next elapsed)) {} trace := by
  have start : Between {} (LoraPoint2Point.initial thisAddress) :=
    ⟨⟨Nat.le_refl 0, nofun⟩, ⟨Nat.le_refl 0, fun _ _ => nofun⟩, False.elim⟩
  exact throughout_required (application_timely elapsed calls {} _ start) run right prompt

/-- Seven seconds after a heartbeat timer was started with a reference of that moment. -/
def patient : List NodeStep × NodeRun Unit :=
  Surroundings.serve { clock := fun position => if position < 28 then 1000 else 8001 }
    [.setupRadio, .member .serviceTimers, .member .startHeartbeats, .member .serviceTimers] 1

/-- The heartbeat of the patient run is sent, and not too early. -/
theorem timers_wait_patient :
    let elapsed := fun position => if position = 24 then 1000 else if position = 27 then 7001 else 0
    Throughout elapsed (fun watch step => step.action.readsClock = true →
        (watch.see step.state step.action).Waited step.state (watch.next elapsed)) {} patient.1 ∧
      ¬ Throughout elapsed (fun watch step => step.action.readsClock = true →
        ¬ step.state.heartbeatTimer.Expired (shown (watch.next elapsed))) {} patient.1 := by
  intro elapsed
  have right : Throughout elapsed
      (fun watch step => step.action.Tells (watch.next elapsed) step.answer) {} patient.1 := by
    decide +kernel
  have prompt : Throughout elapsed
      (fun watch step => watch.Prompt step.state step.action) {} patient.1 := by
    decide +kernel
  refine ⟨timers_wait elapsed 1 _ (Surroundings.serve_runs _ _ _) right prompt, ?_⟩
  decide +kernel

/-- Heartbeats are started six seconds after the node, whose timers have never been
updated.  The next look at the timers comes a second later. -/
def hasty : List NodeStep × NodeRun Unit :=
  Surroundings.serve { clock := fun _ => 7001 }
    [.setupRadio, .member .startHeartbeats, .member .serviceTimers] 1

/-- The clock is right all along, and yet a timer fires before its timeout has passed. -/
theorem hasty_fires_early :
    let elapsed := fun position => if position = 24 then 6000 else if position = 25 then 1001 else 0
    Resumption.Runs (application
        [.setupRadio, .member .startHeartbeats, .member .serviceTimers]
        (LoraPoint2Point.initial 1)) hasty.1 hasty.2 ∧
      Throughout elapsed
        (fun watch step => step.action.Tells (watch.next elapsed) step.answer) {} hasty.1 ∧
      ¬ Throughout elapsed (fun watch step => step.action.readsClock = true →
        (watch.see step.state step.action).Waited step.state (watch.next elapsed)) {} hasty.1 := by
  intro elapsed
  refine ⟨Surroundings.serve_runs _ _ _, ?_, ?_⟩
  · decide +kernel
  · decide +kernel

end Roam.Node
