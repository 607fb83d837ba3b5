import Mathlib.Data.List.Induction
import Roam.Node.Walk

/-!
# One rollback for one arming

The rollback timer is started at the end of an acknowledged link change request and
of a received response.  It stops when it expires, and it is stopped when the link
is trusted.  Nothing else starts it, so that a second rollback, or one after the
stop, needs a new start.
-/

namespace Roam.Node

open Roam.Interaction

/-! ## Armings in a run -/

/-- What has become of a link change request: nothing is sent yet, or its own
transmission has been acknowledged or not. -/
abbrev RequestOutcome : Type := Option Bool

namespace RequestOutcome

/-- The first transmission in a request is its own. -/
def observe (outcome : RequestOutcome) : (action : Action) → action.Answer → RequestOutcome
  | .enter .linkChangeReq, _ => none
  | .sendtoWait _ _, acknowleged => some (outcome.getD acknowleged)
  | _, _ => outcome

/-- The outcome of the last request in a run. -/
def of (trace : List NodeStep) : RequestOutcome :=
  trace.foldl (fun outcome step => observe outcome step.action step.answer) none

end RequestOutcome

/-- The end of a procedure that has just started the rollback timer: of the handler of
a response, or of an acknowledged request. -/
def Action.Arms (outcome : RequestOutcome) : Action → Prop
  | .leave .serviceLinkChangeRsp => True
  | .leave .linkChangeReq => outcome = some true
  | _ => False

/-- The rollback timer is not running and has not expired. -/
def LoraPoint2Point.Unarmed (node : LoraPoint2Point) : Prop :=
  node.linkChangeTimeoutTimer.started = false ∧ node.linkChangeTimeoutTimer.done = false

instance : DecidablePred LoraPoint2Point.Unarmed := fun _ => inferInstanceAs (Decidable (_ ∧ _))

/-- From this step on a rollback needs a new arming: it is a rollback itself, or the
timer is at rest. -/
def Disarms (step : NodeStep) : Prop :=
  step.action = .enter .linkChangeReqTimeout ∨ step.state.Unarmed

/-- What a run shows of the rollback timer. -/
structure Arming where
  outcome : RequestOutcome := none
  armed : Prop := False

namespace Arming

def observe (arming : Arming) (step : NodeStep) : Arming where
  outcome := arming.outcome.observe step.action step.answer
  armed := ¬ Disarms step ∧ (step.action.Arms arming.outcome ∨ arming.armed)

def of (trace : List NodeStep) : Arming := trace.foldl observe {}

theorem of_append (trace : List NodeStep) (step : NodeStep) :
    of (trace ++ [step]) = (of trace).observe step := by
  rw [of, List.foldl_append]
  rfl

end Arming

/-! ## The timer and the run -/

/-- The contract that watches the rollback timer: it rolls back only when it is armed,
and its flag is seen raised at a rollback only. -/
def arming : Contract LoraPoint2Point Action Action.Answer Arming :=
  Contract.insisting
    (fun arming node action => (action = .enter .linkChangeReqTimeout → arming.armed) ∧
      (node.linkChangeTimeoutTimer.done = true → action = .enter .linkChangeReqTimeout))
    fun arming node action answer => arming.observe ⟨node, action, answer⟩

/-- The timer runs only if it has been armed, and its flag is down. -/
structure Armed (outcomes : RequestOutcome → Prop) (arming : Arming) (node : LoraPoint2Point) :
    Prop where
  oneShot : node.linkChangeTimeoutTimer.repeating = false
  calm : node.linkChangeTimeoutTimer.done = false
  armed : node.linkChangeTimeoutTimer.started = true → arming.armed
  outcome : outcomes arming.outcome

/-- Actions that neither open a request nor roll back. -/
def Action.ordinary : Action → Bool
  | .enter .linkChangeReq => false
  | .enter .linkChangeReqTimeout => false
  | _ => true

section Walk

variable {outcomes : RequestOutcome → Prop} {arming : Arming} {node later : LoraPoint2Point}

/-- A running timer stays armed. -/
theorem Armed.observe (armed : Armed outcomes arming node) {action : Action}
    {after : RequestOutcome → Prop} (ordinary : action.ordinary = true) (answer : action.Answer)
    (settled : after (arming.outcome.observe action answer)) :
    Armed after (arming.observe ⟨node, action, answer⟩) node := by
  refine ⟨armed.oneShot, armed.calm, fun running => ⟨?_, Or.inr (armed.armed running)⟩, settled⟩
  rintro (rollback | ⟨stopped, _⟩)
  · dsimp only at rollback
    subst rollback
    cases ordinary
  · exact absurd (running.symm.trans stopped) nofun

/-- Nothing but the timer counts. -/
theorem Armed.frame (armed : Armed outcomes arming node)
    (timer : later.linkChangeTimeoutTimer = node.linkChangeTimeoutTimer) :
    Armed outcomes arming later := by
  obtain ⟨oneShot, calm, running, outcome⟩ := armed
  rw [← timer] at oneShot calm running
  exact ⟨oneShot, calm, running, outcome⟩

theorem Armed.mono {weaker : RequestOutcome → Prop} (armed : Armed outcomes arming node)
    (imp : ∀ outcome, outcomes outcome → weaker outcome) : Armed weaker arming node :=
  ⟨armed.oneShot, armed.calm, armed.armed, imp _ armed.outcome⟩

theorem perform_armed {action : Action} {after : action.Answer → RequestOutcome → Prop}
    (ordinary : action.ordinary = true)
    (settled : ∀ answer outcome, outcomes outcome → after answer (outcome.observe action answer)) :
    Triple Node.arming (Armed outcomes) (perform action) fun answer => Armed (after answer) := by
  intro arming node armed
  have duty : Node.arming.require arming node action := by
    refine ⟨?_, fun raised => absurd (armed.calm.symm.trans raised) nofun⟩
    rintro rfl
    cases ordinary
  exact ⟨duty, fun answer _ => armed.observe ordinary answer (settled answer _ armed.outcome)⟩

/-- Reading a table is nothing to the timer or to a request. -/
theorem index_armed : ReadsAnywhere Node.arming (Armed outcomes) :=
  fun _ _ _ => perform_armed rfl fun _ _ => id

/-- Once a request has an outcome, further transmissions do not change it. -/
structure Settled (outcomes : RequestOutcome → Prop) : Prop where
  sendtoWait : ∀ outcome acknowleged, outcomes outcome → outcomes (some (outcome.getD acknowleged))

namespace Settled

variable (settled : Settled outcomes)

include settled

theorem perform (action : Action) (ordinary : action.ordinary = true) :
    Keeps Node.arming (Armed outcomes) (perform action) := by
  refine perform_armed ordinary fun answer outcome held => ?_
  cases action with
  | enter procedure => cases procedure <;> first | exact held | cases ordinary
  | sendtoWait payload destAddress => exact settled.sendtoWait _ _ held
  | _ => exact held

theorem carries : Carries Node.arming (Armed outcomes) where
  plain action plain := settled.perform action (by cases action <;> first | rfl | cases plain)
  index _ _ _ _ := index_armed _ _ _
  sendtoWait _ _ := settled.perform _ rfl
  statistics _ _ _ armed := armed.frame rfl
  ackSnr _ _ _ armed := armed.frame rfl
  heartbeatTimer _ _ _ armed := armed.frame rfl

theorem tunable : Tunable Node.arming (Armed outcomes) where
  index _ _ _ _ := index_armed _ _ _
  tunes action tunes := settled.perform action (by cases action <;> first | rfl | cases tunes)
  setFrequency _ := setFrequency_keeps (settled.perform _ rfl) (settled.perform _ rfl)
  reset _ _ armed := armed.frame rfl

theorem settles : Settles Node.arming (Armed outcomes) :=
  settled.tunable.toAdjusts.settles fun _ _ _ _ armed => armed.frame rfl

end Settled

/-- An operation that neither starts the timer nor raises its flag. -/
structure Calms (change : SimpleTimer → SimpleTimer) : Prop where
  repeating : ∀ timer, (change timer).repeating = timer.repeating
  done : ∀ timer, timer.done = false → (change timer).done = false
  started : ∀ timer, (change timer).started = true → timer.started = true

theorem Calms.onLinkTimer {change : SimpleTimer → SimpleTimer} (calms : Calms change) :
    Keeps Node.arming (Armed outcomes) (onLinkTimer change) :=
  Keeps.update fun _ _ armed => ⟨(calms.repeating _).trans armed.oneShot,
    calms.done _ armed.calm, fun running => armed.armed (calms.started _ running), armed.outcome⟩

theorem calms_pause : Calms .pause := ⟨fun _ => rfl, fun _ => id, nofun⟩

theorem calms_clearDone : Calms .clearDone := ⟨fun _ => rfl, fun _ _ => rfl, fun _ => id⟩

theorem calms_setTimeout (timeoutMillis : UInt32) : Calms (·.setTimeout timeoutMillis) :=
  ⟨fun _ => rfl, fun _ => id, fun _ => id⟩

/-- After an update a raised flag belongs to a timer that was armed and has stopped. -/
structure Updated (outcomes : RequestOutcome → Prop) (arming : Arming) (node : LoraPoint2Point) :
    Prop where
  oneShot : node.linkChangeTimeoutTimer.repeating = false
  armed : node.linkChangeTimeoutTimer.started = true → arming.armed
  expired : node.linkChangeTimeoutTimer.done = true →
    arming.armed ∧ node.linkChangeTimeoutTimer.started = false
  outcome : outcomes arming.outcome

theorem Armed.update (armed : Armed outcomes arming node) (now : UInt32)
    (timer : later.linkChangeTimeoutTimer = node.linkChangeTimeoutTimer.update now) :
    Updated outcomes arming later := by
  obtain ⟨oneShot, calm, running, outcome⟩ := armed
  by_cases expired : node.linkChangeTimeoutTimer.Expired now
  · rw [SimpleTimer.update_of_expired oneShot expired] at timer
    have earlier := running expired.1
    exact ⟨by rw [timer]; exact oneShot, fun _ => earlier, fun _ => ⟨earlier, by rw [timer]⟩, outcome⟩
  · have same : later.linkChangeTimeoutTimer.repeating = false ∧
        later.linkChangeTimeoutTimer.done = false ∧
        later.linkChangeTimeoutTimer.started = node.linkChangeTimeoutTimer.started := by
      rw [timer]
      cases started : node.linkChangeTimeoutTimer.started with
      | true =>
          rw [SimpleTimer.update_of_running started expired]
          exact ⟨oneShot, calm, started⟩
      | false =>
          rw [SimpleTimer.update_of_stopped started]
          exact ⟨oneShot, calm, started⟩
    obtain ⟨oneShot, calm, started⟩ := same
    exact ⟨oneShot, fun runs => running (started ▸ runs),
      fun raised => absurd (calm.symm.trans raised) nofun, outcome⟩

/-- A rollback disarms the timer. -/
theorem Settled.linkChangeReqTimeout (settled : Settled outcomes) :
    Triple Node.arming
      (fun arming node => Updated outcomes arming node ∧ node.linkChangeTimeoutTimer.done = true)
      Node.linkChangeReqTimeout fun _ => Armed outcomes := by
  rintro arming node ⟨updated, raised⟩
  obtain ⟨earlier, stopped⟩ := updated.expired raised
  refine ⟨⟨fun _ => earlier, fun _ => rfl⟩, fun _ _ => ?_⟩
  have cleared : Armed outcomes (arming.observe ⟨node, .enter .linkChangeReqTimeout, ()⟩)
      { node with linkChangeTimeoutTimer := node.linkChangeTimeoutTimer.clearDone } :=
    ⟨updated.oneShot, rfl, fun runs => absurd (stopped.symm.trans runs) nofun, updated.outcome⟩
  have rest : Keeps Node.arming (Armed outcomes) (do
      setAll node.previous
      Node.perform (.leave .linkChangeReqTimeout)) :=
    (settled.settles.setAll _).bind fun _ => settled.perform _ rfl
  exact rest _ _ cleared

theorem Settled.serviceTimers (settled : Settled outcomes) :
    Keeps Node.arming (Armed outcomes) Node.serviceTimers := by
  have calm : ∀ arming node, Updated outcomes arming node →
      node.linkChangeTimeoutTimer.done = false → Armed outcomes arming node :=
    fun _ _ updated calm => ⟨updated.oneShot, calm, updated.armed, updated.outcome⟩
  refine settled.carries.serviceTimers ?_ calm ?_
  · refine Triple.post (settled.perform .millis rfl) fun now arming node armed heartbeat => ?_
    exact armed.update now rfl
  · exact settled.linkChangeReqTimeout.bind fun _ => calms_clearDone.onLinkTimer

/-! ## Armings -/

/-- The timer has just been started. -/
structure Starts (outcomes : RequestOutcome → Prop) (arming : Arming) (node : LoraPoint2Point) :
    Prop where
  oneShot : node.linkChangeTimeoutTimer.repeating = false
  calm : node.linkChangeTimeoutTimer.done = false
  runs : node.linkChangeTimeoutTimer.started = true
  outcome : outcomes arming.outcome

theorem start_armed :
    Triple Node.arming (Armed outcomes) (onLinkTimer .start) fun _ => Starts outcomes :=
  Triple.update fun _ _ armed => ⟨armed.oneShot, armed.calm, rfl, armed.outcome⟩

/-- The timer is armed when its procedure ends. -/
theorem leave_armed {procedure : Procedure}
    (arms : ∀ outcome, outcomes outcome → Action.Arms outcome (.leave procedure)) :
    Triple Node.arming (Starts outcomes) (perform (.leave procedure)) fun _ => Armed outcomes := by
  intro arming node starts
  have duty : Node.arming.require arming node (.leave procedure) :=
    ⟨nofun, fun raised => absurd (starts.calm.symm.trans raised) nofun⟩
  refine ⟨duty, fun _ _ => ⟨starts.oneShot, starts.calm, fun _ => ⟨?_, ?_⟩, starts.outcome⟩⟩
  · rintro (rollback | ⟨stopped, _⟩)
    · cases rollback
    · exact absurd (starts.runs.symm.trans stopped) nofun
  · exact Or.inl (arms _ starts.outcome)

/-- The timer is set up anew behind a stop, so that the timers can be serviced before
it is started. -/
theorem Settled.rearm (settled : Settled outcomes) (timeoutMillis : UInt32) :
    Triple Node.arming (Armed outcomes) (do
      onLinkTimer .pause
      onLinkTimer .clearDone
      onLinkTimer (·.setTimeout timeoutMillis)
      Node.serviceTimers
      onLinkTimer .start) fun _ => Starts outcomes :=
  rearm_triple calms_pause.onLinkTimer calms_clearDone.onLinkTimer
    (calms_setTimeout timeoutMillis).onLinkTimer settled.serviceTimers start_armed

theorem Settled.serviceLinkChangeRsp (settled : Settled outcomes) :
    Keeps Node.arming (Armed outcomes) Node.serviceLinkChangeRsp := by
  refine Keeps.bind (settled.perform (.enter .serviceLinkChangeRsp) rfl) fun _ => ?_
  exact Triple.bind (settled.rearm _) fun _ => leave_armed fun _ _ => trivial

end Walk

/-! ## Runs -/

section Runs

variable {thisAddress : UInt8} {operations : List Operation} {trace : List NodeStep}
variable {last : NodeRun Bool}

end Runs

end Roam.Node
