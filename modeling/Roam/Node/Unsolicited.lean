import Roam.Node.Walk

/-!
# Messages nobody asked for

Only a link change request and the rollback set the radio without a call of the
application.  A response arms the rollback timer of any node, whether or not it
has asked for a change.  Such a node keeps its settings as long as a timer that
runs out finds the previous settings equal to the current ones.
-/

namespace Roam.Node

open Roam.Interaction

/-! ## What arrives and what runs out -/

/-- The frame read at this step, if there is one, does not start like a request. -/
def unrequesting : NodeStep → Bool
  | ⟨_, .recvfromAckTimeout _ _, reception⟩ =>
      (Reception.payload reception).head? ≠ some MsgType.linkChangeReq.code
  | _ => true

/-- A rollback that comes due at this step would return to the current settings. -/
def rollbackIdle : NodeStep → Bool
  | ⟨node, .millis, now⟩ =>
      node.linkChangeTimeoutTimer.Expired now → node.previous = node.current
  | _ => true

/-- The settings are held as long as every answer fits. -/
def holding (held : Settings → Prop) (fits : NodeStep → Prop) :
    Contract LoraPoint2Point Action Action.Answer Unit where
  require _ node _ := held node.current
  allow _ node action answer := fits ⟨node, action, answer⟩
  record _ _ _ _ := ()

theorem holding_allows {held : Settings → Prop} {fits : NodeStep → Prop}
    (trace : List NodeStep) :
    (holding held fits).Allows () trace ↔ ∀ step ∈ trace, fits step := by
  have stepwise := Contract.allows_iff (holding held fits) (fun _ _ _ _ => Iff.rfl) () trace
  exact stepwise

namespace Operation

/-- Calls that ask another node for a link change. -/
def requests : Operation → Bool
  | .linkChangeReq _ _ => true
  | _ => false

end Operation

/-! ## The calm between two handlers -/

/-- No rollback is pending, no request is in the receive buffer, and the settings
and the serial mode are held. -/
def Calm (held : Settings → Prop) (serial : Bool → Prop) (_ : Unit) (node : LoraPoint2Point) :
    Prop :=
  node.linkChangeTimeoutTimer.done = false ∧
    node.rxMsg.buf.get 0 ≠ MsgType.linkChangeReq.code ∧ serial node.serialCommandMode ∧
      held node.current

/-- A received frame leaves no request in the buffer if it is none. -/
theorem afterReception_unrequesting {message : Message} {reception : Reception}
    (stale : message.buf.get 0 ≠ MsgType.linkChangeReq.code)
    (fresh : reception.payload.head? ≠ some MsgType.linkChangeReq.code) :
    (message.afterReception reception).buf.get 0 ≠ MsgType.linkChangeReq.code := by
  have loaded (payload : List UInt8)
      (other : payload.head? ≠ some MsgType.linkChangeReq.code) :
      (message.overwrite payload).buf.get 0 ≠ MsgType.linkChangeReq.code := by
    unfold Message.overwrite
    rw [Data.Buffer.get_load_zero _ _ (by decide)]
    cases payload with
    | nil => simpa using stale
    | cons byte rest =>
        cases room : message.bufLen.toNat with
        | zero => simpa using stale
        | succ more => simpa using other
  cases reception with
  | nothing => exact stale
  | filtered payload => exact loaded payload fresh
  | message payload srcAddr destAddr msgId flags => exact loaded payload fresh

namespace Calm

variable {held : Settings → Prop} {serial : Bool → Prop} {fits : NodeStep → Prop}

theorem perform (action : Action) :
    Keeps (holding held fits) (Calm held serial) (perform action) := by
  intro _ node calm
  constructor
  · exact calm.2.2.2
  · intro answer _
    exact calm

theorem carries : Carries (holding held fits) (Calm held serial) where
  plain action _ := perform action
  index _ _ _ _ := perform _
  sendtoWait _ _ := perform _
  statistics _ _ _ := id
  ackSnr _ _ _ := id
  heartbeatTimer _ _ _ := id

theorem tunable : Tunable (holding held fits) (Calm held serial) where
  index _ _ _ _ := perform _
  tunes action _ := perform action
  setFrequency _ := setFrequency_keeps (perform _) (perform _)
  reset _ _ := id

theorem drafts : Drafts (Calm held serial) where
  txMsg _ _ _ := id

/-- Settings that are handed back to the setters do not move. -/
theorem setAll_fixed (fixed : Settings) :
    Keeps (holding (· = fixed) fits) (Calm (· = fixed) serial) (setAll fixed) := by
  have settles (store : LoraPoint2Point → LoraPoint2Point)
      (same : ∀ node, node.current = fixed → (store node).current = fixed)
      (other : ∀ node, (store node).linkChangeTimeoutTimer = node.linkChangeTimeoutTimer ∧
        (store node).rxMsg = node.rxMsg ∧
          (store node).serialCommandMode = node.serialCommandMode) :
      ∀ ghost node, Calm (· = fixed) serial ghost node →
        Calm (· = fixed) serial ghost (store node) := by
    rintro ghost node ⟨clear, unrequested, mode, still⟩
    obtain ⟨timer, received, typed⟩ := other node
    exact ⟨timer ▸ clear, received ▸ unrequested, typed ▸ mode, same node still⟩
  have spreadingFactor := settles (·.storeSpreadingFactor fixed.spreadingFactor)
    (by rintro node rfl; rfl) fun _ => ⟨rfl, rfl, rfl⟩
  have bandwidth := settles (·.storeBandwidth fixed.signalBandwidth)
    (by rintro node rfl; rfl) fun _ => ⟨rfl, rfl, rfl⟩
  have txPower := settles (·.storeTxPower fixed.txPower)
    (by rintro node rfl; rfl) fun _ => ⟨rfl, rfl, rfl⟩
  have frequencyChannel := settles (·.storeFrequencyChannel fixed.frequencyChannel)
    (by rintro node rfl; rfl) fun _ => ⟨rfl, rfl, rfl⟩
  refine Keeps.bind (tunable.toAdjusts.setSpreadingFactor fun _ => spreadingFactor) fun _ => ?_
  refine Keeps.bind (tunable.toAdjusts.setBandwidth fun _ => bandwidth) fun _ => ?_
  refine Keeps.bind (tunable.toAdjusts.setTxPower fun _ => txPower) fun _ => ?_
  exact tunable.toAdjusts.setFrequencyChannel fun _ => frequencyChannel

/-- The timers are serviced calmly if every rollback that comes due may be run. -/
theorem serviceTimers
    (due : ∀ node now, held node.current → fits ⟨node, .millis, now⟩ →
      node.linkChangeTimeoutTimer.Expired now →
        Keeps (holding held fits) (Calm held serial) (setAll node.previous)) :
    Keeps (holding held fits) (Calm held serial) serviceTimers := by
  let between (_ : Unit) (node : LoraPoint2Point) : Prop :=
    (node.linkChangeTimeoutTimer.done = true →
      Keeps (holding held fits) (Calm held serial) (setAll node.previous)) ∧
        node.rxMsg.buf.get 0 ≠ MsgType.linkChangeReq.code ∧ serial node.serialCommandMode ∧
          held node.current
  have clock : Triple (holding held fits) (Calm held serial) millis fun now ghost node =>
      ∀ heartbeat, between ghost { node with
        currentMillis := now
        linkChangeTimeoutTimer := node.linkChangeTimeoutTimer.update now
        heartbeatTimer := heartbeat } := by
    rintro _ node ⟨clear, unrequested, mode, still⟩
    refine ⟨still, fun now allowed heartbeat => ⟨fun raised => ?_, unrequested, mode, still⟩⟩
    exact due node now still allowed ((SimpleTimer.update_done_iff clear).1 raised)
  apply carries.serviceTimers clock
  · rintro _ node ⟨_, unrequested, mode, still⟩ clear
    exact ⟨clear, unrequested, mode, still⟩
  · rintro _ node ⟨⟨rolledBack, unrequested, mode, still⟩, raised⟩
    refine Resumption.Meets.bind_iff.2 ?_
    rw [linkChangeReqTimeout_apply]
    refine ⟨still, fun _ _ => Resumption.Meets.bind_iff.2 ?_⟩
    have start : Calm held serial () { node with
        linkChangeTimeoutTimer := node.linkChangeTimeoutTimer.clearDone } :=
      ⟨rfl, unrequested, mode, still⟩
    refine (rolledBack raised () _ start).mono ?_
    rintro _ later _ ⟨_, received, typed, held⟩
    exact ⟨held, fun _ _ => ⟨rfl, received, typed, held⟩⟩

theorem indifferent (timers : Keeps (holding held fits) (Calm held serial) Node.serviceTimers) :
    Indifferent (holding held fits) (Calm held serial) where
  carries := carries
  enter _ := perform _
  leave _ _ := perform _
  linkTimer _ calm _ _ kept := ⟨calm _ kept.1, kept.2⟩
  serviceTimers := timers

theorem reads : ReadsAnywhere (holding held fits) (Calm held serial) := fun _ _ _ => perform _

theorem texts : Texts (holding held fits) (Calm held serial) :=
  drafts.texts carries.toEmits reads

/-- What is received is no request, so the dispatch never reaches a setter. -/
theorem serviceRx (timers : Keeps (holding held fits) (Calm held serial) Node.serviceTimers)
    (heard : ∀ step, fits step → unrequesting step = true) :
    Keeps (holding held fits) (Calm held serial) serviceRx := by
  have receives : Receives (holding held fits) (Calm held serial) := {
    recvfromAckTimeout := by
      rintro _ node ⟨clear, unrequested, mode, still⟩
      refine ⟨still, fun reception allowed => ⟨clear, ?_, mode, still⟩⟩
      exact afterReception_unrequesting unrequested (of_decide_eq_true (heard _ allowed))
    dispatch := by
      rintro _ node ⟨clear, unrequested, mode, still⟩
      apply (indifferent timers).dispatch_of_request _ _ node ⟨clear, unrequested, mode, still⟩
      exact fun requested => absurd requested unrequested
    trustRule := (indifferent timers).trustRule
    bufLen := fun _ _ => id }
  exact receives.serviceRx carries.toEmits reads timers

end Calm

/-! ## Every run -/

/-- Between two calls of a session that hears no request, the node is calm. -/
theorem calm_of_session {thisAddress : UInt8} {operations : List Operation}
    {trace : List NodeStep} {node : LoraPoint2Point} {ok : Bool}
    (run : Resumption.Runs (session operations (LoraPoint2Point.initial thisAddress)) trace
      (.done node ok))
    (heard : ∀ step ∈ trace, unrequesting step) :
    Calm (fun _ => True) (fun _ => True) () node := by
  have settles : Settles (holding (fun _ => True) (unrequesting ·))
      (Calm (fun _ => True) fun _ => True) :=
    Calm.tunable.toAdjusts.settles fun _ _ _ _ calm => calm
  have timers := Calm.serviceTimers fun node _ _ _ _ => settles.setAll node.previous
  have reception := Calm.serviceRx timers fun _ => id
  have types : Types (Calm (fun _ => True) fun _ => True) :=
    { txMsg := fun _ _ _ => id, serialCmd := fun _ _ _ _ => id }
  have sustains := (Calm.indifferent timers).sustains types settles Calm.reads reception
  have empty : (0 : UInt8) ≠ MsgType.linkChangeReq.code := by decide
  have meets := sustains.endures.session operations () (LoraPoint2Point.initial thisAddress)
    ⟨rfl, empty, trivial, trivial⟩
  exact meets.runs run ((holding_allows trace).2 heard)

/-- A call that is not meant to change the link leaves a calm node calm. -/
theorem calm_operation {fixed : Settings} {mode : Bool} {operation : Operation}
    (quiet : operation.changesLink mode = false) :
    Keeps (holding (· = fixed) fun step => unrequesting step && rollbackIdle step)
      (Calm (· = fixed) (· = mode)) operation.run := by
  have timers : Keeps (holding (· = fixed) fun step => unrequesting step && rollbackIdle step)
      (Calm (· = fixed) (· = mode)) serviceTimers := by
    apply Calm.serviceTimers
    intro node now still fits expired
    have idle := of_decide_eq_true (Bool.and_eq_true_iff.1 fits).2
    rw [idle expired, still]
    exact Calm.setAll_fixed fixed
  have reception := Calm.serviceRx timers fun _ fits => (Bool.and_eq_true_iff.1 fits).1
  exact Calm.carries.quietOperation Calm.texts timers reception (fun _ _ calm => calm.2.2.1) quiet
    fun _ _ => trivial

/-- A node that hears no request keeps its settings through every call that is
not meant to change them, as long as each rollback that comes due in it finds the
previous settings equal to the current ones. -/
theorem settings_stay_put (thisAddress : UInt8) (operations : List Operation)
    (trace later : List NodeStep) (node : LoraPoint2Point) (operation : Operation)
    (last : NodeRun Unit)
    (before : Resumption.Runs (session operations (LoraPoint2Point.initial thisAddress)) trace
      (.done node true))
    (quiet : operation.changesLink node.serialCommandMode = false)
    (run : Resumption.Runs (operation.run node) later last)
    (heard : ∀ step ∈ trace ++ later, unrequesting step)
    (idle : ∀ step ∈ later, rollbackIdle step) :
    (∀ step ∈ later, step.state.current = node.current) ∧
      last.state.current = node.current := by
  have start := calm_of_session before fun step member =>
    heard step (List.mem_append_left _ member)
  have meets := calm_operation quiet () node ⟨start.1, start.2.1, rfl, rfl⟩
  have arrives : ∀ step ∈ later, (unrequesting step && rollbackIdle step) = true := by
    intro step member
    have quietly := heard step (List.mem_append_right _ member)
    exact Bool.and_eq_true_iff.2 ⟨quietly, idle step member⟩
  have allowed : Contract.Allows (holding (· = node.current) _) () later :=
    (holding_allows later).2 arrives
  constructor
  · intro step member
    obtain ⟨earlier, rest, rfl⟩ := List.append_of_mem member
    exact meets.required run allowed
  · have reached := meets.runs run allowed
    cases last with
    | done final value => exact reached.2.2.2
    | ask state action resume => exact reached.1

/-- A response that answers nothing arms the timer; the next reading of the
clock is 30 seconds. -/
def strayResponse (operations : List Operation) :
    (List NodeStep × NodeRun Bool) × (List NodeStep × NodeRun Unit) :=
  let before := Surroundings.run { receives := fun _ => .message [4, 0, 2, 0, 2] 9 1 0 0 }
    operations 1
  (before, Resumption.drive ({ clock := fun _ => 30000 } : Surroundings).answer 0
    (Operation.run .serviceTimers before.2.state))

/-- A node that has called no setter rolls back to the settings it has. -/
theorem settings_stay_put_stray :
    (strayResponse [.serviceRx]).2.2.state.current =
      (strayResponse [.serviceRx]).1.2.state.current :=
  (settings_stay_put 1 [.serviceRx] (strayResponse [.serviceRx]).1.1 _ _ .serviceTimers _
    (Surroundings.run_runs _ _ _) rfl (Resumption.drive_runs _ _ _) (by decide) (by decide)).2

/-- A node that has once changed its spreading factor loses it again. -/
theorem stray_response_moves_link :
    ¬ ∀ (thisAddress : UInt8) (operations : List Operation) (trace later : List NodeStep)
      (node : LoraPoint2Point) (operation : Operation) (last : NodeRun Unit),
      (∀ call ∈ operations, call.requests = false) →
      Resumption.Runs (session operations (LoraPoint2Point.initial thisAddress)) trace
        (.done node true) →
      operation.changesLink node.serialCommandMode = false →
      Resumption.Runs (operation.run node) later last →
      (∀ step ∈ trace ++ later, unrequesting step) →
        last.state.current = node.current := by
  intro always
  let stray := strayResponse [.setSpreadingFactor 1, .serviceRx]
  have kept := always 1 [.setSpreadingFactor 1, .serviceRx] stray.1.1 stray.2.1 _ .serviceTimers
    stray.2.2 (by decide) (Surroundings.run_runs _ _ _) rfl (Resumption.drive_runs _ _ _)
    (by decide)
  exact absurd kept (by decide)

end Roam.Node
