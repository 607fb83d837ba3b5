import Roam.Node.Dialogue
import Roam.Node.Unsolicited

/-!
# Apart for good

Two nodes that have come apart hear nothing of each other.  Once no rollback timer
runs, nothing either of them does of its own brings them together again: a request
cannot arrive, and no acknowledgement either.
-/

namespace Roam.Node

open Roam.Interaction

/-! ## A node alone -/

/-- No message is taken in at this step. -/
def unheard : NodeStep → Bool
  | ⟨_, .recvfromAckTimeout _ _, .message _ _ _ _ _⟩ => false
  | _ => true

/-- Nothing is under way in a node that could change its settings. -/
structure Alone (fixed : Settings) (mode : Bool) (_ : Unit) (node : LoraPoint2Point) : Prop where
  stopped : node.linkChangeTimeoutTimer.started = false
  clear : node.linkChangeTimeoutTimer.done = false
  typing : node.serialCommandMode = mode
  settings : node.current = fixed

/-- The settings are held as long as no message is taken in. -/
abbrev solitude (fixed : Settings) : Contract LoraPoint2Point Action Action.Answer Unit :=
  holding (· = fixed) (unheard · = true)

namespace Alone

variable {fixed : Settings} {mode : Bool}

theorem perform (action : Action) : Keeps (solitude fixed) (Alone fixed mode) (perform action) := by
  intro _ node alone
  constructor
  · exact alone.settings
  · intro answer _
    exact alone

theorem carries : Carries (solitude fixed) (Alone fixed mode) where
  plain action _ := perform action
  index _ _ _ _ := perform _
  sendtoWait _ _ := perform _
  statistics _ _ _ alone := ⟨alone.stopped, alone.clear, alone.typing, alone.settings⟩
  ackSnr _ _ _ alone := ⟨alone.stopped, alone.clear, alone.typing, alone.settings⟩
  heartbeatTimer _ _ _ alone := ⟨alone.stopped, alone.clear, alone.typing, alone.settings⟩

theorem drafts : Drafts (Alone fixed mode) where
  txMsg _ _ _ alone := ⟨alone.stopped, alone.clear, alone.typing, alone.settings⟩

theorem reads : ReadsAnywhere (solitude fixed) (Alone fixed mode) := fun _ _ _ => perform _

/-- A timer that is not running never comes due. -/
theorem serviceTimers : Keeps (solitude fixed) (Alone fixed mode) serviceTimers := by
  have clock : Triple (solitude fixed) (Alone fixed mode) millis fun now ghost node =>
      ∀ heartbeat, Alone fixed mode ghost { node with
        currentMillis := now
        linkChangeTimeoutTimer := node.linkChangeTimeoutTimer.update now
        heartbeatTimer := heartbeat } := by
    rintro _ node alone
    refine ⟨alone.settings, fun now _ heartbeat => ⟨?_, ?_, alone.typing, alone.settings⟩⟩
    · rw [SimpleTimer.update_of_stopped alone.stopped]
      exact alone.stopped
    · rw [SimpleTimer.update_of_stopped alone.stopped]
      exact alone.clear
  apply carries.serviceTimers clock
  · exact fun _ _ alone _ => alone
  · rintro _ node ⟨alone, raised⟩
    exact absurd (alone.clear.symm.trans raised) nofun

/-- Where no message comes in, none is handled. -/
theorem serviceRx : Keeps (solitude fixed) (Alone fixed mode) serviceRx := by
  refine serviceTimers.bind fun _ => ?_
  intro _ node alone
  refine ⟨alone.settings, fun reception deaf => ?_⟩
  cases reception with
  | nothing => exact ⟨alone.stopped, alone.clear, alone.typing, alone.settings⟩
  | filtered payload => exact ⟨alone.stopped, alone.clear, alone.typing, alone.settings⟩
  | message => cases deaf

/-- A call that is not meant to change the link leaves a node alone. -/
theorem operation {operation : Operation} (quiet : operation.changesLink mode = false) :
    Keeps (solitude fixed) (Alone fixed mode) operation.run :=
  carries.toTransmits.quietOperation (drafts.texts carries.toEmits reads) serviceTimers serviceRx
    (fun _ _ alone => alone.typing) quiet fun _ _ => trivial

theorem operate {operations : List Operation}
    (quiet : ∀ operation ∈ operations, operation.changesLink mode = false) :
    Keeps (solitude fixed) (Alone fixed mode) (operate operations) :=
  Keeps.forM_mem fun _ member => operation (quiet _ member)

end Alone

/-! ## Two nodes apart -/

/-- The two nodes keep settings of their own, and nothing has been heard. -/
structure Parted (settings : Both Settings) (mode : Both Bool) (nodes : Nodes) : Prop where
  alone : ∀ side, (nodes.parties.of side).Meets (solitude (settings.of side))
    (fun ghost node _ => Alone (settings.of side) (mode.of side) ghost node) ()
  silent : nodes.air = ⟨none, none⟩

/-- No message is taken in at this step, and no unicast is acknowledged. -/
def Unanswered : NodeStep → Prop
  | ⟨_, .sendtoWait _ destAddress, acknowleged⟩ =>
      acknowleged = true → destAddress = broadcastAddress
  | step => unheard step = true

namespace Parted

variable {settings : Both Settings} {mode : Both Bool} {nodes : Nodes}

theorem state (parted : Parted settings mode nodes) (side : Side) :
    (nodes.parties.of side).state.current = settings.of side := by
  have alone := parted.alone side
  cases party : nodes.parties.of side with
  | done node value =>
      rw [party] at alone
      exact alone.settings
  | ask node action resume =>
      rw [party] at alone
      exact alone.1

theorem of_pending (parted : Parted settings mode nodes) {side : Side} {node : LoraPoint2Point}
    {action : Action} (waits : (nodes.parties.of side).pending = some (node, action)) :
    node.current = settings.of side := by
  have known := parted.state side
  cases party : nodes.parties.of side with
  | done => rw [party] at waits; cases waits
  | ask =>
      rw [party] at waits known
      cases waits
      exact known

variable {side : Side} {node : LoraPoint2Point} {action : Action} {answer : action.Answer}

/-- Between nodes that are apart no message gets through. -/
theorem unheard_of_admits (parted : Parted settings mode nodes)
    (apart : ∀ side, (settings.of side.peer).tuning ≠ (settings.of side).tuning)
    (held : node.current = settings.of side)
    (admitted : radio.admits nodes.air side node action answer
      (nodes.parties.of side.peer).pending) : unheard ⟨node, action, answer⟩ = true := by
  cases action with
  | recvfromAckTimeout capacity timeout =>
      cases (answer : Reception) with
      | message payload srcAddr destAddr msgId flags =>
          obtain ⟨_, sender, waits, tuned, _⟩ := carried_iff.1 admitted
          rw [parted.of_pending waits, held] at tuned
          exact absurd tuned (apart side)
      | nothing => rfl
      | filtered payload => rfl
  | _ => rfl

/-- Without a message nothing is heard behind a step either. -/
theorem silent_after (deaf : unheard ⟨node, action, answer⟩ = true) :
    Air.after ⟨none, none⟩ side action answer = ⟨none, none⟩ := by
  have quiet : (⟨none, none⟩ : Air).put side none = ⟨none, none⟩ := by cases side <;> rfl
  cases action with
  | recvfromAckTimeout capacity timeout =>
      cases (answer : Reception) with
      | message => cases deaf
      | nothing => exact quiet
      | filtered payload => exact quiet
  | _ => exact quiet

/-- An acknowledgement would need that the frame was heard. -/
theorem unanswered_of_admits (parted : Parted settings mode nodes)
    (deaf : unheard ⟨node, action, answer⟩ = true)
    (admitted : radio.admits nodes.air side node action answer
      (nodes.parties.of side.peer).pending) : Unanswered ⟨node, action, answer⟩ := by
  cases action with
  | sendtoWait payload destAddress =>
      intro succeeded
      have heard := of_decide_eq_true admitted succeeded
      rw [parted.silent] at heard
      refine heard.resolve_right fun taken => ?_
      cases side <;> cases taken
  | _ => exact deaf

/-- Nodes that are apart stay apart, and all they send to each other is lost. -/
theorem runs {last : Nodes} {trace : List NodeEvent} (parted : Parted settings mode nodes)
    (apart : ∀ side, (settings.of side.peer).tuning ≠ (settings.of side).tuning)
    (run : Pair.Runs radio nodes trace last) :
    Parted settings mode last ∧ ∀ event ∈ trace,
      event.2.state.current = settings.of event.1 ∧ unheard event.2 = true ∧
        Unanswered event.2 := by
  induction run with
  | refl =>
      constructor
      · exact parted
      · intro event member
        cases member
  | @step nodes last side node action resume trace asks answer admitted rest ih =>
      have held : node.current = settings.of side := by
        have known := parted.state side
        rw [asks] at known
        exact known
      have deaf : unheard ⟨node, action, answer⟩ = true :=
        parted.unheard_of_admits apart held admitted
      have unanswered : Unanswered ⟨node, action, answer⟩ :=
        parted.unanswered_of_admits deaf admitted
      have later :
          Parted settings mode (nodes.answered radio side action answer (resume answer)) := by
        constructor
        · intro other
          rcases Side.eq_or_eq_peer side other with rfl | rfl
          · rw [Pair.answered, Both.of_put_self]
            have alone := parted.alone other
            rw [asks] at alone
            exact alone.2 answer deaf
          · rw [Pair.answered, Both.of_put_peer]
            exact parted.alone side.peer
        · change nodes.air.after side action answer = ⟨none, none⟩
          rw [parted.silent]
          exact silent_after deaf
      obtain ⟨ended, others⟩ := ih later
      exact ⟨ended, List.forall_mem_cons.2 ⟨⟨held, deaf, unanswered⟩, others⟩⟩

end Parted

/-- Once two nodes are apart and neither has a rollback under way, they are apart for good:
whatever calls they make, as long as none of them is meant to change the settings, and
however their steps interleave, both keep their settings, neither takes in a message, and
nothing one of them sends to the other is acknowledged. -/
theorem apart_for_good {nodes : Both LoraPoint2Point} {calls : Both (List Operation)}
    (apart : (nodes.of .client).current.tuning ≠ (nodes.of .server).current.tuning)
    (stopped : ∀ side, (nodes.of side).linkChangeTimeoutTimer.started = false)
    (clear : ∀ side, (nodes.of side).linkChangeTimeoutTimer.done = false)
    (quiet : ∀ side, ∀ operation ∈ calls.of side,
      operation.changesLink (nodes.of side).serialCommandMode = false)
    {trace : List NodeEvent} {last : Nodes}
    (run : Pair.Runs radio (Nodes.start nodes.client nodes.server calls.client calls.server)
      trace last) :
    (∀ side, (last.parties.of side).state.current = (nodes.of side).current) ∧
      ∀ event ∈ trace, event.2.state.current = (nodes.of event.1).current ∧
        unheard event.2 = true ∧ Unanswered event.2 := by
  let settings : Both Settings := ⟨nodes.client.current, nodes.server.current⟩
  let mode : Both Bool := ⟨nodes.client.serialCommandMode, nodes.server.serialCommandMode⟩
  have known (side : Side) : settings.of side = (nodes.of side).current := by cases side <;> rfl
  have started : Parted settings mode
      (Nodes.start nodes.client nodes.server calls.client calls.server) := by
    refine ⟨fun side => ?_, rfl⟩
    cases side with
    | client =>
        exact Alone.operate (quiet .client) () _ ⟨stopped .client, clear .client, rfl, rfl⟩
    | server =>
        exact Alone.operate (quiet .server) () _ ⟨stopped .server, clear .server, rfl, rfl⟩
  have differ (side : Side) : (settings.of side.peer).tuning ≠ (settings.of side).tuning := by
    cases side with
    | client => exact apart.symm
    | server => exact apart
  obtain ⟨ended, events⟩ := started.runs differ run
  exact ⟨fun side => (ended.state side).trans (known side), fun event member =>
    ⟨(events event member).1.trans (known event.1), (events event member).2⟩⟩

/-- A client and a server whose spreading factors differ, both busy: neither a message nor a
heartbeat gets through. -/
def strangers : List NodeEvent × Nodes :=
  ({} : Weather).run (List.replicate 4 .client ++ List.replicate 4 .server ++
      List.replicate 4 .client)
    (Nodes.start { LoraPoint2Point.initial 1 with current := ⟨3, 2, 0, 2⟩ }
      (LoraPoint2Point.initial 2) [.serviceTxSpan 2 [1, 104, 105] 3 true] [.serviceRx])

theorem apart_for_good_strangers :
    strangers.2.parties.client.state.current = ⟨3, 2, 0, 2⟩ ∧
      strangers.1.all (fun event => unheard event.2) = true := by
  have run : Pair.Runs radio _ strangers.1 strangers.2 := Weather.run_runs _ _ _
  have kept := @apart_for_good
    ⟨{ LoraPoint2Point.initial 1 with current := ⟨3, 2, 0, 2⟩ }, LoraPoint2Point.initial 2⟩
    ⟨[.serviceTxSpan 2 [1, 104, 105] 3 true], [.serviceRx]⟩ (by decide)
    (fun side => by cases side <;> rfl) (fun side => by cases side <;> rfl)
    (fun side => by cases side <;> decide) _ _ run
  exact ⟨kept.1 .client, List.all_eq_true.2 fun event member => (kept.2 event member).2.1⟩

end Roam.Node
