import Roam.Node.Callbacks
import Roam.Node.Exchange

/-!
# Nodes do not keep each other busy

Two nodes on the air, set up and used in any way, whatever is lost between them.
What one takes in is what the other has sent, in its order and at most once.  Each
node responds to what it takes in, and nothing else, and no response asks for a
response; so the nodes never have more to say to each other than twice what their
applications and timers begin with.
-/

namespace Roam.Node

open Roam.Interaction

/-! ## Frames between two nodes -/

/-- The frame sent at a step. -/
def sentFrame : NodeStep → Option (List UInt8)
  | ⟨_, .sendtoWait payload _, _⟩ => some payload
  | _ => none

/-- The frame taken in at a step. -/
def takenFrame : NodeStep → Option (List UInt8)
  | ⟨_, .recvfromAckTimeout _ _, .message payload _ _ _ _⟩ => some payload
  | _ => none

/-- The frame of a transmission that is not over. -/
def pendingFrame : Option (LoraPoint2Point × Action) → Option (List UInt8)
  | some (_, .sendtoWait payload _) => some payload
  | _ => none

/-- All frames a side has begun to send. -/
def begunFrames (side : Side) (trace : List NodeEvent) (last : Nodes) : List (List UInt8) :=
  (Pair.steps side trace).filterMap sentFrame ++
    (pendingFrame (last.parties.of side).pending).toList

/-- Nothing but what is being sent is in the air, throughout a run. -/
theorem Pending.runs {first last : Nodes} {trace : List NodeEvent} (pending : Pending first)
    (run : Pair.Runs radio first trace last) : Pending last := by
  induction run with
  | refl => exact pending
  | step side asks answer admitted rest ih => exact ih (pending.answered asks answer admitted)

section Mover

variable {nodes : Nodes} {mover : Side} {node : LoraPoint2Point} {action : Action}
variable {resume : action.Answer → NodeRun Unit} {answer : action.Answer}
variable {taken sent : List (List UInt8)}

/-- A frame is taken in at most once. -/
theorem taken_by_mover (admitted : radio.admits nodes.air mover node action answer
      (nodes.parties.of mover.peer).pending)
    (later : (((nodes.answered radio mover action answer (resume answer)).air.of
      mover.peer).toList ++ taken).Sublist sent) :
    ((nodes.air.of mover.peer).toList ++
      ((takenFrame ⟨node, action, answer⟩).toList ++ taken)).Sublist sent := by
  have still (quiet : nodes.air.after mover action answer = nodes.air.put mover none)
      (nothing : takenFrame ⟨node, action, answer⟩ = none) :
      ((nodes.air.of mover.peer).toList ++
        ((takenFrame ⟨node, action, answer⟩).toList ++ taken)).Sublist sent := by
    change (((nodes.air.after mover action answer).of mover.peer).toList ++ taken).Sublist sent
      at later
    rw [quiet, Both.of_put_peer] at later
    rw [nothing]
    exact later
  cases action with
  | recvfromAckTimeout capacity timeout =>
      cases (answer : Reception) with
      | nothing => exact still rfl rfl
      | filtered payload => exact still rfl rfl
      | message payload srcAddr destAddr msgId flags =>
          change ((((nodes.air.put mover none).put mover.peer (some payload)).of
            mover.peer).toList ++ taken).Sublist sent at later
          rw [Both.of_put_self] at later
          rw [(carried_iff.1 admitted).1]
          exact later
  | _ => exact still rfl rfl

/-- A transmission that is over was taken in or not. -/
theorem sent_by_mover (pending : Pending nodes)
    (asks : nodes.parties.of mover = .ask node action resume)
    (later : (((nodes.answered radio mover action answer (resume answer)).air.of
      mover).toList ++ taken).Sublist sent) :
    ((nodes.air.of mover).toList ++ taken).Sublist
      ((sentFrame ⟨node, action, answer⟩).toList ++ sent) := by
  have silent : (nodes.air.after mover action answer).of mover = none := by
    cases action with
    | recvfromAckTimeout capacity timeout =>
        cases (answer : Reception) with
        | message payload srcAddr destAddr msgId flags =>
            show ((nodes.air.put mover none).put mover.peer (some payload)).of mover = none
            rw [Both.of_put_peer_self, Both.of_put_self]
        | _ => exact Both.of_put_self nodes.air mover none
    | _ => exact Both.of_put_self nodes.air mover none
  change (((nodes.air.after mover action answer).of mover).toList ++ taken).Sublist sent at later
  rw [silent] at later
  cases heard : nodes.air.of mover with
  | none => exact later.trans (List.sublist_append_right _ _)
  | some payload =>
      obtain ⟨destAddress, rfl⟩ := pending.sends asks heard
      exact later.cons_cons payload

end Mover

theorem filterMap_step {Read : Type} (read : NodeStep → Option Read) (step : NodeStep)
    (trace : List NodeStep) :
    (step :: trace).filterMap read = (read step).toList ++ trace.filterMap read := by
  rw [List.filterMap_cons]
  cases read step <;> rfl

/-- What a side takes in, begun with what it has already taken in of a transmission that is
not over, is part of what the other side sends, in the same order. -/
theorem taken_sublist_sent {first last : Nodes} {trace : List NodeEvent} (pending : Pending first)
    (run : Pair.Runs radio first trace last) (side : Side) :
    ((first.air.of side.peer).toList ++
        (Pair.steps side trace).filterMap takenFrame).Sublist
      ((Pair.steps side.peer trace).filterMap sentFrame ++ (last.air.of side.peer).toList) := by
  induction run with
  | refl nodes =>
      simp only [Pair.steps_nil, List.filterMap_nil, List.append_nil, List.nil_append]
      exact List.Sublist.refl _
  | @step nodes last mover node action resume trace asks answer admitted rest ih =>
      have later := ih (pending.answered asks answer admitted)
      rcases Side.eq_or_eq_peer mover side with rfl | rfl
      · rw [Pair.steps_cons_self, Pair.steps_cons_peer, filterMap_step]
        exact taken_by_mover admitted later
      · rw [Side.peer_peer] at later ⊢
        rw [Pair.steps_cons_self, Pair.steps_cons_peer, filterMap_step, List.append_assoc]
        exact sent_by_mover pending asks later

/-! ## One node -/

/-- A frame that asks for a response. -/
def Demanding (payload : List UInt8) : Prop :=
  payload.head? = some MsgType.linkChangeReq.code ∨ payload.head? = some MsgType.heartbeatReq.code

/-- A frame that looks like a response. -/
def Responding (payload : List UInt8) : Prop :=
  payload.head? = some MsgType.linkChangeRsp.code ∨ payload.head? = some MsgType.heartbeatRsp.code

instance (payload : List UInt8) : Decidable (Demanding payload) :=
  inferInstanceAs (Decidable (_ ∨ _))

instance (payload : List UInt8) : Decidable (Responding payload) :=
  inferInstanceAs (Decidable (_ ∨ _))

instance (message : Message) : Decidable message.Demands :=
  inferInstanceAs (Decidable (_ ∨ _))

/-- No response asks for a response. -/
theorem not_demanding_of_responding {payload : List UInt8} (responding : Responding payload) :
    ¬ Demanding payload := by
  intro demanding
  rcases responding with first | first <;> rcases demanding with other | other <;>
    exact absurd (Option.some.inj (first.symm.trans other)) (by decide)

namespace Sign

def responds : Sign → Bool
  | .sent _ payload _ _ => decide (Responding payload)
  | _ => false

def demands : Sign → Bool
  | .took message => decide message.Demands
  | _ => false

end Sign

namespace Transmission

theorem countP_responds (transmission : Transmission) :
    transmission.signs.countP Sign.responds =
      if Responding transmission.payload then 1 else 0 := by
  unfold signs
  split <;> simp [Sign.responds, List.countP_cons]

end Transmission

namespace Episode

variable {address : UInt8}

theorem not_responding_of_free {payload : List UInt8} (free : Free payload) :
    ¬ Responding payload := by
  obtain ⟨byte, first, other⟩ := free
  rintro (response | response)
  · exact other (.inr (.inl (Option.some.inj (first.symm.trans response))))
  · exact other (.inr (.inr (.inr (Option.some.inj (first.symm.trans response)))))

theorem taking_responds (message : Message) (snr : Int) :
    (taking message snr).countP Sign.responds = 0 := rfl

/-- Nothing responds before the message that asks for it has been taken in. -/
theorem responds_behind {message : Message} {snr : Int} {signs part : List Sign}
    (demands : message.Demands) (one : signs.countP Sign.responds ≤ 1)
    (within : part <+: taking message snr ++ signs) :
    part.countP Sign.responds ≤ part.countP Sign.demands := by
  rcases List.prefix_or_prefix_of_prefix within (List.prefix_append _ _) with early | late
  · have silent : part.countP Sign.responds ≤ _ := early.sublist.countP_le
    rw [taking_responds] at silent
    exact Nat.le_trans silent (Nat.zero_le _)
  · obtain ⟨rest, rfl⟩ := late
    have inside := (List.prefix_append_right_inj _).1 within
    have few : rest.countP Sign.responds ≤ _ := inside.sublist.countP_le
    have asked : (taking message snr).countP Sign.demands = 1 := by
      simp [taking, Sign.demands, demands]
    rw [List.countP_append, List.countP_append, taking_responds, asked]
    omega

/-- Responses follow the message that asks for them, within one episode. -/
theorem responds_le_demands (episode : Episode address) {part : List Sign}
    (within : part <+: episode.signs) : part.countP Sign.responds ≤ part.countP Sign.demands := by
  have unresponsive (calm : episode.signs.countP Sign.responds = 0) :
      part.countP Sign.responds ≤ part.countP Sign.demands := by
    have few : part.countP Sign.responds ≤ _ := within.sublist.countP_le
    rw [calm] at few
    exact Nat.le_trans few (Nat.zero_le _)
  have once (transmission : Transmission) : transmission.signs.countP Sign.responds ≤ 1 := by
    rw [Transmission.countP_responds]
    split <;> decide
  cases episode with
  | data transmission free =>
      apply unresponsive
      exact (Transmission.countP_responds transmission).trans (if_neg (not_responding_of_free free))
  | heartbeat settings acknowleged snr =>
      apply unresponsive
      exact Transmission.countP_responds (broadcast address settings acknowleged snr)
  | linkChangeReq current requested destAddress acknowleged => exact unresponsive rfl
  | notice message snr undemanding => exact unresponsive rfl
  | linkChangeRsp message snr request current acknowleged =>
      exact responds_behind (.inl request) List.countP_le_length within
  | heartbeatRsp message snr request settings acknowleged rspSnr =>
      exact responds_behind (.inr request) (once _) within

end Episode

/-- A node has responded at most as often as it was asked. -/
theorem responds_le_demands_of_opens {address : UInt8} {history : List Sign}
    (opens : (episodic address).Opens history) :
    history.countP Sign.responds ≤ history.countP Sign.demands := by
  have whole (complete : List (Episode address)) :
      ((episodic address).shown complete).countP Sign.responds ≤
        ((episodic address).shown complete).countP Sign.demands := by
    induction complete with
    | nil => exact Nat.le_refl 0
    | cons episode complete ih =>
        show (episode.signs ++ (episodic address).shown complete).countP Sign.responds ≤
          (episode.signs ++ (episodic address).shown complete).countP Sign.demands
        rw [List.countP_append, List.countP_append]
        exact Nat.add_le_add (episode.responds_le_demands List.prefix_rfl) ih
  obtain ⟨complete, part, rfl, early⟩ := opens.split
  rw [List.countP_append, List.countP_append]
  refine Nat.add_le_add (whole complete) ?_
  rcases early with rfl | ⟨episode, within⟩
  · exact Nat.le_refl 0
  · exact episode.responds_le_demands within

/-- What is counted in the signs of each step is counted in the signs of the run. -/
theorem countP_signs {Read : Type} {ofSign : Sign → Bool} {read : NodeStep → Option Read}
    {counts : Read → Bool}
    (agree : ∀ step, (signOf step).countP ofSign = (read step).toList.countP counts)
    (trace : List NodeStep) :
    (trace.flatMap signOf).countP ofSign = (trace.filterMap read).countP counts := by
  induction trace with
  | nil => rfl
  | cons step trace ih =>
      rw [List.flatMap_cons, List.countP_append, agree, ih, filterMap_step, List.countP_append]

theorem signOf_responds (step : NodeStep) :
    (signOf step).countP Sign.responds =
      (sentFrame step).toList.countP fun payload => decide (Responding payload) := by
  obtain ⟨node, action, answer⟩ := step
  cases action with
  | millis =>
      unfold signOf
      dsimp only
      split <;> rfl
  | recvfromAckTimeout capacity timeout => cases (answer : Reception) <;> rfl
  | _ => rfl

theorem signOf_demands (step : NodeStep) :
    (signOf step).countP Sign.demands =
      (takenIn step).toList.countP fun message => decide message.Demands := by
  obtain ⟨node, action, answer⟩ := step
  cases action with
  | millis =>
      unfold signOf
      dsimp only
      split <;> rfl
  | recvfromAckTimeout capacity timeout => cases (answer : Reception) <;> rfl
  | _ => rfl

theorem pendingFrame_eq_some {Value : Type} {last : NodeRun Value} {payload : List UInt8}
    (sending : pendingFrame last.pending = some payload) : ∃ node destAddress resume,
      last = .ask node (.sendtoWait payload destAddress) resume := by
  cases last with
  | done node value => cases sending
  | ask node action resume =>
      cases action with
      | sendtoWait sent destAddress =>
          cases sending
          exact ⟨node, destAddress, resume, rfl⟩
      | _ => cases sending

/-- At any moment of a run, a response under way included, a node has responded at most
as often as it was asked. -/
theorem responses_le_demands {address : UInt8} {program : NodeM Unit}
    (keeps : Keeps (episodic address).contract (Episodic.Rests address) program)
    {trace : List NodeStep} {last : NodeRun Unit}
    (run : Resumption.Runs (program (LoraPoint2Point.initial address)) trace last) :
    (trace.filterMap sentFrame ++ (pendingFrame last.pending).toList).countP
        (fun payload => decide (Responding payload)) ≤
      (trace.filterMap takenIn).countP fun message => decide message.Demands := by
  have counted {trace : List NodeStep} {last : NodeRun Unit}
      (run : Resumption.Runs (program (LoraPoint2Point.initial address)) trace last) :
      (trace.filterMap sentFrame).countP (fun payload => decide (Responding payload)) ≤
        (trace.filterMap takenIn).countP fun message => decide message.Demands := by
    have few := responds_le_demands_of_opens (Phases.runs keeps Episodic.Bears.initial run).1
    change (trace.flatMap signOf).countP _ ≤ (trace.flatMap signOf).countP _ at few
    rwa [countP_signs signOf_responds, countP_signs signOf_demands] at few
  cases sending : pendingFrame last.pending with
  | none =>
      rw [Option.toList_none, List.append_nil]
      exact counted run
  | some payload =>
      -- the transmission under way may be over at the next step
      obtain ⟨node, destAddress, resume, rfl⟩ : ∃ node destAddress resume,
          last = .ask node (.sendtoWait payload destAddress) resume := pendingFrame_eq_some sending
      have few := counted (run.snoc true)
      rw [List.filterMap_append, List.filterMap_append] at few
      have none : [(⟨node, .sendtoWait payload destAddress, true⟩ : NodeStep)].filterMap takenIn =
          [] := rfl
      rw [none, List.append_nil] at few
      exact few

theorem sign_of_sentFrame {step : NodeStep} {payload : List UInt8}
    (sends : sentFrame step = some payload) : ∃ settings destAddress acknowleged,
      Sign.sent settings payload destAddress acknowleged ∈ signOf step := by
  obtain ⟨node, action, answer⟩ := step
  cases action with
  | sendtoWait sent destAddress =>
      cases sends
      exact ⟨node.current, destAddress, answer, List.mem_singleton_self _⟩
  | _ => cases sends

theorem Transmission.payload_of_mem {transmission : Transmission} {settings : Settings}
    {payload : List UInt8} {destAddress : UInt8} {acknowleged : Bool}
    (member : Sign.sent settings payload destAddress acknowleged ∈ transmission.signs) :
    payload = transmission.payload := by
  unfold Transmission.signs at member
  rcases List.mem_cons.1 member with same | later
  · cases same
    rfl
  · rcases List.mem_append.1 later with heard | told
    · split at heard
      · cases List.mem_singleton.1 heard
      · cases heard
    · cases List.mem_singleton.1 told

theorem Episode.sent_nonempty {address : UInt8} (episode : Episode address) {settings : Settings}
    {payload : List UInt8} {destAddress : UInt8} {acknowleged : Bool}
    (member : Sign.sent settings payload destAddress acknowleged ∈ episode.signs) :
    payload ≠ [] := by
  have untaken {message : Message} {snr : Int} :
      Sign.sent settings payload destAddress acknowleged ∉ taking message snr := by
    simp [taking]
  cases episode with
  | data transmission free =>
      obtain ⟨byte, first, _⟩ := free
      rw [Transmission.payload_of_mem member]
      rintro empty
      rw [empty] at first
      cases first
  | heartbeat settings acknowleged snr =>
      rcases List.mem_cons.1 member with due | sent
      · cases due
      · rw [Transmission.payload_of_mem sent]
        exact nofun
  | linkChangeReq current requested destAddress acknowleged =>
      cases List.mem_singleton.1 member
      exact nofun
  | notice message snr undemanding => exact absurd member untaken
  | linkChangeRsp message snr request current acknowleged =>
      rcases List.mem_append.1 member with early | sent
      · exact absurd early untaken
      · cases List.mem_singleton.1 sent
        exact nofun
  | heartbeatRsp message snr request settings acknowleged rspSnr =>
      rcases List.mem_append.1 member with early | sent
      · exact absurd early untaken
      · rw [Transmission.payload_of_mem sent]
        exact nofun

/-- No frame is empty. -/
theorem sent_nonempty {address : UInt8} {program : NodeM Unit}
    (keeps : Keeps (episodic address).contract (Episodic.Rests address) program)
    {trace : List NodeStep} {last : NodeRun Unit}
    (run : Resumption.Runs (program (LoraPoint2Point.initial address)) trace last) :
    ∀ payload ∈ trace.filterMap sentFrame ++ (pendingFrame last.pending).toList, payload ≠ [] := by
  have finished {trace : List NodeStep} {last : NodeRun Unit}
      (run : Resumption.Runs (program (LoraPoint2Point.initial address)) trace last) :
      ∀ payload ∈ trace.filterMap sentFrame, payload ≠ [] := by
    intro payload member
    obtain ⟨step, taken, sends⟩ := List.mem_filterMap.1 member
    obtain ⟨complete, within⟩ := (Phases.runs keeps Episodic.Bears.initial run).1
    obtain ⟨settings, destAddress, acknowleged, shows⟩ := sign_of_sentFrame sends
    have seen := within.subset (List.mem_flatMap.2 ⟨step, taken, shows⟩)
    obtain ⟨episode, _, inside⟩ := List.mem_flatMap.1 seen
    exact episode.sent_nonempty inside
  cases sending : pendingFrame last.pending with
  | none =>
      rw [Option.toList_none, List.append_nil]
      exact finished run
  | some payload =>
      obtain ⟨node, destAddress, resume, rfl⟩ := pendingFrame_eq_some sending
      have all := finished (run.snoc true)
      rw [List.filterMap_append] at all
      exact all

/-! ## Room for a frame -/

/-- A frame that was read is not empty. -/
def BringsSomething : (action : Action) → action.Answer → Prop
  | .recvfromAckTimeout _ _, .filtered payload => payload ≠ []
  | .recvfromAckTimeout _ _, .message payload _ _ _ _ => payload ≠ []
  | _, _ => True

/-- As long as no empty frame is read, there is room for the next one. -/
def roomy : Contract LoraPoint2Point Action Action.Answer Unit where
  require _ node action := action.receives = true → node.rxMsg.bufLen ≠ 0
  allow _ _ action answer := BringsSomething action answer
  record ghost _ _ _ := ghost

namespace Roomy

abbrev Room (_ : Unit) (node : LoraPoint2Point) : Prop := node.rxMsg.bufLen ≠ 0

theorem perform (action : Action) (other : action.receives = false) :
    Keeps roomy Room (perform action) := by
  intro ghost node room
  refine ⟨fun receives => ?_, fun _ _ => room⟩
  rw [other] at receives
  cases receives

theorem ignores : Ignores roomy Room where
  perform action other _ := perform action other
  state _ node later same _ _ _ room := by
    show later.rxMsg.bufLen ≠ 0
    rw [same]
    exact room

theorem recvfromAckTimeout : Keeps roomy Room recvfromAckTimeout := by
  refine Triple.get_bind fun known => ?_
  rintro ghost node ⟨room, rfl⟩
  refine ⟨fun _ => room, fun reception brings => ?_⟩
  cases reception with
  | nothing => exact room
  | filtered payload => exact Tracks.overwrite_room room brings
  | message payload srcAddr destAddr msgId flags => exact Tracks.overwrite_room room brings

theorem session (operations : List Operation) : Keeps roomy Room (session operations) := by
  have reads : ReadsAnywhere roomy Room := fun array position size => perform _ rfl
  have types : Types Room := ⟨⟨fun _ _ _ room => room⟩, fun _ _ _ _ room => room⟩
  have received : Keeps roomy Room Node.serviceRx :=
    ignores.indifferent.serviceRx ignores.settles reads recvfromAckTimeout fun _ _ _ => by
      show (128 : UInt8) ≠ 0
      decide
  exact (ignores.indifferent.sustains types ignores.settles reads received).endures.session
    operations

end Roomy

/-- Step by step, no more is counted on one side than on the other. -/
theorem countP_filterMap_le {First Second : Type} {first : NodeStep → Option First}
    {second : NodeStep → Option Second} {few : First → Bool} {many : Second → Bool} :
    ∀ {trace : List NodeStep}, (∀ step ∈ trace,
      (first step).toList.countP few ≤ (second step).toList.countP many) →
        (trace.filterMap first).countP few ≤ (trace.filterMap second).countP many := by
  intro trace each
  induction trace with
  | nil => exact Nat.le_refl 0
  | cons step trace ih =>
      rw [filterMap_step, filterMap_step, List.countP_append, List.countP_append]
      have here := each step List.mem_cons_self
      have later := ih fun other member => each other (List.mem_cons_of_mem _ member)
      exact Nat.add_le_add here later

/-- Where no empty frame is read, there is room whenever a frame may be taken in. -/
theorem room_of_runs {operations : List Operation} {node : LoraPoint2Point}
    (room : node.rxMsg.bufLen ≠ 0) {trace : List NodeStep} {last : NodeRun Unit}
    (run : Resumption.Runs ((discard (session operations) : NodeM Unit) node) trace last)
    (brings : ∀ step ∈ trace, BringsSomething step.action step.answer) :
    ∀ step ∈ trace, step.action.receives = true → step.state.rxMsg.bufLen ≠ 0 := by
  intro step member
  have allowed : roomy.Allows () trace :=
    (roomy.allows_iff (fun _ _ _ _ => Iff.rfl) () trace).2 brings
  obtain ⟨before, later, split⟩ := List.append_of_mem member
  rw [split] at run allowed
  exact ((Roomy.session operations).map () node room).required run allowed

/-- A message that asks for a response was taken in as a frame that does. -/
theorem demands_le_demanding {operations : List Operation} {node : LoraPoint2Point}
    (room : node.rxMsg.bufLen ≠ 0) {trace : List NodeStep} {last : NodeRun Unit}
    (run : Resumption.Runs ((discard (session operations) : NodeM Unit) node) trace last)
    (brings : ∀ step ∈ trace, BringsSomething step.action step.answer) :
    (trace.filterMap takenIn).countP (fun message => decide message.Demands) ≤
      (trace.filterMap takenFrame).countP fun payload => decide (Demanding payload) := by
  refine countP_filterMap_le fun step member => ?_
  have free := room_of_runs room run brings step member
  obtain ⟨state, action, answer⟩ := step
  cases action with
  | recvfromAckTimeout capacity timeout =>
      cases (answer : Reception) with
      | nothing => exact Nat.le_refl 0
      | filtered payload => exact Nat.le_refl 0
      | message payload srcAddr destAddr msgId flags =>
          have whole : payload ≠ [] := brings _ member
          have first : payload.head? = some ((state.rxMsg.afterReception
              (.message payload srcAddr destAddr msgId flags)).buf.get 0) :=
            Message.head_afterReception (free rfl) whole
          have same : (state.rxMsg.afterReception
              (.message payload srcAddr destAddr msgId flags)).Demands ↔ Demanding payload := by
            unfold Message.Demands Demanding
            rw [first, Option.some_inj, Option.some_inj]
          show List.countP _ [_] ≤ List.countP _ [payload]
          rw [List.countP_singleton, List.countP_singleton, decide_eq_decide.2 same]
  | _ => exact Nat.zero_le _

/-! ## Two nodes -/

/-- Two new nodes that are set up and then used as listed, and nothing in the air. -/
def Nodes.boot (addresses : Both UInt8) (calls : Both (List Operation)) : Nodes where
  parties :=
    ⟨(discard (session calls.client) : NodeM Unit) (LoraPoint2Point.initial addresses.client),
      (discard (session calls.server) : NodeM Unit) (LoraPoint2Point.initial addresses.server)⟩
  air := ⟨none, none⟩

theorem Nodes.boot_of (addresses : Both UInt8) (calls : Both (List Operation)) (side : Side) :
    (Nodes.boot addresses calls).parties.of side =
      (discard (session (calls.of side)) : NodeM Unit)
        (LoraPoint2Point.initial (addresses.of side)) := by
  cases side <;> rfl

theorem Nodes.boot_silent (addresses : Both UInt8) (calls : Both (List Operation)) (side : Side) :
    (Nodes.boot addresses calls).air.of side = none := by
  cases side <;> rfl

theorem Nodes.boot_pending (addresses : Both UInt8) (calls : Both (List Operation)) :
    Pending (Nodes.boot addresses calls) := by
  intro side payload heard
  rw [boot_silent] at heard
  cases heard

/-- What is taken in of a transmission under way belongs to it. -/
theorem Pending.heard_frame {nodes : Nodes} (pending : Pending nodes) (side : Side) :
    (nodes.air.of side).toList.Sublist (pendingFrame (nodes.parties.of side).pending).toList := by
  cases heard : nodes.air.of side with
  | none => exact List.nil_sublist _
  | some payload =>
      obtain ⟨node, destAddress, waits⟩ := pending side payload heard
      rw [waits]
      exact List.Sublist.refl _

/-- An empty frame is not read as something to keep to oneself. -/
theorem filtered_nonempty {first last : Nodes} {trace : List NodeEvent}
    (run : Pair.Runs radio first trace last) {side : Side} {node : LoraPoint2Point}
    {capacity : UInt8} {timeout : Nat} {payload : List UInt8}
    (member : (side, ⟨node, .recvfromAckTimeout capacity timeout, .filtered payload⟩) ∈ trace) :
    payload ≠ [] := by
  induction run with
  | refl => cases member
  | step mover asks answer admitted rest ih =>
      rcases List.mem_cons.1 member with same | later
      · cases same
        exact of_decide_eq_true admitted
      · exact ih later

section Boot

variable {addresses : Both UInt8} {calls : Both (List Operation)}
variable {trace : List NodeEvent} {last : Nodes}

/-- What one side takes in is what the other has sent or is sending, in its order and each
frame at most once. -/
theorem taken_sublist_begun (run : Pair.Runs radio (Nodes.boot addresses calls) trace last)
    (side : Side) :
    ((Pair.steps side trace).filterMap takenFrame).Sublist (begunFrames side.peer trace last) := by
  have pending := Nodes.boot_pending addresses calls
  have taken := taken_sublist_sent pending run side
  rw [Nodes.boot_silent] at taken
  exact taken.trans (((pending.runs run).heard_frame side.peer).append_left _)

variable (plain : ∀ side, ∀ operation ∈ calls.of side, ∀ payload ∈ operation.payloads, Free payload)
include plain

theorem boot_keeps (side : Side) : Keeps (episodic (addresses.of side)).contract
    (Episodic.Rests (addresses.of side)) (discard (session (calls.of side)) : NodeM Unit) :=
  (Episodic.session (plain side)).map

/-- Nothing that is read is empty. -/
theorem boot_brings (run : Pair.Runs radio (Nodes.boot addresses calls) trace last) (side : Side) :
    ∀ step ∈ Pair.steps side trace, BringsSomething step.action step.answer := by
  have own := run.project side.peer
  rw [Nodes.boot_of] at own
  rintro ⟨node, action, answer⟩ member
  cases action with
  | recvfromAckTimeout capacity timeout =>
      cases (answer : Reception) with
      | nothing => trivial
      | filtered payload => exact filtered_nonempty run (Pair.mem_steps.1 member)
      | message payload srcAddr destAddr msgId flags =>
          have taken : payload ∈ (Pair.steps side trace).filterMap takenFrame :=
            List.mem_filterMap.2 ⟨_, member, rfl⟩
          have sent := (taken_sublist_begun run side).subset taken
          exact sent_nonempty (boot_keeps plain side.peer) own payload sent
  | _ => trivial

/-- There is room whenever a frame may be taken in. -/
theorem boot_room (run : Pair.Runs radio (Nodes.boot addresses calls) trace last) (side : Side) :
    ∀ step ∈ Pair.steps side trace, step.action.receives = true →
      step.state.rxMsg.bufLen ≠ 0 := by
  have own := run.project side
  rw [Nodes.boot_of] at own
  refine room_of_runs ?_ own (boot_brings plain run side)
  show (128 : UInt8) ≠ 0
  decide

/-- A side has begun at most as many responses as the other has begun requests. -/
theorem responses_le_requests (run : Pair.Runs radio (Nodes.boot addresses calls) trace last)
    (side : Side) :
    (begunFrames side trace last).countP (fun payload => decide (Responding payload)) ≤
      (begunFrames side.peer trace last).countP fun payload => decide (Demanding payload) := by
  have own (side : Side) := run.project side
  simp only [Nodes.boot_of] at own
  have responded := responses_le_demands (boot_keeps plain side) (own side)
  have room : (LoraPoint2Point.initial (addresses.of side)).rxMsg.bufLen ≠ 0 := by
    show (128 : UInt8) ≠ 0
    decide
  have asked := demands_le_demanding room (own side) (boot_brings plain run side)
  have carried : ((Pair.steps side trace).filterMap takenFrame).countP
      (fun payload => decide (Demanding payload)) ≤ _ := (taken_sublist_begun run side).countP_le
  exact Nat.le_trans responded (Nat.le_trans asked carried)

end Boot

/-- Frames that are no responses: what the applications and the timers have sent. -/
def begunUnasked (side : Side) (trace : List NodeEvent) (last : Nodes) : Nat :=
  (begunFrames side trace last).countP fun payload => decide (¬ Responding payload)

/-- Half of an exchange is no response. -/
theorem length_begunFrames_le {side : Side} {trace : List NodeEvent} {last : Nodes}
    (few : (begunFrames side trace last).countP (fun payload => decide (Responding payload)) ≤
      (begunFrames side.peer trace last).countP fun payload => decide (Demanding payload)) :
    (begunFrames side trace last).length ≤
      begunUnasked side trace last + begunUnasked side.peer trace last := by
  have parts : (begunFrames side trace last).length =
      (begunFrames side trace last).countP (fun payload => decide (Responding payload)) +
        begunUnasked side trace last := by
    rw [List.length_eq_countP_add_countP fun payload => decide (Responding payload)]
    simp only [begunUnasked, decide_not, decide_eq_true_eq]
  have asked : (begunFrames side.peer trace last).countP (fun payload => decide (Demanding payload)) ≤
      begunUnasked side.peer trace last := by
    refine List.countP_mono_left fun payload _ demanding => ?_
    have asks := of_decide_eq_true demanding
    exact decide_eq_true fun responding => not_demanding_of_responding responding asks
  omega

/-- Two nodes, set up and used by applications that send no frames that look like parts of the
protocol, on the air in any weather and in any order: each has begun at most as many responses
as the other has begun requests, and all frames together are at most twice those that are no
responses. -/
theorem nodes_do_not_storm (addresses : Both UInt8) (calls : Both (List Operation))
    (plain : ∀ side, ∀ operation ∈ calls.of side, ∀ payload ∈ operation.payloads, Free payload)
    {trace : List NodeEvent} {last : Nodes}
    (run : Pair.Runs radio (Nodes.boot addresses calls) trace last) :
    (∀ side, (begunFrames side trace last).countP (fun payload => decide (Responding payload)) ≤
      (begunFrames side.peer trace last).countP fun payload => decide (Demanding payload)) ∧
    (begunFrames .client trace last).length + (begunFrames .server trace last).length ≤
      2 * (begunUnasked .client trace last + begunUnasked .server trace last) := by
  have few := responses_le_requests plain run
  refine ⟨few, ?_⟩
  have client := length_begunFrames_le (few .client)
  have server := length_begunFrames_le (few .server)
  simp only [Side.peer_client, Side.peer_server] at client server
  omega

/-- One node broadcasts a heartbeat when its timer fires, and the other one answers. -/
def heartbeatAnswered : List NodeEvent × Nodes :=
  ({ clock := fun _ => 8000 } : Weather).run
    (List.replicate 27 .client ++ List.replicate 40 .server)
    (Nodes.boot ⟨1, 2⟩ ⟨[.startHeartbeats, .serviceTimers], [.serviceRx]⟩)

theorem nodes_do_not_storm_answered :
    (begunFrames .server heartbeatAnswered.1 heartbeatAnswered.2).countP
        (fun payload => decide (Responding payload)) ≤
      (begunFrames .client heartbeatAnswered.1 heartbeatAnswered.2).countP fun payload =>
        decide (Demanding payload) := by
  refine (nodes_do_not_storm _ _ ?_ (Weather.run_runs _ _ _)).1 .server
  intro side operation member payload sent
  cases side
  · simp only [Both.of_client, List.mem_cons, List.not_mem_nil, or_false] at member
    rcases member with rfl | rfl <;> cases sent
  · simp only [Both.of_server, List.mem_cons, List.not_mem_nil, or_false] at member
    subst member
    cases sent

end Roam.Node
