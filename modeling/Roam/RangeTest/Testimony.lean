import Roam.RangeTest.Records

/-!
# What the log says of the other sketch

The log of the base is also true of the endpoint.  A message that is noted as
acknowledged was taken in by the endpoint, each in its turn; a message that is noted
as received was sent by the endpoint, and the row shows its beginning, which is all
of it unless the receive buffer was offered short.
-/

namespace Roam.RangeTest

open Roam.Interaction
open Roam.Node

/-! ## Acknowledged frames -/

/-- The frame sent at a step, if it was acknowledged. -/
def acknowledgedFrame : NodeStep → Option (List UInt8)
  | ⟨_, .sendtoWait payload destAddress, acknowleged⟩ =>
      if acknowleged = true ∧ destAddress ≠ broadcastAddress then some payload else none
  | _ => none

section Mover

variable {nodes : Nodes} {mover : Side} {node : LoraPoint2Point} {action : Node.Action}
variable {answer : action.Answer}

/-- A transmission that was acknowledged has been taken in. -/
theorem heard_of_acknowledged {payload : List UInt8}
    (admitted : radio.admits nodes.air mover node action answer
      (nodes.parties.of mover.peer).pending)
    (acknowledged : acknowledgedFrame ⟨node, action, answer⟩ = some payload) :
    nodes.air.of mover = some payload := by
  cases action
  case sendtoWait sent destAddress =>
    unfold acknowledgedFrame at acknowledged
    dsimp only at acknowledged
    split at acknowledged
    · rename_i succeeded
      cases acknowledged
      have heard := of_decide_eq_true admitted succeeded.1
      exact heard.resolve_left succeeded.2
    · cases acknowledged
  all_goals cases acknowledged

/-- With a step of its sender a transmission is over. -/
theorem silent_behind : (nodes.air.after mover action answer).of mover = none := by
  cases action with
  | recvfromAckTimeout capacity timeout =>
      cases (answer : Reception) with
      | message payload srcAddr destAddr msgId flags =>
          show ((nodes.air.put mover none).put mover.peer (some payload)).of mover = none
          rw [Both.of_put_peer_self, Both.of_put_self]
      | _ => exact Both.of_put_self nodes.air mover none
  | _ => exact Both.of_put_self nodes.air mover none

/-- What the other side is heard of is what is taken in now, or was taken in before. -/
theorem heard_behind : (nodes.air.after mover action answer).of mover.peer =
    (takenFrame ⟨node, action, answer⟩).or (nodes.air.of mover.peer) := by
  cases action with
  | recvfromAckTimeout capacity timeout =>
      cases (answer : Reception) with
      | message payload srcAddr destAddr msgId flags =>
          exact Both.of_put_self _ mover.peer (some payload)
      | _ => exact Both.of_put_peer nodes.air mover none
  | _ => exact Both.of_put_peer nodes.air mover none

end Mover

/-- What one side knows to be acknowledged the other one has taken in, in the same order. -/
theorem acknowledged_sublist_taken {first last : Nodes} {trace : List NodeEvent}
    (run : Pair.Runs radio first trace last) (side : Side) :
    ((Pair.steps side trace).filterMap acknowledgedFrame).Sublist
      ((first.air.of side).toList ++ (Pair.steps side.peer trace).filterMap takenFrame) := by
  induction run with
  | refl => exact List.nil_sublist _
  | @step nodes last mover node action resume trace asks answer admitted rest ih =>
      have air : (nodes.answered radio mover action answer (resume answer)).air =
          nodes.air.after mover action answer := rfl
      rw [air] at ih
      rcases Side.eq_or_eq_peer mover side with rfl | rfl
      · rw [silent_behind] at ih
        rw [Pair.steps_cons_self, Pair.steps_cons_peer, filterMap_step]
        cases acknowledged : acknowledgedFrame ⟨node, action, answer⟩ with
        | none => exact ih.trans (List.sublist_append_right _ _)
        | some payload =>
            rw [heard_of_acknowledged admitted acknowledged]
            exact ih.cons_cons payload
      · rw [@heard_behind nodes mover node, Side.peer_peer] at ih
        rw [Side.peer_peer]
        rw [Pair.steps_cons_self, Pair.steps_cons_peer, filterMap_step]
        cases taken : takenFrame ⟨node, action, answer⟩ with
        | none =>
            rw [taken] at ih
            exact ih
        | some payload =>
            rw [taken] at ih
            exact ih.trans (List.sublist_append_right _ _)

/-! ## Frames of notes -/

namespace Note

/-- A row shows the whole of a frame that was sent. -/
theorem frame_ofReport {report : Report} (nonempty : report.1 ≠ []) :
    (ofReport report).frame = report.1 := by
  obtain ⟨payload, destAddr, ack⟩ := report
  cases payload with
  | nil => exact absurd rfl nonempty
  | cons first rest => rfl

/-- A row shows the beginning of a frame that was taken in, if there was room for any of it. -/
theorem frame_ofMessage {message : Message} {payload : List UInt8}
    {srcAddr destAddr msgId flags : UInt8} (room : message.bufLen ≠ 0) (nonempty : payload ≠ []) :
    (ofMessage (message.afterReception
      (.message payload srcAddr destAddr msgId flags))).frame <+: payload := by
  have first : payload.head? = some ((message.afterReception
      (.message payload srcAddr destAddr msgId flags)).buf.get 0) :=
    Message.head_afterReception room nonempty
  have shown : (message.afterReception (.message payload srcAddr destAddr msgId flags)).bytes =
      (payload.take message.bufLen.toNat).take maxMessageLen := by
    have short : (payload.take message.bufLen.toNat).length < 256 :=
      Nat.lt_of_le_of_lt (List.length_take_le _ _) message.bufLen.toNat_lt
    show (message.buf.load (payload.take message.bufLen.toNat)).upTo
      (UInt8.ofNat (payload.take message.bufLen.toNat).length).toNat = _
    rw [UInt8.toNat_ofNat_of_lt' short]
    exact message.buf.upTo_load_take _
  have positive : message.bufLen.toNat ≠ 0 := fun zero => room (UInt8.toNat_inj.1 zero)
  obtain ⟨more, count⟩ := Nat.exists_eq_succ_of_ne_zero positive
  obtain ⟨head, rest, rfl⟩ := List.exists_cons_of_ne_nil nonempty
  let taken := message.afterReception (.message (head :: rest) srcAddr destAddr msgId flags)
  show taken.buf.get 0 :: taken.bytes.drop 1 <+: head :: rest
  rw [shown, count, ← Option.some.inj first]
  exact List.cons_prefix_cons.2 ⟨rfl, (List.take_prefix _ _).trans (List.take_prefix _ _)⟩

end Note

/-- What was acknowledged of the transmissions. -/
theorem acknowledged_of_transmitted (steps : List NodeStep) :
    (((steps.filterMap transmitted).filter (·.2.2)).map (·.1)).Sublist
      (steps.filterMap acknowledgedFrame) := by
  induction steps with
  | nil => exact List.Sublist.refl _
  | cons step steps ih =>
      rw [filterMap_step, filterMap_step, List.filter_append, List.map_append]
      refine List.Sublist.append ?_ ih
      obtain ⟨node, action, answer⟩ := step
      cases action with
      | sendtoWait payload destAddress =>
          unfold transmitted acknowledgedFrame
          dsimp only
          split
          · exact List.nil_sublist _
          · by_cases succeeded : answer = true ∧ destAddress ≠ broadcastAddress
            · simp [succeeded]
            · rw [if_neg succeeded]
              simp_all
      | _ => exact List.Sublist.refl _

theorem sent_of_transmitted {steps : List NodeStep} {report : Report}
    (member : report ∈ steps.filterMap transmitted) : report.1 ∈ steps.filterMap sentFrame := by
  obtain ⟨⟨node, action, answer⟩, within, transmits⟩ := List.mem_filterMap.1 member
  refine List.mem_filterMap.2 ⟨_, within, ?_⟩
  cases action
  case sendtoWait payload destAddress =>
    unfold transmitted at transmits
    dsimp only at transmits
    split at transmits
    · cases transmits
    · cases transmits
      rfl
  all_goals cases transmits

/-- What was taken in shows, message by message, the beginning of a frame. -/
theorem frames_of_taken {steps : List NodeStep}
    (room : ∀ step ∈ steps, step.action.receives = true → step.state.rxMsg.bufLen ≠ 0)
    (brings : ∀ step ∈ steps, BringsSomething step.action step.answer) :
    List.Forall₂ (· <+: ·) ((steps.filterMap takenIn).map fun rxMsg => (Note.ofMessage rxMsg).frame)
      (steps.filterMap takenFrame) := by
  induction steps with
  | nil => exact .nil
  | cons step steps ih =>
      have later := ih (fun step member => room step (List.mem_cons_of_mem _ member))
        fun step member => brings step (List.mem_cons_of_mem _ member)
      have here := room step List.mem_cons_self
      have something := brings step List.mem_cons_self
      obtain ⟨node, action, answer⟩ := step
      cases action with
      | recvfromAckTimeout capacity timeout =>
          cases (answer : Reception) with
          | message payload srcAddr destAddr msgId flags =>
              exact .cons (Note.frame_ofMessage (here rfl) something) later
          | _ => exact later
      | _ => exact later

/-! ## Two sketches -/

theorem rowsOf_embed {State Whole : Type} (whole : State → Whole)
    (trace : List (Step (State × LoraPoint2Point) Action Action.Answer)) :
    rowsOf (trace.map (Step.embed fun both => (whole both.1, both.2))) = rowsOf trace := by
  unfold rowsOf
  rw [List.filterMap_map]
  rfl

/-- The log of the base is true of the endpoint, in every run of the two sketches in which the
endpoint's radio comes up: what it notes as acknowledged the endpoint has taken in, in the
same order and each in its turn, and what it notes as received shows the beginnings of frames
that the endpoint has sent or is sending, in their order. -/
theorem log_tells_of_endpoint {iterations : Both Nat} {trace : List SketchEvent} {last : Sketches}
    (run : Pair.Runs field (Sketches.start iterations) trace last) (up : Powered trace) :
    (((sentNotes (Pair.steps .client trace)).filter Note.ack).map Note.frame).Sublist
        ((objectSteps (Pair.steps .server trace)).filterMap takenFrame) ∧
      ∃ frames : List (List UInt8),
        frames.Sublist ((objectSteps (Pair.steps .server trace)).filterMap sentFrame ++
          (last.air.of .server).toList) ∧
        List.Forall₂ (· <+: ·) ((receivedNotes (Pair.steps .client trace)).map Note.frame) frames := by
  obtain ⟨calls, called, nodes, runs, shows⟩ := sketches_run_sessions run up
  have air : Pair.Runs radio (Nodes.boot addresses calls) (trace.filterMap (onAir _).event)
      ⟨nodes, last.air⟩ := field_transparent.runs run runs shows
  have plain (side : Side) := called_plain side (called side)
  have seen (side : Side) : Pair.steps side (trace.filterMap (onAir _).event) =
      objectSteps (Pair.steps side trace) := (onAir _).steps_event side trace
  obtain ⟨inner, final, base, steps, _⟩ := (run.project .client).of_embed
  have own : objectSteps (Pair.steps .client trace) = objectSteps inner := by
    unfold objectSteps
    rw [steps]
    exact sees_embed Sum.inl inner
  have rows : rowsOf (Pair.steps .client trace) = rowsOf inner := by
    rw [steps]
    exact rowsOf_embed Sum.inl inner
  obtain ⟨ofSent, ofTaken⟩ := notes_of_runs base
  simp only [sentNotes, receivedNotes] at ofSent ofTaken ⊢
  rw [← own, ← rows] at ofSent ofTaken
  constructor
  · have acknowledged := acknowledged_sublist_taken air .client
    rw [Nodes.boot_silent, seen, Side.peer_client, seen] at acknowledged
    have whole : ∀ report ∈ (objectSteps (Pair.steps .client trace)).filterMap transmitted,
        report.1 ≠ [] := by
      intro report member
      have client := air.project .client
      rw [Nodes.boot_of, seen] at client
      refine sent_nonempty (boot_keeps plain .client) client _ ?_
      exact List.mem_append_left _ (sent_of_transmitted member)
    have frames : ((((objectSteps (Pair.steps .client trace)).filterMap transmitted).map
        Note.ofReport).filter Note.ack).map Note.frame =
          (((objectSteps (Pair.steps .client trace)).filterMap transmitted).filter (·.2.2)).map
            (·.1) := by
      rw [List.filter_map, List.map_map]
      refine List.map_congr_left fun report member => ?_
      exact Note.frame_ofReport (whole report (List.mem_filter.1 member).1)
    have shown := (ofSent.filter Note.ack).map Note.frame
    rw [frames] at shown
    exact shown.trans ((acknowledged_of_transmitted _).trans acknowledged)
  · have room := boot_room plain air .client
    have brings := boot_brings plain air .client
    have taken := taken_sublist_sent (Nodes.boot_pending addresses calls) air .client
    rw [seen] at room brings
    rw [Nodes.boot_silent, seen, Side.peer_client, seen] at taken
    have shown := ofTaken.map Note.frame
    rw [List.map_map] at shown
    have begins := List.sublistForall₂_iff.2 ⟨_, frames_of_taken room brings, taken⟩
    have whole : List.SublistForall₂ (· <+: ·) _ _ := shown.sublistForall₂
    obtain ⟨frames, each, within⟩ := List.sublistForall₂_iff.1 (IsTrans.trans _ _ _ whole begins)
    exact ⟨frames, within, each⟩

theorem log_tells_of_endpoint_testMessage :
    [1 :: testMessage].Sublist
      ((objectSteps (Pair.steps .server testMessageTaken.1)).filterMap takenFrame) := by
  have noted : ((sentNotes (Pair.steps .client testMessageTaken.1)).filter Note.ack).map
      Note.frame = [1 :: testMessage] := by decide +kernel
  rw [← noted]
  exact (log_tells_of_endpoint (Pair.play_runs _ _ _ _) testMessageTaken_powered).1

end Roam.RangeTest
