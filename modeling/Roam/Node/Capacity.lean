import Roam.Node.Walk

/-!
# The capacity offered to the radio

The receive call takes the room in the buffer from `rxMsg.bufLen` and leaves the
length of whatever frame it read there.  The length is restored after a handled
message only, so the room shrinks when a frame is read and then kept back.
-/

namespace Roam.Node

open Roam.Interaction

namespace Message

/-- A message that fits is taken in whole when the whole buffer is offered. -/
theorem bytes_afterReception (message : Message) {payload : List UInt8}
    (srcAddr destAddr msgId flags : UInt8) (whole : message.bufLen = 128)
    (fits : payload.length ≤ maxMessageLen) :
    (message.afterReception (.message payload srcAddr destAddr msgId flags)).bytes = payload := by
  have fits : payload.length ≤ 128 := fits
  have kept : payload.take message.bufLen.toNat = payload := by
    rw [whole]
    exact List.take_of_length_le fits
  have count : (UInt8.ofNat payload.length).toNat = payload.length := by
    rw [UInt8.toNat_ofNat']
    omega
  simp only [afterReception, overwrite, bytes, kept, count]
  exact message.buf.upTo_load fits

end Message

/-! ## What a receive call shows -/

/-- The call offers the whole buffer, and the message it brings, if it fits, is
what the handlers will see. -/
def OfferedWhole : NodeStep → Prop
  | ⟨node, .recvfromAckTimeout capacity _, .message payload srcAddr destAddr msgId flags⟩ =>
      capacity = 128 ∧ (payload.length ≤ maxMessageLen →
        (node.rxMsg.afterReception
          (.message payload srcAddr destAddr msgId flags)).bytes = payload)
  | ⟨_, .recvfromAckTimeout capacity _, _⟩ => capacity = 128
  | _ => True

/-- The call keeps back a frame that does not fill the buffer. -/
def KeepsBackShort : NodeStep → Prop
  | ⟨_, .recvfromAckTimeout _ _, .filtered payload⟩ => payload.length < maxMessageLen
  | _ => False

/-- Along the run every receive call offered the whole buffer. -/
def AllOffered (trace : List NodeStep) : Prop := ∀ step ∈ trace, OfferedWhole step

/-- Along the run every frame that was kept back filled the buffer. -/
def NoneShort (trace : List NodeStep) : Prop := ∀ step ∈ trace, ¬ KeepsBackShort step

theorem AllOffered.append_iff {trace : List NodeStep} {step : NodeStep} :
    AllOffered (trace ++ [step]) ↔ AllOffered trace ∧ OfferedWhole step := by
  simp only [AllOffered, List.forall_mem_append, List.forall_mem_singleton]

theorem NoneShort.append_iff {trace : List NodeStep} {step : NodeStep} :
    NoneShort (trace ++ [step]) ↔ NoneShort trace ∧ ¬ KeepsBackShort step := by
  simp only [NoneShort, List.forall_mem_append, List.forall_mem_singleton]

/-- While a message is being handled, the length is not the room. -/
def Handling (trace : List NodeStep) (_ : LoraPoint2Point) : Prop :=
  AllOffered trace ↔ NoneShort trace

/-- Between two receive calls the length is the room the next call will offer. -/
def Listening (trace : List NodeStep) (node : LoraPoint2Point) : Prop :=
  AllOffered trace ∧ node.rxMsg.bufLen = 128 ↔ NoneShort trace

/-! ## Everything but the receive call -/

/-- Offers stay whole at every moment, as long as no short frame is kept back. -/
abbrev offering : Contract LoraPoint2Point Action Action.Answer (List NodeStep) :=
  Contract.safety fun trace => NoneShort trace → AllOffered trace

theorem offeredWhole_of_silent {action : Action} (silent : action.receives = false)
    (node : LoraPoint2Point) (answer : action.Answer) : OfferedWhole ⟨node, action, answer⟩ := by
  cases action with
  | recvfromAckTimeout => cases silent
  | _ => trivial

theorem not_keepsBackShort_of_silent {action : Action} (silent : action.receives = false)
    (node : LoraPoint2Point) (answer : action.Answer) :
    ¬ KeepsBackShort ⟨node, action, answer⟩ := by
  cases action <;> first | exact id | cases silent

namespace Handling

theorem perform {action : Action} (silent : action.receives = false) :
    Keeps offering Handling (perform action) := by
  intro trace node handling
  refine ⟨handling.2, fun answer _ => ?_⟩
  have whole := offeredWhole_of_silent silent node answer
  have long := not_keepsBackShort_of_silent silent node answer
  have handled : AllOffered trace ↔ NoneShort trace := handling
  show AllOffered (trace ++ [_]) ↔ NoneShort (trace ++ [_])
  rw [AllOffered.append_iff, NoneShort.append_iff, handled]
  exact and_congr Iff.rfl (iff_of_true whole long)

theorem overhears : Overhears (fun trace => NoneShort trace → AllOffered trace) Handling where
  perform _ silent _ := perform silent
  state _ _ _ _ := id

end Handling

namespace Listening

theorem perform {action : Action} (silent : action.receives = false) :
    Keeps offering Listening (perform action) := by
  intro trace node listening
  refine ⟨fun long => (listening.2 long).1, fun answer _ => ?_⟩
  have whole := offeredWhole_of_silent silent node answer
  have long := not_keepsBackShort_of_silent silent node answer
  have heard : AllOffered trace ∧ node.rxMsg.bufLen = 128 ↔ NoneShort trace := listening
  show AllOffered (trace ++ [_]) ∧ node.rxMsg.bufLen = 128 ↔ NoneShort (trace ++ [_])
  rw [AllOffered.append_iff, NoneShort.append_iff, ← heard]
  tauto

theorem overhears : Overhears (fun trace => NoneShort trace → AllOffered trace) Listening where
  perform _ silent _ := perform silent
  state trace node later same listening := by
    unfold Listening
    rw [same]
    exact listening

end Listening

/-! ## The receive call -/

/-- What a receive call offers is the length it finds. -/
theorem offeredWhole_iff (node : LoraPoint2Point) (timeout : Nat) (reception : Reception) :
    OfferedWhole ⟨node, .recvfromAckTimeout node.rxMsg.bufLen timeout, reception⟩ ↔
      node.rxMsg.bufLen = 128 := by
  cases reception with
  | nothing => exact Iff.rfl
  | filtered payload => exact Iff.rfl
  | message payload srcAddr destAddr msgId flags =>
      refine ⟨And.left, fun whole => ⟨whole, fun fits => ?_⟩⟩
      exact node.rxMsg.bytes_afterReception srcAddr destAddr msgId flags whole fits

/-- After a frame was read into the whole buffer, the room is whole again exactly
if the frame filled it. -/
theorem Message.overwrite_bufLen {message : Message} (whole : message.bufLen = 128)
    (payload : List UInt8) :
    (message.overwrite payload).bufLen = 128 ↔ ¬ payload.length < maxMessageLen := by
  have room : message.bufLen.toNat = 128 := by rw [whole]; rfl
  have kept : (payload.take message.bufLen.toNat).length = min 128 payload.length := by
    rw [room, List.length_take]
  have value : (UInt8.ofNat (min 128 payload.length)).toNat = min 128 payload.length := by
    rw [UInt8.toNat_ofNat']
    omega
  have limit : maxMessageLen = 128 := rfl
  rw [← UInt8.toNat_inj]
  simp only [Message.overwrite, kept, value, limit]
  have literal : (128 : UInt8).toNat = 128 := rfl
  omega

theorem Listening.recvfromAckTimeout :
    Triple offering Listening recvfromAckTimeout fun received =>
      if received then Handling else Listening := by
  intro trace node listening
  refine ⟨fun long => (listening.2 long).1, fun reception _ => ?_⟩
  have heard : AllOffered trace ∧ node.rxMsg.bufLen = 128 ↔ NoneShort trace := listening
  have offered := offeredWhole_iff node 200 reception
  cases reception with
  | nothing =>
      have long : ¬ KeepsBackShort
          ⟨node, .recvfromAckTimeout node.rxMsg.bufLen 200, .nothing⟩ := id
      show AllOffered (trace ++ [_]) ∧ node.rxMsg.bufLen = 128 ↔ NoneShort (trace ++ [_])
      rw [AllOffered.append_iff, NoneShort.append_iff, offered, ← heard]
      tauto
  | filtered payload =>
      show AllOffered (trace ++ [_]) ∧ (node.rxMsg.overwrite payload).bufLen = 128 ↔
        NoneShort (trace ++ [_])
      rw [AllOffered.append_iff, NoneShort.append_iff, offered, ← heard]
      refine and_congr_right fun known => ?_
      exact Message.overwrite_bufLen known.2 payload
  | message payload srcAddr destAddr msgId flags =>
      have long : ¬ KeepsBackShort ⟨node, .recvfromAckTimeout node.rxMsg.bufLen 200,
          .message payload srcAddr destAddr msgId flags⟩ := id
      show AllOffered (trace ++ [_]) ↔ NoneShort (trace ++ [_])
      rw [AllOffered.append_iff, NoneShort.append_iff, offered, ← heard]
      tauto

theorem Listening.serviceRx : Keeps offering Listening serviceRx := by
  have handling := Handling.overhears.ignores.indifferent
  have anywhere : ReadsAnywhere offering Handling := fun _ _ _ => Handling.perform rfl
  have handle : Triple offering Handling handleMessage fun _ => Listening := by
    refine handling.carries.handleMessage anywhere
      (withRxMsg_keeps fun _ =>
        handling.dispatch Handling.overhears.ignores.settles (anywhere.printSettings _))
      handling.trustRule
      fun trace node handled => ?_
    have handled : AllOffered trace ↔ NoneShort trace := handled
    show AllOffered trace ∧ (128 : UInt8) = 128 ↔ NoneShort trace
    rw [and_iff_left rfl, handled]
  refine Listening.overhears.ignores.indifferent.serviceTimers.bind fun _ => ?_
  refine Triple.bind Listening.recvfromAckTimeout fun received => ?_
  cases received with
  | true => exact handle
  | false => exact Keeps.pure ()

/-! ## Every run -/

/-- Over every session the buffer was offered whole at each receive call, and
will be at the next one, exactly if no short frame was kept back.  The offers of
a call that is still under way are covered by the first part. -/
theorem offered_whole_iff (thisAddress : UInt8) (operations : List Operation)
    (trace : List NodeStep) (last : NodeRun Bool)
    (run : Resumption.Runs (session operations (LoraPoint2Point.initial thisAddress)) trace
      last) :
    ((∀ step ∈ trace, ¬ KeepsBackShort step) → ∀ step ∈ trace, OfferedWhole step) ∧
      ∀ node ok, last = .done node ok →
        (((∀ step ∈ trace, OfferedWhole step) ∧ node.rxMsg.bufLen = 128) ↔
          ∀ step ∈ trace, ¬ KeepsBackShort step) := by
  have sustains := Listening.overhears.ignores.indifferent.sustains Listening.overhears.types
    Listening.overhears.ignores.settles
    (fun _ _ _ => Listening.perform rfl) Listening.serviceRx
  have start : Listening [] (LoraPoint2Point.initial thisAddress) :=
    iff_of_true ⟨fun _ member => absurd member List.not_mem_nil, rfl⟩
      fun _ member => absurd member List.not_mem_nil
  have meets := sustains.endures.session operations [] _ start
  constructor
  · exact meets.always_safe run fun trace node _ listening long => (listening.2 long).1
  · rintro node ok rfl
    exact meets.finished run

/-- A retransmission of two bytes is kept back, and a longer message follows. -/
def duplicateThenMessage : List NodeStep × NodeRun Bool :=
  Surroundings.run {
      receives := fun position =>
        if position = 24 then .filtered [7, 9] else .message [1, 72, 105] 9 1 0 0 }
    [.serviceRx, .serviceRx] 1

theorem offered_whole_iff_duplicate :
    ¬ ((∀ step ∈ duplicateThenMessage.1, OfferedWhole step) ∧
      duplicateThenMessage.2.state.rxMsg.bufLen = 128) := by
  intro whole
  have decided := (offered_whole_iff 1 _ duplicateThenMessage.1 duplicateThenMessage.2
    (Surroundings.run_runs _ _ _)).2 _ true rfl
  have short : KeepsBackShort (duplicateThenMessage.1.get ⟨24, by decide⟩) :=
    show [7, 9].length < maxMessageLen by decide
  exact decided.1 whole _ (List.get_mem _ _) short

/-- The second receive call offers two bytes, and the message arrives cut. -/
theorem offered_two_bytes :
    ¬ ∀ (thisAddress : UInt8) (operations : List Operation) (trace : List NodeStep)
      (node : LoraPoint2Point) (ok : Bool),
      Resumption.Runs (session operations (LoraPoint2Point.initial thisAddress)) trace
        (.done node ok) → ∀ step ∈ trace, OfferedWhole step := by
  intro always
  have whole := always 1 _ duplicateThenMessage.1 duplicateThenMessage.2.state true
    (Surroundings.run_runs _ _ _)
  have second := whole (duplicateThenMessage.1.get ⟨26, by decide⟩) (List.get_mem _ _)
  have capacity : (2 : UInt8) = 128 := second.1
  exact absurd capacity (by decide)

end Roam.Node
