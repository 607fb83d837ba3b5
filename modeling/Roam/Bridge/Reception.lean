import Roam.Bridge.Forwarding

/-!
# One receive half

A packet is printed to the ports its type selects and is added to the checksum.
Between two receive halves everything heard has been printed and counted; in the
middle of one, the packet in hand is still missing from the checksum.
-/

namespace Roam.Bridge

open Roam.Data Roam.Interaction

/-- The payload of a packet, as far as the receive buffer holds it. -/
def heardPayload (packet : List UInt8) : List UInt8 := (packet.take maxMessageLen).drop 1

/-! ## The receive buffer -/

theorem map_get_range' (buffer : Buffer UInt8 maxMessageLen) {count : Nat}
    (inside : count ≤ maxMessageLen) :
    (List.range' 1 (count - 1)).map buffer.get = (buffer.upTo count).drop 1 := by
  have length : (buffer.upTo count).length = count := by
    rw [Buffer.upTo, List.length_take, buffer.length_cells, Nat.min_eq_left inside]
  apply List.ext_getElem
  · rw [List.length_map, List.length_range', List.length_drop, length]
  · intro i first second
    rw [List.length_map, List.length_range'] at first
    have bound : i + 1 < buffer.cells.length := by
      rw [buffer.length_cells]
      omega
    simp [Buffer.get, Buffer.upTo, List.getElem?_eq_getElem bound, Nat.add_comm]

namespace Receiver

variable {receiver : Receiver}

/-- A receiver that is ready for a packet takes all of it that it has room for. -/
theorem payload_load (packet : List UInt8) (ready : receiver.outputBufLen = 255) :
    (receiver.load packet).payload = heardPayload packet := by
  have capacity : receiver.outputBufLen.toNat = maxMessageLen := by
    rw [ready]
    rfl
  have fits : (packet.take maxMessageLen).length ≤ maxMessageLen := List.length_take_le _ _
  have length : (UInt8.ofNat (packet.take maxMessageLen).length).toNat =
      (packet.take maxMessageLen).length :=
    UInt8.toNat_ofNat_of_lt' (Nat.lt_succ_of_le fits)
  unfold payload positions load
  rw [capacity]
  dsimp only
  rw [length, map_get_range' _ fits, Buffer.upTo_load _ fits]
  rfl

theorem type_load {packet : List UInt8} {byte : UInt8} {rest : List UInt8}
    (split : packet = byte :: rest) (ready : receiver.outputBufLen = 255) :
    (receiver.load packet).outputBuf.get 0 = byte := by
  subst split
  show (receiver.outputBuf.load _).get 0 = byte
  rw [Buffer.get_load_zero _ _ (by decide), ready]
  rfl

end Receiver

/-! ## The journal -/

namespace Journal

/-- Some bytes printed to several ports. -/
def echo (journal : Journal) (outlets : List Port) (bytes : List UInt8) : Journal :=
  { journal with
    printed := fun port => journal.printed port ++ if port ∈ outlets then bytes else [] }

theorem echo_none (journal : Journal) (outlets : List Port) :
    journal.echo outlets [] = journal := by
  simp [echo]

theorem echo_nowhere (journal : Journal) (bytes : List UInt8) :
    journal.echo [] bytes = journal := by
  simp [echo]

theorem echo_echo (journal : Journal) (outlets : List Port) (first second : List UInt8) :
    (journal.echo outlets first).echo outlets second = journal.echo outlets (first ++ second) := by
  unfold echo
  congr
  funext port
  by_cases member : port ∈ outlets <;> simp [member]

/-- One print to a port that is not listed again. -/
theorem echo_print (journal : Journal) {port : Port} {outlets : List Port} (byte : UInt8)
    (fresh : port ∉ outlets) :
    (journal.observe (.print port byte) ()).echo outlets [byte] =
      journal.echo (port :: outlets) [byte] := by
  unfold echo
  simp only [observe]
  congr
  funext other
  by_cases same : other = port
  · subst same
    simp [fresh]
  · simp [extend_of_ne same, same]

end Journal

/-- The actions of a receive half. -/
def receives : Action → Prop
  | .recv _ => True
  | .index access _ _ _ => access = .read
  | .print _ _ => True
  | .received _ => True
  | _ => False

/-- What a packet is printed as at one port. -/
def shows (outlets : UInt8 → List Port) (port : Port) (packet : List UInt8) : List UInt8 :=
  if port ∈ outlets (packet.headD 0) then heardPayload packet else []

/-- Between two receive halves everything heard has been printed and counted. -/
structure Hears (outlets : UInt8 → List Port) (journal : Journal) (receiver : Receiver) : Prop where
  ready : receiver.outputBufLen = 255
  counted : receiver.outputBufCksum = cksum (journal.received.flatMap heardPayload)
  received : journal.received = journal.heard
  printed : ∀ port, journal.printed port = journal.heard.flatMap (shows outlets port)

/-- The checksum counts what has been received, which is the beginning of what has
been heard. -/
structure Counts (journal : Journal) (receiver : Receiver) : Prop where
  counted : receiver.outputBufCksum = cksum (journal.received.flatMap heardPayload)
  known : journal.received <+: journal.heard

theorem Hears.counts {outlets : UInt8 → List Port} {journal : Journal} {receiver : Receiver}
    (hears : Hears outlets journal receiver) : Counts journal receiver :=
  ⟨hears.counted, hears.received ▸ List.prefix_refl _⟩

/-- What surrounds a receive half: what the rest of the sketch knows of the journal.
The duty of the sketch follows from that and the checksum. -/
structure Audience (require : Journal → Receiver → Action → Prop) where
  others : Journal → Prop
  closed : ∀ journal action answer, receives action → others journal →
    others (journal.observe action answer)
  permit : ∀ journal receiver action, others journal → Counts journal receiver →
    require journal receiver action

namespace Audience

variable {require : Journal → Receiver → Action → Prop} (audience : Audience require)

/-- What holds while a packet is in hand. -/
structure Holds (journal : Journal) (receiver : Receiver) : Prop where
  counts : Counts journal receiver
  others : audience.others journal

variable {audience}

theorem Holds.permits {journal : Journal} {receiver : Receiver}
    (holds : audience.Holds journal receiver) (action : Action) :
    require journal receiver action :=
  audience.permit journal receiver action holds.others holds.counts

/-- A byte is printed to every port listed. -/
theorem printByte {receiver : Receiver} (i : Nat) {outlets : List Port} (once : outlets.Nodup)
    {journal : Journal} (holds : audience.Holds journal receiver) :
    ((outlets.forM fun port => do
      perform (.index .read .outputBuf i maxMessageLen)
      perform (.print port (receiver.outputBuf.get i)) : SketchM Receiver Unit) receiver).Meets
      (recording require) (fun later after _ => after = receiver ∧
        later = journal.echo outlets [receiver.outputBuf.get i] ∧ audience.Holds later after)
      journal := by
  induction outlets generalizing journal with
  | nil => exact ⟨rfl, (Journal.echo_nowhere _ _).symm, holds⟩
  | cons port rest ih =>
      obtain ⟨fresh, once⟩ := List.nodup_cons.1 once
      refine ⟨holds.permits _, fun _ _ => ⟨holds.permits _, fun _ _ => ?_⟩⟩
      have printed := audience.closed journal (.print port (receiver.outputBuf.get i)) () trivial
        holds.others
      have counted : audience.Holds (journal.observe (.print port (receiver.outputBuf.get i)) ())
          receiver := ⟨⟨holds.counts.counted, holds.counts.known⟩, printed⟩
      refine (ih once counted).mono ?_
      rintro later after _ ⟨rfl, rfl, counted⟩
      exact ⟨rfl, Journal.echo_print _ _ fresh, counted⟩

theorem printPositions {receiver : Receiver} {outlets : List Port} (once : outlets.Nodup)
    (positions : List Nat) {journal : Journal} (holds : audience.Holds journal receiver) :
    ((positions.forM fun i => outlets.forM fun port => do
      perform (.index .read .outputBuf i maxMessageLen)
      perform (.print port (receiver.outputBuf.get i)) : SketchM Receiver Unit) receiver).Meets
      (recording require) (fun later after _ => after = receiver ∧
        later = journal.echo outlets (positions.map receiver.outputBuf.get) ∧
        audience.Holds later after) journal := by
  induction positions generalizing journal with
  | nil => exact ⟨rfl, (Journal.echo_none _ _).symm, holds⟩
  | cons i rest ih =>
      refine Resumption.Meets.bind_iff.2 ((printByte i once holds).mono ?_)
      rintro later after _ ⟨rfl, rfl, counted⟩
      refine (ih counted).mono ?_
      rintro later after _ ⟨rfl, rfl, counted⟩
      exact ⟨rfl, Journal.echo_echo _ _ _ _, counted⟩

/-- The payload is printed to every port listed. -/
theorem printPayload {receiver : Receiver} {outlets : List Port} (once : outlets.Nodup)
    {journal : Journal} (holds : audience.Holds journal receiver) :
    (printPayload outlets receiver).Meets (recording require) (fun later after _ =>
      after = receiver ∧ later = journal.echo outlets receiver.payload ∧
        audience.Holds later after) journal :=
  printPositions once receiver.positions holds

/-- Reading the receive buffer leaves no trace in the journal. -/
theorem readPositions {receiver : Receiver} (positions : List Nat) {journal : Journal}
    (holds : audience.Holds journal receiver) :
    ((positions.forM fun i => perform (.index .read .outputBuf i maxMessageLen) :
      SketchM Receiver Unit) receiver).Meets (recording require)
      (fun later after _ => after = receiver ∧ later = journal) journal := by
  induction positions with
  | nil => exact ⟨rfl, rfl⟩
  | cons i rest ih => exact ⟨holds.permits _, fun _ _ => ih⟩

/-- The packet in hand is counted. -/
theorem addPayload {receiver : Receiver} {packet : List UInt8}
    (held : receiver.payload = heardPayload packet) {journal : Journal}
    (holds : audience.Holds journal receiver) :
    (addPayload packet receiver).Meets (recording require) (fun later after _ =>
      later = journal.observe (.received packet) () ∧
        after.outputBufCksum = cksum (later.received.flatMap heardPayload) ∧
        audience.others later) journal := by
  refine Resumption.Meets.bind_iff.2 (Resumption.Meets.bind_iff.2 ?_)
  refine (readPositions receiver.positions holds).mono ?_
  rintro journal receiver _ ⟨rfl, rfl⟩
  have counted := audience.closed journal (.received packet) () trivial holds.others
  refine ⟨holds.permits _, fun _ _ => ⟨rfl, ?_, counted⟩⟩
  show receiver.outputBufCksum + cksum receiver.payload =
    cksum ((journal.received ++ [packet]).flatMap heardPayload)
  rw [held, holds.counts.counted, List.flatMap_append, cksum_append, List.flatMap_singleton]

/-- What is printed of a packet depends on its first byte, if it has one. -/
theorem shows_load {outlets : UInt8 → List Port} {receiver : Receiver}
    (ready : receiver.outputBufLen = 255) (packet : List UInt8) (port : Port) :
    (if port ∈ outlets ((receiver.load packet).outputBuf.get 0) then
      (receiver.load packet).payload else []) = shows outlets port packet := by
  rw [Receiver.payload_load packet ready, shows]
  cases packet with
  | nil => simp [heardPayload]
  | cons byte rest => rw [Receiver.type_load rfl ready, List.headD_cons]

/-- A packet that has been heard is printed where its type says, and counted. -/
theorem handlePacket {outlets : UInt8 → List Port} (once : ∀ type, (outlets type).Nodup)
    {journal : Journal} {receiver : Receiver} (hears : Hears outlets journal receiver)
    (others : audience.others journal) (packet : List UInt8) :
    (handlePacket outlets packet receiver).Meets (recording require)
      (fun later after _ => Hears outlets later after ∧ audience.others later)
      (journal.observe (.recv receiver.outputBufLen) (some packet)) := by
  have heard := audience.closed journal (.recv receiver.outputBufLen) (some packet) trivial others
  have loaded : audience.Holds (journal.observe (.recv receiver.outputBufLen) (some packet))
      (receiver.load packet) := by
    refine ⟨⟨hears.counted, ?_⟩, heard⟩
    show journal.received <+: journal.heard ++ [packet]
    rw [hears.received]
    exact List.prefix_append _ _
  have held := Receiver.payload_load packet hears.ready
  refine ⟨loaded.permits _, fun _ _ => ⟨loaded.permits _, fun _ _ => ?_⟩⟩
  refine ⟨loaded.permits _, fun _ _ => ⟨loaded.permits _, fun _ _ => ?_⟩⟩
  show ((do
    Bridge.printPayload (outlets ((receiver.load packet).outputBuf.get 0))
    Bridge.addPayload packet
    modify fun receiver => { receiver with outputBufLen := 255 } : SketchM Receiver Unit)
      (receiver.load packet)).Meets (recording require) _ _
  refine Resumption.Meets.bind_iff.2 ((printPayload (once _) loaded).mono ?_)
  rintro _ _ _ ⟨rfl, rfl, printed⟩
  refine Resumption.Meets.bind_iff.2 ((addPayload held printed).mono ?_)
  rintro _ after _ ⟨rfl, counted, others⟩
  refine ⟨⟨rfl, counted, ?_, fun port => ?_⟩, others⟩
  · exact congrArg (· ++ [packet]) hears.received
  · show journal.printed port ++ _ = (journal.heard ++ [packet]).flatMap (shows outlets port)
    rw [shows_load hears.ready, hears.printed, List.flatMap_append, List.flatMap_singleton]

theorem receive {outlets : UInt8 → List Port} (once : ∀ type, (outlets type).Nodup) :
    Keeps (recording require) (fun journal receiver => Hears outlets journal receiver ∧
      audience.others journal) (receive outlets) := by
  rintro journal receiver ⟨hears, others⟩
  refine ⟨audience.permit _ _ _ others hears.counts, fun packet? _ => ?_⟩
  cases packet? with
  | none =>
      have same : journal.observe (.recv receiver.outputBufLen) none = journal := by
        simp [Journal.observe]
      show Hears outlets (journal.observe (.recv receiver.outputBufLen) none) receiver ∧ _
      rw [same]
      exact ⟨hears, audience.closed _ (.recv receiver.outputBufLen) none trivial others⟩
  | some packet => exact handlePacket once hears others packet

end Audience

end Roam.Bridge
