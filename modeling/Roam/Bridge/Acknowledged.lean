import Roam.Interaction.Shadow
import Roam.Bridge.Relay

/-!
# The bridge with acknowledgements

The two sketches built with `ENABLE_ACK`.  Every packet that is received, other than an
acknowledgement, is answered at once with one that names its type; nothing of the
payload of an acknowledgement is printed.  This build does what the default build does,
and the acknowledgements on top of it.
-/

namespace Roam.Bridge

open Roam.Data Roam.Interaction

/-! ## The sketches -/

/-- What a receive half works on when it acknowledges. -/
structure Acknowledger where
  receiver : Receiver := {}
  ackBuf : List UInt8 := [MsgType.ack.code, 0]
  inputBufCksum : UInt32 := 0
  deriving DecidableEq

/-- The type an acknowledgement names is printed. -/
def printAcked : SketchM Receiver Unit := do
  perform (.index .read .outputBuf 1 maxMessageLen)
  perform (.index .read .msgTypeNames ((← get).outputBuf.get 1).toNat numMsgTypes)
  perform (.index .read .outputBuf 1 maxMessageLen)

/-- The switch on the type of a packet, with a case more than in the default build. -/
def printPacket (outlets : UInt8 → List Port) : SketchM Receiver Unit := do
  let type := (← get).outputBuf.get 0
  if type = MsgType.ack.code then printAcked else printPayload (outlets type)

/-- A packet that was received. -/
def handlePacketOrAck (outlets : UInt8 → List Port) (packet : List UInt8) :
    SketchM Receiver Unit := do
  modify (·.load packet)
  perform (.index .read .outputBuf 0 maxMessageLen)
  perform (.index .read .msgTypeNames ((← get).outputBuf.get 0).toNat numMsgTypes)
  perform (.index .read .outputBuf 0 maxMessageLen)
  perform (.index .read .outputBuf 0 maxMessageLen)
  printPacket outlets
  addPayload packet
  modify fun receiver => { receiver with outputBufLen := 255 }

namespace Acknowledger

/-- The acknowledgement of a packet of the given type.  The type is read once more for the
checksum; that read is marked in front of the `send`. -/
def sendAck (type : UInt8) : SketchM Acknowledger Unit := do
  perform (.index .read .outputBuf 0 maxMessageLen)
  modify fun acknowledger => { acknowledger with ackBuf := acknowledger.ackBuf.set 1 type }
  perform (.index .read .outputBuf 0 maxMessageLen)
  perform (.send (← get).ackBuf)
  modify fun acknowledger =>
    { acknowledger with inputBufCksum := acknowledger.inputBufCksum + type.toUInt32 }

/-- A packet is acknowledged, unless it is an acknowledgement. -/
def acknowledge : SketchM Acknowledger Unit := do
  perform (.index .read .outputBuf 0 maxMessageLen)
  let type := (← get).receiver.outputBuf.get 0
  if type ≠ MsgType.ack.code then sendAck type

/-- A receive half that acknowledges. -/
def receive (outlets : UInt8 → List Port) : SketchM Acknowledger Unit := do
  match ← perform (.recv (← get).receiver.outputBufLen) with
  | none => pure ()
  | some packet =>
      (handlePacketOrAck outlets packet).focus receiver
        fun receiver acknowledger => { acknowledger with receiver := receiver }
      acknowledge

end Acknowledger

/-- The globals of the base in this build. -/
structure AckBase where
  base : Base := {}
  ackBuf : List UInt8 := [MsgType.ack.code, 0]
  deriving DecidableEq

namespace AckBase

def acknowledger (sketch : AckBase) : Acknowledger :=
  ⟨sketch.base.receiver, sketch.ackBuf, sketch.base.transmitter.inputBufCksum⟩

def withAcknowledger (acknowledger : Acknowledger) (sketch : AckBase) : AckBase where
  base := {
    transmitter := { sketch.base.transmitter with inputBufCksum := acknowledger.inputBufCksum }
    receiver := acknowledger.receiver }
  ackBuf := acknowledger.ackBuf

def loop : SketchM AckBase Unit := do
  Base.forwarder.forward.focus (·.base.transmitter) fun transmitter sketch =>
    { sketch with base := { sketch.base with transmitter := transmitter } }
  (Acknowledger.receive Base.outlets).focus acknowledger withAcknowledger

/-- `loop()` called a number of times. -/
def loops : Nat → SketchM AckBase Unit
  | 0 => pure ()
  | iterations + 1 => do
      loop
      loops iterations

end AckBase

/-- The globals of the endpoint in this build. -/
structure AckEndpoint where
  endpoint : Endpoint := {}
  ackBuf : List UInt8 := [MsgType.ack.code, 0]
  deriving DecidableEq

namespace AckEndpoint

def withEndpoint (endpoint : Endpoint) (sketch : AckEndpoint) : AckEndpoint :=
  { sketch with endpoint := endpoint }

def acknowledger (sketch : AckEndpoint) : Acknowledger :=
  ⟨sketch.endpoint.receiver, sketch.ackBuf, sketch.endpoint.inputBufCksum⟩

def withAcknowledger (acknowledger : Acknowledger) (sketch : AckEndpoint) : AckEndpoint where
  endpoint := { sketch.endpoint with
    receiver := acknowledger.receiver
    inputBufCksum := acknowledger.inputBufCksum }
  ackBuf := acknowledger.ackBuf

def loop : SketchM AckEndpoint Unit := do
  Endpoint.blinkLed.focus endpoint withEndpoint
  Endpoint.forwardSeaphox.focus endpoint withEndpoint
  Endpoint.forwardProcv.focus endpoint withEndpoint
  (Acknowledger.receive Endpoint.outlets).focus acknowledger withAcknowledger

/-- `loop()` called a number of times. -/
def loops : Nat → SketchM AckEndpoint Unit
  | 0 => pure ()
  | iterations + 1 => do
      loop
      loops iterations

end AckEndpoint

/-! ## The ledger -/

/-- An acknowledgement, as both sketches tell it. -/
def isAck (packet : List UInt8) : Bool := hasType .ack packet

/-- The acknowledgement of a packet. -/
def ackOf (packet : List UInt8) : List UInt8 := [MsgType.ack.code, packet.headD 0]

/-- What a run has to do with acknowledgements. -/
structure Ledger where
  /-- Acknowledgements sent. -/
  acks : List (List UInt8) := []
  /-- Acknowledgements that packets heard have called for. -/
  due : List (List UInt8) := []
  /-- Acknowledgements heard. -/
  heard : List (List UInt8) := []
  /-- Acknowledgements added to the checksum. -/
  counted : List (List UInt8) := []

namespace Ledger

def observe (ledger : Ledger) : (action : Action) → action.Answer → Ledger
  | .send packet, _ =>
      if isAck packet then { ledger with acks := ledger.acks ++ [packet] } else ledger
  | .recv _, some packet =>
      if isAck packet then { ledger with heard := ledger.heard ++ [packet] }
      else { ledger with due := ledger.due ++ [ackOf packet] }
  | .received packet, _ =>
      if isAck packet then { ledger with counted := ledger.counted ++ [packet] } else ledger
  | _, _ => ledger

/-- All acknowledgements have been sent but the ones given. -/
def Owes (ledger : Ledger) (rest : List (List UInt8)) : Prop := ledger.due = ledger.acks ++ rest

/-- By how much the checksums exceed those of the default build, and what is owed. -/
structure Exceeds (ledger : Ledger) (input output plainInput plainOutput : UInt32) : Prop where
  typed : input = plainInput + cksum (payloads ledger.acks)
  counted : output = plainOutput + cksum (ledger.counted.flatMap heardPayload)
  known : ledger.counted <+: ledger.heard
  owes : ∃ rest, ledger.Owes rest ∧ rest.length ≤ 1

end Ledger

/-- The shade of the default build: what has to do with acknowledgements does not fall
into it.  Marks of a read may, or may not. -/
abbrev ackShade {State Small : Type} (relates : Ledger → State → Small → Prop) :
    Shade State Small Action Action.Answer Ledger where
  hides
    | .send packet => isAck packet = true
    | .received packet => isAck packet = true
    | .index access _ _ _ => access = .read
    | _ => False
  shows
    | .send packet => packet ≠ [] ∧ isAck packet = false
    | .received packet => isAck packet = false
    | _ => True
  allow
    | .recv _, packet => ∀ bytes ∈ packet, bytes ≠ []
    | _, _ => True
  reply
    | .recv _, packet => packet.filter fun bytes => !isAck bytes
    | _, answer => answer
  record := Ledger.observe
  relates := relates

end Roam.Bridge
