import Mathlib.Data.Rat.Defs
import Roam.Interaction.Contract
import Roam.Node.Message
import Roam.Node.SimpleTimer

/-!
# The node object and its surroundings

`LoraPoint2Point` holds the members of the class `loraPoint2Point`.  An `Action`
is everything its code does that leaves the object: calls into RadioHead and the
Arduino core, and the user's callbacks.  Three further actions do nothing but
mark the run: entering a procedure, leaving it, and indexing an array.  Text
printed to the USB port is left out; array reads made for printing are kept.
-/

namespace Roam.Node

open Roam.Interaction

/-- Procedures whose activation is marked in a run. -/
inductive Procedure where
  | linkChangeReq
  | linkChangeReqTimeout
  | serviceLinkChangeReq
  | serviceLinkChangeRsp
  | serviceHeartbeatReq
  | serviceHeartbeatRsp
  deriving DecidableEq, Repr

/-- Arrays that are indexed by computed values. -/
inductive ArrayName where
  | spreadingFactorTable
  | signalBandwidthTable
  | frequencyChannelTable
  | rxMsgBuf
  | txMsgBuf
  | serialCmdBuf
  | argument
  deriving DecidableEq, Repr

/-- What one `recvfromAckTimeout` call reads from the radio: nothing, one frame
that the reliable datagram layer keeps to itself (an acknowledgement, or a
retransmission of an id already seen), or one message. -/
inductive Reception where
  | nothing
  | filtered (payload : List UInt8)
  | message (payload : List UInt8) (srcAddr destAddr msgId flags : UInt8)
  deriving DecidableEq, Repr

inductive Action where
  | enter (procedure : Procedure)
  | leave (procedure : Procedure)
  | index (array : ArrayName) (position size : Nat)
  | millis
  | delay (milliseconds : Nat)
  | digitalWrite (pin : UInt8) (high : Bool)
  | rf95Init
  | rhReliableDatagramInit
  | rf95SetSpreadingFactor (spreadingFactor : UInt8)
  | rf95SetSignalBandwidth (hertz : UInt32)
  | rf95SetFrequency (tenthMegahertz : UInt16)
  | rf95SetTxPower (txPower : Int8) (useRFO : Bool)
  | rf95SetModeIdle
  | rf95WaitCAD
  | rf95LastSNR
  | sendtoWait (payload : List UInt8) (destAddress : UInt8)
  | recvfromAckTimeout (capacity : UInt8) (timeout : Nat)
  | txInd (payload : List UInt8) (destAddr : UInt8) (ack : Bool)
  | rxInd (rxMsg : Message)
  | linkChangeInd (settings : Settings)
  | uninitialised
  | halt

namespace Action

/-- The answer each action waits for.  `halt` is the endless loop of the source. -/
abbrev Answer : Action → Type
  | .millis => UInt32
  | .rf95Init => Bool
  | .rhReliableDatagramInit => Bool
  | .rf95SetFrequency _ => Bool
  | .rf95LastSNR => Int
  | .sendtoWait _ _ => Bool
  | .recvfromAckTimeout _ _ => Reception
  | .uninitialised => UInt8
  | .halt => Empty
  | _ => Unit

end Action

/-- Members of `loraPoint2Point`.  `current` and `previous` collect the four
`current*` and the four `previous*` settings. -/
structure LoraPoint2Point where
  ackSnr : Int := 0
  serialCommandMode : Bool := false
  rfm95Rst : UInt8 := 4
  thisAddress : UInt8 := 0
  current : Settings := Settings.default
  previous : Settings := Settings.default
  txMsg : Message := {}
  rxMsg : Message := { bufLen := 128 }
  serialCmd : Message := {}
  currentMillis : UInt32 := 0
  packetErrorFraction : ℚ := 0
  packetCount : UInt32 := 0
  packetErrorCount : UInt32 := 0
  packetErrorMovingAvgPeriod : UInt16 := 6
  linkChangeTimeoutTimer : SimpleTimer :=
    { timeoutMillis := linkChangeTimeoutMillis, repeating := false }
  heartbeatTimer : SimpleTimer :=
    { timeoutMillis := heartbeatTimeoutMillis, repeating := true }
  deriving DecidableEq

/-- Code of the node: a program over its members and its surroundings. -/
abbrev NodeM (Value : Type) : Type :=
  Program LoraPoint2Point Action Action.Answer Value

/-- A node in execution. -/
abbrev NodeRun (Value : Type) : Type :=
  Resumption LoraPoint2Point Action Action.Answer Value

/-- One step of a node's run. -/
abbrev NodeStep : Type := Step LoraPoint2Point Action Action.Answer

/-- The bytes of the frame that was read. -/
def Reception.payload : Reception → List UInt8
  | .nothing => []
  | .filtered payload => payload
  | .message payload _ _ _ _ => payload

/-- A frame read at this step, if there is one, is no longer than a frame can be. -/
def frameFits : NodeStep → Bool
  | ⟨_, .recvfromAckTimeout _ _, reception⟩ =>
      (Reception.payload reception).length ≤ maxMessageLen
  | _ => true

/-- Do one action and take its answer. -/
def perform (action : Action) : NodeM (Action.Answer action) :=
  Program.ask action

@[simp]
theorem perform_apply (action : Action) (node : LoraPoint2Point) :
    perform action node = .ask node action fun answer => .done node answer := rfl

/-- An `if` without an `else`. -/
def whenever (condition : Bool) (body : NodeM Unit) : NodeM Unit :=
  if condition then body else pure ()

/-- Run a procedure body between its two marks. -/
def within (procedure : Procedure) (body : NodeM Unit) : NodeM Unit := do
  perform (.enter procedure)
  body
  perform (.leave procedure)

/-- Read a constant table; an index past its end reads the default. -/
def lookup {α : Type} [Inhabited α] (array : ArrayName) (table : List α)
    (position : Nat) : NodeM α := do
  perform (.index array position table.length)
  return table.getD position default

end Roam.Node
