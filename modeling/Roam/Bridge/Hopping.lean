import Roam.Bridge.Relay

/-!
# The bridge with frequency hopping

The two sketches built with `DEBUG_ENABLE_DSSS`.  The radio is told over and over to
follow its frequency sequence.  A base that is to join the endpoint sends a join on one
channel after the other, until an endpoint that has heard one answers; then both begin
the sequence anew.
-/

namespace Roam.Bridge

open Roam.Data Roam.Interaction

/-- What a sketch of this build does outside its globals: what one of the default build
does, or a call of `rf95.advanceFrequencySequence`, which answers whether the radio has
changed its channel. -/
inductive HopAction where
  | plain (action : Action)
  | advanceFrequencySequence (reset : Bool) (intervalMillis : UInt32)
  deriving DecidableEq, Repr

abbrev HopAction.Answer : HopAction → Type
  | .plain action => action.Answer
  | .advanceFrequencySequence _ _ => Bool

abbrev HopM (State Value : Type) : Type := Program State HopAction HopAction.Answer Value

/-- `FREQ_CHANGE_INTERVAL_MS`. -/
def freqChangeIntervalMillis : UInt32 := 1200

def advanceFrequencySequence {State : Type} (reset : Bool) (intervalMillis : UInt32) :
    HopM State Bool :=
  Program.ask (HopAction.advanceFrequencySequence reset intervalMillis)

/-- Code that both builds share. -/
def shared {State Value : Type} (program : SketchM State Value) : HopM State Value :=
  program.through HopAction.plain

/-! ## A packet that was received -/

/-- The handling of a packet up to the switch on its type. -/
def openPacket (packet : List UInt8) : SketchM Receiver UInt8 := do
  modify (·.load packet)
  perform (.index .read .outputBuf 0 maxMessageLen)
  perform (.index .read .msgTypeNames ((← get).outputBuf.get 0).toNat numMsgTypes)
  perform (.index .read .outputBuf 0 maxMessageLen)
  perform (.index .read .outputBuf 0 maxMessageLen)
  return (← get).outputBuf.get 0

/-- The handling of a packet behind the switch on its type. -/
def closePacket (packet : List UInt8) : SketchM Receiver Unit := do
  addPayload packet
  modify fun receiver => { receiver with outputBufLen := 255 }

/-! ## The base -/

/-- The globals of the base in this build. -/
structure HopBase extends Base where
  joined : Bool := false
  joining : Bool := false
  joinTxComplete : Bool := false
  deriving DecidableEq

namespace HopBase

def onTransmitter {Value : Type} (program : SketchM Transmitter Value) : HopM HopBase Value :=
  (shared program).focus (·.transmitter) fun transmitter sketch =>
    { sketch with transmitter := transmitter }

def onReceiver {Value : Type} (program : SketchM Receiver Value) : HopM HopBase Value :=
  (shared program).focus (·.receiver) fun receiver sketch => { sketch with receiver := receiver }

/-- Before a base has joined, its radio stays on a channel a third of the time. -/
def followSequence : HopM HopBase Unit := do
  if (← get).joined = false then
    let changed ← advanceFrequencySequence false (freqChangeIntervalMillis / 3)
    modify fun sketch => { sketch with joinTxComplete := !changed }
  else
    let _ ← advanceFrequencySequence false freqChangeIntervalMillis

/-- The command to join. -/
def joinCommand : UInt8 := 64

/-- The switch of the read loop, with a case more than in the default build. -/
def readCharacter (inputChar : UInt8) : HopM HopBase Unit :=
  if inputChar = joinCommand then
    modify fun sketch => { sketch with
      transmitter := { sketch.transmitter with sensor := .none, done := true }
      joining := true
      joined := false }
  else onTransmitter (Base.forwarder.readCharacter inputChar)

/-- The read loop. -/
def readCharacters : List UInt8 → HopM HopBase Unit
  | [] => pure ()
  | inputChar :: rest => do
      if (← get).transmitter.done = false then
        shared (perform (.read .usb inputChar))
        onTransmitter (modify fun transmitter => { transmitter with unread := rest })
        readCharacter inputChar
        readCharacters rest

/-- Without a sensor, what was typed is dropped, and a join goes out in its place. -/
def prepareJoin (sketch : HopBase) : HopBase :=
  if sketch.transmitter.sensor = .none then
    { sketch with
      transmitter := { sketch.transmitter with bufIdx := 1 }
      joinTxComplete := true }
  else sketch

/-- The buffer goes out behind its type byte. -/
def sendBuffer : SketchM Transmitter Unit := do
  perform (.index .typeByte .inputBuf 0 maxMessageLen)
  modify fun transmitter => { transmitter with
    buf := transmitter.buf.set 0 (Base.msgType transmitter.sensor).code }
  perform (.index .read .inputBuf 0 maxMessageLen)
  perform (.index .read .msgTypeNames ((← get).buf.get 0).toNat numMsgTypes)
  perform (.index .read .inputBuf 0 maxMessageLen)
  perform .waitCAD
  let transmitter ← get
  perform (.send (transmitter.buf.upTo transmitter.bufIdx.toNat))
  modify fun transmitter => { transmitter with bufIdx := 1 }
  perform .waitPacketSent

/-- A finished line is sent, or a join on a channel that has just been reached. -/
def sendLine : HopM HopBase Unit := do
  let sketch ← get
  if (1 < sketch.transmitter.bufIdx ∧ sketch.transmitter.done = true) ∨
      (sketch.joining = true ∧ sketch.joinTxComplete = false) then
    modify prepareJoin
    onTransmitter sendBuffer

/-- What the transmit half of the base does in this build. -/
def forward : HopM HopBase Unit := do
  onTransmitter do
    Base.forwarder.arrive
    modify fun transmitter =>
      if transmitter.unread = [] then transmitter else { transmitter with done := false }
    Base.forwarder.arrive
  readCharacters (← get).transmitter.unread
  sendLine

/-- Of an answer to a join nothing is printed: the frequency sequence begins anew. -/
def handlePacket (packet : List UInt8) : HopM HopBase Unit := do
  let type ← onReceiver (openPacket packet)
  if type = MsgType.dataRsp.code then
    let _ ← advanceFrequencySequence true freqChangeIntervalMillis
    modify fun sketch => { sketch with joined := true, joining := false }
  else onReceiver (printPayload (Base.outlets type))
  onReceiver (closePacket packet)

def receive : HopM HopBase Unit := do
  match ← shared (perform (.recv (← get).receiver.outputBufLen)) with
  | none => pure ()
  | some packet => handlePacket packet

def loop : HopM HopBase Unit := do
  followSequence
  forward
  receive

/-- `loop()` called a number of times. -/
def loops : Nat → HopM HopBase Unit
  | 0 => pure ()
  | iterations + 1 => do
      loop
      loops iterations

end HopBase

/-! ## The endpoint -/

namespace HopEndpoint

def onReceiver {Value : Type} (program : SketchM Receiver Value) : HopM Endpoint Value :=
  (shared program).focus Endpoint.receiver fun receiver endpoint =>
    { endpoint with receiver := receiver }

/-- The answer to a join, out of `rspBuf`; then the frequency sequence begins anew. -/
def answerJoin : HopM Endpoint Unit := do
  shared (perform (.send [MsgType.dataRsp.code]))
  shared (perform .waitPacketSent)
  let _ ← advanceFrequencySequence true freqChangeIntervalMillis

def handlePacket (packet : List UInt8) : HopM Endpoint Unit := do
  let type ← onReceiver (openPacket packet)
  if type = MsgType.dataReq.code then answerJoin
  else onReceiver (printPayload (Endpoint.outlets type))
  onReceiver (closePacket packet)

def receive : HopM Endpoint Unit := do
  match ← shared (perform (.recv (← get).receiver.outputBufLen)) with
  | none => pure ()
  | some packet => handlePacket packet

def loop : HopM Endpoint Unit := do
  shared Endpoint.blinkLed
  let _ ← advanceFrequencySequence false freqChangeIntervalMillis
  shared Endpoint.forwardSeaphox
  shared Endpoint.forwardProcv
  receive

/-- `loop()` called a number of times. -/
def loops : Nat → HopM Endpoint Unit
  | 0 => pure ()
  | iterations + 1 => do
      loop
      loops iterations

end HopEndpoint

end Roam.Bridge
