import Roam.Data.Buffer
import Roam.Data.Routes
import Roam.Interaction.Host

/-!
# The sensor bridge

`simpleSensorCommsEchoRadio_Base` sends typed lines to the sensors behind
`simpleSensorCommsEchoRadio_Endpoint`, which sends back the lines its sensors
write.  Each `loop()` is made of transmit halves, one for each port that is read,
and one receive half.  Both sketches are modelled in their default build, without
DSSS and ACK, on the target where `char` is unsigned.
-/

namespace Roam.Bridge

open Roam.Data Roam.Interaction

/-- `RH_RF95_MAX_MESSAGE_LEN`, as both sketches define it. -/
def maxMessageLen : Nat := 255

/-- `sensors_t`, without its count. -/
inductive Sensor where
  | none
  | proCV
  | seapHOx
  deriving DecidableEq, Repr

/-- `msgType_t` of the lightweight protocol, without its count. -/
inductive MsgType where
  | undefined
  | dataReq
  | dataRsp
  | linkChangeReq
  | linkChangeRsp
  | wakeRequest
  | sleepRequest
  | heartbeatReq
  | heartbeatRsp
  | procvDataReq
  | procvDataRsp
  | seaphoxDataReq
  | seaphoxDataRsp
  | ack
  deriving DecidableEq, Repr

/-- `NUM_msgTypes`, the number of entries of `msgTypeNames`. -/
def numMsgTypes : Nat := 14

def MsgType.code : MsgType → UInt8
  | .undefined => 0
  | .dataReq => 1
  | .dataRsp => 2
  | .linkChangeReq => 3
  | .linkChangeRsp => 4
  | .wakeRequest => 5
  | .sleepRequest => 6
  | .heartbeatReq => 7
  | .heartbeatRsp => 8
  | .procvDataReq => 9
  | .procvDataRsp => 10
  | .seaphoxDataReq => 11
  | .seaphoxDataRsp => 12
  | .ack => 13

inductive Port where
  | usb
  | seaphox
  | procv
  deriving DecidableEq, Repr

inductive ArrayName where
  | inputBuf
  | seaphoxBuf
  | procvBuf
  | outputBuf
  | msgTypeNames
  deriving DecidableEq, Repr

/-- What an array is indexed for: a read, the write of a character, or the write
of the type byte. -/
inductive Access where
  | read
  | character
  | typeByte
  deriving DecidableEq, Repr

/-- What a sketch does outside its globals.  `arrive` lets characters come in at a
port, and `read` takes the next one off it.  Two actions only mark the run: an
array is indexed, and a packet is added to the checksum. -/
inductive Action where
  | arrive (port : Port)
  | read (port : Port) (inputChar : UInt8)
  | index (access : Access) (array : ArrayName) (position size : Nat)
  | waitCAD
  | send (packet : List UInt8)
  | waitPacketSent
  | recv (capacity : UInt8)
  | print (port : Port) (byte : UInt8)
  | received (packet : List UInt8)
  | millis
  | digitalWrite (pin : UInt8) (high : Bool)
  deriving DecidableEq, Repr

/-- The answer each action waits for.  A `recv` that finds no packet returns false. -/
abbrev Action.Answer : Action → Type
  | .arrive _ => List UInt8
  | .recv _ => Option (List UInt8)
  | .millis => UInt32
  | _ => Unit

abbrev SketchM (State Value : Type) : Type := Program State Action Action.Answer Value

def perform {State : Type} (action : Action) : SketchM State action.Answer := Program.ask action

/-- The sum of some bytes, modulo 2^32. -/
def cksum (bytes : List UInt8) : UInt32 := bytes.foldr (fun byte sum => byte.toUInt32 + sum) 0

/-! ## Transmit half -/

/-- A line on its way into a packet, with the characters its port holds unread. -/
structure Line where
  buf : Buffer UInt8 maxMessageLen := Buffer.filled maxMessageLen 0
  bufIdx : UInt8 := 1
  done : Bool := true
  unread : List UInt8 := []
  deriving DecidableEq

/-- What a transmit half works on: a line, the sensor at the other end and the
checksum of the sketch. -/
structure Transmitter extends Line where
  sensor : Sensor
  inputBufCksum : UInt32 := 0
  deriving DecidableEq

/-- What the transmit halves differ in: the port and the buffer, the switch on a
character, and the type of the packets. -/
structure Forwarder where
  port : Port
  array : ArrayName
  switch : UInt8 → Stroke Sensor UInt8
  msgType : Sensor → MsgType

namespace Transmitter

/-- `inputBuf[inputBufIdx] = byte`, the checksum and the index that follow it. -/
def push (transmitter : Transmitter) (byte : UInt8) : Transmitter :=
  { transmitter with
    buf := transmitter.buf.set transmitter.bufIdx.toNat byte
    inputBufCksum := transmitter.inputBufCksum + byte.toUInt32
    bufIdx := transmitter.bufIdx + 1 }

end Transmitter

namespace Forwarder

variable (forwarder : Forwarder)

/-- What comes in up to the next look at the port. -/
def arrive : SketchM Transmitter Unit := do
  let characters ← perform (.arrive forwarder.port)
  modify fun transmitter => { transmitter with unread := transmitter.unread ++ characters }

/-- The switch of the read loop. -/
def readCharacter (inputChar : UInt8) : SketchM Transmitter Unit :=
  match forwarder.switch inputChar with
  | .ends => modify fun transmitter => { transmitter with done := true }
  | .skips => pure ()
  | .selects sensor => modify fun transmitter => { transmitter with sensor := sensor }
  | .keeps byte => do
      perform (.index .character forwarder.array (← get).bufIdx.toNat maxMessageLen)
      modify (·.push byte)

/-- The read loop, over the characters of the port: it stops behind a terminator. -/
def readCharacters : List UInt8 → SketchM Transmitter Unit
  | [] => pure ()
  | inputChar :: rest => do
      if (← get).done = false then
        perform (.read forwarder.port inputChar)
        modify fun transmitter => { transmitter with unread := rest }
        forwarder.readCharacter inputChar
        readCharacters rest

/-- A finished line is sent behind its type byte. -/
def sendLine : SketchM Transmitter Unit := do
  let transmitter ← get
  if 1 < transmitter.bufIdx ∧ transmitter.done = true then
    perform (.index .typeByte forwarder.array 0 maxMessageLen)
    modify fun transmitter => { transmitter with
      buf := transmitter.buf.set 0 (forwarder.msgType transmitter.sensor).code }
    perform (.index .read forwarder.array 0 maxMessageLen)
    perform (.index .read .msgTypeNames ((← get).buf.get 0).toNat numMsgTypes)
    perform (.index .read forwarder.array 0 maxMessageLen)
    perform .waitCAD
    let transmitter ← get
    perform (.send (transmitter.buf.upTo transmitter.bufIdx.toNat))
    modify fun transmitter => { transmitter with bufIdx := 1 }
    perform .waitPacketSent

/-- A transmit half.  Characters may arrive before the first look at the port and
while the read loop runs. -/
def forward : SketchM Transmitter Unit := do
  forwarder.arrive
  modify fun transmitter =>
    if transmitter.unread = [] then transmitter else { transmitter with done := false }
  forwarder.arrive
  forwarder.readCharacters (← get).unread
  forwarder.sendLine

end Forwarder

/-! ## Receive half -/

structure Receiver where
  outputBuf : Buffer UInt8 maxMessageLen := Buffer.filled maxMessageLen 0
  outputBufLen : UInt8 := 255
  outputBufCksum : UInt32 := 0
  deriving DecidableEq

namespace Receiver

/-- What `recv` leaves behind when it delivers a packet. -/
def load (receiver : Receiver) (packet : List UInt8) : Receiver :=
  let kept := packet.take receiver.outputBufLen.toNat
  { receiver with
    outputBuf := receiver.outputBuf.load kept
    outputBufLen := UInt8.ofNat kept.length }

/-- The positions behind the type byte. -/
def positions (receiver : Receiver) : List Nat := List.range' 1 (receiver.outputBufLen.toNat - 1)

/-- The bytes behind the type byte. -/
def payload (receiver : Receiver) : List UInt8 := receiver.positions.map receiver.outputBuf.get

end Receiver

/-- Every byte behind the type byte goes to the listed ports. -/
def printPayload (outlets : List Port) : SketchM Receiver Unit := do
  let receiver ← get
  receiver.positions.forM fun i => outlets.forM fun port => do
    perform (.index .read .outputBuf i maxMessageLen)
    perform (.print port (receiver.outputBuf.get i))

/-- The bytes behind the type byte are read one by one and added up. -/
def addPayload (packet : List UInt8) : SketchM Receiver Unit := do
  let receiver ← get
  receiver.positions.forM fun i => perform (.index .read .outputBuf i maxMessageLen)
  perform (.received packet)
  modify fun receiver =>
    { receiver with outputBufCksum := receiver.outputBufCksum + cksum receiver.payload }

/-- A packet that was received: the names and values printed from its first byte,
the switch on it, and the checksum. -/
def handlePacket (outlets : UInt8 → List Port) (packet : List UInt8) : SketchM Receiver Unit := do
  modify (·.load packet)
  perform (.index .read .outputBuf 0 maxMessageLen)
  perform (.index .read .msgTypeNames ((← get).outputBuf.get 0).toNat numMsgTypes)
  perform (.index .read .outputBuf 0 maxMessageLen)
  perform (.index .read .outputBuf 0 maxMessageLen)
  printPayload (outlets ((← get).outputBuf.get 0))
  addPayload packet
  modify fun receiver => { receiver with outputBufLen := 255 }

/-- A receive half; the switch says for each type where the payload is printed. -/
def receive (outlets : UInt8 → List Port) : SketchM Receiver Unit := do
  match ← perform (.recv (← get).outputBufLen) with
  | none => pure ()
  | some packet => handlePacket outlets packet

/-! ## The base -/

/-- The globals of the base; `sendTo` is the sensor of its transmitter. -/
structure Base where
  transmitter : Transmitter := { sensor := .none }
  receiver : Receiver := {}
  deriving DecidableEq

namespace Base

/-- The switch of the base on a typed character. -/
def switch (inputChar : UInt8) : Stroke Sensor UInt8 :=
  if inputChar = 10 ∨ inputChar = 13 then .ends
  else if inputChar = 32 ∨ inputChar = 42 then .skips
  else if inputChar = 36 then .selects .seapHOx
  else if inputChar = 37 then .selects .proCV
  else if inputChar = 38 then .keeps 13
  else if inputChar = 35 then .keeps 27
  else .keeps inputChar

def msgType : Sensor → MsgType
  | .proCV => .procvDataReq
  | .seapHOx => .seaphoxDataReq
  | .none => .dataReq

def forwarder : Forwarder where
  port := .usb
  array := .inputBuf
  switch := switch
  msgType := msgType

/-- The base prints every payload to its user. -/
def outlets (_ : UInt8) : List Port := [.usb]

def loop : SketchM Base Unit := do
  forwarder.forward.focus transmitter fun transmitter base => { base with transmitter := transmitter }
  (receive outlets).focus receiver fun receiver base => { base with receiver := receiver }

/-- `loop()` called a number of times. -/
def loops : Nat → SketchM Base Unit
  | 0 => pure ()
  | iterations + 1 => do
      loop
      loops iterations

end Base

/-! ## The endpoint -/

structure Endpoint where
  seaphox : Line := {}
  procv : Line := {}
  inputBufCksum : UInt32 := 0
  receiver : Receiver := {}
  ledMillis : UInt32 := 0
  ledOn : Bool := false
  deriving DecidableEq

namespace Endpoint

/-- `LED_PIN`. -/
def ledPin : UInt8 := 13

/-- The switch of `forwardUartToRadio` on a character of a sensor. -/
def switch (inputChar : UInt8) : Stroke Sensor UInt8 :=
  if inputChar = 10 ∨ inputChar = 13 then .ends
  else if inputChar = 32 ∨ inputChar = 42 then .skips
  else .keeps inputChar

def msgType : Sensor → MsgType
  | .seapHOx => .seaphoxDataRsp
  | .proCV => .procvDataRsp
  | .none => .dataRsp

def forwarder (port : Port) (array : ArrayName) : Forwarder where
  port := port
  array := array
  switch := switch
  msgType := msgType

/-- The variables handed to `forwardUartToRadio` for the SeapHOx. -/
def seaphoxPart (endpoint : Endpoint) : Transmitter :=
  { endpoint.seaphox with sensor := .seapHOx, inputBufCksum := endpoint.inputBufCksum }

def withSeaphox (transmitter : Transmitter) (endpoint : Endpoint) : Endpoint :=
  { endpoint with seaphox := transmitter.toLine, inputBufCksum := transmitter.inputBufCksum }

/-- The variables handed to `forwardUartToRadio` for the proCV. -/
def procvPart (endpoint : Endpoint) : Transmitter :=
  { endpoint.procv with sensor := .proCV, inputBufCksum := endpoint.inputBufCksum }

def withProcv (transmitter : Transmitter) (endpoint : Endpoint) : Endpoint :=
  { endpoint with procv := transmitter.toLine, inputBufCksum := transmitter.inputBufCksum }

/-- The endpoint prints the payload of a request to its sensor as well. -/
def outlets (type : UInt8) : List Port :=
  if type = MsgType.seaphoxDataReq.code then [.usb, .seaphox]
  else if type = MsgType.procvDataReq.code then [.usb, .procv]
  else if type = MsgType.dataReq.code then []
  else [.usb]

def blinkLed : SketchM Endpoint Unit := do
  let now ← perform .millis
  if 2000 < now - (← get).ledMillis then
    perform (.digitalWrite ledPin (← get).ledOn)
    modify fun endpoint => { endpoint with ledOn := !endpoint.ledOn }
    let now ← perform .millis
    modify fun endpoint => { endpoint with ledMillis := now }

def forwardSeaphox : SketchM Endpoint Unit :=
  (forwarder .seaphox .seaphoxBuf).forward.focus seaphoxPart withSeaphox

def forwardProcv : SketchM Endpoint Unit :=
  (forwarder .procv .procvBuf).forward.focus procvPart withProcv

def loop : SketchM Endpoint Unit := do
  blinkLed
  forwardSeaphox
  forwardProcv
  (receive outlets).focus receiver fun receiver endpoint => { endpoint with receiver := receiver }

/-- `loop()` called a number of times. -/
def loops : Nat → SketchM Endpoint Unit
  | 0 => pure ()
  | iterations + 1 => do
      loop
      loops iterations

end Endpoint

/-! ## Surroundings given by functions -/

/-- What arrives, is received and is told of the time, by the position in the run. -/
structure Surroundings where
  arrivals : Nat → Port → List UInt8 := fun _ _ => []
  packets : Nat → Option (List UInt8) := fun _ => none
  clock : Nat → UInt32 := fun _ => 0

namespace Surroundings

def answer (surroundings : Surroundings) (position : Nat) : (action : Action) → action.Answer
  | .arrive port => surroundings.arrivals position port
  | .recv _ => surroundings.packets position
  | .millis => surroundings.clock position
  | .read _ _ => ()
  | .index _ _ _ _ => ()
  | .waitCAD => ()
  | .send _ => ()
  | .waitPacketSent => ()
  | .print _ _ => ()
  | .received _ => ()
  | .digitalWrite _ _ => ()

/-- The run of a program to its end, and the state it ends in. -/
def run {State : Type} (surroundings : Surroundings) (program : SketchM State Unit) (start : State) :
    List (Step State Action Action.Answer) × State × Unit :=
  Resumption.play surroundings.answer 0 (program start)

theorem run_runs {State : Type} (surroundings : Surroundings) (program : SketchM State Unit)
    (start : State) :
    Resumption.Runs (program start) (surroundings.run program start).1
      (.done (surroundings.run program start).2.1 ()) :=
  Resumption.play_runs _ _ _

end Surroundings

end Roam.Bridge
