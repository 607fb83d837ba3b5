import Roam.Node.Setters

/-!
# Transmission, timers, link changes and reception

The procedures are listed callees first: printing and transmission, heartbeats
and the rollback, `serviceTimers`, the two ends of a link change, and the
receive dispatcher.
-/

namespace Roam.Node

/-- A byte array handed to a procedure, with the array it lives in. -/
structure Span where
  array : ArrayName
  cells : List UInt8

/-! ## Transmission -/

/-- `printBuffer(buf + start, bufLen, ascii)`: only the reads matter here, and
`size` is the number of bytes the array offers. -/
def printBufferAs (array : ArrayName) (size start : Nat) (bufLen : UInt8)
    (ascii : Bool) : NodeM Unit :=
  (List.range bufLen.toNat).forM fun i => do
    perform (.index array (start + i) size)
    whenever (!ascii) (perform (.index array (start + i) size))

/-- `printBuffer(buf, bufLen)`: the first byte selects the format of the rest.
The length of the rest is again one byte. -/
def printBuffer (buf : Span) (bufLen : UInt8) : NodeM Unit := do
  perform (.index buf.array 0 bufLen.toNat)
  match MsgType.ofCode? (buf.cells.getD 0 0) with
  | some .dataReq => printBufferAs buf.array bufLen.toNat 1 (bufLen - 1) true
  | some .dataRsp => printBufferAs buf.array bufLen.toNat 1 (bufLen - 1) true
  | _ => printBufferAs buf.array bufLen.toNat 1 (bufLen - 1) false

/-- Send and count the outcome; the answer is the local `acknowleged`.  A
broadcast is never acknowledged and never counted as a success. -/
def sendAndCount (payload : List UInt8) (destAddress : UInt8) : NodeM Bool := do
  if ← sendtoWait payload destAddress then
    if destAddress ≠ broadcastAddress then
      let snr ← lastSNR
      modify fun node => { node with ackSnr := snr }
      modify (·.updatePacketErrorFraction true)
      return true
    else
      return false
  else
    modify (·.updatePacketErrorFraction false)
    return false

def serviceTxSpan (destAddress : UInt8) (buf : Span) (bufLen : UInt8)
    (ascii : Bool) : NodeM Unit := do
  if 0 < bufLen then
    let payload := buf.cells.take bufLen.toNat
    printBufferAs buf.array bufLen.toNat 1 (bufLen - 1) ascii
    perform .rf95WaitCAD
    let acknowleged ← sendAndCount payload destAddress
    perform (.txInd payload destAddress acknowleged)

/-- `serviceTx(destAddress)`. -/
def serviceTx (destAddress : UInt8) : NodeM Unit := do
  let node ← get
  serviceTxSpan destAddress ⟨.txMsgBuf, node.txMsg.buf.cells⟩ node.txMsg.bufLen true
  modify fun node => { node with txMsg.bufLen := 0 }

/-! ## Heartbeats -/

def heartbeatReq : NodeM Unit := do
  let node ← get
  serviceTxSpan broadcastAddress
    ⟨.argument, [MsgType.heartbeatReq.code, node.thisAddress]⟩ 2 false

def serviceHeartbeatReq (srcAddr : UInt8) : NodeM Unit :=
  within .serviceHeartbeatReq do
    perform (.delay 50)
    let node ← get
    serviceTxSpan srcAddr
      ⟨.argument, [MsgType.heartbeatRsp.code, node.thisAddress]⟩ 2 false

def serviceHeartbeatRsp (_srcAddr : UInt8) : NodeM Unit :=
  within .serviceHeartbeatRsp (pure ())

def startHeartbeats : NodeM Unit :=
  modify fun node => { node with heartbeatTimer := node.heartbeatTimer.start }

def stopHeartbeats : NodeM Unit :=
  modify fun node => { node with heartbeatTimer := node.heartbeatTimer.pause }

/-! ## Timers -/

/-- Apply an operation of the rollback timer. -/
def onLinkTimer (change : SimpleTimer → SimpleTimer) : NodeM Unit :=
  modify fun node =>
    { node with linkChangeTimeoutTimer := change node.linkChangeTimeoutTimer }

/-- Apply an operation of the heartbeat timer. -/
def onHeartbeatTimer (change : SimpleTimer → SimpleTimer) : NodeM Unit :=
  modify fun node => { node with heartbeatTimer := change node.heartbeatTimer }

/-- The four previous settings are read before the first setter runs; no setter
touches the previous value of another setting. -/
def linkChangeReqTimeout : NodeM Unit :=
  within .linkChangeReqTimeout do
    onLinkTimer .clearDone
    setAll (← get).previous

theorem linkChangeReqTimeout_apply (node : LoraPoint2Point) :
    linkChangeReqTimeout node =
      .ask node (.enter .linkChangeReqTimeout) fun _ =>
        (setAll node.previous { node with
          linkChangeTimeoutTimer := node.linkChangeTimeoutTimer.clearDone }).bind fun node _ =>
            .ask node (.leave .linkChangeReqTimeout) fun _ => .done node () := rfl

/-- The second half of `serviceTimers`: act on the two done flags. -/
def serviceDoneFlags : NodeM Unit := do
  whenever (← get).linkChangeTimeoutTimer.isDone do
    linkChangeReqTimeout
    onLinkTimer .clearDone
  whenever (← get).heartbeatTimer.isDone do
    heartbeatReq
    onHeartbeatTimer .clearDone

def serviceTimers : NodeM Unit := do
  let now ← millis
  modify fun node => { node with currentMillis := now }
  onLinkTimer (·.update now)
  onHeartbeatTimer (·.update now)
  serviceDoneFlags

/-! ## Link changes -/

namespace Settings

/-- The four bytes that follow the type byte of a link change message. -/
def encode (settings : Settings) : List UInt8 :=
  [UInt8.ofNat settings.spreadingFactor, UInt8.ofNat settings.signalBandwidth,
    UInt8.ofNat settings.frequencyChannel, settings.txPower.toUInt8]

end Settings

/-- Table entries read only to print the settings about to be tried. -/
def printSettings (settings : Settings) : NodeM Unit := do
  let _ ← lookup .spreadingFactorTable spreadingFactorTable settings.spreadingFactor
  let _ ← lookup .signalBandwidthTable signalBandwidthTable settings.signalBandwidth
  let _ ← lookup .frequencyChannelTable frequencyChannelTable settings.frequencyChannel

def linkChangeReq (destAddress : UInt8) (settings : Settings) : NodeM Unit :=
  within .linkChangeReq do
    let linkChangeReqBuf := MsgType.linkChangeReq.code :: settings.encode
    printSettings settings
    if ← sendtoWait linkChangeReqBuf destAddress then
      setAll settings
      onLinkTimer .pause
      onLinkTimer .clearDone
      onLinkTimer (·.setTimeout linkChangeTimeoutMillis)
      serviceTimers
      onLinkTimer .start

def serviceLinkChangeReq (srcAddress : UInt8) (settings : Settings) : NodeM Unit :=
  within .serviceLinkChangeReq do
    printSettings settings
    setAll settings
    let linkChangeRspBuf := MsgType.linkChangeRsp.code :: (← get).current.encode
    perform (.delay 100)
    if !(← sendtoWait linkChangeRspBuf srcAddress) then
      setAll (← get).previous

def serviceLinkChangeRsp : NodeM Unit :=
  within .serviceLinkChangeRsp do
    onLinkTimer .pause
    onLinkTimer .clearDone
    onLinkTimer (·.setTimeout (successfulPacketsBeforeLinkIsTrusted *
      heartbeatTimeoutMillis + linkChangeTimeoutMillis))
    serviceTimers
    onLinkTimer .start

/-! ## Reception -/

namespace Message

/-- A frame read by the radio: it overwrites the front of the buffer, cut at the
length given on entry, and its length becomes the new length. -/
def overwrite (message : Message) (payload : List UInt8) : Message :=
  let kept := payload.take message.bufLen.toNat
  { message with buf := message.buf.load kept, bufLen := UInt8.ofNat kept.length }

/-- The settings cast from the four bytes behind the type byte. -/
def requestedSettings (message : Message) : Settings where
  spreadingFactor := (message.buf.get 1).toNat
  signalBandwidth := (message.buf.get 2).toNat
  frequencyChannel := (message.buf.get 3).toNat
  txPower := (message.buf.get 4).toInt8

/-- What `recvfromAckTimeout` leaves in its arguments. -/
def afterReception (message : Message) : Reception → Message
  | .nothing => message
  | .filtered payload => message.overwrite payload
  | .message payload srcAddr destAddr msgId flags =>
      { message.overwrite payload with
        srcAddr := srcAddr, destAddr := destAddr, msgId := msgId, flags := flags }

end Message

/-- The receive call of `serviceRx`; the flag is its return value. -/
def recvfromAckTimeout : NodeM Bool := do
  let reception ← perform (.recvfromAckTimeout (← get).rxMsg.bufLen 200)
  modify fun node => { node with rxMsg := node.rxMsg.afterReception reception }
  return match reception with
    | .message .. => true
    | _ => false

/-- Hand the receive message to a procedure. -/
def withRxMsg (body : Message → NodeM Unit) : NodeM Unit := do
  body (← get).rxMsg

/-- What `serviceRx` tells the user and prints about a message. -/
def report (rxMsg : Message) : NodeM Unit := do
  perform (.rxInd rxMsg)
  let _ ← lastSNR
  printBuffer ⟨.rxMsgBuf, rxMsg.buf.cells⟩ rxMsg.bufLen

/-- The switch of `serviceRx` on the first byte of the receive buffer. -/
def dispatch (rxMsg : Message) : NodeM Unit :=
  match MsgType.ofCode? (rxMsg.buf.get 0) with
  | some .linkChangeReq => serviceLinkChangeReq rxMsg.srcAddr rxMsg.requestedSettings
  | some .linkChangeRsp => serviceLinkChangeRsp
  | some .heartbeatReq => serviceHeartbeatReq rxMsg.srcAddr
  | some .heartbeatRsp => serviceHeartbeatRsp rxMsg.srcAddr
  | _ => pure ()

/-- The end of `serviceRx`: every reception restarts a running rollback timer,
and enough successful packets stop it. -/
def trustRule : NodeM Unit := do
  modify (·.updatePacketErrorFraction true)
  if (← get).linkChangeTimeoutTimer.isRunning then
    let now := (← get).currentMillis
    onLinkTimer (·.reset now)
    if successfulPacketsBeforeLinkIsTrusted < (← get).successes then
      onLinkTimer .pause
      onLinkTimer .clearDone
      serviceTimers

/-- The trust rule asks nothing but what its `serviceTimers` asks. -/
theorem trustRule_apply (node : LoraPoint2Point) :
    trustRule node =
      let counted := node.updatePacketErrorFraction true
      let timer := counted.linkChangeTimeoutTimer.reset counted.currentMillis
      if counted.linkChangeTimeoutTimer.isRunning = true then
        if successfulPacketsBeforeLinkIsTrusted < counted.successes then
          serviceTimers { counted with linkChangeTimeoutTimer := timer.pause.clearDone }
        else .done { counted with linkChangeTimeoutTimer := timer } ()
      else .done counted () := by
  simp only [trustRule, onLinkTimer, Interaction.Program.bind_apply,
    Interaction.Program.modify_apply, Interaction.Program.get_apply,
    Interaction.Program.pure_apply, Interaction.Program.ite_apply,
    Interaction.Resumption.bind_done]
  rfl

/-- The body of `serviceRx` once a message has been taken in. -/
def handleMessage : NodeM Unit := do
  withRxMsg report
  withRxMsg dispatch
  trustRule
  modify fun node => { node with rxMsg.bufLen := 128 }

def serviceRx : NodeM Unit := do
  serviceTimers
  if ← recvfromAckTimeout then
    handleMessage

/-! ## Setup -/

def forceRadioReset : NodeM Unit := do
  let pin := (← get).rfm95Rst
  perform (.digitalWrite pin false)
  perform (.delay 10)
  perform (.digitalWrite pin true)
  perform (.delay 10)

def setupRadio : NodeM Bool := do
  perform (.digitalWrite (← get).rfm95Rst true)
  perform (.delay 100)
  forceRadioReset
  if !(← perform .rf95Init) then
    return false
  if !(← perform .rhReliableDatagramInit) then
    return false
  setSpreadingFactor Settings.default.spreadingFactor
  setBandwidth Settings.default.signalBandwidth
  setTxPower Settings.default.txPower
  setFrequencyChannel Settings.default.frequencyChannel
  return true

end Roam.Node
