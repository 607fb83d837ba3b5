import Roam.Node.Walk

/-!
# The link of a node

An abstract node knows its settings and the ones it would roll back to, whether
its rollback timer has been armed, and how many packets may have been counted
since.  Its history is read off the steps of the node.  The node keeps a contract
with that history: whenever it acts, its settings are between those the last
change started from and those it leads to, and on the air they are the latter.
-/

namespace Roam.Node

open Roam.Interaction

/-! ## Settings that are accepted in part -/

namespace Settings

/-- Parameter by parameter one of two values, depending on whether the setter
refuses what is requested. -/
def sift (requested refused accepted : Settings) : Settings where
  spreadingFactor :=
    if numSpreadingFactors ≤ requested.spreadingFactor then refused.spreadingFactor
    else accepted.spreadingFactor
  signalBandwidth :=
    if numSignalBandwidths ≤ requested.signalBandwidth then refused.signalBandwidth
    else accepted.signalBandwidth
  frequencyChannel :=
    if numFrequencyChannels ≤ requested.frequencyChannel then refused.frequencyChannel
    else accepted.frequencyChannel
  txPower :=
    if maxTxPower < requested.txPower ∨ requested.txPower < minTxPower then refused.txPower
    else accepted.txPower

theorem sift_of_valid {requested : Settings} (valid : requested.Valid)
    (refused accepted : Settings) : requested.sift refused accepted = accepted := by
  obtain ⟨spreadingFactor, signalBandwidth, frequencyChannel, low, high⟩ := valid
  have power : ¬ (maxTxPower < requested.txPower ∨ requested.txPower < minTxPower) := by
    rintro (above | below)
    · exact Int8.not_lt.2 high above
    · exact Int8.not_lt.2 low below
  simp only [sift, if_neg (Nat.not_le.2 spreadingFactor), if_neg (Nat.not_le.2 signalBandwidth),
    if_neg (Nat.not_le.2 frequencyChannel), if_neg power]

/-- Where both values are tuned alike, the choice between them is not heard. -/
theorem sift_tuning {requested refused accepted : Settings} {tuning : Tuning}
    (same : refused.tuning = tuning) (other : accepted.tuning = tuning) :
    (requested.sift refused accepted).tuning = tuning := by
  subst same
  simp only [Settings.tuning, Tuning.mk.injEq] at other ⊢
  obtain ⟨spreadingFactor, signalBandwidth, frequencyChannel⟩ := other
  simp only [sift, spreadingFactor, signalBandwidth, frequencyChannel, ite_self, and_self]

/-- Read the four bytes that follow a type byte. -/
def decode (payload : List UInt8) : Settings where
  spreadingFactor := (payload.getD 1 0).toNat
  signalBandwidth := (payload.getD 2 0).toNat
  frequencyChannel := (payload.getD 3 0).toNat
  txPower := (payload.getD 4 0).toInt8

theorem decode_encode {settings : Settings} (valid : settings.Valid) (code : UInt8) :
    decode (code :: settings.encode) = settings := by
  obtain ⟨spreadingFactor, signalBandwidth, frequencyChannel, txPower⟩ := settings
  obtain ⟨sf, bw, channel, _⟩ := valid
  have byte {value limit : Nat} (inside : value < limit) (small : limit ≤ 256) :
      (UInt8.ofNat value).toNat = value :=
    UInt8.toNat_ofNat_of_lt' (Nat.lt_of_lt_of_le inside small)
  simp only [encode, decode, Settings.mk.injEq]
  exact ⟨byte sf (by decide), byte bw (by decide), byte channel (by decide),
    Int8.toInt8_toUInt8 txPower⟩

end Settings

namespace LoraPoint2Point

variable (node : LoraPoint2Point) (settings : Settings)

/-- A link change moves the settings and the ones to roll back to. -/
theorem withSettings_moves :
    (node.withSettings settings).current = settings.sift node.current settings ∧
      (node.withSettings settings).previous = settings.sift node.previous node.current := by
  simp only [withSettings, withSpreadingFactor, withBandwidth, withTxPower, withFrequencyChannel,
    Settings.sift]
  split_ifs <;> exact ⟨rfl, rfl⟩

/-- The statistics are cleared unless everything is refused. -/
theorem withSettings_successes : (node.withSettings settings).successes ≤ node.successes := by
  have cleared : (0 : UInt32) - 0 ≤ node.successes := UInt32.zero_le
  simp only [withSettings, withSpreadingFactor, withBandwidth, withTxPower, withFrequencyChannel]
  split_ifs <;> first | exact cleared | exact UInt32.le_refl _

/-- The two states differ at most in their settings and statistics. -/
structure Resettled (node later : LoraPoint2Point) : Prop where
  linkTimer : later.linkChangeTimeoutTimer = node.linkChangeTimeoutTimer
  rxMsg : later.rxMsg = node.rxMsg
  txMsg : later.txMsg = node.txMsg
  mode : later.serialCommandMode = node.serialCommandMode
  address : later.thisAddress = node.thisAddress

theorem Resettled.trans {node middle later : LoraPoint2Point} (first : Resettled node middle)
    (second : Resettled middle later) : Resettled node later where
  linkTimer := second.linkTimer.trans first.linkTimer
  rxMsg := second.rxMsg.trans first.rxMsg
  txMsg := second.txMsg.trans first.txMsg
  mode := second.mode.trans first.mode
  address := second.address.trans first.address

theorem withSettings_resettled : Resettled node (node.withSettings settings) := by
  have spreadingFactor (node : LoraPoint2Point) (value : EnumValue) :
      Resettled node (node.withSpreadingFactor value) := by
    unfold withSpreadingFactor
    split <;> constructor <;> rfl
  have bandwidth (node : LoraPoint2Point) (value : EnumValue) :
      Resettled node (node.withBandwidth value) := by
    unfold withBandwidth
    split <;> constructor <;> rfl
  have txPower (node : LoraPoint2Point) (value : Int8) :
      Resettled node (node.withTxPower value) := by
    unfold withTxPower
    split <;> constructor <;> rfl
  have frequencyChannel (node : LoraPoint2Point) (value : EnumValue) :
      Resettled node (node.withFrequencyChannel value) := by
    unfold withFrequencyChannel
    split <;> constructor <;> rfl
  apply Resettled.trans (spreadingFactor _ _)
  apply Resettled.trans (bandwidth _ _)
  exact Resettled.trans (txPower _ _) (frequencyChannel _ _)

end LoraPoint2Point

/-! ## The abstract node -/

/-- The link of a node, with the history that decides about it. -/
structure Link where
  current : Settings
  previous : Settings
  /-- Where the last change set out from, as long as it is under way. -/
  origin : Settings
  /-- The rollback timer has been started and has not run out. -/
  armed : Bool
  /-- No fewer packets than have been counted as successful. -/
  credit : Nat
  /-- The procedure that is changing the link or waiting for an answer about it. -/
  activity : Option Procedure := none
  /-- The last message taken in. -/
  inbox : Message := {}
  /-- No handler of that message has been entered. -/
  unread : Bool := false
  /-- A request of the node has been answered. -/
  asked : Bool := false
  /-- A request of the node has been acknowledged. -/
  granted : Bool := false
  /-- A request has been taken in. -/
  served : Bool := false
  /-- How the response to the request in work was answered. -/
  verdict : Option Bool := none
  /-- A response of the node has been acknowledged. -/
  confirmed : Bool := false
  /-- A response has been taken in. -/
  told : Bool := false
  /-- The handler of a response has been entered. -/
  heeded : Bool := false

namespace Link

/-- The link of a node between two calls. -/
def of (node : LoraPoint2Point) : Link where
  current := node.current
  previous := node.previous
  origin := node.current
  armed := node.linkChangeTimeoutTimer.started
  credit := node.successes.toNat

/-- Set out for the requested settings, as far as they are accepted. -/
def change (link : Link) (requested : Settings) : Link :=
  { link with
    origin := link.current
    current := requested.sift link.current requested
    previous := requested.sift link.previous link.current }

/-- Be where the last change leads. -/
def settle (link : Link) : Link := { link with origin := link.current }

/-- The unread message, if there is one, is of the given type. -/
def Holds (link : Link) (type : MsgType) : Prop :=
  link.unread = true ∧ link.inbox.buf.get 0 = type.code

/-- No unread message calls for a handler of link changes. -/
def Read (link : Link) : Prop :=
  ¬ link.Holds .linkChangeReq ∧ ¬ link.Holds .linkChangeRsp

def enter (link : Link) : Procedure → Link
  | .linkChangeReq => { link with activity := some .linkChangeReq }
  | .linkChangeReqTimeout => { link with activity := some .linkChangeReqTimeout }
  | .serviceLinkChangeReq =>
      { link.change link.inbox.requestedSettings with
        activity := some .serviceLinkChangeReq, unread := false, verdict := none }
  | .serviceLinkChangeRsp =>
      { link with
        activity := some .serviceLinkChangeRsp, unread := false, armed := true, heeded := true }
  | .serviceHeartbeatReq => link
  | .serviceHeartbeatRsp => link

def leave (link : Link) : Procedure → Link
  | .serviceHeartbeatReq => link
  | .serviceHeartbeatRsp => link
  | _ => { link.settle with activity := none }

/-- A request has been acknowledged or not. -/
def request (link : Link) (requested : Settings) (acknowleged : Bool) : Link :=
  if acknowleged then
    { link.change requested with armed := true, credit := 0, asked := true, granted := true }
  else { link with asked := true }

/-- A response has been acknowledged or not. -/
def respond (link : Link) (acknowleged : Bool) : Link :=
  if acknowleged then { link.settle with verdict := some true, confirmed := true }
  else { link.settle.change link.previous with verdict := some false }

/-- Another packet has been counted. -/
def count (link : Link) : Link := { link with credit := link.credit + 1 }

/-- A message has been taken in. -/
def take (link : Link) (message : Message) : Link :=
  { link with
    credit := link.credit + 1
    inbox := message
    unread := true
    served := link.served || decide (message.buf.get 0 = MsgType.linkChangeReq.code)
    told := link.told || decide (message.buf.get 0 = MsgType.linkChangeRsp.code) }

/-- The rollback timer has run out. -/
def expire (link : Link) : Link := { link.change link.previous with armed := false }

def observe (link : Link) (node : LoraPoint2Point) : (action : Action) → action.Answer → Link
  | .enter procedure, _ => link.enter procedure
  | .leave procedure, _ => link.leave procedure
  | .millis, now => if node.linkChangeTimeoutTimer.Expired now then link.expire else link
  | .sendtoWait payload destAddress, acknowleged =>
      if payload.head? = some MsgType.linkChangeReq.code then
        link.request (Settings.decode payload) acknowleged
      else if payload.head? = some MsgType.linkChangeRsp.code then link.respond acknowleged
      else if acknowleged = true ∧ destAddress ≠ broadcastAddress then link.count
      else link
  | .recvfromAckTimeout _ _, .message payload srcAddr destAddr msgId flags =>
      link.take (node.rxMsg.afterReception (.message payload srcAddr destAddr msgId flags))
  | _, _ => link

section Frames

variable {link : Link} {node : LoraPoint2Point} {payload : List UInt8} {destAddress : UInt8}
variable {acknowleged : Bool}

theorem observe_request (request : payload.head? = some MsgType.linkChangeReq.code) :
    link.observe node (.sendtoWait payload destAddress) acknowleged =
      link.request (Settings.decode payload) acknowleged :=
  if_pos request

theorem observe_response (response : payload.head? = some MsgType.linkChangeRsp.code) :
    link.observe node (.sendtoWait payload destAddress) acknowleged =
      link.respond acknowleged := by
  have other : payload.head? ≠ some MsgType.linkChangeReq.code := by
    rw [response]
    decide
  exact (if_neg other).trans (if_pos response)

end Frames

end Link

/-! ## The contract -/

/-- A frame that is no part of a link change. -/
def Traffic (payload : List UInt8) : Prop :=
  payload ≠ [] ∧ payload.head? ≠ some MsgType.linkChangeReq.code ∧
    payload.head? ≠ some MsgType.linkChangeRsp.code

instance (payload : List UInt8) : Decidable (Traffic payload) :=
  inferInstanceAs (Decidable (_ ∧ _ ∧ _))

theorem traffic_cons {byte : UInt8} (rest : List UInt8)
    (noRequest : byte ≠ MsgType.linkChangeReq.code)
    (noResponse : byte ≠ MsgType.linkChangeRsp.code) : Traffic (byte :: rest) :=
  ⟨nofun, fun same => noRequest (Option.some.inj same),
    fun same => noResponse (Option.some.inj same)⟩

namespace Link

theorem observe_traffic {link : Link} {node : LoraPoint2Point} {payload : List UInt8}
    {destAddress : UInt8} {acknowleged : Bool} (traffic : Traffic payload) :
    link.observe node (.sendtoWait payload destAddress) acknowleged =
      if acknowleged = true ∧ destAddress ≠ broadcastAddress then link.count else link :=
  (if_neg traffic.2.1).trans (if_neg traffic.2.2)

/-- Every parameter is at its value before the last change or behind it. -/
def Between (link : Link) (node : LoraPoint2Point) : Prop :=
  (node.current.spreadingFactor = link.origin.spreadingFactor ∨
      node.current.spreadingFactor = link.current.spreadingFactor) ∧
    (node.current.signalBandwidth = link.origin.signalBandwidth ∨
      node.current.signalBandwidth = link.current.signalBandwidth) ∧
    (node.current.frequencyChannel = link.origin.frequencyChannel ∨
      node.current.frequencyChannel = link.current.frequencyChannel)

/-- An armed timer runs, unless enough packets have been counted to stop it. -/
def Timed (link : Link) (timer : SimpleTimer) : Prop :=
  (timer.started = true → link.armed = true) ∧
    (link.armed = true → timer.started = true ∨
      successfulPacketsBeforeLinkIsTrusted.toNat < link.credit)

/-- Outside the procedures that change the link, the last change is complete. -/
def Settled (link : Link) (node : LoraPoint2Point) : Prop :=
  link.activity = none → node.linkChangeTimeoutTimer.done = false →
    link.origin = link.current ∧ link.Timed node.linkChangeTimeoutTimer

/-- What a frame says about the node that is about to send it. -/
def Speaks (asks : Settings → Prop) (link : Link) (payload : List UInt8) (destAddress : UInt8) :
    Prop :=
  (Traffic payload ∧ link.activity ≠ some .serviceLinkChangeReq) ∨
    (∃ settings, asks settings ∧ settings.Valid ∧
      payload = MsgType.linkChangeReq.code :: settings.encode ∧ link.asked = false ∧
      link.activity = some .linkChangeReq ∧ destAddress ≠ broadcastAddress) ∨
    (payload.head? = some MsgType.linkChangeRsp.code ∧ link.verdict = none ∧
      link.activity = some .serviceLinkChangeReq ∧ destAddress ≠ broadcastAddress)

/-- What is known when the node acts. -/
def Promise (asks : Settings → Prop) (link : Link) (node : LoraPoint2Point) : Action → Prop
  | .enter .serviceLinkChangeReq => link.activity = none ∧ link.Holds .linkChangeReq
  | .enter .serviceLinkChangeRsp => link.activity = none ∧ link.Holds .linkChangeRsp
  | .enter _ => link.activity = none ∧ link.Read
  | .leave .serviceHeartbeatReq => True
  | .leave .serviceHeartbeatRsp => True
  | .leave .serviceLinkChangeReq =>
      link.activity = some .serviceLinkChangeReq ∧ link.verdict ≠ none
  | .leave procedure => link.activity = some procedure
  | .millis =>
      link.Read ∧ node.previous = link.previous ∧
        (node.linkChangeTimeoutTimer.started = true → link.activity = none ∧ link.armed = true)
  | .sendtoWait payload destAddress =>
      link.Read ∧ node.current = link.current ∧ node.thisAddress ≠ broadcastAddress ∧
        link.Speaks asks payload destAddress
  | .recvfromAckTimeout _ _ =>
      link.Read ∧ link.activity = none ∧ link.origin = link.current ∧
        node.current = link.current ∧ node.rxMsg.bufLen ≠ 0
  | _ => True

/-- No frame is empty, and none comes from the broadcast address. -/
def Admits : (action : Action) → action.Answer → Prop
  | .recvfromAckTimeout _ _, .filtered payload => payload ≠ []
  | .recvfromAckTimeout _ _, .message payload srcAddr _ _ _ =>
      payload ≠ [] ∧ srcAddr ≠ broadcastAddress
  | _, _ => True

end Link

/-- The node acts as its link says.  It requests only the settings it may ask for. -/
def tracking (asks : Settings → Prop) : Contract LoraPoint2Point Action Action.Answer Link where
  require link node action := link.Between node ∧ link.Settled node ∧ link.Promise asks node action
  allow _ _ action answer := Link.Admits action answer
  record := Link.observe

end Roam.Node
