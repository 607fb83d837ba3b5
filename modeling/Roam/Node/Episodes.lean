import Roam.Interaction.Phases
import Roam.Node.Walk

/-!
# The episodes of a node

The frames of a node and its calls of `txInd` and `rxInd` make a sequence of episodes: a
message of the application, a heartbeat when its timer has fired, a request for a link
change, and the handling of a message taken in.  The user is told of every transmission but
those of a link change, and of every message taken in before anything else happens;
a request, and nothing but a request, is answered once and at once, to its sender.
-/

namespace Roam.Node

open Roam.Data Roam.Interaction

/-! ## What can be seen -/

/-- What the air and the radio see of a node, and its user through `txInd` and `rxInd`. -/
inductive Sign where
  | heartbeatDue
  | sent (settings : Settings) (payload : List UInt8) (destAddress : UInt8) (acknowleged : Bool)
  | txInd (payload : List UInt8) (destAddr : UInt8) (ack : Bool)
  | took (message : Message)
  | rxInd (rxMsg : Message)
  | lastSNR (snr : Int)
  deriving DecidableEq

/-- A reading of the clock shows if it makes the heartbeat timer fire; a message
taken in shows as it lies in the receive buffer. -/
def signOf : NodeStep → List Sign
  | ⟨node, .millis, now⟩ =>
      if (node.heartbeatTimer.update now).done then [.heartbeatDue] else []
  | ⟨node, .sendtoWait payload destAddress, acknowleged⟩ =>
      [.sent node.current payload destAddress acknowleged]
  | ⟨_, .txInd payload destAddr ack, _⟩ => [.txInd payload destAddr ack]
  | ⟨node, .recvfromAckTimeout _ _, .message payload srcAddr destAddr msgId flags⟩ =>
      [.took (node.rxMsg.afterReception (.message payload srcAddr destAddr msgId flags))]
  | ⟨_, .rxInd rxMsg, _⟩ => [.rxInd rxMsg]
  | ⟨_, .rf95LastSNR, snr⟩ => [.lastSNR snr]
  | _ => []

/-! ## Episodes -/

/-- First bytes with which the protocol asks and answers. -/
def Control (byte : UInt8) : Prop :=
  byte = MsgType.linkChangeReq.code ∨ byte = MsgType.linkChangeRsp.code ∨
    byte = MsgType.heartbeatReq.code ∨ byte = MsgType.heartbeatRsp.code

instance (byte : UInt8) : Decidable (Control byte) :=
  inferInstanceAs (Decidable (_ ∨ _ ∨ _ ∨ _))

/-- A frame that is no part of the protocol. -/
def Free (payload : List UInt8) : Prop := ∃ byte, payload.head? = some byte ∧ ¬ Control byte

/-- The message asks for a response. -/
def Message.Demands (message : Message) : Prop :=
  message.buf.get 0 = MsgType.linkChangeReq.code ∨ message.buf.get 0 = MsgType.heartbeatReq.code

/-- One transmission of which the user is told. -/
structure Transmission where
  settings : Settings
  payload : List UInt8
  destAddress : UInt8
  acknowleged : Bool
  snr : Int

namespace Transmission

/-- What the user is told of the acknowledgement: a broadcast has none. -/
def ack (transmission : Transmission) : Bool :=
  transmission.acknowleged && transmission.destAddress ≠ broadcastAddress

def signs (transmission : Transmission) : List Sign :=
  .sent transmission.settings transmission.payload transmission.destAddress
      transmission.acknowleged ::
    ((if transmission.ack then [.lastSNR transmission.snr] else []) ++
      [.txInd transmission.payload transmission.destAddress transmission.ack])

/-- The value of `getLastAckSNR` behind the transmission. -/
def ackSnr (transmission : Transmission) (before : Int) : Int :=
  if transmission.ack then transmission.snr else before

end Transmission

/-- Everything a node does at once, seen from outside. -/
inductive Episode (address : UInt8) where
  | data (transmission : Transmission) (free : Free transmission.payload)
  | heartbeat (settings : Settings) (acknowleged : Bool) (snr : Int)
  | linkChangeReq (current requested : Settings) (destAddress : UInt8) (acknowleged : Bool)
  | notice (message : Message) (snr : Int) (undemanding : ¬ message.Demands)
  | linkChangeRsp (message : Message) (snr : Int)
      (request : message.buf.get 0 = MsgType.linkChangeReq.code)
      (current : Settings) (acknowleged : Bool)
  | heartbeatRsp (message : Message) (snr : Int)
      (request : message.buf.get 0 = MsgType.heartbeatReq.code)
      (settings : Settings) (acknowleged : Bool) (rspSnr : Int)

namespace Episode

variable {address : UInt8}

/-- A message taken in, as the user hears of it. -/
def taking (message : Message) (snr : Int) : List Sign :=
  [.took message, .rxInd message, .lastSNR snr]

/-- The broadcast of a heartbeat. -/
def broadcast (address : UInt8) (settings : Settings) (acknowleged : Bool) (snr : Int) :
    Transmission :=
  ⟨settings, [MsgType.heartbeatReq.code, address], broadcastAddress, acknowleged, snr⟩

/-- The response to a heartbeat of the given sender. -/
def response (address srcAddr : UInt8) (settings : Settings) (acknowleged : Bool) (snr : Int) :
    Transmission :=
  ⟨settings, [MsgType.heartbeatRsp.code, address], srcAddr, acknowleged, snr⟩

def signs : Episode address → List Sign
  | .data transmission _ => transmission.signs
  | .heartbeat settings acknowleged snr =>
      .heartbeatDue :: (broadcast address settings acknowleged snr).signs
  | .linkChangeReq current requested destAddress acknowleged =>
      [.sent current (MsgType.linkChangeReq.code :: requested.encode) destAddress acknowleged]
  | .notice message snr _ => taking message snr
  | .linkChangeRsp message snr _ current acknowleged =>
      taking message snr ++
        [.sent current (MsgType.linkChangeRsp.code :: current.encode) message.srcAddr acknowleged]
  | .heartbeatRsp message snr _ settings acknowleged rspSnr =>
      taking message snr ++ (response address message.srcAddr settings acknowleged rspSnr).signs

/-- The value of `getLastAckSNR` behind an episode: link changes do not count. -/
def ackSnr (before : Int) : Episode address → Int
  | .data transmission _ => transmission.ackSnr before
  | .heartbeatRsp message _ _ settings acknowleged rspSnr =>
      (response address message.srcAddr settings acknowleged rspSnr).ackSnr before
  | _ => before

/-- The value of `getLastAckSNR` behind some episodes of a new node. -/
def lastAckSnr (episodes : List (Episode address)) : Int := episodes.foldl ackSnr 0

theorem lastAckSnr_append (episodes : List (Episode address)) (episode : Episode address) :
    lastAckSnr (episodes ++ [episode]) = ackSnr (lastAckSnr episodes) episode := by
  rw [lastAckSnr, List.foldl_append]
  rfl

end Episode

/-- The episodes of the node with the given address. -/
def episodic (address : UInt8) :
    Phases LoraPoint2Point Action Action.Answer Sign (Episode address) where
  sign := signOf
  signs := Episode.signs

/-! ## The node behind its episodes -/

namespace Episodic

/-- What a node remembers between two signs: a heartbeat that is due, and the message
it handles. -/
structure Bears (address : UInt8) (due : Bool) (inbox : Option Message)
    (episodes : List (Episode address)) (node : LoraPoint2Point) : Prop where
  address : node.thisAddress = address
  due : node.heartbeatTimer.done = due
  inbox : ∀ message, inbox = some message → node.rxMsg = message
  draft : ¬ Control (node.txMsg.buf.get 0)
  ackSnr : node.getLastAckSNR = Episode.lastAckSnr episodes

variable {address : UInt8} {due : Bool} {inbox : Option Message} {part : List Sign}

/-- In the middle of an episode. -/
abbrev Amid (address : UInt8) (due : Bool) (inbox : Option Message) (part : List Sign) :
    List Sign → LoraPoint2Point → Prop :=
  (episodic address).Amid (Bears address due inbox) part

/-- Between two episodes. -/
abbrev Rests (address : UInt8) : List Sign → LoraPoint2Point → Prop :=
  Amid address false none []

/-- A later node that differs in nothing that is remembered. -/
theorem Bears.move {episodes : List (Episode address)} {node later : LoraPoint2Point}
    (bears : Bears address due inbox episodes node)
    (address' : later.thisAddress = node.thisAddress)
    (heartbeat : later.heartbeatTimer.done = node.heartbeatTimer.done)
    (received : later.rxMsg = node.rxMsg) (drafted : later.txMsg = node.txMsg)
    (heard : later.ackSnr = node.ackSnr) : Bears address due inbox episodes later := by
  constructor
  · rw [address', bears.address]
  · rw [heartbeat, bears.due]
  · rw [received]
    exact bears.inbox
  · rw [drafted]
    exact bears.draft
  · exact heard.trans bears.ackSnr

/-! ## Actions without a sign -/

/-- Actions that never show. -/
def hidden : Action → Bool
  | .millis => false
  | .sendtoWait _ _ => false
  | .txInd _ _ _ => false
  | .recvfromAckTimeout _ _ => false
  | .rxInd _ => false
  | .rf95LastSNR => false
  | _ => true

theorem signOf_hidden {action : Action} (hid : hidden action = true) (node : LoraPoint2Point)
    (answer : action.Answer) : signOf ⟨node, action, answer⟩ = [] := by
  cases action <;> first | rfl | cases hid

section Silent

variable (opens : (episodic address).Opens part)
include opens

theorem silent {fits : List (Episode address) → LoraPoint2Point → Prop} {action : Action}
    (hid : hidden action = true) :
    Keeps (episodic address).contract ((episodic address).Amid fits part) (perform action) :=
  Phases.silent opens fun node answer => signOf_hidden hid node answer

theorem reads {fits : List (Episode address) → LoraPoint2Point → Prop} :
    ReadsAnywhere (episodic address).contract ((episodic address).Amid fits part) :=
  fun _ _ _ => silent opens rfl

theorem settles : Settles (episodic address).contract (Amid address due inbox part) := by
  have tunable : Tunable (episodic address).contract (Amid address due inbox part) :=
    { index := fun _ _ _ _ => silent opens rfl
      tunes := fun action tunes => silent opens (by cases action <;> first | rfl | cases tunes)
      setFrequency := fun _ => setFrequency_keeps (silent opens rfl) (silent opens rfl)
      reset := fun _ _ amid => amid.mono fun _ bears => bears.move rfl rfl rfl rfl rfl }
  exact tunable.toAdjusts.settles fun _ _ _ _ amid =>
    amid.mono fun _ bears => bears.move rfl rfl rfl rfl rfl

theorem printBufferAs {fits : List (Episode address) → LoraPoint2Point → Prop} (array : ArrayName)
    (size start : Nat) (bufLen : UInt8) (ascii : Bool) :
    Keeps (episodic address).contract ((episodic address).Amid fits part)
      (printBufferAs array size start bufLen ascii) :=
  Emits.printBufferAs (fun _ _ => silent opens rfl) ascii

end Silent

theorem onLinkTimer (change : SimpleTimer → SimpleTimer) :
    Keeps (episodic address).contract (Amid address due inbox part) (onLinkTimer change) :=
  Keeps.update fun _ _ amid => amid.mono fun _ bears => bears.move rfl rfl rfl rfl rfl

/-! ## Transmissions of which the user is told -/

section Speaking

variable {payload : List UInt8} {destAddress : UInt8}

/-- What shows of a transmission before the user is told of it. -/
def begun (transmission : Transmission) : List Sign :=
  .sent transmission.settings transmission.payload transmission.destAddress
      transmission.acknowleged ::
    if transmission.ack then [.lastSNR transmission.snr] else []

theorem begun_append (transmission : Transmission) :
    begun transmission ++
        [.txInd transmission.payload transmission.destAddress transmission.ack] =
      transmission.signs := rfl

/-- The indication completes the episode of a transmission that is over. -/
theorem indicates (episode : Episode address) (transmission : Transmission)
    (shows : episode.signs = part ++ transmission.signs) :
    Triple (episodic address).contract
      ((episodic address).Amid (fun episodes => Bears address due inbox (episodes ++ [episode]))
        (part ++ begun transmission))
      (perform (.txInd transmission.payload transmission.destAddress transmission.ack))
      fun _ => Amid address due inbox [] := by
  have within : part ++ begun transmission <+: episode.signs := by
    rw [shows, ← begun_append, ← List.append_assoc]
    exact List.prefix_append _ _
  refine Phases.completes (fun _ => episode) (.of_phase episode within) ?_ fun _ _ _ => id
  intro node answer
  show (part ++ begun transmission) ++ [_] = episode.signs
  rw [shows, List.append_assoc, begun_append]

/-- The value for `getLastAckSNR` is in place before its episode is complete. -/
theorem Bears.close {episodes : List (Episode address)} {node : LoraPoint2Point}
    (bears : Bears address due inbox episodes node) {episode : Episode address} {snr : Int}
    (heard : Episode.ackSnr node.ackSnr episode = snr) :
    Bears address due inbox (episodes ++ [episode]) { node with ackSnr := snr } := by
  refine ⟨bears.address, bears.due, bears.inbox, bears.draft, ?_⟩
  have before : node.ackSnr = Episode.lastAckSnr episodes := bears.ackSnr
  rw [Episode.lastAckSnr_append, ← before, heard]
  rfl

/-- Counting a packet changes nothing that is remembered. -/
theorem Bears.count {episodes : List (Episode address)} {node : LoraPoint2Point}
    (bears : Bears address due inbox episodes node) (packetSuccess : Bool) :
    Bears address due inbox episodes (node.updatePacketErrorFraction packetSuccess) :=
  bears.move rfl rfl rfl rfl rfl

/-- An episode for every outcome of a transmission, of which a part has shown before it. -/
structure Finishes (part : List Sign) (payload : List UInt8) (destAddress : UInt8)
    (episode : Settings → Bool → Int → Episode address) : Prop where
  shows : ∀ settings acknowleged snr, (episode settings acknowleged snr).signs =
    part ++ Transmission.signs ⟨settings, payload, destAddress, acknowleged, snr⟩
  heard : ∀ settings acknowleged snr before, Episode.ackSnr before (episode settings acknowleged snr) =
    Transmission.ackSnr ⟨settings, payload, destAddress, acknowleged, snr⟩ before

variable {episode : Settings → Bool → Int → Episode address}

theorem Finishes.opens (finishes : Finishes part payload destAddress episode) (settings : Settings)
    (acknowleged : Bool) (snr : Int) {early : List Sign}
    (first : early <+: Transmission.signs ⟨settings, payload, destAddress, acknowleged, snr⟩) :
    (episodic address).Opens (part ++ early) := by
  refine Phases.Opens.of_phase (episode settings acknowleged snr) ?_
  show part ++ early <+: Episode.signs _
  rw [finishes.shows]
  exact (List.prefix_append_right_inj part).2 first

theorem Finishes.opens_part (finishes : Finishes part payload destAddress episode) :
    (episodic address).Opens part := by
  have opens := finishes.opens Settings.default false 0 List.nil_prefix
  rwa [List.append_nil] at opens

/-- A transmission and its indication complete an episode. -/
theorem speaks (finishes : Finishes part payload destAddress episode) :
    Triple (episodic address).contract (Amid address due inbox part)
      (sendAndCount payload destAddress >>= fun acknowleged =>
        perform (.txInd payload destAddress acknowleged))
      fun _ => Amid address due inbox [] := by
  have sent : Triple (episodic address).contract (Amid address due inbox part)
      (sendtoWait payload destAddress) fun acknowleged ghost node => ∃ settings,
        Amid address due inbox (part ++ [.sent settings payload destAddress acknowleged])
          ghost node := by
    exact Phases.shows finishes.opens_part fun episodes node answer bears =>
      ⟨node.current, episodes, rfl, bears⟩
  -- what is left to say of a transmission with a known outcome
  let ended (acknowleged : Bool) (ghost : List Sign) (node : LoraPoint2Point) : Prop :=
    ∃ settings answered snr, acknowleged =
        Transmission.ack ⟨settings, payload, destAddress, answered, snr⟩ ∧
      (episodic address).Amid (fun episodes => Bears address due inbox
          (episodes ++ [episode settings answered snr]))
        (part ++ begun ⟨settings, payload, destAddress, answered, snr⟩) ghost node
  have unheard {answered : Bool} {settings : Settings} {episodes : List (Episode address)}
      {node : LoraPoint2Point} (bears : Bears address due inbox episodes node)
      (ack : Transmission.ack ⟨settings, payload, destAddress, answered, 0⟩ = false) :
      Bears address due inbox (episodes ++ [episode settings answered 0])
        node := by
    have kept : Episode.ackSnr node.ackSnr (episode settings answered 0) =
        node.ackSnr := by
      rw [finishes.heard, Transmission.ackSnr, ack]
      rfl
    exact bears.close kept
  have counted : Triple (episodic address).contract (Amid address due inbox part)
      (sendAndCount payload destAddress) ended := by
    refine sent.bind fun answered => Triple.unknown fun settings => ?_
    refine Triple.ite (fun acknowledged => Triple.ite (fun unicast => ?_) fun everyone => ?_)
      fun failed => ?_
    · -- only an acknowledged unicast reads the signal-to-noise ratio
      subst acknowledged
      have ack (snr : Int) :
          Transmission.ack ⟨settings, payload, destAddress, true, snr⟩ = true := by
        simpa [Transmission.ack] using unicast
      have begins (snr : Int) : begun ⟨settings, payload, destAddress, true, snr⟩ =
          [.sent settings payload destAddress true, .lastSNR snr] := by
        simp [begun, ack]
      have early : [Sign.sent settings payload destAddress true] <+:
          Transmission.signs ⟨settings, payload, destAddress, true, 0⟩ := ⟨_, rfl⟩
      refine Triple.bind (Phases.tells (fun snr => [.lastSNR snr])
        (finishes.opens settings true 0 early) fun _ _ => rfl) fun snr => ?_
      refine fun ghost node amid => ⟨settings, true, snr, (ack snr).symm, ?_⟩
      rw [begins]
      rw [List.append_assoc] at amid
      refine Phases.Amid.mono amid fun episodes bears => (bears.close ?_).count true
      rw [finishes.heard, Transmission.ackSnr, ack, if_pos rfl]
    · subst acknowledged
      have ack : Transmission.ack ⟨settings, payload, destAddress, true, 0⟩ = false := by
        simpa [Transmission.ack] using everyone
      refine Triple.pure false fun ghost node amid => ⟨settings, true, 0, ack.symm, ?_⟩
      rw [begun, ack]
      exact amid.mono fun episodes bears => unheard bears ack
    · have refused : answered = false := by simpa using failed
      subst refused
      refine fun ghost node amid => ⟨settings, false, 0, rfl, ?_⟩
      exact amid.mono fun episodes bears => (unheard bears rfl).count false
  refine Triple.bind counted fun acknowleged => ?_
  refine Triple.unknown fun settings => Triple.unknown fun answered => Triple.unknown fun snr => ?_
  rintro ghost node ⟨rfl, amid⟩
  exact indicates _ _ (finishes.shows settings answered snr) ghost node amid

/-- A span that is sent completes an episode. -/
theorem serviceTxSpan {buf : Span} {bufLen : UInt8} {ascii : Bool} (nonempty : 0 < bufLen)
    (finishes : Finishes part (buf.cells.take bufLen.toNat) destAddress episode) :
    Triple (episodic address).contract (Amid address due inbox part)
      (serviceTxSpan destAddress buf bufLen ascii) fun _ => Amid address due inbox [] := by
  have opens := finishes.opens_part
  unfold Node.serviceTxSpan
  rw [if_pos nonempty]
  refine Triple.bind (printBufferAs opens _ _ _ _ _) fun _ => ?_
  exact Triple.bind (silent opens rfl) fun _ => speaks finishes

end Speaking

/-! ## Timers -/

/-- A heartbeat that is due is broadcast, and with that its episode is complete. -/
theorem heartbeatReq :
    Triple (episodic address).contract (Amid address true inbox [.heartbeatDue]) heartbeatReq
      fun _ => Amid address true inbox [] := by
  have finishes : Finishes [.heartbeatDue] [MsgType.heartbeatReq.code, address] broadcastAddress
      (@Episode.heartbeat address) := by
    constructor
    · intro settings acknowleged snr
      rfl
    · intro settings acknowleged snr before
      cases acknowleged <;> rfl
  refine Triple.get_bind fun known => ?_
  rintro ghost node ⟨⟨episodes, split, bears⟩, rfl⟩
  have same : node.thisAddress = address := bears.address
  rw [same]
  exact serviceTxSpan (by decide) finishes ghost node ⟨episodes, split, bears⟩

/-- The part of a heartbeat's episode that a reading of the clock can show. -/
def dueSigns (due : Bool) : List Sign := if due then [.heartbeatDue] else []

theorem opens_dueSigns (due : Bool) : (episodic address).Opens (dueSigns due) := by
  cases due with
  | false => exact Phases.Opens.nil
  | true => exact Phases.Opens.of_phase (.heartbeat Settings.default false 0) ⟨_, rfl⟩

/-- The rollback shows nothing. -/
theorem linkChangeReqTimeout (opens : (episodic address).Opens part) :
    Keeps (episodic address).contract (Amid address due inbox part) linkChangeReqTimeout :=
  (settles opens).linkChangeReqTimeout (silent opens rfl) (silent opens rfl) (onLinkTimer _)

/-- The heartbeat is broadcast exactly if it is due. -/
theorem serviceDoneFlags :
    Triple (episodic address).contract (Amid address due none (dueSigns due)) serviceDoneFlags
      fun _ => Rests address := by
  have opens := @opens_dueSigns address due
  have heartbeat : Triple (episodic address).contract (Amid address due none (dueSigns due)) (do
      whenever (← get).heartbeatTimer.isDone do
        Node.heartbeatReq
        onHeartbeatTimer .clearDone) fun _ => Rests address := by
    refine Triple.get_bind fun known => ?_
    rintro ghost node ⟨⟨episodes, split, bears⟩, rfl⟩
    have raised : node.heartbeatTimer.isDone = due := bears.due
    rw [raised]
    cases due with
    | false => exact ⟨episodes, split, bears⟩
    | true =>
        have cleared : Triple (episodic address).contract (Amid address true none [])
            (onHeartbeatTimer .clearDone) fun _ => Rests address :=
          Phases.update fun episodes node bears => { bears with due := rfl }
        exact Triple.bind heartbeatReq (fun _ => cleared) ghost node ⟨episodes, split, bears⟩
  refine Triple.get_bind fun known => Triple.pre ?_ fun _ _ => And.left
  have rollback : Keeps (episodic address).contract (Amid address due none (dueSigns due))
      (whenever known.linkChangeTimeoutTimer.isDone do
        Node.linkChangeReqTimeout
        Node.onLinkTimer .clearDone) :=
    whenever_keeps ((linkChangeReqTimeout opens).bind fun _ => onLinkTimer _)
  exact Triple.bind rollback fun _ => heartbeat

/-- The clock shows whether the heartbeat timer fires. -/
theorem serviceTimers : Keeps (episodic address).contract (Rests address) serviceTimers := by
  have read : Triple (episodic address).contract (Rests address) millis fun now ghost node =>
      ∃ due, Amid address due none (dueSigns due) ghost { node with
        currentMillis := now
        linkChangeTimeoutTimer := node.linkChangeTimeoutTimer.update now
        heartbeatTimer := node.heartbeatTimer.update now } := by
    refine Phases.shows Phases.Opens.nil fun episodes node now bears => ?_
    refine ⟨(node.heartbeatTimer.update now).done, episodes, rfl, ?_⟩
    exact ⟨bears.address, rfl, nofun, bears.draft, bears.ackSnr⟩
  refine read.bind fun now ghost node fired => ?_
  obtain ⟨due, amid⟩ := fired
  exact serviceDoneFlags ghost _ amid

/-! ## Link changes -/

/-- A part of a link change is the end of its episode, and the user is not told of it. -/
theorem sendtoWait {current : Settings} {payload : List UInt8} {destAddress : UInt8}
    (episode : Bool → Episode address)
    (shows : ∀ acknowleged,
      (episode acknowleged).signs = part ++ [.sent current payload destAddress acknowleged])
    (unheard : ∀ acknowleged before, Episode.ackSnr before (episode acknowleged) = before) :
    Triple (episodic address).contract
      ((episodic address).Amid
        (fun episodes node => Bears address due inbox episodes node ∧ node.current = current) part)
      (sendtoWait payload destAddress) fun _ => Amid address due inbox [] := by
  have opens : (episodic address).Opens part := by
    refine Phases.Opens.of_phase (episode false) ?_
    show part <+: (episode false).signs
    rw [shows]
    exact List.prefix_append _ _
  refine Phases.shows opens fun episodes node acknowleged ⟨bears, same⟩ => ?_
  refine @Phases.Amid.complete _ _ _ _ _ (episodic address) _ (episode acknowleged) _ _ ?_
  refine ⟨episodes, ?_, bears.close (unheard _ _)⟩
  show _ = _ ++ (episode acknowleged).signs
  rw [shows, ← same]
  rfl

theorem rearm (timeoutMillis : UInt32) :
    Keeps (episodic address).contract (Rests address) (do
      Node.onLinkTimer .pause
      Node.onLinkTimer .clearDone
      Node.onLinkTimer (·.setTimeout timeoutMillis)
      Node.serviceTimers
      Node.onLinkTimer .start) :=
  rearm_triple (onLinkTimer _) (onLinkTimer _) (onLinkTimer _) serviceTimers (onLinkTimer _)

/-- A marked procedure whose marks do not show. -/
theorem within {procedure : Procedure} {body : NodeM Unit} {early late : List Sign}
    {before after : Option Message} (opens : (episodic address).Opens early)
    (closes : (episodic address).Opens late)
    (triple : Triple (episodic address).contract (Amid address false before early) body
      fun _ => Amid address false after late) :
    Triple (episodic address).contract (Amid address false before early)
      (within procedure body) fun _ => Amid address false after late :=
  Triple.bind (silent opens rfl) fun _ => triple.bind fun _ => silent closes rfl

theorem linkChangeReq (destAddress : UInt8) (settings : Settings) :
    Keeps (episodic address).contract (Rests address) (linkChangeReq destAddress settings) := by
  have opens := @Phases.Opens.nil _ _ _ _ _ (episodic address)
  refine within opens opens (Triple.bind ((reads opens).printSettings settings) fun _ => ?_)
  have sent : Keeps (episodic address).contract (Rests address)
      (Node.sendtoWait (MsgType.linkChangeReq.code :: settings.encode) destAddress) := by
    rintro ghost node ⟨episodes, split, bears⟩
    exact sendtoWait (.linkChangeReq node.current settings destAddress) (fun _ => rfl)
      (fun _ _ => rfl) ghost node ⟨episodes, split, bears, rfl⟩
  refine Keeps.bind sent fun acknowleged => Keeps.ite ?_ (Keeps.pure ())
  exact ((settles opens).setAll settings).bind fun _ => rearm _

/-! ## Reception -/

/-- The message that was taken in is in the receive buffer. -/
theorem recvfromAckTimeout :
    Triple (episodic address).contract (Rests address) recvfromAckTimeout
      fun received ghost node => if received then
          ∃ message, Amid address false (some message) [.took message] ghost node
        else Rests address ghost node := by
  refine Triple.get_bind fun known => ?_
  rintro ghost node ⟨⟨episodes, rfl, bears⟩, rfl⟩
  refine ⟨Phases.Opens.nil.behind episodes, fun reception _ => ?_⟩
  cases reception with
  | nothing => exact ⟨episodes, List.append_nil _, bears.move rfl rfl rfl rfl rfl⟩
  | filtered payload =>
      exact ⟨episodes, List.append_nil _, bears.address, bears.due, nofun, bears.draft, bears.ackSnr⟩
  | message payload srcAddr destAddr msgId flags =>
      refine ⟨node.rxMsg.afterReception (.message payload srcAddr destAddr msgId flags), episodes, ?_,
        bears.address, bears.due, ?_, bears.draft, bears.ackSnr⟩
      · show ((episodic address).shown episodes ++ []) ++ [_] = _
        rw [List.append_nil]
      · rintro _ ⟨⟩
        rfl

/-- Some episode begins with this message. -/
theorem opens_taking (message : Message) (snr : Int) {early : List Sign}
    (first : early <+: Episode.taking message snr) : (episodic address).Opens early := by
  by_cases demands : message.Demands
  · rcases demands with request | request
    · refine Phases.Opens.of_phase (.linkChangeRsp message snr request Settings.default false) ?_
      exact first.trans (List.prefix_append _ _)
    · refine Phases.Opens.of_phase (.heartbeatRsp message snr request Settings.default false 0) ?_
      exact first.trans (List.prefix_append _ _)
  · refine Phases.Opens.of_phase (.notice message snr demands) ?_
    exact first

/-- The user hears of the message before anything else happens. -/
theorem report (message : Message) :
    Triple (episodic address).contract (Amid address false (some message) [.took message])
      (report message) fun _ ghost node =>
        ∃ snr, Amid address false (some message) (Episode.taking message snr) ghost node := by
  have took : (episodic address).Opens [.took message] := opens_taking message 0 ⟨_, rfl⟩
  have told : (episodic address).Opens [.took message, .rxInd message] :=
    opens_taking message 0 ⟨_, rfl⟩
  refine Triple.bind (Phases.tells (fun _ => [.rxInd message]) took fun _ _ => rfl) fun _ => ?_
  refine Triple.bind (Phases.tells (fun snr => [.lastSNR snr]) told fun _ _ => rfl) fun snr => ?_
  have whole : (episodic address).Opens (Episode.taking message snr) :=
    opens_taking message snr List.prefix_rfl
  refine ((reads whole).printBuffer _ _).post fun _ ghost node amid => ?_
  exact ⟨snr, amid⟩

/-- A message handled as a whole is forgotten. -/
theorem forget : ∀ ghost node, Amid address due inbox part ghost node →
    Amid address due none part ghost node :=
  fun _ _ amid => amid.mono fun _ bears => { bears with inbox := nofun }

/-- A message that demands nothing is the whole of its episode. -/
theorem noticed {message : Message} {snr : Int} (undemanding : ¬ message.Demands) :
    ∀ ghost node, Amid address false (some message) (Episode.taking message snr) ghost node →
      Rests address ghost node := by
  intro ghost node amid
  refine @Phases.Amid.complete _ _ _ _ _ (episodic address) _ (.notice message snr undemanding) _ _ ?_
  refine Phases.Amid.mono amid fun episodes bears => ?_
  have closed : Bears address false (some message) (episodes ++ [.notice message snr undemanding])
      node := bears.close rfl
  exact { closed with inbox := nofun }

/-- The response carries the settings in force when it is sent. -/
theorem serviceLinkChangeReq {message : Message} {snr : Int}
    (request : message.buf.get 0 = MsgType.linkChangeReq.code) :
    Triple (episodic address).contract
      (Amid address false (some message) (Episode.taking message snr))
      (serviceLinkChangeReq message.srcAddr message.requestedSettings)
      fun _ => Rests address := by
  have opens : (episodic address).Opens (Episode.taking message snr) :=
    opens_taking message snr List.prefix_rfl
  have closes := @Phases.Opens.nil _ _ _ _ _ (episodic address)
  refine within opens closes (Triple.bind ((reads opens).printSettings _) fun _ => ?_)
  refine Triple.bind ((settles opens).setAll _) fun _ => Triple.get_bind fun known => ?_
  have waited : Triple (episodic address).contract
      (fun ghost node => Amid address false (some message) (Episode.taking message snr) ghost node ∧
        node = known)
      (perform (.delay 100)) fun _ => (episodic address).Amid (fun episodes node =>
        Bears address false (some message) episodes node ∧ node.current = known.current)
          (Episode.taking message snr) := by
    rintro ghost node ⟨⟨episodes, split, bears⟩, rfl⟩
    exact silent opens rfl ghost node ⟨episodes, split, bears, rfl⟩
  have sent := @sendtoWait address false (some message) (Episode.taking message snr) known.current
    (MsgType.linkChangeRsp.code :: known.current.encode) message.srcAddr
    (.linkChangeRsp message snr request known.current) (fun _ => rfl) (fun _ _ => rfl)
  refine waited.bind fun _ => (sent.post fun _ => forget).bind fun acknowleged => ?_
  exact Keeps.ite (Keeps.get_bind fun _ => (settles closes).setAll _) (Keeps.pure ())

theorem serviceHeartbeatReq {message : Message} {snr : Int}
    (request : message.buf.get 0 = MsgType.heartbeatReq.code) :
    Triple (episodic address).contract
      (Amid address false (some message) (Episode.taking message snr))
      (serviceHeartbeatReq message.srcAddr) fun _ => Rests address := by
  have opens : (episodic address).Opens (Episode.taking message snr) :=
    opens_taking message snr List.prefix_rfl
  have finishes : Finishes (Episode.taking message snr) [MsgType.heartbeatRsp.code, address]
      message.srcAddr (@Episode.heartbeatRsp address message snr request) := by
    constructor
    · intro settings acknowleged rspSnr
      rfl
    · intro settings acknowleged rspSnr before
      rfl
  refine within opens Phases.Opens.nil (Triple.bind (silent opens rfl) fun _ => ?_)
  refine Triple.get_bind fun known => ?_
  rintro ghost node ⟨⟨episodes, split, bears⟩, rfl⟩
  have same : node.thisAddress = address := bears.address
  rw [same]
  exact ((serviceTxSpan (by decide) finishes).post fun _ => forget) ghost node
    ⟨episodes, split, bears⟩

theorem serviceLinkChangeRsp :
    Keeps (episodic address).contract (Rests address) serviceLinkChangeRsp :=
  within Phases.Opens.nil Phases.Opens.nil (rearm _)

/-- A request is answered, and nothing else is. -/
theorem dispatch {message : Message} {snr : Int} :
    Triple (episodic address).contract
      (Amid address false (some message) (Episode.taking message snr)) (dispatch message)
      fun _ => Rests address := by
  have rests := @Phases.Opens.nil _ _ _ _ _ (episodic address)
  refine dispatch_triple serviceLinkChangeReq ?_ serviceHeartbeatReq ?_ ?_
  · intro response
    refine serviceLinkChangeRsp.pre (noticed ?_)
    rintro (request | request) <;> exact absurd (response.symm.trans request) (by decide)
  · intro response
    refine Triple.pre ?_ (noticed ?_)
    · exact serviceHeartbeatRsp_keeps (silent rests rfl) (silent rests rfl)
    · rintro (request | request) <;> exact absurd (response.symm.trans request) (by decide)
  · intro noRequest _ noHeartbeat
    exact noticed fun demands => demands.elim noRequest noHeartbeat

theorem trustRule : Keeps (episodic address).contract (Rests address) trustRule := by
  refine trustRule_triple (Keeps.update fun _ _ amid => ?_) (fun _ => onLinkTimer _)
    (onLinkTimer _) (onLinkTimer _) serviceTimers
  exact amid.mono fun _ bears => bears.count true

theorem serviceRx : Keeps (episodic address).contract (Rests address) serviceRx := by
  have reported (message : Message) : Triple (episodic address).contract
      (Amid address false (some message) [.took message]) (withRxMsg Node.report)
      fun _ ghost node => ∃ snr,
        Amid address false (some message) (Episode.taking message snr) ghost node := by
    refine withRxMsg_known ?_ (report message)
    rintro ghost node ⟨episodes, split, bears⟩
    exact bears.inbox message rfl
  have dispatched (message : Message) (snr : Int) : Triple (episodic address).contract
      (Amid address false (some message) (Episode.taking message snr)) (withRxMsg Node.dispatch)
      fun _ => Rests address := by
    refine withRxMsg_known ?_ dispatch
    rintro ghost node ⟨episodes, split, bears⟩
    exact bears.inbox message rfl
  have handled (message : Message) : Triple (episodic address).contract
      (Amid address false (some message) [.took message]) handleMessage
      fun _ => Rests address := by
    refine (reported message).bind fun _ => Triple.bind (Triple.unknown (dispatched message))
      fun _ => trustRule.bind fun _ => Keeps.update fun _ _ amid => ?_
    exact amid.mono fun _ bears =>
      ⟨bears.address, bears.due, nofun, bears.draft, bears.ackSnr⟩
  refine Keeps.bind serviceTimers fun _ => Triple.bind recvfromAckTimeout fun received => ?_
  cases received with
  | true => exact Triple.unknown handled
  | false => exact Triple.pure () fun _ _ => id

/-! ## Text -/

/-- The first byte of a draft with something in it is the one it was begun with. -/
theorem push_first {message : Message} (byte : UInt8) (later : message.bufLen ≠ 0) :
    (message.push byte).buf.get 0 = message.buf.get 0 :=
  Buffer.get_set_of_ne _ _ fun zero => later (UInt8.toNat_inj.1 zero)

theorem begin_first {message : Message} (empty : message.bufLen = 0) :
    (message.push MsgType.dataReq.code).buf.get 0 = MsgType.dataReq.code := by
  unfold Message.push
  rw [empty, UInt8.toNat_zero, Buffer.get_set_self _ _ (by decide)]

/-- Between two episodes, with a draft of which something is known. -/
abbrev Drafting (address : UInt8) (known : Message → Prop) :
    List Sign → LoraPoint2Point → Prop :=
  (episodic address).Amid
    (fun episodes node => Bears address false none episodes node ∧ known node.txMsg) []

theorem pushTxMsg (byte : UInt8) {known : Message → Prop}
    (kept : ∀ message, known message → ¬ Control (message.buf.get 0) →
      ¬ Control ((message.push byte).buf.get 0)) :
    Triple (episodic address).contract (Drafting address known) (pushTxMsg byte)
      fun _ => Drafting address fun draft => ∃ message, known message ∧ draft = message.push byte := by
  refine Triple.get_bind fun _ => Triple.pre ?_ fun _ _ => And.left
  refine Triple.bind (silent Phases.Opens.nil rfl) fun _ => ?_
  refine Phases.update fun episodes node ⟨bears, knows⟩ => ⟨?_, node.txMsg, knows, rfl⟩
  exact ⟨bears.address, bears.due, nofun, kept _ knows bears.draft, bears.ackSnr⟩

/-- A draft is begun as data; what is typed later leaves its first byte alone. -/
theorem textCharacter (inputChar : UInt8) :
    Keeps (episodic address).contract (Rests address) (textCharacter inputChar) := by
  have dropped {known : Message → Prop} : ∀ ghost node, Drafting address known ghost node →
      Rests address ghost node :=
    fun _ _ drafting => drafting.mono fun _ both => both.1
  have first : Triple (episodic address).contract (Drafting address fun draft => draft.bufLen = 0)
      (Node.pushTxMsg MsgType.dataReq.code)
      fun _ => Drafting address fun draft => draft.bufLen ≠ 0 := by
    refine (pushTxMsg _ fun message empty _ => ?_).post fun _ ghost node drafting => ?_
    · rw [begin_first empty]
      decide
    · refine Phases.Amid.mono drafting fun episodes both => ⟨both.1, ?_⟩
      obtain ⟨message, empty, same⟩ := both.2
      show node.txMsg.bufLen ≠ 0
      rw [same]
      show message.bufLen + 1 ≠ 0
      rw [empty]
      decide
  have pushed (byte : UInt8) : Triple (episodic address).contract
      (Drafting address fun draft => draft.bufLen ≠ 0) (Node.pushTxMsg byte)
      fun _ => Rests address := by
    refine (pushTxMsg _ fun message later free => ?_).post fun _ => dropped
    rw [push_first byte later]
    exact free
  have begins (known : LoraPoint2Point) : Triple (episodic address).contract
      (fun ghost node => Rests address ghost node ∧ node = known)
      (whenever (known.txMsg.bufLen = 0) (Node.pushTxMsg MsgType.dataReq.code))
      fun _ => Drafting address fun draft => draft.bufLen ≠ 0 := by
    refine Triple.ite (fun empty => first.pre ?_) fun later => ?_
    · rintro ghost node ⟨⟨episodes, split, bears⟩, rfl⟩
      exact ⟨episodes, split, bears, of_decide_eq_true empty⟩
    · refine Triple.pure () ?_
      rintro ghost node ⟨⟨episodes, split, bears⟩, rfl⟩
      exact ⟨episodes, split, bears, fun empty => later (decide_eq_true empty)⟩
  have typed : Triple (episodic address).contract (Drafting address fun draft => draft.bufLen ≠ 0)
      (textByte inputChar) fun _ => Rests address := by
    refine Triple.ite (fun _ => pushed _) fun _ => ?_
    refine Triple.ite (fun _ => Triple.pure () dropped) fun _ => ?_
    exact Triple.ite (fun _ => pushed _) fun _ => pushed _
  refine Triple.get_bind fun known => (begins known).bind fun _ => ?_
  refine Triple.ite (fun _ => Triple.pure 1 dropped) fun _ => ?_
  exact Triple.bind typed fun _ => Keeps.pure 0

theorem commandCharacter (inputChar : UInt8) :
    Keeps (episodic address).contract (Rests address) (commandCharacter inputChar) := by
  have opens := @Phases.Opens.nil _ _ _ _ _ (episodic address)
  have typed : ∀ message mode ghost node, Rests address ghost node →
      Rests address ghost { node with serialCmd := message, serialCommandMode := mode } :=
    fun _ _ _ _ amid => amid.mono fun _ bears => bears.move rfl rfl rfl rfl rfl
  refine Keeps.get_bind fun _ => (whenever_keeps ?_).bind fun _ => whenever_keeps ?_
  · refine Keeps.get_bind fun _ => Keeps.bind (silent opens rfl) fun _ => ?_
    exact Keeps.update fun ghost node => typed _ _ ghost node
  · refine (Types.runSerialCmd (settles opens)).bind fun _ => ?_
    exact Keeps.update fun ghost node => typed _ _ ghost node

theorem buildStringFromSerial (pending : List UInt8) :
    Keeps (episodic address).contract (Rests address) (buildStringFromSerial pending) := by
  refine Keeps.bind (silent Phases.Opens.nil rfl) fun _ => Keeps.foldlM (fun _ inputChar => ?_) _ _
  refine (whenever_keeps ?_).bind fun _ => Keeps.get_bind fun _ => Keeps.ite ?_ ?_
  · exact Keeps.update fun _ _ amid => amid.mono fun _ bears => bears.move rfl rfl rfl rfl rfl
  · exact (commandCharacter inputChar).bind fun _ => Keeps.pure 0
  · exact textCharacter inputChar

theorem setTxMessage (contents : List UInt8) (numChars : UInt8) :
    Keeps (episodic address).contract (Rests address) (setTxMessage contents numChars) := by
  refine Keeps.bind (Keeps.update fun _ _ amid => ?_) fun _ => Keeps.pure numChars
  refine amid.mono fun episodes bears => ?_
  refine ⟨bears.address, bears.due, nofun, ?_, bears.ackSnr⟩
  show ¬ Control (Buffer.get (Buffer.load _ _) 0)
  rw [Buffer.get_load_zero _ _ (by decide)]
  show ¬ Control MsgType.dataReq.code
  decide

/-! ## Sessions -/

/-- A message of the application is an episode of its own. -/
theorem sendsData {destAddress : UInt8} {buf : Span} {bufLen : UInt8} {ascii : Bool}
    (free : 0 < bufLen → Free (buf.cells.take bufLen.toNat)) :
    Keeps (episodic address).contract (Rests address)
      (Node.serviceTxSpan destAddress buf bufLen ascii) := by
  by_cases nonempty : 0 < bufLen
  · have finishes : Finishes [] (buf.cells.take bufLen.toNat) destAddress
        (fun settings acknowleged snr => @Episode.data address
          ⟨settings, _, destAddress, acknowleged, snr⟩ (free nonempty)) := by
      constructor
      · intro settings acknowleged snr
        rfl
      · intro settings acknowleged snr before
        rfl
    exact serviceTxSpan nonempty finishes
  · unfold Node.serviceTxSpan
    rw [if_neg nonempty]
    exact Keeps.pure ()

/-- What is sent of a draft begins with its first byte. -/
theorem free_draft {message : Message} (draft : ¬ Control (message.buf.get 0)) {bufLen : UInt8}
    (nonempty : 0 < bufLen) : Free (message.buf.cells.take bufLen.toNat) := by
  have length := message.buf.length_cells
  have positive : bufLen.toNat ≠ 0 := Nat.pos_iff_ne_zero.1 (UInt8.lt_iff_toNat_lt.1 nonempty)
  obtain ⟨more, count⟩ := Nat.exists_eq_succ_of_ne_zero positive
  unfold Buffer.get at draft
  rw [count]
  cases cells : message.buf.cells with
  | nil =>
      rw [cells] at length
      cases length
  | cons first rest =>
      rw [cells] at draft
      exact ⟨first, rfl, draft⟩

theorem serviceTx (destAddress : UInt8) :
    Keeps (episodic address).contract (Rests address) (serviceTx destAddress) := by
  refine Triple.get_bind fun known => ?_
  rintro ghost node ⟨⟨episodes, split, bears⟩, rfl⟩
  have emptied : Keeps (episodic address).contract (Rests address)
      (modify fun node => { node with txMsg.bufLen := 0 }) :=
    Keeps.update fun _ _ amid => amid.mono fun _ bears =>
      ⟨bears.address, bears.due, nofun, bears.draft, bears.ackSnr⟩
  have sent := @sendsData address destAddress ⟨.txMsgBuf, node.txMsg.buf.cells⟩ node.txMsg.bufLen true
    (free_draft bears.draft)
  exact (sent.bind fun _ => emptied) ghost node ⟨episodes, split, bears⟩

/-- The application sends no frame of its own that looks like a part of the protocol. -/
abbrev Plain (operation : Operation) : Prop := ∀ payload ∈ operation.payloads, Free payload

theorem operation {operation : Operation} (plain : Plain operation) :
    Keeps (episodic address).contract (Rests address) operation.run := by
  have settles := @settles address false none [] Phases.Opens.nil
  have heartbeats (change : SimpleTimer → SimpleTimer)
      (same : ∀ timer, (change timer).done = timer.done) :
      Keeps (episodic address).contract (Rests address) (onHeartbeatTimer change) :=
    Keeps.update fun _ _ amid => amid.mono fun _ bears => bears.move rfl (same _) rfl rfl rfl
  cases operation with
  | setSpreadingFactor value => exact settles.setSpreadingFactor value
  | setBandwidth value => exact settles.setBandwidth value
  | setFrequencyChannel value => exact settles.setFrequencyChannel value
  | setTxPower value => exact settles.setTxPower value
  | setTxMessage contents numChars => exact (setTxMessage contents numChars).map
  | buildStringFromSerial pending => exact (buildStringFromSerial pending).map
  | startHeartbeats => exact heartbeats SimpleTimer.start fun _ => rfl
  | stopHeartbeats => exact heartbeats SimpleTimer.pause fun _ => rfl
  | serviceTx destAddress => exact serviceTx destAddress
  | serviceTxSpan destAddress buf bufLen ascii =>
      refine sendsData fun nonempty => plain _ ?_
      simp only [Operation.payloads, if_pos nonempty, List.mem_singleton]
  | serviceRx => exact serviceRx
  | linkChangeReq destAddress settings => exact linkChangeReq destAddress settings
  | serviceTimers => exact serviceTimers

theorem setupRadio : Keeps (episodic address).contract (Rests address) setupRadio := by
  have opens := @Phases.Opens.nil _ _ _ _ _ (episodic address)
  have acts {action : Action} (hid : hidden action = true) :
      Keeps (episodic address).contract (Rests address) (perform action) := silent opens hid
  have settled := @settles address false none [] opens
  have reset : Keeps (episodic address).contract (Rests address) forceRadioReset :=
    Keeps.get_bind fun _ => (acts rfl).bind fun _ => (acts rfl).bind fun _ =>
      (acts rfl).bind fun _ => acts rfl
  refine Keeps.get_bind fun _ => (acts rfl).bind fun _ => (acts rfl).bind fun _ => ?_
  refine reset.bind fun _ => (acts rfl).bind fun _ => Keeps.ite (Keeps.pure false) ?_
  refine (acts rfl).bind fun _ => Keeps.ite (Keeps.pure false) ?_
  refine (settled.setSpreadingFactor _).bind fun _ => (settled.setBandwidth _).bind fun _ => ?_
  exact (settled.setTxPower _).bind fun _ => (settled.setFrequencyChannel _).bind fun _ =>
    Keeps.pure true

theorem session {operations : List Operation} (plain : ∀ operation ∈ operations, Plain operation) :
    Keeps (episodic address).contract (Rests address) (session operations) := by
  refine setupRadio.bind fun _ => Keeps.ite (Keeps.bind ?_ fun _ => Keeps.pure true) (Keeps.pure false)
  exact Keeps.forM_mem fun operation member => Episodic.operation (plain operation member)

theorem Bears.initial : Bears address false none [] (LoraPoint2Point.initial address) where
  address := rfl
  due := rfl
  inbox := nofun
  draft := by
    show ¬ Control 0
    decide
  ackSnr := rfl

end Episodic

/-- A message is sent, and then whatever has come is taken in. -/
def sendThenReceive : List Operation := [.serviceTxSpan 2 [1, 65] 2 true, .serviceRx]

theorem sendThenReceive_plain :
    ∀ operation ∈ sendThenReceive, ∀ payload ∈ operation.payloads, Free payload := by
  intro operation member payload sent
  simp only [sendThenReceive, List.mem_cons, List.not_mem_nil, or_false] at member
  rcases member with rfl | rfl
  · have same : payload = [1, 65] := by simpa [Operation.payloads] using sent
    exact ⟨1, same ▸ rfl, by decide⟩
  · cases sent

/-- The heartbeat of node 2 is in the air. -/
def heartbeatArrives : Surroundings := { receives := fun _ => .message [7, 2] 2 255 0 0 }

end Roam.Node
