import Roam.Interaction.Lockstep
import Roam.Node.Walk

/-!
# What a frame means

The dispatcher reads the first five cells of the receive buffer, whatever the
length of the frame.  Two nodes that differ only in old buffer contents are run
side by side; a frame means the same to both exactly if it brings every cell
that is read.
-/

namespace Roam.Node

open Roam.Data Roam.Interaction

/-! ## Twins -/

/-- Equal except for the contents of `rxMsg.buf`. -/
def EqualButBuffer (left right : LoraPoint2Point) : Prop :=
  ∃ buf, right = { left with rxMsg.buf := buf }

/-- The user is shown the same sender, recipient, id, flags and bytes. -/
def SameNotice : Action → Action → Prop
  | .rxInd left, .rxInd right =>
      (∃ buf, right = { left with buf := buf }) ∧ left.bytes = right.bytes
  | _, _ => False

/-- A message, if the answer is one, has the given payload. -/
def Brings (payload : List UInt8) : (action : Action) → action.Answer → Prop
  | .recvfromAckTimeout _ _, .message received _ _ _ _ => received = payload
  | _, _ => True

/-- States equal but for the buffer, the same questions, the same frame. -/
def butBuffer (payload : List UInt8) : Likeness LoraPoint2Point Action Action.Answer where
  states := EqualButBuffer
  notices := SameNotice
  allow := Brings payload

/-- Nodes that differ in the receive buffer only, in a way that `related` allows. -/
def twins (payload : List UInt8)
    (related : Message → Buffer UInt8 maxMessageLen → Prop) :
    Likeness LoraPoint2Point Action Action.Answer where
  states left right :=
    ∃ buf, right = { left with rxMsg.buf := buf } ∧ related left.rxMsg buf
  notices := SameNotice
  allow := Brings payload

namespace Twins

variable {payload : List UInt8} {related : Message → Buffer UInt8 maxMessageLen → Prop}

theorem refines : (twins payload related).Refines (butBuffer payload) where
  states := fun _ _ ⟨buf, same, _⟩ => ⟨buf, same⟩
  notices := fun _ _ => id
  allow := fun _ _ => id

theorem update {change : LoraPoint2Point → LoraPoint2Point}
    (commutes : ∀ node buf, change { node with rxMsg.buf := buf } =
      { change node with rxMsg.buf := buf })
    (same : ∀ node, (change node).rxMsg = node.rxMsg) :
    Respects (twins payload related) (modify change) := by
  refine Respects.update ?_
  rintro left _ ⟨buf, rfl, held⟩
  exact ⟨buf, commutes left buf, (same left).symm ▸ held⟩

/-- A procedure that reads nothing of the receive buffer. -/
theorem get_bind {Value : Type} {next : LoraPoint2Point → NodeM Value}
    (blind : ∀ node buf, next { node with rxMsg.buf := buf } = next node)
    (tail : ∀ node, Respects (twins payload related) (next node)) :
    Respects (twins payload related) (get >>= next) := by
  refine Respects.get_bind ?_
  rintro left _ ⟨buf, rfl, held⟩
  rw [blind left buf]
  exact tail left _ _ ⟨buf, rfl, held⟩

theorem perform (action : Action) : Respects (twins payload related) (perform action) :=
  Respects.ask action

theorem whenever {condition : Bool} {body : NodeM Unit}
    (respects : Respects (twins payload related) body) :
    Respects (twins payload related) (whenever condition body) :=
  .ite respects (.pure ())

theorem lookup {α : Type} [Inhabited α] (array : ArrayName) (table : List α)
    (position : Nat) : Respects (twins payload related) (lookup array table position) :=
  (perform _).bind fun _ => .pure _

theorem onLinkTimer (change : SimpleTimer → SimpleTimer) :
    Respects (twins payload related) (onLinkTimer change) :=
  update (fun _ _ => rfl) fun _ => rfl

/-! ## Transmission and setters -/

theorem printBufferAs (array : ArrayName) (size start : Nat) (bufLen : UInt8) (ascii : Bool) :
    Respects (twins payload related) (printBufferAs array size start bufLen ascii) :=
  .forM (fun _ => (perform _).bind fun _ => whenever (perform _)) _

theorem sendAndCount (sent : List UInt8) (destAddress : UInt8) :
    Respects (twins payload related) (sendAndCount sent destAddress) := by
  refine (perform _).bind fun acknowleged => .ite (.ite ?_ (.pure false)) ?_
  · refine (perform _).bind fun snr => ?_
    refine Respects.bind (update (fun _ _ => rfl) fun _ => rfl) fun _ => ?_
    exact Respects.bind (update (fun _ _ => rfl) fun _ => rfl) fun _ => .pure true
  · exact Respects.bind (update (fun _ _ => rfl) fun _ => rfl) fun _ => .pure false

theorem serviceTxSpan (destAddress : UInt8) (buf : Span) (bufLen : UInt8) (ascii : Bool) :
    Respects (twins payload related) (serviceTxSpan destAddress buf bufLen ascii) := by
  refine .ite ?_ (.pure ())
  refine (printBufferAs _ _ _ _ _).bind fun _ => (perform _).bind fun _ => ?_
  exact (sendAndCount _ _).bind fun _ => perform _

theorem storeSetting {store : LoraPoint2Point → LoraPoint2Point}
    (commutes : ∀ node buf, store { node with rxMsg.buf := buf } =
      { store node with rxMsg.buf := buf })
    (same : ∀ node, (store node).rxMsg = node.rxMsg) :
    Respects (twins payload related) (storeSetting store) := by
  refine (perform _).bind fun _ => Respects.bind (update (fun _ _ => rfl) fun _ => rfl) fun _ => ?_
  refine (update commutes same).bind fun _ => ?_
  exact get_bind (fun _ _ => rfl) fun _ => perform _

theorem setAll (settings : Settings) : Respects (twins payload related) (setAll settings) := by
  have stored := @storeSetting payload related
  refine Respects.bind ?_ fun _ => Respects.bind ?_ fun _ => Respects.bind ?_ fun _ => ?_
  · refine .ite (.pure ()) ((lookup _ _ _).bind fun _ => (perform _).bind fun _ => ?_)
    exact stored (fun _ _ => rfl) fun _ => rfl
  · refine .ite (.pure ()) ((lookup _ _ _).bind fun _ => (perform _).bind fun _ => ?_)
    exact stored (fun _ _ => rfl) fun _ => rfl
  · refine .ite (.pure ()) ((perform _).bind fun _ => ?_)
    exact stored (fun _ _ => rfl) fun _ => rfl
  · refine .ite (.pure ()) ((lookup _ _ _).bind fun _ => (perform _).bind fun _ => .ite ?_ ?_)
    · exact (perform _).bind fun never => nomatch never
    · exact stored (fun _ _ => rfl) fun _ => rfl

theorem within {procedure : Procedure} {body : NodeM Unit}
    (respects : Respects (twins payload related) body) :
    Respects (twins payload related) (within procedure body) :=
  (perform _).bind fun _ => respects.bind fun _ => perform _

/-! ## Timers and handlers -/

theorem serviceTimers : Respects (twins payload related) serviceTimers := by
  refine (perform _).bind fun now => Respects.bind (update (fun _ _ => rfl) fun _ => rfl) fun _ => ?_
  refine (onLinkTimer _).bind fun _ => Respects.bind (update (fun _ _ => rfl) fun _ => rfl) fun _ => ?_
  have rollback : Respects (twins payload related) linkChangeReqTimeout := by
    refine within ((onLinkTimer _).bind fun _ => ?_)
    exact get_bind (fun _ _ => rfl) fun _ => setAll _
  have heartbeat : Respects (twins payload related) heartbeatReq :=
    get_bind (fun _ _ => rfl) fun _ => serviceTxSpan _ _ _ _
  refine get_bind (fun _ _ => rfl) fun _ => (whenever ?_).bind fun _ => ?_
  · exact rollback.bind fun _ => onLinkTimer _
  · refine get_bind (fun _ _ => rfl) fun _ => whenever (heartbeat.bind fun _ => ?_)
    exact update (fun _ _ => rfl) fun _ => rfl

theorem serviceLinkChangeReq (srcAddress : UInt8) (settings : Settings) :
    Respects (twins payload related) (serviceLinkChangeReq srcAddress settings) := by
  refine within (Respects.bind ?_ fun _ => (setAll settings).bind fun _ => ?_)
  · exact (lookup _ _ _).bind fun _ => (lookup _ _ _).bind fun _ =>
      (lookup _ _ _).bind fun _ => .pure _
  · refine get_bind (fun _ _ => rfl) fun _ => (perform _).bind fun _ => ?_
    refine (perform _).bind fun _ => .ite ?_ (.pure ())
    exact get_bind (fun _ _ => rfl) fun _ => setAll _

theorem serviceLinkChangeRsp : Respects (twins payload related) serviceLinkChangeRsp := by
  refine within ((onLinkTimer _).bind fun _ => (onLinkTimer _).bind fun _ => ?_)
  exact (onLinkTimer _).bind fun _ => serviceTimers.bind fun _ => onLinkTimer _

theorem serviceHeartbeatReq (srcAddr : UInt8) :
    Respects (twins payload related) (serviceHeartbeatReq srcAddr) := by
  refine within ((perform _).bind fun _ => ?_)
  exact get_bind (fun _ _ => rfl) fun _ => serviceTxSpan _ _ _ _

theorem trustRule : Respects (twins payload related) trustRule := by
  refine Respects.bind (update (fun _ _ => rfl) fun _ => rfl) fun _ => ?_
  refine get_bind (fun _ _ => rfl) fun _ => .ite ?_ (.pure ())
  refine get_bind (fun _ _ => rfl) fun _ => (onLinkTimer _).bind fun _ => ?_
  refine get_bind (fun _ _ => rfl) fun _ => .ite ?_ (.pure ())
  exact (onLinkTimer _).bind fun _ => (onLinkTimer _).bind fun _ => serviceTimers

theorem printBuffer (buf : Span) (bufLen : UInt8) :
    Respects (twins payload related) (printBuffer buf bufLen) := by
  refine (perform _).bind fun _ => ?_
  split <;> exact printBufferAs _ _ _ _ _

theorem dispatch (rxMsg : Message) : Respects (twins payload related) (dispatch rxMsg) := by
  unfold Node.dispatch
  split
  · exact serviceLinkChangeReq _ _
  · exact serviceLinkChangeRsp
  · exact serviceHeartbeatReq _
  · exact within (.pure ())
  · exact .pure ()

end Twins

/-! ## Self-contained frames -/

/-- The frame brings its type byte and, as a link change request, all five bytes. -/
def SelfContained (payload : List UInt8) : Prop :=
  payload ≠ [] ∧ (payload.head? = some MsgType.linkChangeReq.code → 5 ≤ payload.length)

instance (payload : List UInt8) : Decidable (SelfContained payload) :=
  inferInstanceAs (Decidable (_ ∧ (_ → _)))

/-- Both buffers show the same message and lead to the same branch. -/
structure Agreed (message : Message) (buf : Buffer UInt8 maxMessageLen) : Prop where
  bytes : message.bytes = { message with buf := buf }.bytes
  type : message.buf.get 0 = buf.get 0
  settings : message.buf.get 0 = MsgType.linkChangeReq.code →
    message.requestedSettings = { message with buf := buf }.requestedSettings

namespace Message

/-- A frame that fits replaces the front of a buffer that is offered whole. -/
theorem overwrite_of_whole {message : Message} (whole : message.bufLen = 128)
    {payload : List UInt8} (fits : payload.length ≤ maxMessageLen) :
    message.overwrite payload =
      { message with buf := message.buf.load payload, bufLen := UInt8.ofNat payload.length } := by
  have kept : payload.take message.bufLen.toNat = payload := by
    rw [whole]
    exact List.take_of_length_le fits
  simp only [overwrite, kept]

end Message

theorem Agreed.of_selfContained (message : Message) (buf : Buffer UInt8 maxMessageLen)
    {payload : List UInt8} (fits : payload.length ≤ maxMessageLen)
    (contained : SelfContained payload) :
    Agreed { message with buf := message.buf.load payload, bufLen := UInt8.ofNat payload.length }
      (buf.load payload) := by
  have count : (UInt8.ofNat payload.length).toNat = payload.length := by
    have fits : payload.length ≤ 128 := fits
    rw [UInt8.toNat_ofNat']
    omega
  have cell : ∀ index < payload.length,
      (message.buf.load payload).get index = (buf.load payload).get index := by
    intro index inside
    rw [Buffer.get_load_of_lt _ fits inside, Buffer.get_load_of_lt _ fits inside]
  have first : 0 < payload.length := List.length_pos_of_ne_nil contained.1
  refine ⟨?_, cell 0 first, fun type => ?_⟩
  · show (message.buf.load payload).upTo _ = (buf.load payload).upTo _
    rw [count, Buffer.upTo_load _ fits, Buffer.upTo_load _ fits]
  · have head : payload.head? = some MsgType.linkChangeReq.code := by
      rw [← type]
      show payload.head? = some ((message.buf.load payload).get 0)
      rw [Buffer.get_load_of_lt _ fits first]
      cases payload with
      | nil => exact absurd rfl contained.1
      | cons byte rest => rfl
    have enough := contained.2 head
    simp only [Message.requestedSettings, cell 1 (by omega), cell 2 (by omega),
      cell 3 (by omega), cell 4 (by omega)]

namespace Agreed

variable {payload : List UInt8}

theorem report : Respects (twins payload Agreed) (withRxMsg report) := by
  rintro left _ ⟨buf, rfl, agreed⟩
  refine .notice ⟨buf, rfl, agreed⟩ ⟨⟨buf, rfl⟩, agreed.bytes⟩ fun _ _ => ?_
  refine .ask ⟨buf, rfl, agreed⟩ fun snr _ => ?_
  have printed : Node.printBuffer ⟨.rxMsgBuf, buf.cells⟩ left.rxMsg.bufLen =
      Node.printBuffer ⟨.rxMsgBuf, left.rxMsg.buf.cells⟩ left.rxMsg.bufLen := by
    have type : left.rxMsg.buf.cells.getD 0 0 = buf.cells.getD 0 0 := agreed.type
    unfold Node.printBuffer
    rw [type]
  show Resumption.Alike _ (Node.printBuffer _ _ _)
    (Node.printBuffer ⟨.rxMsgBuf, buf.cells⟩ left.rxMsg.bufLen _)
  rw [printed]
  exact Twins.printBuffer _ _ _ _ ⟨buf, rfl, agreed⟩

theorem dispatch : Respects (twins payload Agreed) (withRxMsg dispatch) := by
  rintro left _ ⟨buf, rfl, agreed⟩
  have same : Node.dispatch { left.rxMsg with buf := buf } = Node.dispatch left.rxMsg := by
    unfold Node.dispatch
    rw [← agreed.type]
    cases found : MsgType.ofCode? (left.rxMsg.buf.get 0) with
    | none => rfl
    | some type =>
        cases type with
        | linkChangeReq =>
            have request := agreed.settings (MsgType.ofCode?_eq_some_iff.1 found)
            simp only [request]
        | _ => rfl
  show Resumption.Alike _ (Node.dispatch _ _) (Node.dispatch { left.rxMsg with buf := buf } _)
  rw [same]
  exact Twins.dispatch _ _ _ ⟨buf, rfl, agreed⟩

/-- A message both nodes agree on is handled alike. -/
theorem handleMessage (left right : LoraPoint2Point)
    (states : (twins payload Agreed).states left right) :
    (handleMessage left).Alike (butBuffer payload) (handleMessage right) := by
  refine Respects.bind_refined Twins.refines report (fun _ => ?_) left right states
  refine Respects.bind_refined Twins.refines dispatch fun _ => ?_
  refine Respects.bind_refined Twins.refines Twins.trustRule fun _ => ?_
  rintro left _ ⟨buf, rfl, -⟩
  exact .done () ⟨buf, rfl⟩

end Agreed

/-- A self-contained frame, taken in whole, is serviced alike. -/
theorem serviceRx_alike {payload : List UInt8} (fits : payload.length ≤ maxMessageLen)
    (contained : SelfContained payload) {left right : LoraPoint2Point}
    (whole : left.rxMsg.bufLen = 128) (equal : EqualButBuffer left right) :
    (serviceRx left).Alike (butBuffer payload) (serviceRx right) := by
  obtain ⟨buf, rfl⟩ := equal
  have offered : (twins payload fun message _ => message.bufLen = 128).states left
      { left with rxMsg.buf := buf } := ⟨buf, rfl, whole⟩
  refine Respects.bind_refined Twins.refines Twins.serviceTimers (fun _ => ?_) _ _ offered
  rintro left _ ⟨buf, rfl, whole⟩
  have other : ({ left.rxMsg with buf := buf } : Message).bufLen = 128 := whole
  refine .ask ⟨buf, rfl⟩ fun reception brought => ?_
  cases reception with
  | nothing => exact .done () ⟨buf, rfl⟩
  | filtered kept => exact .done () ⟨_, rfl⟩
  | message received srcAddr destAddr msgId flags =>
      have brought : received = payload := brought
      subst brought
      refine Agreed.handleMessage _ _ ⟨buf.load received, ?_, ?_⟩
      · simp only [Message.afterReception, Message.overwrite_of_whole whole fits,
          Message.overwrite_of_whole other fits]
      · simp only [Message.afterReception, Message.overwrite_of_whole whole fits]
        have agreed := Agreed.of_selfContained left.rxMsg buf fits contained
        exact ⟨agreed.bytes, agreed.type, agreed.settings⟩

/-- Whatever one node does on the frame, the other can do as well: the same steps
in the same states but for the buffer, up to the same end. -/
def ServicedAlike (payload : List UInt8) : Prop :=
  ∀ left right, left.rxMsg.bufLen = 128 → EqualButBuffer left right →
    ∀ (trace : List NodeStep) (last : NodeRun Unit),
      Resumption.Runs (serviceRx left) trace last →
      (∀ step ∈ trace, Brings payload step.action step.answer) →
        ∃ others final, Resumption.Runs (serviceRx right) others final ∧
          List.Forall₂ (butBuffer payload).Steps trace others ∧
          ∀ node, last = .done node () →
            ∃ other, final = .done other () ∧ EqualButBuffer node other

theorem servicedAlike_of_selfContained {payload : List UInt8}
    (fits : payload.length ≤ maxMessageLen) (contained : SelfContained payload) :
    ServicedAlike payload := by
  intro left right whole equal trace last run brought
  have replies : ∀ first second, SameNotice first second → Nonempty second.Answer := by
    intro first second same
    cases second with
    | rxInd message => exact ⟨()⟩
    | _ => cases first <;> exact same.elim
  have alike := serviceRx_alike fits contained whole equal
  obtain ⟨others, final, other, steps, ends⟩ := alike.counterpart replies run brought
  refine ⟨others, final, other, steps, ?_⟩
  rintro node rfl
  exact ends.of_done

/-! ## Frames that are not self-contained -/

/-- Surroundings in which nothing fails and the given frame arrives. -/
def Smooth (payload : List UInt8) : (action : Action) → action.Answer → Prop
  | .rf95SetFrequency _, ok => ok = true
  | .sendtoWait _ _, ok => ok = true
  | .recvfromAckTimeout _ _, reception => reception = .message payload 9 1 0 0
  | _, _ => True

/-- In such surroundings the node never halts. -/
def smooth (payload : List UInt8) : Contract LoraPoint2Point Action Action.Answer Unit where
  require _ _ action := action ≠ .halt
  allow _ _ action answer := Smooth payload action answer
  record _ _ _ _ := ()

theorem smooth_live (payload : List UInt8) (ghost : Unit) (node : LoraPoint2Point)
    (action : Action) (required : (smooth payload).require ghost node action) :
    ∃ answer, (smooth payload).allow ghost node action answer := by
  cases action with
  | halt => exact absurd rfl required
  | millis => exact ⟨0, trivial⟩
  | rf95Init => exact ⟨true, trivial⟩
  | rhReliableDatagramInit => exact ⟨true, trivial⟩
  | rf95SetFrequency => exact ⟨true, rfl⟩
  | rf95LastSNR => exact ⟨0, trivial⟩
  | sendtoWait => exact ⟨true, rfl⟩
  | recvfromAckTimeout => exact ⟨_, rfl⟩
  | uninitialised => exact ⟨0, trivial⟩
  | _ => exact ⟨(), trivial⟩

/-- The rollback timer rests, and `message` is in the receive buffer. -/
def Resting (message : Message) (_ : Unit) (node : LoraPoint2Point) : Prop :=
  node.linkChangeTimeoutTimer.started = false ∧ node.linkChangeTimeoutTimer.done = false ∧
    node.rxMsg = message

namespace Resting

variable {payload : List UInt8} {message : Message}

theorem perform {keep : Unit → LoraPoint2Point → Prop} {action : Action}
    (running : action ≠ .halt) : Keeps (smooth payload) keep (perform action) :=
  fun _ _ kept => ⟨running, fun _ _ => kept⟩

theorem carries : Carries (smooth payload) (Resting message) where
  plain action plain := perform (by rintro rfl; cases plain)
  index _ _ _ _ := perform nofun
  sendtoWait _ _ := perform nofun
  statistics _ _ _ := id
  ackSnr _ _ _ := id
  heartbeatTimer _ _ _ := id

theorem settles : Settles (smooth payload) (Resting message) := by
  have tunable : Tunable (smooth payload) (Resting message) := {
    index := carries.index
    tunes := fun action tunes => perform (by rintro rfl; cases tunes)
    setFrequency := fun _ _ _ resting =>
      ⟨nofun, fun ok allowed => ⟨resting, fun failed => absurd (allowed.symm.trans failed) nofun⟩⟩
    reset := fun _ _ => id }
  exact tunable.toAdjusts.settles fun _ _ _ _ => id

theorem serviceTimers : Keeps (smooth payload) (Resting message) serviceTimers := by
  refine carries.serviceTimers ?_ (fun _ _ resting _ => resting) ?_
  · rintro ghost node ⟨stopped, clear, same⟩
    refine ⟨nofun, fun now _ heartbeat => ?_⟩
    rw [SimpleTimer.update_of_stopped stopped]
    exact ⟨stopped, clear, same⟩
  · rintro ghost node ⟨⟨_, clear, _⟩, raised⟩
    rw [clear] at raised
    cases raised

end Resting

/-- Resting, with the given power in force. -/
def Powered (txPower : Int8) (message : Message) (ghost : Unit) (node : LoraPoint2Point) : Prop :=
  Resting message ghost node ∧ node.current.txPower = txPower

theorem withSettings_txPower (node : LoraPoint2Point) {settings : Settings}
    (inside : ¬ (maxTxPower < settings.txPower ∨ settings.txPower < minTxPower)) :
    (node.withSettings settings).current.txPower = settings.txPower := by
  simp only [LoraPoint2Point.withSettings, LoraPoint2Point.withTxPower, if_neg inside,
    LoraPoint2Point.withFrequencyChannel]
  split <;> rfl

namespace Powered

variable {payload : List UInt8} {message : Message} {txPower : Int8}

theorem serviceLinkChangeReq (srcAddress : UInt8) {settings : Settings}
    (inside : ¬ (maxTxPower < settings.txPower ∨ settings.txPower < minTxPower)) :
    Triple (smooth payload) (Resting message) (serviceLinkChangeReq srcAddress settings)
      fun _ => Powered settings.txPower message := by
  have reads : ReadsAnywhere (smooth payload) (Resting message) :=
    fun _ _ _ => Resting.perform nofun
  have set : Triple (smooth payload) (Resting message) (setAll settings)
      fun _ => Powered settings.txPower message := by
    intro ghost node resting
    have settles : Settles (smooth payload) (Resting message) := Resting.settles
    have kept := settles.setAll settings ghost node resting
    refine (kept.and_ends (setAll_ends node settings)).mono ?_
    rintro ghost later _ ⟨rested, rfl⟩
    exact ⟨rested, withSettings_txPower node inside⟩
  refine Triple.bind (Resting.perform nofun) fun _ => Triple.bind ?_ fun _ => Resting.perform nofun
  refine Triple.bind (reads.printSettings settings) fun _ => Triple.bind set fun _ => ?_
  refine Keeps.get_bind fun _ => Keeps.bind (Resting.perform nofun) fun _ => ?_
  intro ghost node powered
  refine ⟨nofun, fun ok acknowledged => ?_⟩
  have acknowledged : ok = true := acknowledged
  subst acknowledged
  exact powered

theorem handleMessage (request : message.buf.get 0 = MsgType.linkChangeReq.code)
    (inside : ¬ (maxTxPower < message.requestedSettings.txPower ∨
      message.requestedSettings.txPower < minTxPower)) :
    Triple (smooth payload) (Resting message) handleMessage fun _ _ node =>
      node.current.txPower = message.requestedSettings.txPower := by
  have reads : ReadsAnywhere (smooth payload) (Resting message) :=
    fun _ _ _ => Resting.perform nofun
  have known : ∀ ghost node, Resting message ghost node → node.rxMsg = message :=
    fun _ _ resting => resting.2.2
  have reported := report_keeps (Resting.carries.plain _ rfl) (Resting.carries.plain _ rfl)
    (reads.printBuffer ⟨.rxMsgBuf, message.buf.cells⟩ message.bufLen)
  have dispatched : Triple (smooth payload) (Resting message) (dispatch message)
      fun _ => Powered message.requestedSettings.txPower message := by
    unfold dispatch
    rw [request, MsgType.ofCode?_code]
    exact serviceLinkChangeReq _ inside
  refine Triple.bind (withRxMsg_known known reported) fun _ => ?_
  refine Triple.bind (withRxMsg_known known dispatched) fun _ => ?_
  rintro ghost node ⟨⟨stopped, _, _⟩, power⟩
  simp [trustRule, LoraPoint2Point.updatePacketErrorFraction, SimpleTimer.isRunning, stopped, power]

/-- A request on stale bytes sets the stale power. -/
theorem serviceRx {node : LoraPoint2Point} (stopped : node.linkChangeTimeoutTimer.started = false)
    (clear : node.linkChangeTimeoutTimer.done = false)
    (taken : message = node.rxMsg.afterReception (.message payload 9 1 0 0))
    (request : message.buf.get 0 = MsgType.linkChangeReq.code)
    (inside : ¬ (maxTxPower < message.requestedSettings.txPower ∨
      message.requestedSettings.txPower < minTxPower)) :
    (Node.serviceRx node).Meets (smooth payload) (fun _ later _ =>
      later.current.txPower = message.requestedSettings.txPower) () := by
  have triple : Triple (smooth payload) (Resting node.rxMsg) Node.serviceRx fun _ _ later =>
      later.current.txPower = message.requestedSettings.txPower := by
    refine Triple.bind Resting.serviceTimers fun _ => ?_
    rintro ghost later ⟨stopped, clear, same⟩
    refine ⟨nofun, fun reception arrived => ?_⟩
    have arrived : reception = .message payload 9 1 0 0 := arrived
    subst arrived
    refine handleMessage request inside _ _ ⟨stopped, clear, ?_⟩
    rw [taken, ← same]
  exact triple () node ⟨stopped, clear, rfl⟩

end Powered

/-- A fresh node whose receive buffer still holds a link change request. -/
def staleNode (txPower : UInt8) : LoraPoint2Point :=
  { LoraPoint2Point.initial 1 with
    rxMsg.buf := (Buffer.filled maxMessageLen 0).load [3, 0, 2, 0, txPower] }

/-- The stale request is what the dispatcher sees. -/
theorem staleNode_request {payload : List UInt8} (contained : ¬ SelfContained payload)
    (txPower : UInt8) :
    let message := (staleNode txPower).rxMsg.afterReception (.message payload 9 1 0 0)
    message.buf.get 0 = MsgType.linkChangeReq.code ∧
      message.requestedSettings.txPower = txPower.toInt8 := by
  have stale : payload = [] ∨ payload.head? = some MsgType.linkChangeReq.code ∧
      payload.length < 5 := by
    by_contra neither
    rw [not_or, not_and, not_lt] at neither
    exact contained neither
  have short : payload.length ≤ 4 := by
    rcases stale with empty | ⟨_, short⟩
    · rw [empty]
      exact Nat.zero_le 4
    · exact Nat.le_of_lt_succ short
  have fits : payload.length ≤ maxMessageLen := short.trans (by decide)
  have whole : (staleNode txPower).rxMsg.bufLen = 128 := rfl
  have kept : ∀ index, payload.length ≤ index →
      ((staleNode txPower).rxMsg.buf.load payload).get index =
        (staleNode txPower).rxMsg.buf.get index :=
    fun index outside => Buffer.get_load_of_le _ fits outside
  simp only [Message.afterReception, Message.overwrite_of_whole whole fits,
    Message.requestedSettings, kept 4 short]
  refine ⟨?_, rfl⟩
  cases payload with
  | nil => exact kept 0 (Nat.le_refl 0)
  | cons byte rest =>
      rw [Buffer.get_load_of_lt _ fits (Nat.succ_pos _)]
      rcases stale with empty | ⟨head, _⟩
      · cases empty
      · exact Option.some.inj head

theorem smooth_allows_iff {payload : List UInt8} {trace : List NodeStep} :
    (smooth payload).Allows () trace ↔ ∀ step ∈ trace, Smooth payload step.action step.answer :=
  (smooth payload).allows_iff (fun _ _ _ _ => Iff.rfl) () trace

theorem Smooth.brings {payload : List UInt8} {action : Action} {answer : action.Answer}
    (arrived : Smooth payload action answer) : Brings payload action answer := by
  cases action with
  | recvfromAckTimeout capacity timeout =>
      have arrived : answer = .message payload 9 1 0 0 := arrived
      rw [arrived]
      exact rfl
  | _ => trivial

/-- Lockstep keeps the surroundings smooth. -/
theorem smooth_counterpart {payload : List UInt8} {trace others : List NodeStep}
    (steps : List.Forall₂ (butBuffer payload).Steps trace others)
    (arrived : ∀ step ∈ trace, Smooth payload step.action step.answer) :
    ∀ step ∈ others, Smooth payload step.action step.answer := by
  induction steps with
  | nil => exact fun _ member => absurd member List.not_mem_nil
  | cons step rest ih =>
      rw [List.forall_mem_cons] at arrived ⊢
      refine ⟨?_, ih arrived.2⟩
      cases step with
      | same action answer states => exact arrived.1
      | @noticed _ _ first second answer other states notices =>
          cases second with
          | rxInd message => trivial
          | _ => cases first <;> exact notices.elim

theorem selfContained_of_servicedAlike {payload : List UInt8}
    (alike : ServicedAlike payload) : SelfContained payload := by
  by_contra contained
  obtain ⟨request, power⟩ := staleNode_request contained 2
  obtain ⟨otherRequest, otherPower⟩ := staleNode_request contained 3
  have inside : ¬ (maxTxPower < UInt8.toInt8 2 ∨ UInt8.toInt8 2 < minTxPower) := by decide
  have otherInside : ¬ (maxTxPower < UInt8.toInt8 3 ∨ UInt8.toInt8 3 < minTxPower) := by decide
  rw [← power] at inside
  rw [← otherPower] at otherInside
  have first := Powered.serviceRx rfl rfl rfl request inside
  have second := Powered.serviceRx rfl rfl rfl otherRequest otherInside
  obtain ⟨trace, node, _, run, allowed, reached⟩ := first.exists_run (smooth_live payload)
  have arrived := smooth_allows_iff.1 allowed
  obtain ⟨others, final, other, steps, ends⟩ := alike (staleNode 2) (staleNode 3) rfl
    ⟨_, rfl⟩ trace _ run fun step member => (arrived step member).brings
  obtain ⟨last, rfl, buf, rfl⟩ := ends node rfl
  have otherReached := second.runs other (smooth_allows_iff.2 (smooth_counterpart steps arrived))
  have same := reached.symm.trans otherReached
  rw [power, otherPower] at same
  exact absurd same (by decide)

/-- A frame means the same to every node, whatever its buffer held before, exactly
if it is self-contained. -/
theorem servicedAlike_iff (payload : List UInt8) (fits : payload.length ≤ maxMessageLen) :
    ServicedAlike payload ↔ SelfContained payload := by
  constructor
  · exact selfContained_of_servicedAlike
  · exact servicedAlike_of_selfContained fits

theorem servicedAlike_iff_truncated_request : ¬ ServicedAlike [3, 1] := by
  rw [servicedAlike_iff [3, 1] (by decide)]
  decide

/-- A request of two bytes takes bandwidth, channel and power from older frames. -/
theorem truncated_request_reads_stale_bytes :
    ¬ ∀ payload : List UInt8, payload.length ≤ maxMessageLen → ServicedAlike payload := by
  intro always
  have contained := selfContained_of_servicedAlike (always [3, 1] (by decide))
  exact absurd contained (by decide)

end Roam.Node
