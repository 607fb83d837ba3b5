import Roam.Node.Session

/-!
# Invariants along the program text

Most invariants of a node are touched by a few of its procedures only.  This
module says, for an arbitrary contract and an arbitrary invariant, which closure
facts carry the invariant through each procedure.  A later invariant proves the
closure facts and the procedures it is really about; the walk through the rest
of the text is done here, once.
-/

namespace Roam.Node

open Roam.Interaction

namespace Action

/-- Actions without an effect on any link, timer or message: pins, waits and the
user's message callbacks. -/
def plain : Action → Bool
  | .delay _ => true
  | .digitalWrite _ _ => true
  | .rf95Init => true
  | .rhReliableDatagramInit => true
  | .rf95WaitCAD => true
  | .rf95LastSNR => true
  | .txInd _ _ _ => true
  | .rxInd _ => true
  | .uninitialised => true
  | _ => false

/-- Plain actions of the object itself, which never waits for no time at all. -/
def internal : Action → Bool
  | .delay milliseconds => milliseconds != 0
  | action => action.plain

theorem plain_of_internal {action : Action} (internal : action.internal = true) :
    action.plain = true := by
  cases action <;> first | rfl | exact internal

/-- Driver calls of the setters, except for the frequency driver, which can fail. -/
def adjusts : Action → Bool
  | .rf95SetSpreadingFactor _ => true
  | .rf95SetSignalBandwidth _ => true
  | .rf95SetTxPower _ _ => true
  | _ => false

/-- Actions made by the four setters, except for their table look-ups and the
frequency driver, which can fail. -/
def tunes : Action → Bool
  | .rf95SetSpreadingFactor _ => true
  | .rf95SetSignalBandwidth _ => true
  | .rf95SetTxPower _ _ => true
  | .rf95SetModeIdle => true
  | .linkChangeInd _ => true
  | _ => false

theorem tunes_of_adjusts {action : Action} (adjusts : action.adjusts = true) :
    action.tunes = true := by
  cases action <;> first | rfl | cases adjusts

end Action

variable {Ghost : Type} {contract : Contract LoraPoint2Point Action Action.Answer Ghost}
variable {keep : Ghost → LoraPoint2Point → Prop} {sends : List UInt8 → Prop}

/-- The invariant survives plain actions of the object, array reads in range and
counted transmissions of the frames that may be sent.  Heartbeats may be sent. -/
structure Emits (sends : List UInt8 → Prop)
    (contract : Contract LoraPoint2Point Action Action.Answer Ghost)
    (keep : Ghost → LoraPoint2Point → Prop) : Prop where
  internal : ∀ action : Action, action.internal = true → Keeps contract keep (perform action)
  index : ∀ array position size, position < size →
    Keeps contract keep (perform (.index array position size))
  sendAndCount : ∀ payload destAddress, sends payload →
    Keeps contract keep (sendAndCount payload destAddress)
  heartbeatReq : ∀ address, sends [MsgType.heartbeatReq.code, address]
  heartbeatRsp : ∀ address, sends [MsgType.heartbeatRsp.code, address]

/-- The invariant survives all plain actions and the bookkeeping of the heartbeat
timer, too. -/
structure Transmits (sends : List UInt8 → Prop)
    (contract : Contract LoraPoint2Point Action Action.Answer Ghost)
    (keep : Ghost → LoraPoint2Point → Prop) : Prop extends Emits sends contract keep where
  plain : ∀ action : Action, action.plain = true → Keeps contract keep (perform action)
  internal action internal := plain action (Action.plain_of_internal internal)
  heartbeatTimer : ∀ timer ghost node, keep ghost node →
    keep ghost { node with heartbeatTimer := timer }

/-- A counted transmission, for an invariant that does not relate the outcome of
a transmission to the statistics. -/
theorem sendAndCount_keeps (lastSNR : Keeps contract keep (perform .rf95LastSNR))
    (sendtoWait : ∀ payload destAddress, Keeps contract keep (sendtoWait payload destAddress))
    (statistics : ∀ packetSuccess ghost node, keep ghost node →
      keep ghost (node.updatePacketErrorFraction packetSuccess))
    (ackSnr : ∀ snr ghost node, keep ghost node → keep ghost { node with ackSnr := snr })
    (payload : List UInt8) (destAddress : UInt8) :
    Keeps contract keep (sendAndCount payload destAddress) := by
  refine (sendtoWait payload destAddress).bind fun acknowleged => .ite (.ite ?_ ?_) ?_
  · refine lastSNR.bind fun snr => (Keeps.update (ackSnr snr)).bind fun _ => ?_
    exact (Keeps.update (statistics true)).bind fun _ => .pure true
  · exact .pure false
  · exact (Keeps.update (statistics false)).bind fun _ => .pure false

/-- The invariant also survives every single step of a counted transmission. -/
structure Carries (contract : Contract LoraPoint2Point Action Action.Answer Ghost)
    (keep : Ghost → LoraPoint2Point → Prop) : Prop extends Transmits (fun _ => True) contract keep where
  sendtoWait : ∀ payload destAddress, Keeps contract keep (sendtoWait payload destAddress)
  statistics : ∀ packetSuccess ghost node, keep ghost node →
    keep ghost (node.updatePacketErrorFraction packetSuccess)
  ackSnr : ∀ snr ghost node, keep ghost node → keep ghost { node with ackSnr := snr }
  sendAndCount payload destAddress _ :=
    sendAndCount_keeps (plain _ rfl) sendtoWait statistics ackSnr payload destAddress
  heartbeatReq _ := trivial
  heartbeatRsp _ := trivial

theorem whenever_keeps {condition : Bool} {body : NodeM Unit} (keeps : Keeps contract keep body) :
    Keeps contract keep (whenever condition body) :=
  .ite keeps (.pure ())

namespace Emits

theorem lookup (carries : Emits sends contract keep) {α : Type} [Inhabited α]
    (array : ArrayName) {table : List α} {position : Nat} (inside : position < table.length) :
    Keeps contract keep (lookup array table position) :=
  (carries.index _ _ _ inside).bind fun _ => .pure _

/-! ## Transmission -/

theorem printBufferAs {array : ArrayName} {size start : Nat} {bufLen : UInt8}
    (reads : ∀ i < bufLen.toNat, Keeps contract keep (perform (.index array (start + i) size)))
    (ascii : Bool) : Keeps contract keep (printBufferAs array size start bufLen ascii) := by
  refine Keeps.forM_mem fun i member => ?_
  have read := reads i (List.mem_range.1 member)
  exact read.bind fun _ => whenever_keeps read

/-- Printing what follows the first byte of a non-empty array stays inside it. -/
theorem printRest (carries : Emits sends contract keep) (array : ArrayName)
    {bufLen : UInt8} (nonempty : 0 < bufLen) (ascii : Bool) :
    Keeps contract keep (Node.printBufferAs array bufLen.toNat 1 (bufLen - 1) ascii) := by
  refine printBufferAs (fun i below => carries.index _ _ _ ?_) ascii
  have positive : 1 ≤ bufLen.toNat := UInt8.lt_iff_toNat_lt.1 nonempty
  have rest : (bufLen - 1).toNat = bufLen.toNat - 1 :=
    UInt8.toNat_sub_of_le _ _ (UInt8.le_iff_toNat_le.2 positive)
  omega

theorem printBuffer (carries : Emits sends contract keep) (buf : Span) {bufLen : UInt8}
    (nonempty : 0 < bufLen) : Keeps contract keep (printBuffer buf bufLen) := by
  refine (carries.index _ _ _ (UInt8.lt_iff_toNat_lt.1 nonempty)).bind fun _ => ?_
  split <;> exact carries.printRest _ nonempty _

theorem serviceTxSpan (carries : Emits sends contract keep) (destAddress : UInt8) (buf : Span)
    (bufLen : UInt8) (ascii : Bool) (sent : 0 < bufLen → sends (buf.cells.take bufLen.toNat)) :
    Keeps contract keep (serviceTxSpan destAddress buf bufLen ascii) := by
  refine Triple.ite (fun nonempty => ?_) fun _ => Keeps.pure ()
  refine Keeps.bind (carries.printRest _ nonempty _) fun _ => ?_
  refine (carries.internal _ rfl).bind fun _ => ?_
  exact (carries.sendAndCount _ _ (sent nonempty)).bind fun acknowleged => carries.internal _ rfl

theorem broadcastHeartbeat (carries : Emits sends contract keep) :
    Keeps contract keep Node.heartbeatReq :=
  .get_bind fun _ => carries.serviceTxSpan _ _ _ _ fun _ => carries.heartbeatReq _

/-- The handler of a heartbeat, between marks that may change the invariant. -/
theorem serviceHeartbeatReq (carries : Emits sends contract keep)
    {before after : Ghost → LoraPoint2Point → Prop} (srcAddr : UInt8)
    (enter : Triple contract before (perform (.enter .serviceHeartbeatReq)) fun _ => keep)
    (leave : Triple contract keep (perform (.leave .serviceHeartbeatReq)) fun _ => after) :
    Triple contract before (serviceHeartbeatReq srcAddr) fun _ => after := by
  have reply : Keeps contract keep (do
      perform (.delay 50)
      let node ← get
      let heartbeatRspBuf := [MsgType.heartbeatRsp.code, node.thisAddress]
      Node.serviceTxSpan srcAddr ⟨.argument, heartbeatRspBuf⟩ 2 false) := by
    refine (carries.internal _ rfl).bind fun _ => .get_bind fun node => ?_
    exact carries.serviceTxSpan _ _ _ _ fun _ => carries.heartbeatRsp _
  exact enter.bind fun _ => Triple.bind reply fun _ => leave

/-! ## Timers -/

/-- A raised rollback flag is the only thing an invariant has to worry about. -/
theorem serviceDoneFlags (carries : Emits sends contract keep)
    {before : Ghost → LoraPoint2Point → Prop}
    (calm : ∀ ghost node, before ghost node → node.linkChangeTimeoutTimer.done = false →
      keep ghost node)
    (timeout : Triple contract
      (fun ghost node => before ghost node ∧ node.linkChangeTimeoutTimer.done = true)
      (linkChangeReqTimeout >>= fun _ => onLinkTimer .clearDone) fun _ => keep)
    (cleared : Keeps contract keep (onHeartbeatTimer .clearDone)) :
    Triple contract before serviceDoneFlags fun _ => keep := by
  have heartbeat : Keeps contract keep (do
      Node.whenever (← get).heartbeatTimer.isDone do
        Node.heartbeatReq
        onHeartbeatTimer .clearDone) := by
    refine Keeps.get_bind fun _ => whenever_keeps ?_
    exact carries.broadcastHeartbeat.bind fun _ => cleared
  refine Triple.get_bind fun known => ?_
  have rollback : Triple contract (fun ghost node => before ghost node ∧ node = known)
      (Node.whenever known.linkChangeTimeoutTimer.isDone do
        linkChangeReqTimeout
        onLinkTimer .clearDone) fun _ => keep := by
    refine Triple.ite (fun raised => timeout.pre ?_) fun clear => Triple.pure () ?_
    · rintro ghost node ⟨start, rfl⟩
      exact ⟨start, raised⟩
    · rintro ghost node ⟨start, rfl⟩
      exact calm ghost node start (Bool.eq_false_iff.2 clear)
  exact rollback.bind fun _ => heartbeat

/-- `serviceTimers`, once reading the clock and updating the timers are known to
lead from `before` to `between`. -/
theorem serviceTimers (carries : Emits sends contract keep)
    {before between : Ghost → LoraPoint2Point → Prop}
    (clock : Triple contract before millis fun now ghost node =>
      between ghost { node with
        currentMillis := now
        linkChangeTimeoutTimer := node.linkChangeTimeoutTimer.update now
        heartbeatTimer := node.heartbeatTimer.update now })
    (calm : ∀ ghost node, between ghost node → node.linkChangeTimeoutTimer.done = false →
      keep ghost node)
    (timeout : Triple contract
      (fun ghost node => between ghost node ∧ node.linkChangeTimeoutTimer.done = true)
      (linkChangeReqTimeout >>= fun _ => onLinkTimer .clearDone) fun _ => keep)
    (cleared : Keeps contract keep (onHeartbeatTimer .clearDone)) :
    Triple contract before serviceTimers fun _ => keep := by
  intro ghost node start
  refine Resumption.Meets.bind_iff.2 ((clock ghost node start).mono ?_)
  intro ghost node now reached
  exact carries.serviceDoneFlags calm timeout cleared ghost _ reached

end Emits

namespace Transmits

theorem onHeartbeatTimer (carries : Transmits sends contract keep)
    (change : SimpleTimer → SimpleTimer) : Keeps contract keep (onHeartbeatTimer change) :=
  .update fun ghost node => carries.heartbeatTimer _ ghost node

theorem startHeartbeats (carries : Transmits sends contract keep) :
    Keeps contract keep startHeartbeats :=
  .update fun ghost node => carries.heartbeatTimer _ ghost node

theorem stopHeartbeats (carries : Transmits sends contract keep) :
    Keeps contract keep stopHeartbeats :=
  .update fun ghost node => carries.heartbeatTimer _ ghost node

/-- `serviceTimers`, for an invariant that does not look at the heartbeat timer. -/
theorem serviceTimers (carries : Transmits sends contract keep)
    {before between : Ghost → LoraPoint2Point → Prop}
    (clock : Triple contract before millis fun now ghost node => ∀ heartbeat,
      between ghost { node with
        currentMillis := now
        linkChangeTimeoutTimer := node.linkChangeTimeoutTimer.update now
        heartbeatTimer := heartbeat })
    (calm : ∀ ghost node, between ghost node → node.linkChangeTimeoutTimer.done = false →
      keep ghost node)
    (timeout : Triple contract
      (fun ghost node => between ghost node ∧ node.linkChangeTimeoutTimer.done = true)
      (linkChangeReqTimeout >>= fun _ => onLinkTimer .clearDone) fun _ => keep) :
    Triple contract before serviceTimers fun _ => keep :=
  carries.toEmits.serviceTimers (clock.post fun _ _ _ reached => reached _) calm timeout
    (carries.onHeartbeatTimer _)

end Transmits

/-! ## Settings -/

/-- The invariant survives each of the four setters. -/
structure Settles (contract : Contract LoraPoint2Point Action Action.Answer Ghost)
    (keep : Ghost → LoraPoint2Point → Prop) : Prop where
  setSpreadingFactor : ∀ value, Keeps contract keep (setSpreadingFactor value)
  setBandwidth : ∀ value, Keeps contract keep (setBandwidth value)
  setTxPower : ∀ value, Keeps contract keep (setTxPower value)
  setFrequencyChannel : ∀ value, Keeps contract keep (setFrequencyChannel value)

theorem Settles.setAll (settles : Settles contract keep) (settings : Settings) :
    Keeps contract keep (setAll settings) :=
  (settles.setSpreadingFactor _).bind fun _ => (settles.setBandwidth _).bind fun _ =>
    (settles.setTxPower _).bind fun _ => settles.setFrequencyChannel _

/-- The invariant survives what the setters do up to storing the value, and storing
a value as a whole.  Between the two halves of a store, the new value and its
indication, only the looser invariant needs to hold. -/
structure Adjusts (contract : Contract LoraPoint2Point Action Action.Answer Ghost)
    (keep loose : Ghost → LoraPoint2Point → Prop) : Prop where
  index : ∀ array position size, position < size →
    Keeps contract keep (perform (.index array position size))
  driver : ∀ action : Action, action.adjusts = true → Keeps contract keep (perform action)
  setFrequency : ∀ tenthMegahertz, Triple contract keep (setFrequency tenthMegahertz)
    fun ok ghost node => keep ghost node ∧ (ok = false → contract.require ghost node .halt)
  storeSetting : ∀ store : LoraPoint2Point → LoraPoint2Point,
    (∀ ghost node, keep ghost node → loose ghost (store node)) →
      Keeps contract keep (storeSetting store)

namespace Adjusts

variable {loose : Ghost → LoraPoint2Point → Prop}

theorem lookup (adjusts : Adjusts contract keep loose) {α : Type} [Inhabited α]
    (array : ArrayName) {table : List α} {position : Nat} (inside : position < table.length) :
    Keeps contract keep (lookup array table position) :=
  (adjusts.index _ _ _ inside).bind fun _ => .pure _

/-- The setters test a value before they look it up, so they read in range and
store only what they accept. -/
theorem setSpreadingFactor (adjusts : Adjusts contract keep loose) {value : EnumValue}
    (stored : ¬ numSpreadingFactors ≤ value → ∀ ghost node, keep ghost node →
      loose ghost (node.storeSpreadingFactor value)) :
    Keeps contract keep (setSpreadingFactor value) := by
  refine Triple.ite (fun _ => Keeps.pure ()) fun inside => ?_
  refine Keeps.bind (adjusts.lookup _ (Nat.lt_of_not_le inside)) fun _ => ?_
  exact (adjusts.driver _ rfl).bind fun _ => adjusts.storeSetting _ (stored inside)

theorem setBandwidth (adjusts : Adjusts contract keep loose) {value : EnumValue}
    (stored : ¬ numSignalBandwidths ≤ value → ∀ ghost node, keep ghost node →
      loose ghost (node.storeBandwidth value)) :
    Keeps contract keep (setBandwidth value) := by
  refine Triple.ite (fun _ => Keeps.pure ()) fun inside => ?_
  refine Keeps.bind (adjusts.lookup _ (Nat.lt_of_not_le inside)) fun _ => ?_
  exact (adjusts.driver _ rfl).bind fun _ => adjusts.storeSetting _ (stored inside)

theorem setTxPower (adjusts : Adjusts contract keep loose) {value : Int8}
    (stored : ¬ (maxTxPower < value ∨ value < minTxPower) → ∀ ghost node, keep ghost node →
      loose ghost (node.storeTxPower value)) :
    Keeps contract keep (setTxPower value) := by
  refine Triple.ite (fun _ => Keeps.pure ()) fun inside => ?_
  exact (adjusts.driver _ rfl).bind fun _ => adjusts.storeSetting _ (stored inside)

theorem setFrequencyChannel (adjusts : Adjusts contract keep loose) {value : EnumValue}
    (stored : ¬ numFrequencyChannels ≤ value → ∀ ghost node, keep ghost node →
      loose ghost (node.storeFrequencyChannel value)) :
    Keeps contract keep (setFrequencyChannel value) := by
  refine Triple.ite (fun _ => Keeps.pure ()) fun inside => ?_
  refine Keeps.bind (adjusts.lookup _ (Nat.lt_of_not_le inside)) fun _ => ?_
  refine Triple.bind (adjusts.setFrequency _) fun ok => Triple.ite (fun failed => ?_) fun _ => ?_
  · rintro ghost node ⟨kept, halting⟩
    have refused : ok = false := by simpa using failed
    exact ⟨halting refused, fun never _ => nomatch never⟩
  · exact Triple.pre (adjusts.storeSetting _ (stored inside)) fun _ _ => And.left

/-- An invariant that looks at no setting survives every setter. -/
theorem settles (adjusts : Adjusts contract keep loose)
    (settings : ∀ current previous ghost node, keep ghost node →
      loose ghost { node with current := current, previous := previous }) :
    Settles contract keep where
  setSpreadingFactor _ := adjusts.setSpreadingFactor fun _ ghost node =>
    settings _ _ ghost node
  setBandwidth _ := adjusts.setBandwidth fun _ ghost node => settings _ _ ghost node
  setTxPower _ := adjusts.setTxPower fun _ ghost node => settings _ _ ghost node
  setFrequencyChannel _ := adjusts.setFrequencyChannel fun _ ghost node =>
    settings _ _ ghost node

/-- An invariant that wants the settings in range survives every setter. -/
theorem settles_of_valid (adjusts : Adjusts contract keep loose)
    (valid : ∀ ghost node, keep ghost node → node.current.Valid)
    (settings : ∀ current previous ghost node, keep ghost node → current.Valid →
      loose ghost { node with current := current, previous := previous }) :
    Settles contract keep where
  setSpreadingFactor _ := adjusts.setSpreadingFactor fun inside ghost node kept =>
    have now := valid ghost node kept
    settings _ _ ghost node kept (now.changeSpreadingFactor (Nat.lt_of_not_le inside))
  setBandwidth _ := adjusts.setBandwidth fun inside ghost node kept =>
    have now := valid ghost node kept
    settings _ _ ghost node kept (now.changeBandwidth (Nat.lt_of_not_le inside))
  setTxPower _ := adjusts.setTxPower fun inside ghost node kept =>
    have now := valid ghost node kept
    settings _ _ ghost node kept (now.changeTxPower (Settings.power_inside inside))
  setFrequencyChannel _ := adjusts.setFrequencyChannel fun inside ghost node kept =>
    have now := valid ghost node kept
    settings _ _ ghost node kept (now.changeFrequencyChannel (Nat.lt_of_not_le inside))

end Adjusts

/-- An invariant that survives the frequency driver and allows the endless loop. -/
theorem setFrequency_keeps {tenthMegahertz : UInt16}
    (driver : Keeps contract keep (perform (.rf95SetFrequency tenthMegahertz)))
    (halt : Keeps contract keep (perform .halt)) :
    Triple contract keep (setFrequency tenthMegahertz)
      fun ok ghost node => keep ghost node ∧ (ok = false → contract.require ghost node .halt) :=
  Triple.post driver fun _ ghost node kept => ⟨kept, fun _ => (halt ghost node kept).1⟩

/-- The invariant survives the actions of a setter and the cleared statistics. -/
structure Tunable (contract : Contract LoraPoint2Point Action Action.Answer Ghost)
    (keep : Ghost → LoraPoint2Point → Prop) : Prop where
  index : ∀ array position size, position < size →
    Keeps contract keep (perform (.index array position size))
  tunes : ∀ action : Action, action.tunes = true → Keeps contract keep (perform action)
  setFrequency : ∀ tenthMegahertz, Triple contract keep (setFrequency tenthMegahertz)
    fun ok ghost node => keep ghost node ∧ (ok = false → contract.require ghost node .halt)
  reset : ∀ ghost node, keep ghost node → keep ghost node.resetPacketErrorFraction

/-- Storing a value is a few actions and assignments, each of which it survives. -/
theorem Tunable.toAdjusts (tunable : Tunable contract keep) : Adjusts contract keep keep where
  index := tunable.index
  driver action adjusts := tunable.tunes action (Action.tunes_of_adjusts adjusts)
  setFrequency := tunable.setFrequency
  storeSetting store stored := by
    refine (tunable.tunes _ rfl).bind fun _ => (Keeps.update tunable.reset).bind fun _ => ?_
    exact (Keeps.update stored).bind fun _ => .get_bind fun _ => tunable.tunes _ rfl

/-! ## Unchecked reads -/

/-- The invariant survives array reads at any position. -/
abbrev ReadsAnywhere (contract : Contract LoraPoint2Point Action Action.Answer Ghost)
    (keep : Ghost → LoraPoint2Point → Prop) : Prop :=
  ∀ array position size, Keeps contract keep (perform (.index array position size))

namespace ReadsAnywhere

theorem lookup (reads : ReadsAnywhere contract keep) {α : Type} [Inhabited α]
    (array : ArrayName) (table : List α) (position : Nat) :
    Keeps contract keep (lookup array table position) :=
  (reads _ _ _).bind fun _ => .pure _

theorem printSettings (reads : ReadsAnywhere contract keep) (settings : Settings) :
    Keeps contract keep (printSettings settings) :=
  (reads.lookup _ _ _).bind fun _ => (reads.lookup _ _ _).bind fun _ =>
    (reads.lookup _ _ _).bind fun _ => .pure _

theorem printBuffer (reads : ReadsAnywhere contract keep) (buf : Span) (bufLen : UInt8) :
    Keeps contract keep (printBuffer buf bufLen) := by
  refine (reads _ _ _).bind fun _ => ?_
  split <;> exact Emits.printBufferAs (fun _ _ => reads _ _ _) _

end ReadsAnywhere

/-! ## Serial input -/

/-- The invariant does not look at the outgoing message. -/
structure Drafts (keep : Ghost → LoraPoint2Point → Prop) : Prop where
  txMsg : ∀ message ghost node, keep ghost node → keep ghost { node with txMsg := message }

/-- The invariant survives everything that builds or sends the outgoing message. -/
structure Texts (contract : Contract LoraPoint2Point Action Action.Answer Ghost)
    (keep : Ghost → LoraPoint2Point → Prop) : Prop where
  textCharacter : ∀ inputChar, Keeps contract keep (textCharacter inputChar)
  setTxMessage : ∀ contents numChars, Keeps contract keep (setTxMessage contents numChars)
  serviceTx : ∀ destAddress, Keeps contract keep (serviceTx destAddress)

namespace Drafts

theorem pushTxMsg (drafts : Drafts keep) (reads : ReadsAnywhere contract keep) (byte : UInt8) :
    Keeps contract keep (pushTxMsg byte) :=
  .get_bind fun _ => (reads _ _ _).bind fun _ =>
    .update fun ghost node => drafts.txMsg _ ghost node

theorem textByte (drafts : Drafts keep) (reads : ReadsAnywhere contract keep)
    (inputChar : UInt8) : Keeps contract keep (textByte inputChar) :=
  .ite (drafts.pushTxMsg reads _) (.ite (.pure ())
    (.ite (drafts.pushTxMsg reads _) (drafts.pushTxMsg reads _)))

theorem textCharacter (drafts : Drafts keep) (reads : ReadsAnywhere contract keep)
    (inputChar : UInt8) : Keeps contract keep (textCharacter inputChar) := by
  refine .get_bind fun _ => (whenever_keeps (drafts.pushTxMsg reads _)).bind fun _ => ?_
  exact .ite (.pure 1) ((drafts.textByte reads _).bind fun _ => .pure 0)

theorem texts (drafts : Drafts keep) (carries : Emits (fun _ => True) contract keep)
    (reads : ReadsAnywhere contract keep) : Texts contract keep where
  textCharacter := drafts.textCharacter reads
  setTxMessage _ numChars :=
    (Keeps.update fun ghost node => drafts.txMsg _ ghost node).bind fun _ => .pure numChars
  serviceTx _ :=
    .get_bind fun _ => (carries.serviceTxSpan _ _ _ _ fun _ => trivial).bind fun _ =>
      .update fun ghost node => drafts.txMsg _ ghost node

end Drafts

/-- Characters outside a command only build the outgoing message. -/
theorem Texts.buildStringFromSerial (texts : Texts contract keep)
    (unassigned : Keeps contract keep (perform .uninitialised))
    (textMode : ∀ ghost node, keep ghost node → node.serialCommandMode = false)
    {pending : List UInt8} (plainText : exclamation ∉ pending) :
    Keeps contract keep (buildStringFromSerial pending) := by
  refine unassigned.bind fun _ => Keeps.foldlM_mem (fun _ inputChar member => ?_) _
  have other : inputChar ≠ exclamation := fun same => plainText (same ▸ member)
  have skipped : whenever (inputChar = exclamation)
      (modify fun node => { node with serialCommandMode := true }) = (pure () : NodeM Unit) :=
    if_neg fun same => other (of_decide_eq_true same)
  unfold buildStringFromSerialInner
  rw [skipped]
  refine Triple.bind (Keeps.pure ()) fun _ => Triple.get_bind fun known => ?_
  refine Triple.ite (fun command => ?_) fun _ => ?_
  · rintro ghost node ⟨kept, rfl⟩
    exact absurd ((textMode ghost node kept).symm.trans command) nofun
  · exact (texts.textCharacter inputChar).pre fun _ _ => And.left

/-- The invariant does not look at the outgoing message or the command buffer. -/
structure Types (keep : Ghost → LoraPoint2Point → Prop) : Prop extends Drafts keep where
  serialCmd : ∀ message mode ghost node, keep ghost node →
    keep ghost { node with serialCmd := message, serialCommandMode := mode }

namespace Types

theorem runSerialCmd (settles : Settles contract keep) : Keeps contract keep runSerialCmd := by
  refine .get_bind fun _ => .ite ?_ (.pure ())
  exact .ite (settles.setSpreadingFactor _) (.ite (settles.setBandwidth _)
    (.ite (settles.setFrequencyChannel _) (.ite (settles.setTxPower _) (.pure ()))))

theorem commandCharacter (types : Types keep) (reads : ReadsAnywhere contract keep)
    (settles : Settles contract keep) (inputChar : UInt8) :
    Keeps contract keep (commandCharacter inputChar) := by
  refine .get_bind fun _ => (whenever_keeps ?_).bind fun _ => whenever_keeps ?_
  · refine .get_bind fun _ => (reads _ _ _).bind fun _ => ?_
    exact .update fun ghost node => types.serialCmd _ _ ghost node
  · refine (runSerialCmd settles).bind fun _ => ?_
    exact .update fun ghost node => types.serialCmd _ _ ghost node

theorem buildStringFromSerial (types : Types keep)
    (carries : Emits (fun _ => True) contract keep)
    (reads : ReadsAnywhere contract keep) (settles : Settles contract keep) (pending : List UInt8) :
    Keeps contract keep (buildStringFromSerial pending) := by
  refine (carries.internal _ rfl).bind fun unassigned => .foldlM (fun _ inputChar => ?_) _ _
  refine (whenever_keeps ?_).bind fun _ => .get_bind fun _ => .ite ?_ ?_
  · exact .update fun ghost node => types.serialCmd _ _ ghost node
  · exact (types.commandCharacter reads settles inputChar).bind fun _ => .pure 0
  · exact (types.texts carries reads).textCharacter inputChar

end Types

/-! ## Reception -/

/-- A procedure that is handed the receive message, where that message is known. -/
theorem withRxMsg_known {before after : Ghost → LoraPoint2Point → Prop} {message : Message}
    {body : Message → NodeM Unit}
    (known : ∀ ghost node, before ghost node → node.rxMsg = message)
    (triple : Triple contract before (body message) fun _ => after) :
    Triple contract before (withRxMsg body) fun _ => after := by
  intro ghost node start
  have same := known ghost node start
  show (body node.rxMsg node).Meets contract (fun ghost node _ => after ghost node) ghost
  rw [same]
  exact triple ghost node start

/-- The procedure may rely on the message being the one the node holds. -/
theorem withRxMsg_holds {before after : Ghost → LoraPoint2Point → Prop}
    {body : Message → NodeM Unit}
    (each : ∀ message, Triple contract (fun ghost node => before ghost node ∧ node.rxMsg = message)
      (body message) fun _ => after) :
    Triple contract before (withRxMsg body) fun _ => after :=
  fun ghost node start => each node.rxMsg ghost node ⟨start, rfl⟩

theorem withRxMsg_keeps {body : Message → NodeM Unit}
    (keeps : ∀ message, Keeps contract keep (body message)) :
    Keeps contract keep (withRxMsg body) :=
  .get_bind fun _ => keeps _

theorem report_keeps {rxMsg : Message}
    (indicated : Keeps contract keep (perform (.rxInd rxMsg)))
    (lastSNR : Keeps contract keep (perform .rf95LastSNR))
    (printed : Keeps contract keep (printBuffer ⟨.rxMsgBuf, rxMsg.buf.cells⟩ rxMsg.bufLen)) :
    Keeps contract keep (report rxMsg) :=
  indicated.bind fun _ => lastSNR.bind fun _ => printed

/-- The invariant survives the receive call, the handlers behind the dispatch
and the restored buffer length. -/
structure Receives (contract : Contract LoraPoint2Point Action Action.Answer Ghost)
    (keep : Ghost → LoraPoint2Point → Prop) : Prop where
  recvfromAckTimeout : Keeps contract keep recvfromAckTimeout
  dispatch : Keeps contract keep (withRxMsg dispatch)
  trustRule : Keeps contract keep trustRule
  bufLen : ∀ ghost node, keep ghost node → keep ghost { node with rxMsg.bufLen := 128 }

/-- Until the buffer length is restored, a handled message only passes through
the report, the dispatch and the trust rule. -/
theorem Emits.handleMessage (carries : Emits sends contract keep)
    (reads : ReadsAnywhere contract keep) {after : Ghost → LoraPoint2Point → Prop}
    (dispatch : Keeps contract keep (withRxMsg dispatch))
    (trustRule : Keeps contract keep trustRule)
    (bufLen : ∀ ghost node, keep ghost node → after ghost { node with rxMsg.bufLen := 128 }) :
    Triple contract keep handleMessage fun _ => after := by
  have reported : Keeps contract keep (withRxMsg Node.report) :=
    withRxMsg_keeps fun _ => report_keeps (carries.internal _ rfl) (carries.internal _ rfl)
      (reads.printBuffer _ _)
  refine Triple.bind reported fun _ => Triple.bind dispatch fun _ => ?_
  exact Triple.bind trustRule fun _ => Triple.update bufLen

theorem Receives.serviceRx (receives : Receives contract keep) (carries : Emits sends contract keep)
    (reads : ReadsAnywhere contract keep) (serviceTimers : Keeps contract keep serviceTimers) :
    Keeps contract keep serviceRx := by
  refine serviceTimers.bind fun _ => receives.recvfromAckTimeout.bind fun _ => .ite ?_ (.pure ())
  exact carries.handleMessage reads receives.dispatch receives.trustRule receives.bufLen

/-! ## Whole sessions -/

/-- Setting the radio up moves pins, waits and calls each of the setters once. -/
theorem Emits.setupRadio (carries : Emits sends contract keep)
    (settles : Settles contract keep) : Keeps contract keep setupRadio := by
  refine .get_bind fun _ => (carries.internal _ rfl).bind fun _ => ?_
  refine (carries.internal _ rfl).bind fun _ => Keeps.bind ?_ fun _ => ?_
  · refine .get_bind fun _ => (carries.internal _ rfl).bind fun _ => ?_
    refine (carries.internal _ rfl).bind fun _ => (carries.internal _ rfl).bind fun _ => ?_
    exact carries.internal _ rfl
  · refine (carries.internal _ rfl).bind fun _ => .ite (.pure false) ?_
    refine (carries.internal _ rfl).bind fun _ => .ite (.pure false) ?_
    refine (settles.setSpreadingFactor _).bind fun _ => (settles.setBandwidth _).bind fun _ => ?_
    exact (settles.setTxPower _).bind fun _ =>
      (settles.setFrequencyChannel _).bind fun _ => .pure true

/-- A call that is not meant to change the link only transmits, types, receives
and services the timers. -/
theorem Transmits.quietOperation (carries : Transmits sends contract keep)
    (texts : Texts contract keep) (serviceTimers : Keeps contract keep Node.serviceTimers)
    (serviceRx : Keeps contract keep Node.serviceRx) {mode : Bool}
    (known : ∀ ghost node, keep ghost node → node.serialCommandMode = mode)
    {operation : Operation} (quiet : operation.changesLink mode = false)
    (sent : ∀ payload ∈ operation.payloads, sends payload) :
    Keeps contract keep operation.run := by
  cases operation with
  | setTxMessage contents numChars => exact (texts.setTxMessage contents numChars).map
  | buildStringFromSerial pending =>
      obtain ⟨rfl, plainText⟩ := Bool.or_eq_false_iff.1 quiet
      have text : exclamation ∉ pending := by simpa using plainText
      exact (texts.buildStringFromSerial (carries.plain _ rfl) known text).map
  | startHeartbeats => exact carries.startHeartbeats
  | stopHeartbeats => exact carries.stopHeartbeats
  | serviceTx destAddress => exact texts.serviceTx destAddress
  | serviceTxSpan destAddress buf bufLen ascii =>
      refine carries.serviceTxSpan _ _ _ _ fun nonempty => sent _ ?_
      simp only [Operation.payloads, if_pos nonempty, List.mem_singleton]
  | serviceRx => exact serviceRx
  | serviceTimers => exact serviceTimers
  | _ => cases quiet

/-- Everything that carries an invariant through a session, where counted
transmissions, typing and receiving may each be one step for the invariant. -/
structure Endures (contract : Contract LoraPoint2Point Action Action.Answer Ghost)
    (keep : Ghost → LoraPoint2Point → Prop) : Prop where
  carries : Transmits (fun _ => True) contract keep
  settles : Settles contract keep
  texts : Texts contract keep
  buildStringFromSerial : ∀ pending, Keeps contract keep (buildStringFromSerial pending)
  serviceTimers : Keeps contract keep serviceTimers
  serviceRx : Keeps contract keep serviceRx
  linkChangeReq : ∀ destAddress settings, Keeps contract keep (linkChangeReq destAddress settings)

namespace Endures

theorem operation (endures : Endures contract keep) (operation : Operation) :
    Keeps contract keep operation.run := by
  have carries := endures.carries
  have settles := endures.settles
  cases operation with
  | setSpreadingFactor value => exact settles.setSpreadingFactor value
  | setBandwidth value => exact settles.setBandwidth value
  | setFrequencyChannel value => exact settles.setFrequencyChannel value
  | setTxPower value => exact settles.setTxPower value
  | setTxMessage contents numChars => exact (endures.texts.setTxMessage contents numChars).map
  | buildStringFromSerial pending => exact (endures.buildStringFromSerial pending).map
  | startHeartbeats => exact carries.startHeartbeats
  | stopHeartbeats => exact carries.stopHeartbeats
  | serviceTx destAddress => exact endures.texts.serviceTx destAddress
  | serviceTxSpan destAddress buf bufLen ascii =>
      exact carries.serviceTxSpan _ _ _ _ fun _ => trivial
  | serviceRx => exact endures.serviceRx
  | linkChangeReq destAddress settings => exact endures.linkChangeReq destAddress settings
  | serviceTimers => exact endures.serviceTimers

theorem operate (endures : Endures contract keep) (operations : List Operation) :
    Keeps contract keep (operate operations) :=
  .forM endures.operation operations

theorem setupRadio (endures : Endures contract keep) : Keeps contract keep setupRadio :=
  endures.carries.setupRadio endures.settles

theorem session (endures : Endures contract keep) (operations : List Operation) :
    Keeps contract keep (session operations) :=
  endures.setupRadio.bind fun _ =>
    .ite ((endures.operate operations).bind fun _ => .pure true) (.pure false)

end Endures

/-- Everything that carries an invariant through a session. -/
structure Sustains (contract : Contract LoraPoint2Point Action Action.Answer Ghost)
    (keep : Ghost → LoraPoint2Point → Prop) : Prop where
  carries : Carries contract keep
  reads : ReadsAnywhere contract keep
  settles : Settles contract keep
  types : Types keep
  serviceTimers : Keeps contract keep serviceTimers
  serviceRx : Keeps contract keep serviceRx
  linkChangeReq : ∀ destAddress settings, Keeps contract keep (linkChangeReq destAddress settings)

theorem Sustains.endures (sustains : Sustains contract keep) : Endures contract keep where
  carries := sustains.carries.toTransmits
  settles := sustains.settles
  texts := sustains.types.texts sustains.carries.toEmits sustains.reads
  buildStringFromSerial :=
    sustains.types.buildStringFromSerial sustains.carries.toEmits sustains.reads
      sustains.settles
  serviceTimers := sustains.serviceTimers
  serviceRx := sustains.serviceRx
  linkChangeReq := sustains.linkChangeReq

/-- Running the rollback keeps an invariant that every setter keeps and that
does not look at the marks. -/
theorem Settles.linkChangeReqTimeout (settles : Settles contract keep)
    (enter : Keeps contract keep (perform (.enter .linkChangeReqTimeout)))
    (leave : Keeps contract keep (perform (.leave .linkChangeReqTimeout)))
    (clearDone : Keeps contract keep (onLinkTimer .clearDone)) :
    Keeps contract keep linkChangeReqTimeout := by
  refine enter.bind fun _ => Keeps.bind ?_ fun _ => leave
  exact clearDone.bind fun _ => .get_bind fun _ => settles.setAll _

/-! ## Link changes

Each procedure takes part in a link change step by step; what is known of the
steps adds up to what is known of the procedure. -/

section LinkChanges

variable {before entered busy told after : Ghost → LoraPoint2Point → Prop}

/-- The rollback timer is set up anew behind a stop and a look at the timers. -/
theorem rearm_triple {timeoutMillis : UInt32}
    (pause : Keeps contract busy (onLinkTimer .pause))
    (clearDone : Keeps contract busy (onLinkTimer .clearDone))
    (setTimeout : Keeps contract busy (onLinkTimer (·.setTimeout timeoutMillis)))
    (serviceTimers : Keeps contract busy serviceTimers)
    (start : Triple contract busy (onLinkTimer .start) fun _ => after) :
    Triple contract busy (do
      onLinkTimer .pause
      onLinkTimer .clearDone
      onLinkTimer (·.setTimeout timeoutMillis)
      Node.serviceTimers
      onLinkTimer .start) fun _ => after :=
  Triple.bind pause fun _ => Triple.bind clearDone fun _ => Triple.bind setTimeout fun _ =>
    Triple.bind serviceTimers fun _ => start

/-- The settings are tried, and taken back if the response is not acknowledged. -/
theorem serviceLinkChangeReq_triple {srcAddress : UInt8} {settings : Settings}
    (enter : Triple contract before (perform (.enter .serviceLinkChangeReq)) fun _ => entered)
    (printed : Triple contract entered (printSettings settings) fun _ => busy)
    (tries : Keeps contract busy (setAll settings))
    (waits : Keeps contract busy (perform (.delay 100)))
    (sent : ∀ payload, Triple contract busy (sendtoWait payload srcAddress) fun _ => told)
    (takesBack : ∀ previous, Keeps contract told (setAll previous))
    (leave : Triple contract told (perform (.leave .serviceLinkChangeReq)) fun _ => after) :
    Triple contract before (serviceLinkChangeReq srcAddress settings) fun _ => after := by
  refine enter.bind fun _ => Triple.bind ?_ fun _ => leave
  refine printed.bind fun _ => Triple.bind tries fun _ => Triple.get_bind fun known => ?_
  refine Triple.pre ?_ fun _ _ => And.left
  refine Triple.bind waits fun _ => (sent _).bind fun acknowleged => ?_
  exact Keeps.ite (Keeps.get_bind fun _ => takesBack _) (Keeps.pure ())

theorem serviceHeartbeatRsp_keeps {srcAddr : UInt8}
    (enter : Keeps contract keep (perform (.enter .serviceHeartbeatRsp)))
    (leave : Keeps contract keep (perform (.leave .serviceHeartbeatRsp))) :
    Keeps contract keep (serviceHeartbeatRsp srcAddr) :=
  enter.bind fun _ => (Keeps.pure ()).bind fun _ => leave

/-- The first byte of a message selects its handler. -/
theorem dispatch_triple {rxMsg : Message}
    (linkChangeReq : rxMsg.buf.get 0 = MsgType.linkChangeReq.code →
      Triple contract before (serviceLinkChangeReq rxMsg.srcAddr rxMsg.requestedSettings)
        fun _ => after)
    (linkChangeRsp : rxMsg.buf.get 0 = MsgType.linkChangeRsp.code →
      Triple contract before serviceLinkChangeRsp fun _ => after)
    (heartbeatReq : rxMsg.buf.get 0 = MsgType.heartbeatReq.code →
      Triple contract before (serviceHeartbeatReq rxMsg.srcAddr) fun _ => after)
    (heartbeatRsp : rxMsg.buf.get 0 = MsgType.heartbeatRsp.code →
      Triple contract before (serviceHeartbeatRsp rxMsg.srcAddr) fun _ => after)
    (other : rxMsg.buf.get 0 ≠ MsgType.linkChangeReq.code →
      rxMsg.buf.get 0 ≠ MsgType.linkChangeRsp.code →
        rxMsg.buf.get 0 ≠ MsgType.heartbeatReq.code →
          ∀ ghost node, before ghost node → after ghost node) :
    Triple contract before (dispatch rxMsg) fun _ => after := by
  unfold dispatch
  split
  · rename_i found
    exact linkChangeReq (MsgType.ofCode?_eq_some_iff.1 found)
  · rename_i found
    exact linkChangeRsp (MsgType.ofCode?_eq_some_iff.1 found)
  · rename_i found
    exact heartbeatReq (MsgType.ofCode?_eq_some_iff.1 found)
  · rename_i found
    exact heartbeatRsp (MsgType.ofCode?_eq_some_iff.1 found)
  · rename_i noRequest noResponse noHeartbeat _
    refine Triple.pure () (other ?_ ?_ ?_)
    · exact fun same => noRequest (MsgType.ofCode?_eq_some_iff.2 same)
    · exact fun same => noResponse (MsgType.ofCode?_eq_some_iff.2 same)
    · exact fun same => noHeartbeat (MsgType.ofCode?_eq_some_iff.2 same)

/-- A packet is counted; then the rollback timer is at most reset or stopped. -/
theorem trustRule_triple
    (counted : Triple contract before (modify (·.updatePacketErrorFraction true)) fun _ => keep)
    (reset : ∀ now, Keeps contract keep (onLinkTimer (·.reset now)))
    (pause : Keeps contract keep (onLinkTimer .pause))
    (clearDone : Keeps contract keep (onLinkTimer .clearDone))
    (serviceTimers : Keeps contract keep serviceTimers) :
    Triple contract before trustRule fun _ => keep := by
  refine counted.bind fun _ => Keeps.get_bind fun _ => Keeps.ite ?_ (Keeps.pure ())
  refine Keeps.get_bind fun _ => (reset _).bind fun _ => Keeps.get_bind fun _ => ?_
  refine Keeps.ite ?_ (Keeps.pure ())
  exact pause.bind fun _ => clearDone.bind fun _ => serviceTimers

end LinkChanges

/-- An invariant that no timer operation disturbs, as long as it raises no flag. -/
structure Indifferent (contract : Contract LoraPoint2Point Action Action.Answer Ghost)
    (keep : Ghost → LoraPoint2Point → Prop) : Prop where
  carries : Carries contract keep
  enter : ∀ procedure, Keeps contract keep (perform (.enter procedure))
  leave : ∀ procedure, procedure ≠ .linkChangeReqTimeout →
    Keeps contract keep (perform (.leave procedure))
  linkTimer : ∀ change : SimpleTimer → SimpleTimer,
    (∀ timer, timer.done = false → (change timer).done = false) → ∀ ghost node,
      keep ghost node → keep ghost
        { node with linkChangeTimeoutTimer := change node.linkChangeTimeoutTimer }
  serviceTimers : Keeps contract keep serviceTimers

namespace Indifferent

theorem within (indifferent : Indifferent contract keep) {procedure : Procedure}
    (ordinary : procedure ≠ .linkChangeReqTimeout) {body : NodeM Unit}
    (keeps : Keeps contract keep body) : Keeps contract keep (within procedure body) :=
  (indifferent.enter procedure).bind fun _ => keeps.bind fun _ =>
    indifferent.leave procedure ordinary

theorem onLinkTimer (indifferent : Indifferent contract keep)
    {change : SimpleTimer → SimpleTimer}
    (calm : ∀ timer, timer.done = false → (change timer).done = false) :
    Keeps contract keep (onLinkTimer change) :=
  .update (indifferent.linkTimer change calm)

theorem rearm (indifferent : Indifferent contract keep) (timeoutMillis : UInt32) :
    Keeps contract keep (do
      Node.onLinkTimer .pause
      Node.onLinkTimer .clearDone
      Node.onLinkTimer (·.setTimeout timeoutMillis)
      Node.serviceTimers
      Node.onLinkTimer .start) := by
  refine rearm_triple ?_ ?_ ?_ indifferent.serviceTimers ?_
  · exact indifferent.onLinkTimer fun _ => id
  · exact indifferent.onLinkTimer fun _ _ => rfl
  · exact indifferent.onLinkTimer fun _ => id
  · exact indifferent.onLinkTimer fun _ => id

theorem linkChangeReq (indifferent : Indifferent contract keep) (settles : Settles contract keep)
    (destAddress : UInt8) {settings : Settings}
    (printed : Keeps contract keep (printSettings settings)) :
    Keeps contract keep (linkChangeReq destAddress settings) := by
  refine indifferent.within (by decide) (printed.bind fun _ => ?_)
  refine (indifferent.carries.sendtoWait _ _).bind fun _ => .ite ?_ (.pure ())
  exact (settles.setAll settings).bind fun _ => indifferent.rearm _

theorem serviceLinkChangeReq (indifferent : Indifferent contract keep)
    (settles : Settles contract keep) (srcAddress : UInt8) {settings : Settings}
    (printed : Keeps contract keep (printSettings settings)) :
    Keeps contract keep (serviceLinkChangeReq srcAddress settings) := by
  refine serviceLinkChangeReq_triple (indifferent.enter _) printed (settles.setAll settings) ?_ ?_
    settles.setAll (indifferent.leave _ (by decide))
  · exact indifferent.carries.plain _ rfl
  · exact fun payload => indifferent.carries.sendtoWait payload srcAddress

theorem serviceLinkChangeRsp (indifferent : Indifferent contract keep) :
    Keeps contract keep serviceLinkChangeRsp :=
  indifferent.within (by decide) (indifferent.rearm _)

/-- The dispatch, once the branch of the link change requests is dealt with. -/
theorem dispatch_of_request (indifferent : Indifferent contract keep) {rxMsg : Message}
    (request : rxMsg.buf.get 0 = MsgType.linkChangeReq.code →
      Keeps contract keep (Node.serviceLinkChangeReq rxMsg.srcAddr rxMsg.requestedSettings)) :
    Keeps contract keep (dispatch rxMsg) := by
  refine dispatch_triple request (fun _ => indifferent.serviceLinkChangeRsp) ?_ ?_ ?_
  · intro _
    exact indifferent.carries.serviceHeartbeatReq _ (indifferent.enter _)
      (indifferent.leave _ (by decide))
  · intro _
    exact serviceHeartbeatRsp_keeps (indifferent.enter _) (indifferent.leave _ (by decide))
  · exact fun _ _ _ _ _ => id

theorem dispatch (indifferent : Indifferent contract keep) (settles : Settles contract keep)
    {rxMsg : Message} (printed : Keeps contract keep (printSettings rxMsg.requestedSettings)) :
    Keeps contract keep (dispatch rxMsg) :=
  indifferent.dispatch_of_request fun _ => indifferent.serviceLinkChangeReq settles _ printed

theorem trustRule (indifferent : Indifferent contract keep) : Keeps contract keep trustRule := by
  refine trustRule_triple (Keeps.update (indifferent.carries.statistics true)) ?_ ?_ ?_
    indifferent.serviceTimers
  · exact fun _ => indifferent.onLinkTimer fun _ => id
  · exact indifferent.onLinkTimer fun _ => id
  · exact indifferent.onLinkTimer fun _ _ => rfl

theorem serviceRx (indifferent : Indifferent contract keep) (settles : Settles contract keep)
    (reads : ReadsAnywhere contract keep)
    (recvfromAckTimeout : Keeps contract keep recvfromAckTimeout)
    (bufLen : ∀ ghost node, keep ghost node →
      keep ghost { node with rxMsg.bufLen := 128 }) : Keeps contract keep serviceRx := by
  have receives : Receives contract keep :=
    ⟨recvfromAckTimeout,
      withRxMsg_keeps fun _ => indifferent.dispatch settles (reads.printSettings _),
      indifferent.trustRule, bufLen⟩
  exact receives.serviceRx indifferent.carries.toEmits reads indifferent.serviceTimers

theorem sustains (indifferent : Indifferent contract keep) (types : Types keep)
    (settles : Settles contract keep) (reads : ReadsAnywhere contract keep)
    (reception : Keeps contract keep Node.serviceRx) :
    Sustains contract keep where
  carries := indifferent.carries
  reads := reads
  settles := settles
  types := types
  serviceTimers := indifferent.serviceTimers
  serviceRx := reception
  linkChangeReq destAddress settings :=
    indifferent.linkChangeReq settles destAddress (reads.printSettings settings)

end Indifferent

/-- An invariant that looks at no timer and no clock. -/
structure Timeless (contract : Contract LoraPoint2Point Action Action.Answer Ghost)
    (keep : Ghost → LoraPoint2Point → Prop) : Prop where
  millis : Keeps contract keep millis
  currentMillis : ∀ now ghost node, keep ghost node →
    keep ghost { node with currentMillis := now }
  linkTimer : ∀ timer ghost node, keep ghost node →
    keep ghost { node with linkChangeTimeoutTimer := timer }

namespace Timeless

theorem onLinkTimer (timeless : Timeless contract keep) (change : SimpleTimer → SimpleTimer) :
    Keeps contract keep (onLinkTimer change) :=
  .update fun ghost node => timeless.linkTimer _ ghost node

theorem serviceTimers (timeless : Timeless contract keep) (carries : Carries contract keep)
    (linkChangeReqTimeout : Keeps contract keep linkChangeReqTimeout) :
    Keeps contract keep serviceTimers := by
  refine carries.serviceTimers ?_ (fun _ _ kept _ => kept) ?_
  · refine timeless.millis.post fun now ghost node kept heartbeat => ?_
    have read := timeless.currentMillis now ghost node kept
    have updated := timeless.linkTimer (node.linkChangeTimeoutTimer.update now) ghost _ read
    exact carries.heartbeatTimer heartbeat ghost _ updated
  · refine Triple.pre ?_ fun _ _ => And.left
    exact linkChangeReqTimeout.bind fun _ => timeless.onLinkTimer _

/-- The marks around the rollback and its body are all an invariant has left to show. -/
theorem indifferent (timeless : Timeless contract keep) (carries : Carries contract keep)
    (enter : ∀ procedure, Keeps contract keep (perform (.enter procedure)))
    (leave : ∀ procedure, procedure ≠ .linkChangeReqTimeout →
      Keeps contract keep (perform (.leave procedure)))
    (linkChangeReqTimeout : Keeps contract keep linkChangeReqTimeout) :
    Indifferent contract keep where
  carries := carries
  enter := enter
  leave := leave
  linkTimer _ _ ghost node := timeless.linkTimer _ ghost node
  serviceTimers := timeless.serviceTimers carries linkChangeReqTimeout

end Timeless

/-! ## Invariants of the run and the receive buffer -/

namespace Action

/-- The one action that reads the radio. -/
def receives : Action → Bool
  | .recvfromAckTimeout _ _ => true
  | _ => false

/-- An array read, if the action is one, is inside the array. -/
def InRange : Action → Prop
  | .index _ position size => position < size
  | _ => True

end Action

/-- An invariant that looks at no part of the state but the messages and the mode of
the serial input.  Only receive calls and reads out of range can disturb it. -/
structure Ignores (contract : Contract LoraPoint2Point Action Action.Answer Ghost)
    (keep : Ghost → LoraPoint2Point → Prop) : Prop where
  perform : ∀ action : Action, action.receives = false → action.InRange →
    Keeps contract keep (perform action)
  state : ∀ ghost node later, later.rxMsg = node.rxMsg → later.txMsg = node.txMsg →
    later.serialCmd = node.serialCmd → later.serialCommandMode = node.serialCommandMode →
      keep ghost node → keep ghost later

namespace Ignores

theorem carries (ignores : Ignores contract keep) : Carries contract keep where
  plain action plain := by
    cases action <;> first | exact ignores.perform _ rfl trivial | cases plain
  index _ _ _ inside := ignores.perform _ rfl inside
  sendtoWait _ _ := ignores.perform _ rfl trivial
  statistics _ ghost node := ignores.state ghost node _ rfl rfl rfl rfl
  ackSnr _ ghost node := ignores.state ghost node _ rfl rfl rfl rfl
  heartbeatTimer _ ghost node := ignores.state ghost node _ rfl rfl rfl rfl

theorem tunable (ignores : Ignores contract keep) : Tunable contract keep where
  index := ignores.carries.index
  tunes action tunes := by
    cases action <;> first | exact ignores.perform _ rfl trivial | cases tunes
  setFrequency _ :=
    setFrequency_keeps (ignores.perform _ rfl trivial) (ignores.perform _ rfl trivial)
  reset ghost node := ignores.state ghost node _ rfl rfl rfl rfl

theorem settles (ignores : Ignores contract keep) : Settles contract keep :=
  ignores.tunable.toAdjusts.settles fun _ _ ghost node => ignores.state ghost node _ rfl rfl rfl rfl

theorem timeless (ignores : Ignores contract keep) : Timeless contract keep where
  millis := ignores.perform _ rfl trivial
  currentMillis _ ghost node := ignores.state ghost node _ rfl rfl rfl rfl
  linkTimer _ ghost node := ignores.state ghost node _ rfl rfl rfl rfl

theorem indifferent (ignores : Ignores contract keep) : Indifferent contract keep := by
  have enter := fun procedure => ignores.perform (.enter procedure) rfl trivial
  have leave := fun procedure => ignores.perform (.leave procedure) rfl trivial
  refine ignores.timeless.indifferent ignores.carries enter (fun _ _ => leave _) ?_
  exact ignores.settles.linkChangeReqTimeout (enter _) (leave _) (ignores.timeless.onLinkTimer _)

end Ignores

/-- A history invariant that looks at no part of the state but the receive
message.  Only receive calls and reads out of range can disturb it. -/
structure Overhears (safe : List NodeStep → Prop)
    (keep : List NodeStep → LoraPoint2Point → Prop) : Prop where
  perform : ∀ action : Action, action.receives = false → action.InRange →
    Keeps (Contract.safety safe) keep (perform action)
  state : ∀ trace node later, later.rxMsg = node.rxMsg → keep trace node → keep trace later

namespace Overhears

variable {safe : List NodeStep → Prop} {keep : List NodeStep → LoraPoint2Point → Prop}

theorem ignores (overhears : Overhears safe keep) : Ignores (Contract.safety safe) keep where
  perform := overhears.perform
  state trace node later received _ _ _ := overhears.state trace node later received

theorem types (overhears : Overhears safe keep) : Types keep where
  txMsg _ trace node := overhears.state trace node _ rfl
  serialCmd _ _ trace node := overhears.state trace node _ rfl

end Overhears

end Roam.Node
