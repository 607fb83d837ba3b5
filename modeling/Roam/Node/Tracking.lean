import Roam.Node.Link

/-!
# Nodes keep to their links

Every call that is not meant to change the link, and one valid request, keep the
contract of the abstract node.  The walk through the program carries one
invariant; a stage says which procedure is running, how many packets have been
seen but not counted yet, and whether a message waits for its handler.
-/

namespace Roam.Node

open Roam.Interaction

/-- Where a node stands in its program. -/
structure Stage where
  activity : Option Procedure := none
  /-- The armed timer is held while it is given another timeout. -/
  paused : Bool := false
  owed : Nat := 0
  reporting : Bool := false
  busy : paused = true → activity ≠ none := by simp

/-- A timer that is not held asks nothing of the activity. -/
theorem Stage.unpaused {activity : Option Procedure} : false = true → activity ≠ none :=
  fun paused => absurd paused Bool.false_ne_true

/-- An idle node without a message to handle differs from the others only in what it owes. -/
theorem Stage.eq_of_idle {stage : Stage} (idle : stage.activity = none)
    (unreported : stage.reporting = false) : stage = { owed := stage.owed } := by
  obtain ⟨activity, paused, owed, reporting, busy⟩ := stage
  cases paused with
  | true => exact absurd idle (busy rfl)
  | false =>
      cases idle
      cases unreported
      rfl

/-- The outgoing message does not start like a part of a link change. -/
def Draft (message : Message) : Prop :=
  message.buf.get 0 ≠ MsgType.linkChangeReq.code ∧ message.buf.get 0 ≠ MsgType.linkChangeRsp.code

/-- What is known of a node apart from its settings and its rollback timer. -/
structure Bears (mode unasked : Bool) (stage : Stage) (link : Link) (node : LoraPoint2Point) :
    Prop where
  oneShot : node.linkChangeTimeoutTimer.repeating = false
  credit : node.successes.toNat + stage.owed ≤ link.credit
  room : node.rxMsg.bufLen ≠ 0
  draft : Draft node.txMsg
  mode : node.serialCommandMode = mode
  address : node.thisAddress ≠ broadcastAddress
  sender : link.inbox.srcAddr ≠ broadcastAddress
  read : stage.reporting = false → link.Read
  handed : stage.reporting = true → node.rxMsg = link.inbox ∧ link.unread = true
  activity : link.activity = stage.activity
  asked : unasked = true → link.asked = false

/-- The node is where its link says. -/
structure Tracks (mode unasked : Bool) (stage : Stage) (link : Link) (node : LoraPoint2Point) :
    Prop extends Bears mode unasked stage link node where
  current : node.current = link.current
  origin : stage.activity = none → link.origin = link.current
  previous : node.previous = link.previous
  clear : node.linkChangeTimeoutTimer.done = false
  timed : stage.paused = false → link.Timed node.linkChangeTimeoutTimer
  paused : stage.paused = true →
    node.linkChangeTimeoutTimer.started = false ∧ link.armed = true

/-- The rollback timer has run out, and the rollback is about to be made. -/
structure Late (mode unasked : Bool) (stage : Stage) (link : Link) (node : LoraPoint2Point) :
    Prop extends Bears mode unasked stage link node where
  origin : link.origin = node.current
  current : link.current = node.previous.sift node.current node.previous
  previous : link.previous = node.previous.sift node.previous node.current
  raised : node.linkChangeTimeoutTimer.done = true
  stopped : node.linkChangeTimeoutTimer.started = false
  disarmed : link.armed = false

/-- A link change moves nothing but settings and statistics. -/
theorem Bears.withSettings {mode unasked : Bool} {stage : Stage} {link : Link}
    {node : LoraPoint2Point} (bears : Bears mode unasked stage link node) (settings : Settings) :
    Bears mode unasked stage link (node.withSettings settings) := by
  have same := node.withSettings_resettled settings
  have fewer := UInt32.le_iff_toNat_le.1 (node.withSettings_successes settings)
  constructor
  · rw [same.linkTimer]
    exact bears.oneShot
  · exact Nat.le_trans (Nat.add_le_add_right fewer _) bears.credit
  · rw [same.rxMsg]
    exact bears.room
  · rw [same.txMsg]
    exact bears.draft
  · exact same.mode.trans bears.mode
  · rw [same.address]
    exact bears.address
  · exact bears.sender
  · exact bears.read
  · rw [same.rxMsg]
    exact bears.handed
  · exact bears.activity
  · exact bears.asked

namespace Link

theorem Timed.counted {link : Link} {timer : SimpleTimer} (timed : link.Timed timer) :
    link.count.Timed timer :=
  ⟨timed.1, fun armed => (timed.2 armed).imp_right fun more => Nat.lt_succ_of_lt more⟩

end Link

/-- An action that is not part of the history keeps whatever lets it be made. -/
theorem perform_silent {asks : Settings → Prop} {keep : Link → LoraPoint2Point → Prop}
    {action : Action}
    (silent : ∀ (link : Link) node answer, link.observe node action answer = link)
    (required : ∀ link node, keep link node → (tracking asks).require link node action) :
    Keeps (tracking asks) keep (perform action) := by
  intro link node kept
  refine ⟨required link node kept, fun answer _ => ?_⟩
  show keep (link.observe node action answer) node
  rw [silent]
  exact kept

namespace Tracks

variable {asks : Settings → Prop} {mode unasked : Bool} {stage : Stage} {link : Link}
variable {node : LoraPoint2Point}

/-- What the contract asks for at every action. -/
theorem rests (tracks : Tracks mode unasked stage link node) :
    link.Between node ∧ link.Settled node := by
  constructor
  · have same := tracks.current
    exact ⟨.inr (congrArg _ same), .inr (congrArg _ same), .inr (congrArg _ same)⟩
  · intro idle _
    have free : stage.activity = none := tracks.activity.symm.trans idle
    refine ⟨tracks.origin free, tracks.timed ?_⟩
    exact Bool.eq_false_iff.2 fun paused => stage.busy paused free

/-- An action that is not part of the history and needs no promise. -/
theorem perform (action : Action)
    (promise : ∀ link node, Tracks mode unasked stage link node → link.Promise asks node action)
    (silent : ∀ (link : Link) node answer, link.observe node action answer = link) :
    Keeps (tracking asks) (Tracks mode unasked stage) (Node.perform action) := by
  apply perform_silent silent
  intro link node tracks
  exact ⟨tracks.rests.1, tracks.rests.2, promise link node tracks⟩

theorem plain {action : Action} (plain : action.plain = true) :
    Keeps (tracking asks) (Tracks mode unasked stage) (Node.perform action) := by
  apply perform
  · intro _ _ _
    cases action <;> trivial
  · intro _ _ _
    cases action <;> first | rfl | cases plain

theorem reads : ReadsAnywhere (tracking asks) (Tracks mode unasked stage) :=
  fun _ _ _ => perform _ (fun _ _ _ => trivial) fun _ _ _ => rfl

/-! ## Transmission -/

/-- One more packet is owed to the statistics once a transmission is acknowledged. -/
theorem sendtoWait {payload : List UInt8} (traffic : Traffic payload) (destAddress : UInt8)
    (free : stage.activity ≠ some .serviceLinkChangeReq) (unreported : stage.reporting = false) :
    Triple (tracking asks) (Tracks mode unasked stage) (sendtoWait payload destAddress)
      fun acknowleged => Tracks mode unasked
        { stage with
          owed := if acknowleged = true ∧ destAddress ≠ broadcastAddress then stage.owed + 1
            else stage.owed } := by
  intro link node tracks
  obtain ⟨between, settled⟩ := tracks.rests
  have speaks : link.Speaks asks payload destAddress :=
    .inl ⟨traffic, tracks.activity ▸ free⟩
  refine ⟨⟨between, settled, tracks.read unreported, tracks.current, tracks.address,
    speaks⟩, fun acknowleged _ => ?_⟩
  show Tracks mode unasked _ (link.observe node (.sendtoWait payload destAddress) acknowleged) node
  rw [Link.observe_traffic traffic]
  split
  · have credit : node.successes.toNat + (stage.owed + 1) ≤ link.count.credit :=
      Nat.succ_le_succ tracks.credit
    exact { tracks with credit := credit, timed := fun unpaused => (tracks.timed unpaused).counted }
  · exact tracks

theorem sendAndCount {payload : List UInt8} (traffic : Traffic payload) (destAddress : UInt8)
    (free : stage.activity ≠ some .serviceLinkChangeReq) (unreported : stage.reporting = false) :
    Keeps (tracking asks) (Tracks mode unasked stage) (sendAndCount payload destAddress) := by
  apply (sendtoWait traffic destAddress free unreported).bind
  intro acknowleged
  apply Triple.ite
  · rintro rfl
    apply Triple.ite
    · intro addressed
      rw [if_pos ⟨rfl, addressed⟩]
      let pending : Link → LoraPoint2Point → Prop :=
        Tracks mode unasked { stage with owed := stage.owed + 1 }
      have read : Keeps (tracking asks) pending lastSNR := plain rfl
      have stored (snr : Int) : Keeps (tracking asks) pending
          (modify fun node => { node with ackSnr := snr }) :=
        Keeps.update fun _ _ tracks => { tracks with }
      have written : Triple (tracking asks) pending (modify (·.updatePacketErrorFraction true))
          fun _ => Tracks mode unasked stage := by
        apply Triple.update
        intro link node tracks
        have one := node.toNat_successes_update_true
        have credit : (node.updatePacketErrorFraction true).successes.toNat + stage.owed ≤
            link.credit := by
          have owed : node.successes.toNat + (stage.owed + 1) ≤ link.credit := tracks.credit
          omega
        exact { tracks with credit := credit }
      exact Triple.bind read fun snr => Triple.bind (stored snr) fun _ =>
        Triple.bind written fun _ => Keeps.pure true
    · intro broadcast
      rw [if_neg fun counts : _ ∧ _ => broadcast counts.2]
      exact Keeps.pure false
  · intro failed
    rw [if_neg fun counts : _ ∧ _ => failed counts.1]
    have written : Keeps (tracking asks) (Tracks mode unasked stage)
        (modify (·.updatePacketErrorFraction false)) := by
      apply Keeps.update
      intro link node tracks
      have same := node.successes_update_false
      exact { tracks with credit := by rw [same]; exact tracks.credit }
    exact written.bind fun _ => Keeps.pure false

theorem transmits (free : stage.activity ≠ some .serviceLinkChangeReq)
    (unreported : stage.reporting = false) :
    Transmits Traffic (tracking asks) (Tracks mode unasked stage) where
  plain _ := plain
  index array position size _ := reads array position size
  sendAndCount _ destAddress traffic := sendAndCount traffic destAddress free unreported
  heartbeatReq _ := traffic_cons _ (by decide) (by decide)
  heartbeatRsp _ := traffic_cons _ (by decide) (by decide)
  heartbeatTimer _ _ _ tracks := { tracks with }

/-! ## Setters -/

/-- The setters take a busy node from where its last change set out from to where
it leads. -/
theorem setAll {settings : Settings} (origin : link.origin = node.current)
    (current : link.current = settings.sift node.current settings) (busy : link.activity ≠ none) :
    (setAll settings node).Meets (tracking asks)
      (fun later after _ => later = link ∧ after = node.withSettings settings) link := by
  let keep (later : Link) (node : LoraPoint2Point) : Prop := later = link ∧ link.Between node
  have unsettled (node : LoraPoint2Point) : link.Settled node :=
    fun idle => absurd idle busy
  have tunable : Tunable (tracking asks) keep := {
    index := fun _ _ _ _ => by
      apply perform_silent fun _ _ _ => rfl
      rintro later node ⟨rfl, between⟩
      exact ⟨between, unsettled node, trivial⟩
    tunes := fun action tunes => by
      apply perform_silent
      · intro _ _ _
        cases action <;> first | rfl | cases tunes
      · rintro later node ⟨rfl, between⟩
        refine ⟨between, unsettled node, ?_⟩
        cases action <;> trivial
    setFrequency := fun tenthMegahertz => by
      rintro later node ⟨rfl, between⟩
      have required : (tracking asks).require later node .halt :=
        ⟨between, unsettled node, trivial⟩
      exact ⟨required, fun ok _ => ⟨⟨rfl, between⟩, fun _ => required⟩⟩
    reset := fun _ _ => id }
  have walked : Keeps (tracking asks) keep (Node.setAll settings) := by
    apply Keeps.bind
    · apply tunable.toAdjusts.setSpreadingFactor
      rintro inside _ node ⟨same, between⟩
      refine ⟨same, .inr ?_, between.2⟩
      rw [current]
      exact (if_neg inside).symm
    intro _
    apply Keeps.bind
    · apply tunable.toAdjusts.setBandwidth
      rintro inside _ node ⟨same, between⟩
      refine ⟨same, between.1, .inr ?_, between.2.2⟩
      rw [current]
      exact (if_neg inside).symm
    intro _
    apply Keeps.bind
    · apply tunable.toAdjusts.setTxPower
      rintro _ _ node ⟨same, between⟩
      exact ⟨same, between⟩
    intro _
    apply tunable.toAdjusts.setFrequencyChannel
    rintro inside _ node ⟨same, between⟩
    refine ⟨same, between.1, between.2.1, .inr ?_⟩
    rw [current]
    exact (if_neg inside).symm
  have start : link.Between node := by
    unfold Link.Between
    rw [origin]
    exact ⟨.inl rfl, .inl rfl, .inl rfl⟩
  have ended := (walked link node ⟨rfl, start⟩).and_ends (setAll_ends node settings)
  exact ended.mono fun _ _ _ reached => ⟨reached.1.1, reached.2⟩

/-- Behind the setters a busy node is where its link says. -/
theorem arrives {settings : Settings}
    (bears : Bears mode unasked stage link (node.withSettings settings))
    (current : link.current = settings.sift node.current settings)
    (previous : link.previous = settings.sift node.previous node.current)
    (busy : stage.activity ≠ none) (unpaused : stage.paused = false)
    (clear : node.linkChangeTimeoutTimer.done = false)
    (timed : link.Timed node.linkChangeTimeoutTimer) :
    Tracks mode unasked stage link (node.withSettings settings) := by
  have moved := node.withSettings_moves settings
  have timer := (node.withSettings_resettled settings).linkTimer
  exact { bears with
    current := moved.1.trans current.symm
    origin := fun idle => absurd idle busy
    previous := moved.2.trans previous.symm
    clear := by rw [timer]; exact clear
    timed := fun _ => by rw [timer]; exact timed
    paused := fun paused => absurd (unpaused.symm.trans paused) nofun }

/-- Leaving a procedure ends the last change. -/
theorem leave {procedure : Procedure} (active : stage.activity = some procedure)
    (unpaused : stage.paused = false)
    (leaves : ∀ link : Link, link.leave procedure = { link.settle with activity := none })
    {extra : Link → Prop}
    (promise : ∀ link node, link.activity = some procedure → extra link →
      link.Promise asks node (.leave procedure)) :
    Triple (tracking asks) (fun link node => Tracks mode unasked stage link node ∧ extra link)
      (Node.perform (.leave procedure)) fun _ => Tracks mode unasked
        { owed := stage.owed, reporting := stage.reporting } := by
  rintro link node ⟨tracks, more⟩
  obtain ⟨between, settled⟩ := tracks.rests
  have active := tracks.activity.trans active
  refine ⟨⟨between, settled, promise link node active more⟩, fun _ _ => ?_⟩
  show Tracks mode unasked _ (link.leave procedure) node
  rw [leaves]
  exact { tracks with
    activity := rfl
    origin := fun _ => rfl
    timed := fun _ => tracks.timed unpaused
    paused := nofun }

/-! ## Timers -/

/-- A rollback ends where the link says it leads. -/
theorem timeout (idle : stage.activity = none) (unreported : stage.reporting = false) :
    Triple (tracking asks) (Late mode unasked stage)
      (linkChangeReqTimeout >>= fun _ => onLinkTimer .clearDone)
      fun _ => Tracks mode unasked stage := by
  intro link node late
  apply Resumption.Meets.bind_iff.2
  rw [linkChangeReqTimeout_apply]
  have between : link.Between node := by
    unfold Link.Between
    rw [late.origin]
    exact ⟨.inl rfl, .inl rfl, .inl rfl⟩
  have settled : link.Settled node := fun _ clear => absurd (late.raised.symm.trans clear) nofun
  have free := late.activity.trans idle
  refine ⟨⟨between, settled, free, late.read unreported⟩, fun _ _ => ?_⟩
  apply Resumption.Meets.bind_iff.2
  let rolling : Stage := { activity := some .linkChangeReqTimeout, owed := stage.owed }
  have unstarted (timer : SimpleTimer) (same : timer.started = false) : link.Timed timer :=
    ⟨fun runs => absurd (same.symm.trans runs) nofun,
      fun armed => absurd (late.disarmed.symm.trans armed) nofun⟩
  have bears : Bears mode unasked rolling (link.enter .linkChangeReqTimeout)
      { node with linkChangeTimeoutTimer := node.linkChangeTimeoutTimer.clearDone } :=
    { late with
      read := fun _ => late.read unreported
      handed := nofun
      activity := rfl }
  refine Resumption.Meets.mono (setAll late.origin late.current nofun) ?_
  rintro _ _ _ ⟨rfl, rfl⟩
  have tracks := arrives (bears.withSettings node.previous) late.current late.previous nofun rfl
    rfl (unstarted _ late.stopped)
  have left : Triple (tracking asks)
      (fun link node => Tracks mode unasked rolling link node ∧ True)
      (Node.perform (.leave .linkChangeReqTimeout)) fun _ => Tracks mode unasked stage := by
    rw [Stage.eq_of_idle idle unreported]
    exact leave rfl rfl (fun _ => rfl) fun _ _ active _ => active
  apply (left _ _ ⟨tracks, trivial⟩).mono
  intro link later _ tracks
  exact { tracks with clear := rfl }

/-- The timers have been updated: nothing has happened, or a rollback is due. -/
def Ticked (mode unasked : Bool) (stage : Stage) (link : Link) (node : LoraPoint2Point) : Prop :=
  Tracks mode unasked stage link node ∨
    (stage.activity = none ∧ Late mode unasked stage link node)

/-- Reading the clock either leaves the node alone or makes its rollback due. -/
theorem millis (ready : stage.paused = false → stage.activity = none)
    (unreported : stage.reporting = false) :
    Triple (tracking asks) (Tracks mode unasked stage) millis fun now link node =>
      ∀ heartbeat, Ticked mode unasked stage link { node with
        currentMillis := now
        linkChangeTimeoutTimer := node.linkChangeTimeoutTimer.update now
        heartbeatTimer := heartbeat } := by
  intro link node tracks
  obtain ⟨between, settled⟩ := tracks.rests
  have running : node.linkChangeTimeoutTimer.started = true →
      stage.activity = none ∧ link.armed = true := by
    intro runs
    have unpaused : stage.paused = false :=
      Bool.eq_false_iff.2 fun paused => absurd ((tracks.paused paused).1.symm.trans runs) nofun
    exact ⟨ready unpaused, (tracks.timed unpaused).1 runs⟩
  have promise : link.Promise asks node .millis := by
    refine ⟨tracks.read unreported, tracks.previous, fun runs => ?_⟩
    exact ⟨tracks.activity.trans (running runs).1, (running runs).2⟩
  refine ⟨⟨between, settled, promise⟩, fun now _ heartbeat => ?_⟩
  show Ticked mode unasked stage
    (if node.linkChangeTimeoutTimer.Expired now then link.expire else link) _
  by_cases late : node.linkChangeTimeoutTimer.Expired now
  · right
    rw [if_pos late, SimpleTimer.update_of_expired tracks.oneShot late]
    refine ⟨(running late.1).1, ?_⟩
    exact { tracks with
      oneShot := tracks.oneShot
      origin := tracks.current.symm
      current := by rw [tracks.current, tracks.previous]; rfl
      previous := by rw [tracks.current, tracks.previous]; rfl
      raised := rfl
      stopped := rfl
      disarmed := rfl }
  · left
    rw [if_neg late]
    cases runs : node.linkChangeTimeoutTimer.started with
    | true =>
        rw [SimpleTimer.update_of_running runs late]
        exact { tracks with }
    | false =>
        rw [SimpleTimer.update_of_stopped runs]
        exact { tracks with
          oneShot := tracks.oneShot
          clear := tracks.clear
          timed := tracks.timed
          paused := tracks.paused }

theorem serviceTimers (free : stage.activity ≠ some .serviceLinkChangeReq)
    (ready : stage.paused = false → stage.activity = none)
    (unreported : stage.reporting = false) :
    Keeps (tracking asks) (Tracks mode unasked stage) serviceTimers := by
  apply (transmits free unreported).serviceTimers (millis ready unreported)
  · rintro link node (tracks | ⟨_, late⟩) clear
    · exact tracks
    · exact absurd (late.raised.symm.trans clear) nofun
  · rintro link node ⟨tracks | ⟨idle, late⟩, raised⟩
    · exact absurd (tracks.clear.symm.trans raised) nofun
    · exact timeout idle unreported link node late

end Tracks

/-! ## Text -/

namespace Draft

theorem push {message : Message} (draft : Draft message) (byte : UInt8)
    (later : message.bufLen ≠ 0) : Draft (message.push byte) := by
  have behind : message.bufLen.toNat ≠ 0 := fun zero => later (UInt8.toNat_inj.1 zero)
  unfold Draft Message.push
  rw [Data.Buffer.get_set_of_ne _ _ behind]
  exact draft

theorem begin {message : Message} (empty : message.bufLen = 0) :
    Draft (message.push MsgType.dataReq.code) := by
  unfold Draft Message.push
  rw [empty, UInt8.toNat_zero, Data.Buffer.get_set_self _ _ (by decide)]
  decide

/-- What is sent of a draft starts with its first byte. -/
theorem traffic {message : Message} (draft : Draft message) (nonempty : 0 < message.bufLen) :
    Traffic (message.buf.cells.take message.bufLen.toNat) := by
  have length := message.buf.length_cells
  have positive : message.bufLen.toNat ≠ 0 :=
    Nat.pos_iff_ne_zero.1 (UInt8.lt_iff_toNat_lt.1 nonempty)
  obtain ⟨more, count⟩ := Nat.exists_eq_succ_of_ne_zero positive
  unfold Draft Data.Buffer.get at draft
  rw [count]
  cases cells : message.buf.cells with
  | nil =>
      rw [cells] at length
      cases length
  | cons first rest =>
      rw [cells] at draft
      exact traffic_cons _ draft.1 draft.2

end Draft

namespace Tracks

variable {asks : Settings → Prop} {mode unasked : Bool}

theorem pushTxMsg (byte : UInt8) {fits : Message → Prop} {stage : Stage}
    (kept : ∀ message, fits message → Draft message → Draft (message.push byte)) :
    Triple (tracking asks)
      (fun link node => Tracks mode unasked stage link node ∧ fits node.txMsg)
      (pushTxMsg byte) fun _ link node => Tracks mode unasked stage link node ∧
        ∃ message, fits message ∧ node.txMsg = message.push byte := by
  have read (position : Nat) : Keeps (tracking asks)
      (fun link node => Tracks mode unasked stage link node ∧ fits node.txMsg)
      (Node.perform (.index .txMsgBuf position maxMessageLen)) := by
    rintro link node ⟨tracks, fit⟩
    obtain ⟨between, settled⟩ := tracks.rests
    exact ⟨⟨between, settled, trivial⟩, fun _ _ => ⟨tracks, fit⟩⟩
  apply Triple.get_bind
  intro known
  apply Triple.pre _ fun _ _ => And.left
  apply Triple.bind (read _)
  intro _
  apply Triple.update
  rintro link node ⟨tracks, fit⟩
  exact ⟨{ tracks with draft := kept _ fit tracks.draft }, node.txMsg, fit, rfl⟩

/-- An empty draft is begun with the type of a data message; later characters
leave its first byte alone. -/
theorem textCharacter (inputChar : UInt8) {stage : Stage} :
    Keeps (tracking asks) (Tracks mode unasked stage) (textCharacter inputChar) := by
  let begun (link : Link) (node : LoraPoint2Point) : Prop :=
    Tracks mode unasked stage link node ∧ node.txMsg.bufLen ≠ 0
  have pushed (byte : UInt8) :
      Triple (tracking asks) begun (Node.pushTxMsg byte) fun _ => Tracks mode unasked stage := by
    refine (pushTxMsg byte fun message later draft => draft.push byte later).post ?_
    exact fun _ _ _ => And.left
  have first : Triple (tracking asks)
      (fun link node => Tracks mode unasked stage link node ∧ node.txMsg.bufLen = 0)
      (Node.pushTxMsg MsgType.dataReq.code) fun _ => begun := by
    refine (pushTxMsg _ fun message empty _ => Draft.begin empty).post ?_
    rintro _ link node ⟨tracks, message, empty, same⟩
    have one : message.bufLen + 1 ≠ 0 := by
      rw [empty]
      decide
    exact ⟨tracks, same ▸ one⟩
  apply Triple.get_bind
  intro known
  have opened : Triple (tracking asks)
      (fun link node => Tracks mode unasked stage link node ∧ node = known)
      (whenever (known.txMsg.bufLen = 0) (Node.pushTxMsg MsgType.dataReq.code))
      fun _ => begun := by
    apply Triple.ite
    · intro empty
      apply first.pre
      rintro link node ⟨tracks, rfl⟩
      exact ⟨tracks, of_decide_eq_true empty⟩
    · intro nonempty
      apply Triple.pure
      rintro link node ⟨tracks, rfl⟩
      exact ⟨tracks, fun empty => nonempty (decide_eq_true empty)⟩
  apply opened.bind
  intro _
  apply Triple.ite
  · intro _
    exact Triple.pure 1 fun _ _ => And.left
  · intro _
    have typed : Triple (tracking asks) begun (textByte inputChar)
        fun _ => Tracks mode unasked stage := by
      apply Triple.ite
      · exact fun _ => pushed _
      intro _
      apply Triple.ite
      · exact fun _ => Triple.pure () fun _ _ => And.left
      intro _
      apply Triple.ite
      · exact fun _ => pushed _
      · exact fun _ => pushed _
    exact Triple.bind typed fun _ => Keeps.pure 0

theorem texts : Texts (tracking asks) (Tracks mode unasked {}) where
  textCharacter inputChar := textCharacter inputChar
  setTxMessage contents numChars := by
    refine Keeps.bind (Keeps.update ?_) fun _ => Keeps.pure numChars
    intro link node tracks
    refine { tracks with draft := ?_ }
    have first : (node.txMsg.buf.load (MsgType.dataReq.code :: contents.take numChars.toNat)).get 0 =
        MsgType.dataReq.code := Data.Buffer.get_load_zero _ _ (by decide)
    unfold Draft
    rw [first]
    decide
  serviceTx destAddress := by
    intro link node tracks
    have carries : Transmits Traffic (tracking asks) (Tracks mode unasked {}) :=
      transmits nofun rfl
    have sent := carries.serviceTxSpan destAddress ⟨.txMsgBuf, node.txMsg.buf.cells⟩
      node.txMsg.bufLen true tracks.draft.traffic
    have emptied : Keeps (tracking asks) (Tracks mode unasked {})
        (modify fun node => { node with txMsg.bufLen := 0 }) :=
      Keeps.update fun _ _ tracks => { tracks with }
    exact (sent.bind fun _ => emptied) link node tracks

end Tracks

/-! ## Link changes -/

namespace Tracks

variable {asks : Settings → Prop} {mode unasked : Bool}

/-- An armed timer is stopped, given another timeout and started again. -/
theorem rearm {procedure : Procedure} (free : procedure ≠ .serviceLinkChangeReq) (owed : Nat)
    (timeoutMillis : UInt32) :
    Triple (tracking asks)
      (fun link node => Tracks mode unasked
        { activity := some procedure, paused := true, owed := owed } link
        { node with linkChangeTimeoutTimer := node.linkChangeTimeoutTimer.pause })
      (do
        onLinkTimer .pause
        onLinkTimer .clearDone
        onLinkTimer (·.setTimeout timeoutMillis)
        Node.serviceTimers
        onLinkTimer .start)
      fun _ => Tracks mode unasked { activity := some procedure, owed := owed } := by
  let pausing : Stage :=
    { activity := some procedure, paused := true, owed := owed }
  have cleared : Keeps (tracking asks) (Tracks mode unasked pausing) (onLinkTimer .clearDone) :=
    Keeps.update fun _ _ tracks => { tracks with clear := rfl }
  have limited : Keeps (tracking asks) (Tracks mode unasked pausing)
      (onLinkTimer (·.setTimeout timeoutMillis)) :=
    Keeps.update fun _ _ tracks => { tracks with }
  have serviced : Keeps (tracking asks) (Tracks mode unasked pausing) Node.serviceTimers :=
    serviceTimers (fun same => free (Option.some.inj same)) nofun rfl
  have started : Triple (tracking asks) (Tracks mode unasked pausing) (onLinkTimer .start)
      fun _ => Tracks mode unasked { activity := some procedure, owed := owed } := by
    apply Triple.update
    intro link node tracks
    exact { tracks with
      timed := fun _ => ⟨fun _ => (tracks.paused rfl).2, fun _ => .inl rfl⟩
      paused := nofun }
  have held : Triple (tracking asks)
      (fun link node => Tracks mode unasked pausing link
        { node with linkChangeTimeoutTimer := node.linkChangeTimeoutTimer.pause })
      (onLinkTimer .pause) fun _ => Tracks mode unasked pausing := Triple.update fun _ _ => id
  have resumed := Triple.bind serviced fun _ => started
  exact Triple.bind held fun _ => Triple.bind cleared fun _ => Triple.bind limited fun _ => resumed

section Asking

variable {settings : Settings}

/-- The stage of a client that asks for a link change. -/
abbrev asking : Stage := { activity := some .linkChangeReq }

/-- The request has been sent, and only the link knows with what success. -/
def Answered (mode : Bool) (settings : Settings) (acknowleged : Bool) (link : Link)
    (node : LoraPoint2Point) : Prop :=
  ∃ before, link = before.request settings acknowleged ∧ Tracks mode true asking before node

theorem enter_asking :
    Triple (tracking asks) (Tracks mode true {}) (Node.perform (.enter .linkChangeReq))
      fun _ => Tracks mode true asking := by
  intro link node tracks
  obtain ⟨between, settled⟩ := tracks.rests
  refine ⟨⟨between, settled, tracks.activity, tracks.read rfl⟩, fun _ _ => ?_⟩
  exact { tracks with activity := rfl, origin := nofun, read := fun _ => tracks.read rfl }

theorem sendtoWait_answered (asked : asks settings) (valid : settings.Valid)
    {destAddress : UInt8} (addressed : destAddress ≠ broadcastAddress) :
    Triple (tracking asks) (Tracks mode true asking)
      (Node.sendtoWait (MsgType.linkChangeReq.code :: settings.encode) destAddress)
      (Answered mode settings) := by
  intro link node tracks
  obtain ⟨between, settled⟩ := tracks.rests
  have speaks : link.Speaks asks (MsgType.linkChangeReq.code :: settings.encode) destAddress :=
    .inr (.inl ⟨settings, asked, valid, rfl, tracks.asked rfl, tracks.activity, addressed⟩)
  refine ⟨⟨between, settled, tracks.read rfl, tracks.current, tracks.address, speaks⟩, ?_⟩
  intro acknowleged _
  refine ⟨link, ?_, tracks⟩
  show link.request (Settings.decode _) acknowleged = _
  rw [Settings.decode_encode valid]

/-- An acknowledged request installs the settings and arms the timer. -/
theorem granted (valid : settings.Valid) :
    Triple (tracking asks) (Answered mode settings true) (do
      Node.setAll settings
      onLinkTimer .pause
      onLinkTimer .clearDone
      onLinkTimer (·.setTimeout linkChangeTimeoutMillis)
      Node.serviceTimers
      onLinkTimer .start) fun _ => Tracks mode false asking := by
  apply Triple.bind _ fun _ => rearm (by decide) 0 linkChangeTimeoutMillis
  rintro _ node ⟨before, rfl, tracks⟩
  refine Resumption.Meets.mono (setAll tracks.current.symm ?_ ?_) ?_
  · rw [tracks.current]
    rfl
  · exact fun idle => absurd (tracks.activity.symm.trans idle) nofun
  rintro _ _ _ ⟨rfl, rfl⟩
  rw [LoraPoint2Point.withSettings_of_valid _ valid]
  have settled := fun refused accepted => Settings.sift_of_valid valid refused accepted
  have counted : node.resetPacketErrorFraction.successes.toNat + 0 ≤ 0 := by
    rw [node.successes_reset]
    decide
  exact { tracks with
    current := (settled _ _).symm
    origin := nofun
    previous := tracks.current.trans (settled _ _).symm
    credit := counted
    timed := nofun
    paused := fun _ => ⟨rfl, rfl⟩
    asked := nofun }

theorem refused :
    Triple (tracking asks) (Answered mode settings false) (pure ())
      fun _ => Tracks mode false asking := by
  apply Triple.pure
  rintro _ node ⟨before, rfl, tracks⟩
  exact { tracks with asked := nofun }

/-- A valid request leaves the node at its old settings or, acknowledged, at the
requested ones. -/
theorem linkChangeReq (asked : asks settings) (valid : settings.Valid)
    {destAddress : UInt8} (addressed : destAddress ≠ broadcastAddress) :
    Triple (tracking asks) (Tracks mode true {}) (linkChangeReq destAddress settings)
      fun _ => Tracks mode false {} := by
  have left : Triple (tracking asks)
      (fun link node => Tracks mode false asking link node ∧ True)
      (Node.perform (.leave .linkChangeReq)) fun _ => Tracks mode false {} :=
    leave rfl rfl (fun _ => rfl) fun _ _ active _ => active
  have printed : Keeps (tracking asks) (Tracks mode true asking) (printSettings settings) :=
    reads.printSettings settings
  apply enter_asking.bind
  intro _
  apply Triple.bind _ fun _ => left
  apply Triple.bind printed
  intro _
  apply (sendtoWait_answered asked valid addressed).bind
  intro acknowleged
  apply Triple.post _ fun _ _ _ tracks => ⟨tracks, trivial⟩
  apply Triple.ite
  · rintro rfl
    exact granted valid
  · intro failed
    rw [Bool.eq_false_iff.2 failed]
    exact refused

end Asking

/-- The message that is handled waits in the receive buffer. -/
abbrev Handling (mode unasked : Bool) (message : Message) (link : Link) (node : LoraPoint2Point) :
    Prop :=
  Tracks mode unasked { owed := 1, reporting := true } link node ∧ node.rxMsg = message

section Serving

variable {message : Message}

/-- The stage of a server that changes its link. -/
abbrev serving : Stage := { activity := some .serviceLinkChangeReq, owed := 1 }

/-- The link has changed already, the node follows. -/
def Accepted (mode unasked : Bool) (message : Message) (link : Link) (node : LoraPoint2Point) :
    Prop :=
  ∃ before, link = before.enter .serviceLinkChangeReq ∧ Handling mode unasked message before node

/-- The node has followed, and the response is still to be sent. -/
def Tried (mode unasked : Bool) (message : Message) (link : Link) (node : LoraPoint2Point) :
    Prop :=
  Tracks mode unasked serving link node ∧ link.verdict = none ∧ link.inbox = message

/-- The response has been sent, and only the link knows with what success. -/
def Responded (mode unasked acknowleged : Bool) (link : Link) (node : LoraPoint2Point) : Prop :=
  ∃ before, link = before.respond acknowleged ∧ Tracks mode unasked serving before node

/-- The node has drawn its conclusion from the answer to its response. -/
def Decided (mode unasked : Bool) (link : Link) (node : LoraPoint2Point) : Prop :=
  Tracks mode unasked serving link node ∧ link.verdict ≠ none

theorem enter_accepted (request : message.buf.get 0 = MsgType.linkChangeReq.code) :
    Triple (tracking asks) (Handling mode unasked message)
      (Node.perform (.enter .serviceLinkChangeReq)) fun _ => Accepted mode unasked message := by
  rintro link node ⟨tracks, same⟩
  obtain ⟨between, settled⟩ := tracks.rests
  obtain ⟨handed, unread⟩ := tracks.handed rfl
  have holds : link.Holds .linkChangeReq := by
    refine ⟨unread, ?_⟩
    rw [← handed, same]
    exact request
  exact ⟨⟨between, settled, tracks.activity, holds⟩, fun _ _ => ⟨link, rfl, tracks, same⟩⟩

theorem printSettings_accepted (settings : Settings) :
    Keeps (tracking asks) (Accepted mode unasked message) (printSettings settings) := by
  have reads : ReadsAnywhere (tracking asks) (Accepted mode unasked message) := by
    intro array position size
    apply perform_silent fun _ _ _ => rfl
    rintro _ node ⟨before, rfl, tracks, _⟩
    have old := Settings.mk.inj tracks.current
    refine ⟨⟨.inl old.1, .inl old.2.1, .inl old.2.2.1⟩, ?_, trivial⟩
    intro idle
    exact absurd idle nofun
  exact reads.printSettings _

theorem setAll_tried :
    Triple (tracking asks) (Accepted mode unasked message)
      (Node.setAll message.requestedSettings) fun _ => Tried mode unasked message := by
  rintro _ node ⟨before, rfl, tracks, same⟩
  obtain ⟨handed, _⟩ := tracks.handed rfl
  have inbox : before.inbox = message := handed.symm.trans same
  subst inbox
  have current : (before.enter .serviceLinkChangeReq).current =
      before.inbox.requestedSettings.sift node.current before.inbox.requestedSettings := by
    rw [tracks.current]
    rfl
  have previous : (before.enter .serviceLinkChangeReq).previous =
      before.inbox.requestedSettings.sift node.previous node.current := by
    rw [tracks.current, tracks.previous]
    rfl
  have bears : Bears mode unasked serving (before.enter .serviceLinkChangeReq) node :=
    { tracks with
      read := fun _ => ⟨fun holds => absurd holds.1 nofun, fun holds => absurd holds.1 nofun⟩
      handed := nofun
      activity := rfl }
  refine Resumption.Meets.mono (setAll tracks.current.symm current nofun) ?_
  rintro _ _ _ ⟨rfl, rfl⟩
  refine ⟨?_, rfl, rfl⟩
  exact arrives (bears.withSettings _) current previous nofun rfl tracks.clear (tracks.timed rfl)

theorem delay_tried :
    Keeps (tracking asks) (Tried mode unasked message) (Node.perform (.delay 100)) := by
  apply perform_silent fun _ _ _ => rfl
  rintro link node ⟨tracks, _⟩
  exact ⟨tracks.rests.1, tracks.rests.2, trivial⟩

theorem sendtoWait_responded (settings : Settings) :
    Triple (tracking asks) (Tried mode unasked message)
      (Node.sendtoWait (MsgType.linkChangeRsp.code :: settings.encode) message.srcAddr)
      (Responded mode unasked) := by
  rintro link node ⟨tracks, unanswered, inbox⟩
  obtain ⟨between, settled⟩ := tracks.rests
  have addressed : message.srcAddr ≠ broadcastAddress := inbox ▸ tracks.sender
  have speaks : link.Speaks asks (MsgType.linkChangeRsp.code :: settings.encode)
      message.srcAddr := .inr (.inr ⟨rfl, unanswered, tracks.activity, addressed⟩)
  refine ⟨⟨between, settled, tracks.read rfl, tracks.current, tracks.address, speaks⟩, ?_⟩
  exact fun acknowleged _ => ⟨link, rfl, tracks⟩

theorem confirmed_decided :
    Triple (tracking asks) (Responded mode unasked true) (pure ())
      fun _ => Decided mode unasked := by
  apply Triple.pure
  rintro _ node ⟨before, rfl, tracks⟩
  exact ⟨{ tracks with origin := nofun }, nofun⟩

theorem withdrawn_decided :
    Triple (tracking asks) (Responded mode unasked false)
      (do Node.setAll (← get).previous) fun _ => Decided mode unasked := by
  apply Triple.get_bind
  rintro known _ node ⟨⟨before, rfl, tracks⟩, rfl⟩
  have current : (before.respond false).current =
      node.previous.sift node.current node.previous := by
    rw [tracks.current, tracks.previous]
    rfl
  have previous : (before.respond false).previous =
      node.previous.sift node.previous node.current := by
    rw [tracks.current, tracks.previous]
    rfl
  have bears : Bears mode unasked serving (before.respond false) node := { tracks with }
  refine Resumption.Meets.mono (setAll tracks.current.symm current ?_) ?_
  · exact fun idle => absurd (tracks.activity.symm.trans idle) nofun
  rintro _ _ _ ⟨rfl, rfl⟩
  refine ⟨?_, nofun⟩
  exact arrives (bears.withSettings _) current previous nofun rfl tracks.clear (tracks.timed rfl)

/-- A request is tried out, and given up again unless the response is acknowledged. -/
theorem serviceLinkChangeReq (request : message.buf.get 0 = MsgType.linkChangeReq.code) :
    Triple (tracking asks) (Handling mode unasked message)
      (serviceLinkChangeReq message.srcAddr message.requestedSettings)
      fun _ => Tracks mode unasked { owed := 1 } := by
  have left : Triple (tracking asks) (Decided mode unasked)
      (Node.perform (.leave .serviceLinkChangeReq)) fun _ => Tracks mode unasked { owed := 1 } :=
    leave rfl rfl (fun _ => rfl) fun _ _ active more => ⟨active, more⟩
  apply (enter_accepted request).bind
  intro _
  apply Triple.bind _ fun _ => left
  apply Triple.bind (printSettings_accepted _)
  intro _
  apply setAll_tried.bind
  intro _
  apply Triple.get_bind
  intro known
  apply Triple.pre _ fun _ _ => And.left
  apply Triple.bind delay_tried
  intro _
  apply (sendtoWait_responded known.current).bind
  intro acknowleged
  cases acknowleged with
  | true => exact confirmed_decided
  | false => exact withdrawn_decided

end Serving

/-- A response puts the armed timer on the longer timeout. -/
theorem serviceLinkChangeRsp {message : Message}
    (response : message.buf.get 0 = MsgType.linkChangeRsp.code) :
    Triple (tracking asks) (Handling mode unasked message) serviceLinkChangeRsp
      fun _ => Tracks mode unasked { owed := 1 } := by
  let confirming : Stage := { activity := some .serviceLinkChangeRsp, owed := 1 }
  let pausing : Stage := { activity := some .serviceLinkChangeRsp, paused := true, owed := 1 }
  have entered : Triple (tracking asks) (Handling mode unasked message)
      (Node.perform (.enter .serviceLinkChangeRsp)) fun _ link node =>
        Tracks mode unasked pausing link
          { node with linkChangeTimeoutTimer := node.linkChangeTimeoutTimer.pause } := by
    rintro link node ⟨tracks, same⟩
    obtain ⟨between, settled⟩ := tracks.rests
    obtain ⟨handed, unread⟩ := tracks.handed rfl
    have holds : link.Holds .linkChangeRsp := by
      refine ⟨unread, ?_⟩
      rw [← handed, same]
      exact response
    refine ⟨⟨between, settled, tracks.activity, holds⟩, fun _ _ => ?_⟩
    exact { tracks with
      read := fun _ => ⟨fun holds => absurd holds.1 nofun, fun holds => absurd holds.1 nofun⟩
      handed := nofun
      activity := rfl
      origin := nofun
      timed := nofun
      paused := fun _ => ⟨rfl, rfl⟩ }
  have left : Triple (tracking asks)
      (fun link node => Tracks mode unasked confirming link node ∧ True)
      (Node.perform (.leave .serviceLinkChangeRsp)) fun _ => Tracks mode unasked { owed := 1 } :=
    leave rfl rfl (fun _ => rfl) fun _ _ active _ => active
  apply entered.bind
  intro _
  apply Triple.bind _ fun _ => left
  apply (rearm (by decide) 1 _).post
  exact fun _ _ _ tracks => ⟨tracks, trivial⟩

/-! ## Reception -/

theorem dispatch :
    Triple (tracking asks) (Tracks mode unasked { owed := 1, reporting := true })
      (withRxMsg dispatch) fun _ => Tracks mode unasked { owed := 1 } := by
  apply withRxMsg_holds
  intro message
  -- a message of any other type is read without a handler of link changes
  have passed (other : message.buf.get 0 ≠ MsgType.linkChangeReq.code ∧
      message.buf.get 0 ≠ MsgType.linkChangeRsp.code) (link : Link) (node : LoraPoint2Point)
      (handling : Handling mode unasked message link node) :
      Tracks mode unasked { owed := 1 } link node := by
    obtain ⟨tracks, same⟩ := handling
    have inbox : link.inbox = message := (tracks.handed rfl).1.symm.trans same
    have read : link.Read :=
      ⟨fun holds => other.1 (inbox ▸ holds.2), fun holds => other.2 (inbox ▸ holds.2)⟩
    exact { tracks with read := fun _ => read, handed := nofun }
  have marked (procedure : Procedure)
      (promise : ∀ link node, link.activity = none → link.Read →
        link.Promise asks node (.enter procedure) ∧ link.Promise asks node (.leave procedure))
      (silent : ∀ link : Link, link.enter procedure = link ∧ link.leave procedure = link) :
      Keeps (tracking asks) (Tracks mode unasked { owed := 1 })
        (Node.perform (.enter procedure)) ∧
      Keeps (tracking asks) (Tracks mode unasked { owed := 1 })
        (Node.perform (.leave procedure)) :=
    ⟨perform _ (fun link node tracks => (promise link node tracks.activity (tracks.read rfl)).1)
      fun link _ _ => (silent link).1,
    perform _ (fun link node tracks => (promise link node tracks.activity (tracks.read rfl)).2)
      fun link _ _ => (silent link).2⟩
  refine dispatch_triple serviceLinkChangeReq serviceLinkChangeRsp ?_ ?_ ?_
  · intro code
    have marks := marked .serviceHeartbeatReq (fun _ _ idle read => ⟨⟨idle, read⟩, trivial⟩)
      fun _ => ⟨rfl, rfl⟩
    have carries : Transmits Traffic (tracking asks) (Tracks mode unasked { owed := 1 }) :=
      transmits nofun rfl
    apply (carries.serviceHeartbeatReq _ marks.1 marks.2).pre
    apply passed
    rw [code]
    decide
  · intro code
    have marks := marked .serviceHeartbeatRsp (fun _ _ idle read => ⟨⟨idle, read⟩, trivial⟩)
      fun _ => ⟨rfl, rfl⟩
    apply (serviceHeartbeatRsp_keeps marks.1 marks.2).pre
    apply passed
    rw [code]
    decide
  · exact fun noRequest noResponse _ => passed ⟨noRequest, noResponse⟩

/-- The packet owed for a reception is counted; enough of them stop the timer. -/
theorem trustRule :
    Triple (tracking asks) (Tracks mode unasked { owed := 1 }) trustRule
      fun _ => Tracks mode unasked {} := by
  intro link node tracks
  rw [trustRule_apply]
  have one := node.toNat_successes_update_true
  have credit : (node.updatePacketErrorFraction true).successes.toNat + 0 ≤ link.credit :=
    Nat.le_trans one tracks.credit
  have counted : Tracks mode unasked {} link (node.updatePacketErrorFraction true) :=
    { tracks with credit := credit }
  simp only
  split
  · split
    · rename_i trusted
      have enough : successfulPacketsBeforeLinkIsTrusted.toNat < link.credit :=
        Nat.lt_of_lt_of_le (UInt32.lt_iff_toNat_lt.1 trusted) credit
      have timers : Keeps (tracking asks) (Tracks mode unasked {}) Node.serviceTimers :=
        serviceTimers nofun (fun _ => rfl) rfl
      apply timers
      exact { counted with
        clear := rfl
        timed := fun _ => ⟨nofun, fun _ => .inr enough⟩
        paused := nofun }
    · exact { counted with paused := nofun }
  · exact counted

/-- A nonempty frame leaves room for the next one. -/
theorem overwrite_room {message : Message} {payload : List UInt8} (room : message.bufLen ≠ 0)
    (nonempty : payload ≠ []) : (message.overwrite payload).bufLen ≠ 0 := by
  have bound := message.bufLen.toNat_lt
  have positive : message.bufLen.toNat ≠ 0 := fun zero => room (UInt8.toNat_inj.1 zero)
  have some : 0 < payload.length := List.length_pos_iff.2 nonempty
  intro zero
  have length := congrArg UInt8.toNat zero
  simp only [Message.overwrite, List.length_take, UInt8.toNat_ofNat', UInt8.toNat_zero] at length
  omega

theorem recvfromAckTimeout :
    Triple (tracking asks) (Tracks mode unasked {}) recvfromAckTimeout fun got =>
      Tracks mode unasked (if got then { owed := 1, reporting := true } else {}) := by
  intro link node tracks
  obtain ⟨between, settled⟩ := tracks.rests
  have promise : link.Promise asks node (.recvfromAckTimeout node.rxMsg.bufLen 200) :=
    ⟨tracks.read rfl, tracks.activity, tracks.origin rfl, tracks.current, tracks.room⟩
  refine ⟨⟨between, settled, promise⟩, fun reception allowed => ?_⟩
  cases reception with
  | nothing => exact { tracks with }
  | filtered payload =>
      exact { tracks with room := overwrite_room tracks.room allowed, handed := nofun }
  | message payload srcAddr destAddr msgId flags =>
      have credit : node.successes.toNat + 1 ≤ link.credit + 1 := Nat.succ_le_succ tracks.credit
      exact { tracks with
        credit := credit
        room := overwrite_room tracks.room allowed.1
        sender := allowed.2
        read := nofun
        handed := fun _ => ⟨rfl, rfl⟩
        timed := fun _ => (tracks.timed rfl).counted }

theorem serviceRx : Keeps (tracking asks) (Tracks mode unasked {}) serviceRx := by
  have timers : Keeps (tracking asks) (Tracks mode unasked {}) Node.serviceTimers :=
    serviceTimers nofun (fun _ => rfl) rfl
  have reported : Keeps (tracking asks) (Tracks mode unasked { owed := 1, reporting := true })
      (withRxMsg report) := by
    apply withRxMsg_keeps
    exact fun _ => report_keeps (plain rfl) (plain rfl) (reads.printBuffer _ _)
  have restored : Keeps (tracking asks) (Tracks mode unasked {})
      (modify fun node => { node with rxMsg.bufLen := 128 }) := by
    apply Keeps.update
    intro link node tracks
    have room : (128 : UInt8) ≠ 0 := by decide
    exact { tracks with room := room, handed := nofun }
  apply Keeps.bind timers
  intro _
  apply recvfromAckTimeout.bind
  intro got
  cases got with
  | true =>
      exact Triple.bind reported fun _ => dispatch.bind fun _ => trustRule.bind fun _ => restored
  | false => exact Keeps.pure ()

/-! ## Calls -/

theorem quietOperation {operation : Operation} (quiet : operation.changesLink mode = false)
    (sent : ∀ payload ∈ operation.payloads, Traffic payload) :
    Keeps (tracking asks) (Tracks mode unasked {}) operation.run := by
  have carries : Transmits Traffic (tracking asks) (Tracks mode unasked {}) :=
    transmits nofun rfl
  have timers : Keeps (tracking asks) (Tracks mode unasked {}) Node.serviceTimers :=
    serviceTimers nofun (fun _ => rfl) rfl
  exact carries.quietOperation texts timers serviceRx (fun _ _ tracks => tracks.mode) quiet sent

end Tracks

/-- A call that neither changes the link nor transmits a frame of a link change. -/
def Ordinary (mode : Bool) (operation : Operation) : Prop :=
  operation.changesLink mode = false ∧ ∀ payload ∈ operation.payloads, Traffic payload

instance (mode : Bool) (operation : Operation) : Decidable (Ordinary mode operation) :=
  inferInstanceAs (Decidable (_ ∧ _))

/-- What holds of a node between two calls. -/
structure Ready (node : LoraPoint2Point) : Prop where
  clear : node.linkChangeTimeoutTimer.done = false
  oneShot : node.linkChangeTimeoutTimer.repeating = false
  room : node.rxMsg.bufLen ≠ 0
  draft : Draft node.txMsg
  address : node.thisAddress ≠ broadcastAddress

namespace Ready

variable {asks : Settings → Prop} {node : LoraPoint2Point}

/-- A node that is ready stands at the beginning of its history. -/
theorem tracks (ready : Ready node) :
    Tracks node.serialCommandMode true {} (Link.of node) node where
  oneShot := ready.oneShot
  credit := Nat.le_refl _
  room := ready.room
  draft := ready.draft
  mode := rfl
  address := ready.address
  sender := by
    show (0 : UInt8) ≠ broadcastAddress
    decide
  read := fun _ => ⟨fun holds => absurd holds.1 nofun, fun holds => absurd holds.1 nofun⟩
  handed := nofun
  activity := rfl
  asked := fun _ => rfl
  current := rfl
  origin := fun _ => rfl
  previous := rfl
  clear := ready.clear
  timed := fun _ => ⟨id, .inl⟩
  paused := nofun

theorem ordinaryCalls {mode unasked : Bool} {calls : List Operation}
    (quiet : ∀ call ∈ calls, Ordinary mode call) :
    Keeps (tracking asks) (Tracks mode unasked {}) (operate calls) :=
  Keeps.forM_mem fun call member => Tracks.quietOperation (quiet call member).1
    (quiet call member).2

/-- A node that makes only ordinary calls keeps to its link. -/
theorem serves (ready : Ready node) {calls : List Operation}
    (quiet : ∀ call ∈ calls, Ordinary node.serialCommandMode call) :
    (operate calls node).Meets (tracking asks)
      (fun link node _ => ∃ mode unasked, Tracks mode unasked {} link node) (Link.of node) :=
  (ordinaryCalls quiet _ node ready.tracks).mono fun _ _ _ tracks => ⟨_, _, tracks⟩

/-- A node that makes one valid request among ordinary calls keeps to its link. -/
theorem requests (ready : Ready node) {before after : List Operation} {destAddress : UInt8}
    {settings : Settings} (asked : asks settings) (valid : settings.Valid)
    (addressed : destAddress ≠ broadcastAddress)
    (quiet : ∀ call ∈ before ++ after, Ordinary node.serialCommandMode call) :
    (operate (before ++ .linkChangeReq destAddress settings :: after) node).Meets (tracking asks)
      (fun link node _ => ∃ mode unasked, Tracks mode unasked {} link node) (Link.of node) := by
  have early : Keeps (tracking asks) (Tracks node.serialCommandMode true {}) (operate before) :=
    ordinaryCalls fun call member => quiet call (List.mem_append_left _ member)
  have late : Keeps (tracking asks) (Tracks node.serialCommandMode false {}) (operate after) :=
    ordinaryCalls fun call member => quiet call (List.mem_append_right _ member)
  have request : Triple (tracking asks) (Tracks node.serialCommandMode true {})
      (Operation.linkChangeReq destAddress settings).run
      fun _ => Tracks node.serialCommandMode false {} :=
    Tracks.linkChangeReq asked valid addressed
  have whole := Triple.bind early fun _ => request.bind fun _ => late
  have split : operate (before ++ .linkChangeReq destAddress settings :: after) =
      operate before >>= fun _ => (Operation.linkChangeReq destAddress settings).run >>= fun _ =>
        operate after := by
    show forM (before ++ _ :: after) Operation.run = _
    rw [List.forM_append, List.forM_cons]
    rfl
  rw [split]
  exact (whole _ node ready.tracks).mono fun _ _ _ tracks => ⟨_, _, tracks⟩

end Ready

end Roam.Node
