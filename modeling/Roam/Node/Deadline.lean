import Mathlib.Data.List.Basic
import Roam.Node.Walk

/-!
# The deadline of a link change request

An acknowledged request arms the rollback timer with three seconds.  From then
on every reception restarts the timer, and the fourth counted success stops it.
The history of a run says which of the two has happened when the deadline passes.
-/

namespace Roam.Node

open Roam.Interaction

/-! ## History since the timer was armed -/

/-- What receptions, transmissions and clock readings have done to an armed timer. -/
structure Vigil where
  /-- The last reading of the clock. -/
  clock : UInt32
  /-- The reading the timer was last restarted from. -/
  touched : UInt32
  /-- Packets counted as successful since the timer was armed. -/
  successes : UInt32 := 0
  /-- A reception has found more successes than a trusted link needs. -/
  trusted : Bool := false
  /-- A heartbeat has been received and its handler has not returned. -/
  replying : Bool := false
  deriving DecidableEq, Repr

namespace Vigil

/-- The vigil of a timer armed at a reading of the clock. -/
def armed (reading : UInt32) : Vigil := { clock := reading, touched := reading }

/-- A received message has been handled. -/
def handled (vigil : Vigil) : Vigil :=
  { vigil with
    touched := vigil.clock
    successes := vigil.successes + 1
    trusted := vigil.trusted || decide (successfulPacketsBeforeLinkIsTrusted < vigil.successes + 1)
    replying := false }

def observe (vigil : Vigil) (node : LoraPoint2Point) :
    (action : Action) → action.Answer → Vigil
  | .millis, now => { vigil with clock := now }
  | .sendtoWait _ destAddress, acknowleged =>
      if acknowleged = true ∧ destAddress ≠ broadcastAddress then
        { vigil with successes := vigil.successes + 1 }
      else vigil
  | .recvfromAckTimeout _ _, .message payload srcAddr destAddr msgId flags =>
      let rxMsg := node.rxMsg.afterReception (.message payload srcAddr destAddr msgId flags)
      if rxMsg.buf.get 0 = MsgType.heartbeatReq.code then { vigil with replying := true }
      else vigil.handled
  | .leave .serviceHeartbeatReq, _ => if vigil.replying then vigil.handled else vigil
  | _, _ => vigil

/-- The history after the listed steps. -/
def after (vigil : Vigil) (trace : List NodeStep) : Vigil :=
  trace.foldl (fun vigil step => vigil.observe step.state step.action step.answer) vigil

/-- The timer runs out at this reading of the clock. -/
def RunsOut (vigil : Vigil) (now : UInt32) : Prop :=
  vigil.trusted = false ∧ linkChangeTimeoutMillis < now - vigil.touched

instance (vigil : Vigil) (now : UInt32) : Decidable (vigil.RunsOut now) :=
  inferInstanceAs (Decidable (_ ∧ _))

end Vigil

/-- The readings of the clock in a run. -/
def readings (trace : List NodeStep) : List UInt32 :=
  trace.filterMap fun
    | ⟨_, .millis, now⟩ => some now
    | _ => none

theorem readings_timeless {node : LoraPoint2Point} {action : Action} {answer : action.Answer}
    (timeless : action ≠ .millis) (trace : List NodeStep) :
    readings (⟨node, action, answer⟩ :: trace) = readings trace := by
  cases action <;> first | rfl | exact absurd rfl timeless

/-- The message taken in at this step, if there is one, is neither a link change
request nor a response, as it stands in the receive buffer. -/
def noLinkChange : NodeStep → Bool
  | ⟨node, .recvfromAckTimeout _ _, reception⟩ =>
      match (reception : Reception) with
      | .message .. =>
          let code := (node.rxMsg.afterReception reception).buf.get 0
          code ≠ MsgType.linkChangeReq.code ∧ code ≠ MsgType.linkChangeRsp.code
      | _ => true
  | _ => true

/-- A vigil that has seen no late reading, or the verdict of the first late one. -/
inductive Watch where
  | waiting (vigil : Vigil)
  | decided (rollsBack : Bool)

namespace Watch

def observe (armed : UInt32) : Watch → LoraPoint2Point → (action : Action) → action.Answer → Watch
  | .waiting vigil, node, .millis, now =>
      if linkChangeTimeoutMillis < now - armed then .decided (vigil.RunsOut now)
      else .waiting (vigil.observe node .millis now)
  | .waiting vigil, node, action, answer => .waiting (vigil.observe node action answer)
  | .decided rollsBack, _, _, _ => .decided rollsBack

/-- The clock runs forward and no link change arrives, until the verdict. -/
def Fits (armed : UInt32) : Watch → LoraPoint2Point → (action : Action) → action.Answer → Prop
  | .waiting vigil, _, .millis, now => vigil.clock - armed ≤ now - armed
  | .waiting _, node, action, answer => noLinkChange ⟨node, action, answer⟩
  | .decided _, _, _, _ => False

section Timeless

variable {armed : UInt32} {vigil : Vigil} {node : LoraPoint2Point} {action : Action}
variable {answer : action.Answer}

theorem observe_timeless (timeless : action ≠ .millis) :
    observe armed (.waiting vigil) node action answer =
      .waiting (vigil.observe node action answer) := by
  cases action <;> first | rfl | exact absurd rfl timeless

theorem fits_timeless (timeless : action ≠ .millis) :
    Fits armed (.waiting vigil) node action answer ↔ noLinkChange ⟨node, action, answer⟩ := by
  cases action <;> first | exact Iff.rfl | exact absurd rfl timeless

end Timeless

end Watch

/-- After the first late reading the program runs the rollback at once exactly if
the vigil says so. -/
def deadline (armed : UInt32) : Contract LoraPoint2Point Action Action.Answer Watch where
  require
    | .waiting _, _, _ => True
    | .decided rollsBack, _, action => action = .enter .linkChangeReqTimeout ↔ rollsBack = true
  allow := Watch.Fits armed
  record := Watch.observe armed

/-- An invariant of the vigil, until the verdict has been carried out; only the
serial mode is known for good. -/
def Until (mode : Bool) (invariant : Vigil → LoraPoint2Point → Prop) :
    Watch → LoraPoint2Point → Prop
  | .waiting vigil, node => invariant vigil node
  | .decided rollsBack, node => rollsBack = false ∧ node.serialCommandMode = mode

/-- An action that neither reads the clock nor starts a rollback only moves the vigil. -/
theorem Until.perform {armed : UInt32} {mode : Bool} {before : Vigil → LoraPoint2Point → Prop}
    (action : Action) {after : action.Answer → Vigil → LoraPoint2Point → Prop}
    (timeless : action ≠ .millis) (ordinary : action ≠ .enter .linkChangeReqTimeout)
    (moves : ∀ vigil node answer, before vigil node →
      noLinkChange ⟨node, action, answer⟩ = true →
        after answer (vigil.observe node action answer) node) :
    Triple (deadline armed) (Until mode before) (perform action) fun answer =>
      Until mode (after answer) := by
  rintro (vigil | rollsBack) node start
  · refine ⟨trivial, fun answer allowed => ?_⟩
    have reached := moves vigil node answer start ((Watch.fits_timeless timeless).1 allowed)
    show Until mode (after answer) (Watch.observe armed (.waiting vigil) node action answer) node
    rw [Watch.observe_timeless timeless]
    exact reached
  · obtain ⟨rfl, _⟩ := start
    exact ⟨iff_of_false ordinary nofun, fun _ never => never.elim⟩

theorem Until.update {armed : UInt32} {mode : Bool}
    {before after : Vigil → LoraPoint2Point → Prop}
    {change : LoraPoint2Point → LoraPoint2Point}
    (serial : ∀ node, (change node).serialCommandMode = node.serialCommandMode)
    (moves : ∀ vigil node, before vigil node → after vigil (change node)) :
    Triple (deadline armed) (Until mode before) (modify change) fun _ => Until mode after := by
  rintro (vigil | rollsBack) node start
  · exact moves vigil node start
  · exact ⟨start.1, (serial node).trans start.2⟩

section Silent

variable {armed : UInt32} {mode : Bool} {invariant : Vigil → LoraPoint2Point → Prop}

theorem Until.plain (action : Action) (plain : action.plain = true) :
    Keeps (deadline armed) (Until mode invariant) (Node.perform action) := by
  apply Until.perform action
  · rintro rfl
    cases plain
  · rintro rfl
    cases plain
  · intro vigil node answer holds _
    cases action <;> first | exact holds | cases plain

theorem Until.reads : ReadsAnywhere (deadline armed) (Until mode invariant) :=
  fun array position size => Until.perform (.index array position size) nofun nofun
    fun _ _ _ holds _ => holds

end Silent

/-! ## The timer and the vigil -/

/-- The timer stands where the vigil says, and no reading has been late. -/
structure Watching (armed : UInt32) (mode replying : Bool) (vigil : Vigil)
    (node : LoraPoint2Point) : Prop where
  clock : vigil.clock = node.currentMillis
  successes : vigil.successes = node.successes
  clear : node.linkChangeTimeoutTimer.done = false
  stopped : vigil.trusted = true → node.linkChangeTimeoutTimer.started = false
  running : vigil.trusted = false → node.linkChangeTimeoutTimer.started = true
  timeout : vigil.trusted = false →
    node.linkChangeTimeoutTimer.timeoutMillis = linkChangeTimeoutMillis
  reference : vigil.trusted = false → node.linkChangeTimeoutTimer.referenceMillis = vigil.touched
  forward : vigil.touched - armed ≤ vigil.clock - armed
  early : vigil.clock - armed ≤ linkChangeTimeoutMillis
  replies : vigil.replying = replying
  serial : node.serialCommandMode = mode

namespace Watching

variable {armed : UInt32} {mode replying : Bool} {vigil : Vigil} {node later : LoraPoint2Point}

/-- Only the cached clock, the statistics and the timer are looked at. -/
theorem congr (watching : Watching armed mode replying vigil node)
    (clock : later.currentMillis = node.currentMillis)
    (successes : later.successes = node.successes)
    (timer : later.linkChangeTimeoutTimer = node.linkChangeTimeoutTimer)
    (serial : later.serialCommandMode = node.serialCommandMode) :
    Watching armed mode replying vigil later := by
  constructor
  · exact watching.clock.trans clock.symm
  · exact watching.successes.trans successes.symm
  · exact timer ▸ watching.clear
  · exact timer ▸ watching.stopped
  · exact timer ▸ watching.running
  · exact timer ▸ watching.timeout
  · exact timer ▸ watching.reference
  · exact watching.forward
  · exact watching.early
  · exact watching.replies
  · exact serial.trans watching.serial

/-- A handled message that makes the link trusted leaves nothing to watch but that the
timer stays stopped. -/
theorem retires (watching : Watching armed mode replying vigil node)
    (trusted : vigil.handled.trusted = true) (clock : later.currentMillis = node.currentMillis)
    (successes : vigil.successes + 1 = later.successes)
    (clear : later.linkChangeTimeoutTimer.done = false)
    (stopped : later.linkChangeTimeoutTimer.started = false)
    (serial : later.serialCommandMode = node.serialCommandMode) :
    Watching armed mode false vigil.handled later where
  clock := watching.clock.trans clock.symm
  successes := successes
  clear := clear
  stopped _ := stopped
  running untrusted := absurd (trusted.symm.trans untrusted) nofun
  timeout untrusted := absurd (trusted.symm.trans untrusted) nofun
  reference untrusted := absurd (trusted.symm.trans untrusted) nofun
  forward := UInt32.le_refl _
  early := watching.early
  replies := rfl
  serial := serial.trans watching.serial

/-- The acknowledgement has been counted by the vigil and not yet by the node. -/
def Owed (armed : UInt32) (mode replying : Bool) (vigil : Vigil) (node : LoraPoint2Point) : Prop :=
  Watching armed mode replying vigil (node.updatePacketErrorFraction true)

theorem owed (watching : Watching armed mode replying vigil node) :
    Owed armed mode replying { vigil with successes := vigil.successes + 1 } node := by
  have successes : vigil.successes + 1 = (node.updatePacketErrorFraction true).successes := by
    rw [watching.successes, node.successes_update_true]
  exact { watching with successes := successes }

theorem sendtoWait (payload : List UInt8) (destAddress : UInt8) :
    Triple (deadline armed) (Until mode (Watching armed mode replying))
      (sendtoWait payload destAddress) fun acknowleged =>
        Until mode (if acknowleged = true ∧ destAddress ≠ broadcastAddress then
          Owed armed mode replying else Watching armed mode replying) := by
  apply Until.perform (.sendtoWait payload destAddress) nofun nofun
  intro vigil node acknowleged watching _
  by_cases counts : acknowleged = true ∧ destAddress ≠ broadcastAddress
  · simp only [Vigil.observe, if_pos counts]
    exact watching.owed
  · simp only [Vigil.observe, if_neg counts]
    exact watching

theorem sendAndCount (payload : List UInt8) (destAddress : UInt8) :
    Keeps (deadline armed) (Until mode (Watching armed mode replying))
      (sendAndCount payload destAddress) := by
  apply (sendtoWait payload destAddress).bind
  intro acknowleged
  apply Triple.ite
  · rintro rfl
    apply Triple.ite
    · intro addressed
      rw [if_pos ⟨rfl, addressed⟩]
      have read : Keeps (deadline armed) (Until mode (Owed armed mode replying)) lastSNR :=
        Until.perform .rf95LastSNR nofun nofun fun _ _ _ watching _ => watching
      have stored (snr : Int) : Keeps (deadline armed) (Until mode (Owed armed mode replying))
          (modify fun node => { node with ackSnr := snr }) :=
        Until.update (fun _ => rfl) fun _ _ watching => watching.congr rfl rfl rfl rfl
      have written : Triple (deadline armed) (Until mode (Owed armed mode replying))
          (modify (·.updatePacketErrorFraction true))
          fun _ => Until mode (Watching armed mode replying) :=
        Until.update (fun _ => rfl) fun _ _ => id
      exact Triple.bind read fun snr => Triple.bind (stored snr) fun _ =>
        Triple.bind written fun _ => Keeps.pure true
    · intro broadcast
      rw [if_neg fun counts : _ ∧ _ => broadcast counts.2]
      exact Keeps.pure false
  · intro failed
    rw [if_neg fun counts : _ ∧ _ => failed counts.1]
    have written : Keeps (deadline armed) (Until mode (Watching armed mode replying))
        (modify (·.updatePacketErrorFraction false)) := by
      refine Until.update (fun _ => rfl) ?_
      intro vigil node watching
      exact watching.congr rfl node.successes_update_false rfl rfl
    exact written.bind fun _ => Keeps.pure false

theorem transmits : Transmits (fun _ => True) (deadline armed)
    (Until mode (Watching armed mode replying)) where
  plain := Until.plain
  index array position size _ := Until.reads array position size
  sendAndCount payload destAddress _ := sendAndCount payload destAddress
  heartbeatReq _ := trivial
  heartbeatRsp _ := trivial
  heartbeatTimer timer watch node := by
    cases watch with
    | waiting vigil => exact fun watching => watching.congr rfl rfl rfl rfl
    | decided rollsBack => exact id

theorem texts : Texts (deadline armed) (Until mode (Watching armed mode replying)) := by
  have drafts : Drafts (Until mode (Watching armed mode replying)) := {
    txMsg := fun message watch node => by
      cases watch with
      | waiting vigil => exact fun watching => watching.congr rfl rfl rfl rfl
      | decided rollsBack => exact id }
  exact drafts.texts transmits.toEmits Until.reads

/-! ## Reading the clock -/

/-- A timer that is not behind the deadline has not run out before it. -/
theorem offset_le {armed touched now limit : UInt32} (forward : touched - armed ≤ now - armed)
    (early : now - armed ≤ limit) : now - touched ≤ limit := by
  have split : now - touched = (now - armed) - (touched - armed) := by grind
  have whole := UInt32.toNat_sub_of_le _ _ forward
  rw [UInt32.le_iff_toNat_le] at early ⊢
  rw [split, whole]
  omega

/-- The timer expires exactly when the vigil runs out. -/
theorem expired_iff (watching : Watching armed mode replying vigil node) (now : UInt32) :
    node.linkChangeTimeoutTimer.Expired now ↔ vigil.RunsOut now := by
  cases trusted : vigil.trusted with
  | true =>
      have stopped := watching.stopped trusted
      refine iff_of_false (fun expired => ?_) fun runsOut => ?_
      · exact Bool.false_ne_true (stopped.symm.trans expired.1)
      · exact Bool.false_ne_true (runsOut.1.symm.trans trusted)
  | false =>
      rw [SimpleTimer.Expired, Vigil.RunsOut, watching.timeout trusted,
        watching.reference trusted, watching.running trusted, trusted]
      simp only [true_and]

/-- Behind the reading the timer is up to date, or it has decided. -/
def Ticked (armed : UInt32) (mode replying : Bool) : Watch → LoraPoint2Point → Prop
  | .waiting vigil, node => Watching armed mode replying vigil node
  | .decided rollsBack, node =>
      node.linkChangeTimeoutTimer.done = rollsBack ∧ node.serialCommandMode = mode

theorem millis :
    Triple (deadline armed) (Until mode (Watching armed mode replying)) millis fun now watch node =>
      ∀ heartbeat, Ticked armed mode replying watch { node with
        currentMillis := now
        linkChangeTimeoutTimer := node.linkChangeTimeoutTimer.update now
        heartbeatTimer := heartbeat } := by
  rintro (vigil | rollsBack) node start
  · have watching : Watching armed mode replying vigil node := start
    refine ⟨trivial, fun now allowed heartbeat => ?_⟩
    have forward : vigil.clock - armed ≤ now - armed := allowed
    show Ticked armed mode replying (if linkChangeTimeoutMillis < now - armed then _ else _) _
    split
    · refine ⟨?_, watching.serial⟩
      rw [Bool.eq_iff_iff, SimpleTimer.update_done_iff watching.clear, decide_eq_true_iff]
      exact watching.expired_iff now
    · rename_i early
      have early : now - armed ≤ linkChangeTimeoutMillis := UInt32.not_lt.1 early
      have behind := UInt32.le_trans watching.forward forward
      have pending : ¬ node.linkChangeTimeoutTimer.Expired now := fun expired =>
        UInt32.not_lt.2 (offset_le behind early) ((watching.expired_iff now).1 expired).2
      cases trusted : vigil.trusted with
      | true =>
          rw [SimpleTimer.update_of_stopped (watching.stopped trusted)]
          exact { watching with
            clock := rfl
            forward := behind
            early := early
            running := fun untrusted => absurd (trusted.symm.trans untrusted) nofun
            timeout := fun untrusted => absurd (trusted.symm.trans untrusted) nofun
            reference := fun untrusted => absurd (trusted.symm.trans untrusted) nofun }
      | false =>
          rw [SimpleTimer.update_of_running (watching.running trusted) pending]
          exact { watching with clock := rfl, forward := behind, early := early }
  · obtain ⟨rfl, _⟩ := start
    exact ⟨iff_of_false nofun nofun, fun _ never => never.elim⟩

/-- Servicing the timers rolls back at the first late reading, if the vigil says so. -/
theorem serviceTimers :
    Keeps (deadline armed) (Until mode (Watching armed mode replying)) serviceTimers := by
  apply Transmits.serviceTimers transmits millis
  · rintro (vigil | rollsBack) node ticked clear
    · exact ticked
    · exact ⟨ticked.1.symm.trans clear, ticked.2⟩
  · rintro (vigil | rollsBack) node ⟨ticked, raised⟩
    · have watching : Watching armed mode replying vigil node := ticked
      exact absurd (watching.clear.symm.trans raised) nofun
    · have positive : rollsBack = true := ticked.1.symm.trans raised
      rw [Program.bind_apply, linkChangeReqTimeout_apply]
      exact ⟨iff_of_true rfl positive, fun _ never => never.elim⟩

end Watching

/-! ## Handling a message -/

/-- The vigil has counted a message that the node has not counted yet. -/
def Heard (armed : UInt32) (mode : Bool) (vigil : Vigil) (node : LoraPoint2Point) : Prop :=
  ∃ replying earlier, Watching armed mode replying earlier node ∧ vigil = earlier.handled

/-- A message has been taken in.  A heartbeat is counted when it has been answered. -/
def Taken (armed : UInt32) (mode : Bool) (vigil : Vigil) (node : LoraPoint2Point) : Prop :=
  node.rxMsg.buf.get 0 ≠ MsgType.linkChangeReq.code ∧
    node.rxMsg.buf.get 0 ≠ MsgType.linkChangeRsp.code ∧
      if node.rxMsg.buf.get 0 = MsgType.heartbeatReq.code then Watching armed mode true vigil node
      else Heard armed mode vigil node

section Handling

variable {armed : UInt32} {mode : Bool}

theorem recvfromAckTimeout_taken :
    Triple (deadline armed) (Until mode (Watching armed mode false)) recvfromAckTimeout
      fun received =>
        Until mode (if received then Taken armed mode else Watching armed mode false) := by
  rintro (vigil | rollsBack) node start
  · have watching : Watching armed mode false vigil node := start
    refine ⟨trivial, fun reception allowed => ?_⟩
    cases reception with
    | nothing => exact watching.congr rfl rfl rfl rfl
    | filtered payload => exact watching.congr rfl rfl rfl rfl
    | message payload srcAddr destAddr msgId flags =>
        have other := of_decide_eq_true allowed
        show Until mode (Taken armed mode) (.waiting (if _ then _ else _)) _
        refine ⟨other.1, other.2, ?_⟩
        split
        · exact { watching.congr rfl rfl rfl rfl with replies := rfl }
        · exact ⟨false, vigil, watching.congr rfl rfl rfl rfl, rfl⟩
  · obtain ⟨rfl, _⟩ := start
    exact ⟨iff_of_false nofun nofun, fun _ never => never.elim⟩

/-- What is known of the receive message may be used until the verdict. -/
theorem Until.known {mode : Bool} {before after : Vigil → LoraPoint2Point → Prop}
    {message : Message}
    (imp : ∀ vigil node, before vigil node → node.rxMsg = message → after vigil node) :
    ∀ watch node, Until mode before watch node ∧ node.rxMsg = message →
      Until mode after watch node := by
  rintro (vigil | rollsBack) node ⟨start, same⟩
  · exact imp vigil node start same
  · exact start

/-- A handler that is only reached behind the verdict does no rollback at once. -/
theorem within_unreached {after : Vigil → LoraPoint2Point → Prop} {procedure : Procedure}
    (ordinary : procedure ≠ .linkChangeReqTimeout) (body : NodeM Unit) :
    Triple (deadline armed) (Until mode fun _ _ => False) (within procedure body) fun _ =>
      Until mode after := by
  rintro (vigil | rollsBack) node start
  · exact start.elim
  · obtain ⟨rfl, _⟩ := start
    exact ⟨iff_of_false (fun same => ordinary (Action.enter.inj same)) nofun,
      fun _ never => never.elim⟩

theorem heartbeat_heard (srcAddr : UInt8) :
    Triple (deadline armed) (Until mode (Watching armed mode true)) (serviceHeartbeatReq srcAddr)
      fun _ => Until mode (Heard armed mode) := by
  apply Watching.transmits.serviceHeartbeatReq
  · exact Until.perform (.enter .serviceHeartbeatReq) nofun nofun fun _ _ _ watching _ => watching
  · apply Until.perform (.leave .serviceHeartbeatReq) nofun nofun
    intro vigil node answer watching _
    refine ⟨true, vigil, watching, ?_⟩
    simp only [Vigil.observe, watching.replies, if_true]

/-- The dispatch of a message that is no link change ends with the message counted. -/
theorem dispatch_heard :
    Triple (deadline armed) (Until mode (Taken armed mode)) (withRxMsg dispatch) fun _ =>
      Until mode (Heard armed mode) := by
  apply withRxMsg_holds
  intro message
  refine dispatch_triple ?_ ?_ ?_ ?_ ?_
  · intro request
    apply (within_unreached (by decide) _).pre
    exact Until.known fun vigil node taken same => absurd (same ▸ request) taken.1
  · intro response
    apply (within_unreached (by decide) _).pre
    exact Until.known fun vigil node taken same => absurd (same ▸ response) taken.2.1
  · intro heartbeat
    apply (heartbeat_heard message.srcAddr).pre
    apply Until.known
    rintro vigil node ⟨_, _, taken⟩ rfl
    rwa [if_pos heartbeat] at taken
  · intro found
    have other : message.buf.get 0 ≠ MsgType.heartbeatReq.code := by
      rw [found]
      decide
    have entered : Keeps (deadline armed) (Until mode (Heard armed mode))
        (perform (.enter .serviceHeartbeatRsp)) :=
      Until.perform _ nofun nofun fun _ _ _ heard _ => heard
    have left : Keeps (deadline armed) (Until mode (Heard armed mode))
        (perform (.leave .serviceHeartbeatRsp)) :=
      Until.perform _ nofun nofun fun _ _ _ heard _ => heard
    apply Triple.pre (serviceHeartbeatRsp_keeps entered left)
    apply Until.known
    rintro vigil node ⟨_, _, taken⟩ rfl
    rwa [if_neg other] at taken
  · intro _ _ other
    apply Until.known
    rintro vigil node ⟨_, _, taken⟩ rfl
    rwa [if_neg other] at taken

theorem trustRule_watching :
    Triple (deadline armed) (Until mode (Heard armed mode)) trustRule fun _ =>
      Until mode (Watching armed mode false) := by
  rintro (vigil | rollsBack) node heard
  · obtain ⟨replying, earlier, watching, rfl⟩ := heard
    have successes : earlier.successes + 1 = (node.updatePacketErrorFraction true).successes := by
      rw [watching.successes, node.successes_update_true]
    have running : (node.updatePacketErrorFraction true).linkChangeTimeoutTimer.isRunning =
        !earlier.trusted := by
      cases trusted : earlier.trusted with
      | true => exact watching.stopped trusted
      | false => exact watching.running trusted
    rw [trustRule_apply]
    cases trusted : earlier.trusted with
    | true =>
        have still : earlier.handled.trusted = true := by
          rw [Vigil.handled, trusted, Bool.true_or]
        simp only [running, trusted, Bool.not_true, Bool.false_eq_true, if_false]
        exact watching.retires still rfl successes watching.clear (watching.stopped trusted) rfl
    | false =>
        simp only [running, trusted, Bool.not_false, if_true, ← successes]
        split
        · rename_i enough
          have now : earlier.handled.trusted = true := by
            rw [Vigil.handled, trusted, Bool.false_or, decide_eq_true_iff]
            exact enough
          apply Watching.serviceTimers (.waiting earlier.handled)
          exact watching.retires now rfl successes rfl rfl rfl
        · rename_i few
          have notYet : earlier.handled.trusted = false := by
            rw [Vigil.handled, trusted, Bool.false_or, decide_eq_false_iff_not]
            exact few
          exact { clock := watching.clock, successes := successes, clear := watching.clear
                  stopped := fun trusted => absurd (notYet.symm.trans trusted) nofun
                  running := fun _ => watching.running trusted
                  timeout := fun _ => watching.timeout trusted
                  reference := fun _ => watching.clock.symm
                  forward := UInt32.le_refl _
                  early := watching.early
                  replies := rfl
                  serial := watching.serial }
  · rw [trustRule_apply]
    obtain ⟨rfl, serial⟩ := heard
    show Resumption.Meets _ _ _ (if _ then _ else _)
    split
    · split
      · exact Watching.serviceTimers (.decided false) _ ⟨rfl, serial⟩
      · exact ⟨rfl, serial⟩
    · exact ⟨rfl, serial⟩

theorem serviceRx_watching :
    Keeps (deadline armed) (Until mode (Watching armed mode false)) serviceRx := by
  have reported : Keeps (deadline armed) (Until mode (Taken armed mode)) (withRxMsg report) :=
    withRxMsg_keeps fun _ => report_keeps (Until.plain _ rfl) (Until.plain _ rfl)
      (Until.reads.printBuffer _ _)
  have restored : Keeps (deadline armed) (Until mode (Watching armed mode false))
      (modify fun node => { node with rxMsg.bufLen := 128 }) :=
    Until.update (fun _ => rfl) fun _ _ watching => watching.congr rfl rfl rfl rfl
  have handled : Triple (deadline armed) (Until mode (Taken armed mode)) handleMessage fun _ =>
      Until mode (Watching armed mode false) :=
    Triple.bind reported fun _ => dispatch_heard.bind fun _ =>
      trustRule_watching.bind fun _ => restored
  apply Triple.bind Watching.serviceTimers
  intro _
  apply Triple.bind recvfromAckTimeout_taken
  intro received
  cases received with
  | true => exact handled
  | false => exact Keeps.pure ()

/-- A call that is not meant to change the link keeps the watch. -/
theorem operate_watching {operations : List Operation}
    (quiet : ∀ operation ∈ operations, operation.changesLink mode = false) :
    Keeps (deadline armed) (Until mode (Watching armed mode false)) (operate operations) := by
  apply Keeps.forM_mem
  intro operation member
  have serial : ∀ watch node, Until mode (Watching armed mode false) watch node →
      node.serialCommandMode = mode := by
    rintro (vigil | rollsBack) node start
    · exact start.serial
    · exact start.2
  exact Watching.transmits.quietOperation Watching.texts Watching.serviceTimers
    serviceRx_watching serial (quiet operation member) fun _ _ => trivial

end Handling

/-! ## Arming the timer -/

/-- A broadcast is never counted as a success. -/
theorem heartbeatReq_ends (node : LoraPoint2Point) :
    (heartbeatReq node).Ends fun later _ => later.successes = node.successes := by
  simp [heartbeatReq, serviceTxSpan, printBufferAs, sendAndCount, whenever, sendtoWait,
    node.successes_update_false]

theorem serviceDoneFlags_of_clear {node : LoraPoint2Point}
    (clear : node.linkChangeTimeoutTimer.done = false) :
    serviceDoneFlags node =
      if node.heartbeatTimer.done = true then
        (heartbeatReq node).bind fun node _ =>
          .done { node with heartbeatTimer := node.heartbeatTimer.clearDone } ()
      else .done node () := by
  have skipped (body : NodeM Unit) :
      whenever node.linkChangeTimeoutTimer.isDone body = pure () := by
    rw [SimpleTimer.isDone, clear]
    rfl
  show (whenever node.linkChangeTimeoutTimer.isDone _ node).bind _ = _
  rw [skipped]
  exact Program.ite_apply _ _ _ node

/-- Servicing the timers while the rollback timer is stopped counts no success. -/
theorem serviceTimers_ends (node : LoraPoint2Point)
    (stopped : node.linkChangeTimeoutTimer.started = false)
    (clear : node.linkChangeTimeoutTimer.done = false) :
    (serviceTimers node).Ends fun later _ => later.successes = node.successes := by
  intro now
  show (serviceDoneFlags _).Ends _
  have same : (node.linkChangeTimeoutTimer.update now).done = false := by
    rw [SimpleTimer.update_of_stopped stopped]
    exact clear
  rw [serviceDoneFlags_of_clear same]
  split
  · refine Resumption.Ends.bind_iff.2 ((heartbeatReq_ends _).mono ?_)
    intro later _ same
    exact same
  · rfl

/-- The contract that only lists the readings of the clock. -/
def timing : Contract LoraPoint2Point Action Action.Answer (List UInt32) :=
  Contract.watching fun earlier node action answer => earlier ++ readings [⟨node, action, answer⟩]

theorem timing_after (earlier : List UInt32) (trace : List NodeStep) :
    timing.after earlier trace = earlier ++ readings trace := by
  induction trace generalizing earlier with
  | nil => exact (List.append_nil earlier).symm
  | cons step trace ih =>
      rw [Contract.after_cons, ih]
      show earlier ++ readings [step] ++ readings trace = _
      rw [List.append_assoc, readings, readings, ← List.filterMap_append, List.singleton_append]
      rfl

/-- Only reading the clock is listed. -/
theorem timing_perform {keep : List UInt32 → LoraPoint2Point → Prop} (action : Action)
    (timeless : action ≠ .millis) : Keeps timing keep (perform action) := by
  intro earlier node start
  refine ⟨trivial, fun answer _ => ?_⟩
  show keep (earlier ++ readings [⟨node, action, answer⟩]) node
  rw [readings_timeless timeless, show readings [] = [] from rfl, List.append_nil]
  exact start

/-- An invariant of the readings, the cached clock and the timer. -/
def Timed (invariant : List UInt32 → UInt32 → SimpleTimer → Prop) (earlier : List UInt32)
    (node : LoraPoint2Point) : Prop :=
  invariant earlier node.currentMillis node.linkChangeTimeoutTimer

namespace Timed

variable {invariant : List UInt32 → UInt32 → SimpleTimer → Prop}

theorem carries : Carries timing (Timed invariant) where
  plain action plain := timing_perform action (by rintro rfl; cases plain)
  index _ _ _ _ := timing_perform _ nofun
  sendtoWait _ _ := timing_perform _ nofun
  statistics _ _ _ := id
  ackSnr _ _ _ := id
  heartbeatTimer _ _ _ := id

theorem settles : Settles timing (Timed invariant) := by
  have tunable : Tunable timing (Timed invariant) := {
    index := carries.index
    tunes := fun action tunes => timing_perform action (by rintro rfl; cases tunes)
    setFrequency := fun _ =>
      setFrequency_keeps (timing_perform _ nofun) (timing_perform _ nofun)
    reset := fun _ _ => id }
  exact tunable.toAdjusts.settles fun _ _ _ _ => id

theorem reads : ReadsAnywhere timing (Timed invariant) := fun _ _ _ => timing_perform _ nofun

end Timed

/-- The clock has not been read. -/
abbrev Unread : List UInt32 → LoraPoint2Point → Prop :=
  Timed fun earlier _ _ => earlier = []

/-- The timer is stopped and set to the deadline. -/
def Prepared (timer : SimpleTimer) : Prop :=
  timer.started = false ∧ timer.done = false ∧ timer.timeoutMillis = linkChangeTimeoutMillis

/-- The clock has been read once, and the prepared timer refers to that reading. -/
abbrev ReadOnce : List UInt32 → LoraPoint2Point → Prop :=
  Timed fun earlier clock timer =>
    earlier = [clock] ∧ Prepared timer ∧ timer.referenceMillis = clock

theorem serviceTimers_reads :
    Triple timing
      (fun earlier node => Unread earlier node ∧ node.successes = 0 ∧
        Prepared node.linkChangeTimeoutTimer)
      serviceTimers fun _ earlier node => ReadOnce earlier node ∧ node.successes = 0 := by
  have clock : Triple timing
      (fun earlier node => Unread earlier node ∧ Prepared node.linkChangeTimeoutTimer) millis
      fun now earlier node => ∀ heartbeat, ReadOnce earlier { node with
        currentMillis := now
        linkChangeTimeoutTimer := node.linkChangeTimeoutTimer.update now
        heartbeatTimer := heartbeat } := by
    rintro earlier node ⟨rfl, prepared⟩
    refine ⟨trivial, fun now _ heartbeat => ?_⟩
    show ReadOnce [now] _
    rw [SimpleTimer.update_of_stopped prepared.1]
    exact ⟨rfl, prepared, rfl⟩
  have read := Timed.carries.serviceTimers clock (fun _ _ kept _ => kept) (by
    rintro earlier node ⟨⟨_, prepared, _⟩, raised⟩
    exact absurd (prepared.2.1.symm.trans raised) nofun)
  rintro earlier node ⟨unread, zero, prepared⟩
  have counted := serviceTimers_ends node prepared.1 prepared.2.1
  refine ((read earlier node ⟨unread, prepared⟩).and_ends counted).mono ?_
  rintro later node _ ⟨once, same⟩
  exact ⟨once, same.trans zero⟩

/-- A request that reads the clock ends with the timer armed at that reading. -/
theorem linkChangeReq_arms (destAddress : UInt8) {settings : Settings} (valid : settings.Valid) :
    Triple timing Unread (linkChangeReq destAddress settings) fun _ earlier node =>
      earlier = [] ∨ ∃ now, earlier = [now] ∧
        Watching now node.serialCommandMode false (Vigil.armed now) node := by
  let armed (earlier : List UInt32) (node : LoraPoint2Point) : Prop :=
    earlier = [] ∨ ∃ now, earlier = [now] ∧
      Watching now node.serialCommandMode false (Vigil.armed now) node
  have set : Triple timing Unread (setAll settings) fun _ earlier node =>
      Unread earlier node ∧ node.successes = 0 := by
    intro earlier node unread
    have kept := Timed.settles.setAll settings earlier node unread
    refine (kept.and_ends (setAll_ends node settings)).mono ?_
    rintro later node _ ⟨unread, rfl⟩
    rw [LoraPoint2Point.withSettings_of_valid _ valid]
    exact ⟨unread, node.successes_reset⟩
  have started : Triple timing (fun earlier node => ReadOnce earlier node ∧ node.successes = 0)
      (onLinkTimer .start) fun _ => armed := by
    apply Triple.update
    rintro earlier node ⟨⟨once, prepared, reference⟩, zero⟩
    refine .inr ⟨_, once, ?_⟩
    exact { clock := rfl, successes := zero.symm, clear := prepared.2.1
            stopped := nofun, running := fun _ => rfl, timeout := fun _ => prepared.2.2
            reference := fun _ => reference, forward := UInt32.le_refl _
            early := by simp only [Vigil.armed, UInt32.sub_self]; decide
            replies := rfl, serial := rfl }
  have sent : Triple timing Unread
      (sendtoWait (MsgType.linkChangeReq.code :: settings.encode) destAddress) fun _ => Unread :=
    Timed.carries.sendtoWait _ _
  have paused : Triple timing (fun earlier node => Unread earlier node ∧ node.successes = 0)
      (onLinkTimer .pause) fun _ earlier node => Unread earlier node ∧ node.successes = 0 ∧
        node.linkChangeTimeoutTimer.started = false :=
    Triple.update fun _ _ start => ⟨start.1, start.2, rfl⟩
  have cleared : Triple timing
      (fun earlier node => Unread earlier node ∧ node.successes = 0 ∧
        node.linkChangeTimeoutTimer.started = false)
      (onLinkTimer .clearDone) fun _ earlier node => Unread earlier node ∧ node.successes = 0 ∧
        node.linkChangeTimeoutTimer.started = false ∧ node.linkChangeTimeoutTimer.done = false :=
    Triple.update fun _ _ start => ⟨start.1, start.2.1, start.2.2, rfl⟩
  have limited : Triple timing
      (fun earlier node => Unread earlier node ∧ node.successes = 0 ∧
        node.linkChangeTimeoutTimer.started = false ∧ node.linkChangeTimeoutTimer.done = false)
      (onLinkTimer (·.setTimeout linkChangeTimeoutMillis)) fun _ earlier node =>
        Unread earlier node ∧ node.successes = 0 ∧ Prepared node.linkChangeTimeoutTimer :=
    Triple.update fun _ _ start => ⟨start.1, start.2.1, start.2.2.1, start.2.2.2, rfl⟩
  have acknowledged := set.bind fun _ => paused.bind fun _ => cleared.bind fun _ =>
    limited.bind fun _ => serviceTimers_reads.bind fun _ => started
  have unacknowledged : Triple timing Unread (pure ()) fun _ => armed :=
    Triple.pure () fun _ _ => .inl
  have body := Triple.bind (Timed.reads.printSettings settings) fun _ => sent.bind fun ok =>
    Triple.ite (fun _ : ok = true => acknowledged) fun _ => unacknowledged
  have entered : Keeps timing Unread (perform (.enter .linkChangeReq)) := timing_perform _ nofun
  have left : Keeps timing armed (perform (.leave .linkChangeReq)) := timing_perform _ nofun
  exact Triple.bind entered fun _ => body.bind fun _ => left

/-- The state in which a request leaves the client once the clock has been read. -/
theorem watching_of_request {node client : LoraPoint2Point} {destAddress : UInt8}
    {settings : Settings} {arming : List NodeStep} {armed : UInt32} (valid : settings.Valid)
    (run : Resumption.Runs (linkChangeReq destAddress settings node) arming (.done client ()))
    (reading : readings arming = [armed]) :
    Watching armed client.serialCommandMode false (Vigil.armed armed) client := by
  have meets := linkChangeReq_arms destAddress valid [] node rfl
  have reached := meets.runs run (Contract.watching_allows [] arming)
  rw [show timing.after [] arming = [armed] from (timing_after [] arming).trans reading] at reached
  obtain unread | ⟨now, once, watching⟩ := reached
  · cases unread
  · cases once
    exact watching

/-! ## Every run -/

/-- Only reading the clock moves the last reading. -/
theorem Vigil.clock_observe (vigil : Vigil) (node : LoraPoint2Point) {action : Action}
    (answer : action.Answer) (timeless : action ≠ .millis) :
    (vigil.observe node action answer).clock = vigil.clock := by
  cases action with
  | millis => exact absurd rfl timeless
  | sendtoWait payload destAddress =>
      simp only [observe]
      split <;> rfl
  | recvfromAckTimeout capacity timeout =>
      cases (answer : Reception) with
      | nothing => rfl
      | filtered payload => rfl
      | message payload srcAddr destAddr msgId flags =>
          simp only [observe]
          split <;> rfl
  | leave procedure =>
      cases procedure with
      | serviceHeartbeatReq =>
          simp only [observe]
          split <;> rfl
      | _ => rfl
  | _ => rfl

/-- Before the first late reading the contract is kept by every clock that runs
forward, and the vigil goes on. -/
theorem deadline_waiting {armed : UInt32} {vigil : Vigil} {trace : List NodeStep}
    (unanswered : ∀ step ∈ trace, noLinkChange step)
    (start : vigil.clock - armed ≤ linkChangeTimeoutMillis)
    (early : ∀ reading ∈ readings trace, reading - armed ≤ linkChangeTimeoutMillis)
    (forward : ((vigil.clock :: readings trace).map (· - armed)).Pairwise (· ≤ ·)) :
    (deadline armed).Allows (.waiting vigil) trace ∧
      (deadline armed).after (.waiting vigil) trace = .waiting (vigil.after trace) ∧
        (vigil.after trace).clock - armed ≤ linkChangeTimeoutMillis := by
  induction trace generalizing vigil with
  | nil => exact ⟨trivial, rfl, start⟩
  | cons step trace ih =>
      obtain ⟨node, action, answer⟩ := step
      have quiet := unanswered _ List.mem_cons_self
      have rest : ∀ step ∈ trace, noLinkChange step := fun step member =>
        unanswered step (List.mem_cons_of_mem _ member)
      by_cases timeless : action = .millis
      · subst timeless
        have now : linkChangeTimeoutMillis < (answer : UInt32) - armed → False := fun late =>
          UInt32.not_lt.2 (early answer List.mem_cons_self) late
        obtain ⟨steps, later⟩ := List.pairwise_cons.1 forward
        have moved : (deadline armed).record (.waiting vigil) node .millis answer =
            .waiting (vigil.observe node .millis answer) := if_neg now
        rw [Contract.Allows, Contract.after_cons, moved]
        have tail := @ih (vigil.observe node .millis answer) rest (early _ List.mem_cons_self)
          (fun reading member => early reading (List.mem_cons_of_mem _ member)) later
        exact ⟨⟨steps _ List.mem_cons_self, tail.1⟩, tail.2⟩
      · rw [readings_timeless timeless] at early forward
        rw [← Vigil.clock_observe vigil node answer timeless] at start forward
        have moved : (deadline armed).record (.waiting vigil) node action answer =
            .waiting (vigil.observe node action answer) := Watch.observe_timeless timeless
        have tail := ih rest start early forward
        rw [Contract.Allows, Contract.after_cons, moved]
        exact ⟨⟨(Watch.fits_timeless timeless).2 quiet, tail.1⟩, tail.2⟩

/-- After an acknowledged request the first reading of the clock that is past the
deadline starts the rollback exactly if no reception has found the link trusted
and the last reception, if any, is itself more than three seconds back. -/
theorem rollback_at_deadline_iff (node client : LoraPoint2Point) (destAddress : UInt8)
    (settings : Settings) (arming before : List NodeStep) (operations : List Operation)
    (state : LoraPoint2Point) (armed now : UInt32) (last : NodeRun Unit) (valid : settings.Valid)
    (request : Resumption.Runs (linkChangeReq destAddress settings node) arming
      (.done client ()))
    (reading : readings arming = [armed])
    (quiet : ∀ operation ∈ operations, operation.changesLink client.serialCommandMode = false)
    (run : Resumption.Runs (operate operations client) (before ++ [⟨state, .millis, now⟩]) last)
    (unanswered : ∀ step ∈ before, noLinkChange step)
    (forward : ((readings before).map (· - armed)).Pairwise (· ≤ ·))
    (early : ∀ reading ∈ readings before, reading - armed ≤ linkChangeTimeoutMillis)
    (late : linkChangeTimeoutMillis < now - armed) :
    last.awaits = some (.enter .linkChangeReqTimeout) ↔
      ((Vigil.armed armed).after before).RunsOut now := by
  have watching := watching_of_request valid request reading
  have meets := operate_watching quiet (.waiting (Vigil.armed armed)) client watching
  have start : (Vigil.armed armed).clock - armed = 0 := UInt32.sub_self _
  have sorted : (((Vigil.armed armed).clock :: readings before).map (· - armed)).Pairwise
      (· ≤ ·) := by
    rw [List.map_cons, List.pairwise_cons, start]
    exact ⟨fun _ _ => UInt32.zero_le, forward⟩
  obtain ⟨allowed, waiting, clock⟩ :=
    deadline_waiting unanswered (start ▸ UInt32.zero_le) early sorted
  have read : (deadline armed).Allows (.waiting ((Vigil.armed armed).after before))
      [⟨state, .millis, now⟩] :=
    ⟨UInt32.le_trans clock (UInt32.le_of_lt late), trivial⟩
  have decided : (deadline armed).after (.waiting (Vigil.armed armed))
      (before ++ [⟨state, .millis, now⟩]) =
        .decided (((Vigil.armed armed).after before).RunsOut now) := by
    rw [Contract.after_append, waiting]
    exact if_pos late
  have reached := meets.runs run ((Contract.allows_append _ _ _ _).2 ⟨allowed, waiting ▸ read⟩)
  rw [decided] at reached
  cases last with
  | done final value =>
      have kept : decide (((Vigil.armed armed).after before).RunsOut now) = false := reached.1
      exact iff_of_false nofun (of_decide_eq_false kept)
  | ask state action resume =>
      have required : action = .enter .linkChangeReqTimeout ↔
          decide (((Vigil.armed armed).after before).RunsOut now) = true := reached.1
      rw [decide_eq_true_iff] at required
      rw [← required]
      exact Option.some_inj

/-- A request that is acknowledged while the clock stands at zero. -/
def acknowledgedRequest : List NodeStep × NodeRun Unit :=
  Resumption.drive ({} : Surroundings).answer 0
    (linkChangeReq 2 ⟨1, 2, 0, 2⟩ (Surroundings.run {} [] 1).2.state)

/-- A data message arrives after 2.9 seconds; the timers are serviced after 3.1. -/
def dataInTime : List NodeStep × NodeRun Unit :=
  Resumption.drive
    ({ clock := fun position => if position = 0 then 2900 else 3100
       receives := fun _ => .message [1, 72] 2 1 0 0 } : Surroundings).answer 0
    (operate [.serviceRx, .serviceTimers] acknowledgedRequest.2.state)

/-- The late reading is the last step of that run. -/
theorem dataInTime_split :
    ∃ state, dataInTime.1 = dataInTime.1.take 6 ++ [⟨state, .millis, 3100⟩] := by
  refine ⟨(dataInTime.1.get ⟨6, by decide⟩).state, ?_⟩
  exact (List.take_append_drop 6 dataInTime.1).symm

theorem dataInTime_early :
    ∀ reading ∈ readings (dataInTime.1.take 6), reading - 0 ≤ linkChangeTimeoutMillis := by
  have read : readings (dataInTime.1.take 6) = [2900] := by decide
  rw [read]
  exact List.forall_mem_singleton.2 (by decide)

/-- The message has restarted the timer, so the late reading starts no rollback. -/
theorem rollback_at_deadline_iff_data :
    dataInTime.2.awaits ≠ some (.enter .linkChangeReqTimeout) := by
  obtain ⟨state, split⟩ := dataInTime_split
  have run : Resumption.Runs (operate [.serviceRx, .serviceTimers] acknowledgedRequest.2.state)
      dataInTime.1 dataInTime.2 := Resumption.drive_runs _ _ _
  rw [split] at run
  refine mt (rollback_at_deadline_iff _ _ 2 ⟨1, 2, 0, 2⟩ acknowledgedRequest.1 _ _ state 0 3100 _
    (by decide) (Resumption.drive_runs _ _ _) (by decide) (by decide) run (by decide) (by decide)
    dataInTime_early (by decide)).1 (by decide)

/-- No response has come three seconds after the request, and there is no rollback. -/
theorem missing_response_tolerated :
    ¬ ∀ (node client : LoraPoint2Point) (destAddress : UInt8) (settings : Settings)
      (arming before : List NodeStep) (operations : List Operation) (state : LoraPoint2Point)
      (armed now : UInt32) (last : NodeRun Unit),
      Reachable node → settings.Valid →
      Resumption.Runs (linkChangeReq destAddress settings node) arming (.done client ()) →
      readings arming = [armed] →
      (∀ operation ∈ operations, operation.changesLink client.serialCommandMode = false) →
      Resumption.Runs (operate operations client) (before ++ [⟨state, .millis, now⟩]) last →
      (∀ step ∈ before, noLinkChange step) →
      ((readings before).map (· - armed)).Pairwise (· ≤ ·) →
      (∀ reading ∈ readings before, reading - armed ≤ linkChangeTimeoutMillis) →
      linkChangeTimeoutMillis < now - armed →
        last.awaits = some (.enter .linkChangeReqTimeout) := by
  intro always
  obtain ⟨state, split⟩ := dataInTime_split
  have run : Resumption.Runs (operate [.serviceRx, .serviceTimers] acknowledgedRequest.2.state)
      dataInTime.1 dataInTime.2 := Resumption.drive_runs _ _ _
  rw [split] at run
  have reachable : Reachable (Surroundings.run {} [] 1).2.state :=
    ⟨1, [], (Surroundings.run {} [] 1).1, Surroundings.run_runs _ _ _⟩
  have rolledBack := always _ _ 2 ⟨1, 2, 0, 2⟩ acknowledgedRequest.1 _ _ state 0 3100 _ reachable
    (by decide) (Resumption.drive_runs _ _ _) (by decide) (by decide) run (by decide) (by decide)
    dataInTime_early (by decide)
  cases rolledBack

end Roam.Node
