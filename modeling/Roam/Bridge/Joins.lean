import Roam.Bridge.Hopping
import Roam.Bridge.Packets

/-!
# Joins

What the base and the endpoint of the hopping build can know of each other.  The base
sends one packet for each channel it comes to while it joins, and nothing unasked
besides; each time a sketch begins its frequency sequence anew, a join has been answered.
-/

namespace Roam.Bridge

open Roam.Data Roam.Interaction

/-! ## The log -/

/-- The characters behind which the base stops reading. -/
def EndsTyping (inputChar : UInt8) : Prop :=
  inputChar = 10 ∨ inputChar = 13 ∨ inputChar = HopBase.joinCommand

instance : DecidablePred EndsTyping := fun inputChar =>
  inferInstanceAs (Decidable (inputChar = 10 ∨ inputChar = 13 ∨ inputChar = HopBase.joinCommand))

/-- No more than 250 characters are typed without an end. -/
def Brief (typed : List UInt8) : Prop :=
  ∀ stretch, stretch <:+: typed → (∀ inputChar ∈ stretch, ¬ EndsTyping inputChar) →
    stretch.length ≤ 250

theorem Brief.front {typed later : List UInt8} (brief : Brief (typed ++ later)) : Brief typed :=
  fun stretch inside => brief stretch (inside.trans (List.prefix_append typed later).isInfix)

/-- What a sketch of this build has done.  `moved` counts the changes of channel that it
has been told of while it joins. -/
structure HopLog where
  sent : List (List UInt8) := []
  heard : List (List UInt8) := []
  typed : List UInt8 := []
  moved : Nat := 0
  /-- A change of channel waits for a packet. -/
  due : Bool := false
  restarts : Nat := 0
  /-- The sequence has begun anew since the last command to join. -/
  rejoined : Bool := false

namespace HopLog

/-- A character has been read. -/
def type (log : HopLog) (inputChar : UInt8) : HopLog :=
  { log with
    typed := log.typed ++ [inputChar]
    rejoined := log.rejoined && inputChar ≠ HopBase.joinCommand }

/-- A packet has been sent. -/
def send (log : HopLog) (packet : List UInt8) : HopLog :=
  { log with sent := log.sent ++ [packet], due := false }

def observe (log : HopLog) (joining : Bool) : (action : HopAction) → action.Answer → HopLog
  | .plain (.send packet), _ => log.send packet
  | .plain (.recv _), some packet => { log with heard := log.heard ++ [packet] }
  | .plain (.read .usb inputChar), _ => log.type inputChar
  | .advanceFrequencySequence true _, _ =>
      { log with restarts := log.restarts + 1, rejoined := true }
  | .advanceFrequencySequence false _, changed =>
      if joining = true ∧ changed = true then { log with moved := log.moved + 1, due := true }
      else log
  | _, _ => log

/-- The typed lines that were ended, and the commands to join. -/
def ended (log : HopLog) : Nat := log.typed.countP (EndsTyping ·)

theorem ended_type (log : HopLog) (inputChar : UInt8) :
    (log.type inputChar).ended = log.ended + if EndsTyping inputChar then 1 else 0 := by
  simp [type, ended, List.countP_append, List.countP_cons]

/-- The packets of one type. -/
def count (type : MsgType) (packets : List (List UInt8)) : Nat := packets.countP (hasType type)

theorem count_snoc (type : MsgType) (packets : List (List UInt8)) (packet : List UInt8) :
    count type (packets ++ [packet]) =
      count type packets + if hasType type packet then 1 else 0 := by
  simp [count, List.countP_cons]

/-- A packet counts by what the switch has seen. -/
theorem count_seen {packet : List UInt8} {seen : UInt8} (filled : packet ≠ [])
    (first : ∀ byte ∈ packet.head?, seen = byte) (type : MsgType) (packets : List (List UInt8)) :
    count type (packets ++ [packet]) = count type packets + if seen = type.code then 1 else 0 := by
  obtain ⟨byte, rest, rfl⟩ := List.exists_cons_of_ne_nil filled
  obtain rfl := first byte rfl
  rw [count_snoc]
  simp [hasType]

end HopLog

/-- An action of the default build that leaves no trace in the log. -/
def Quiet : Action → Prop
  | .send _ => False
  | .recv _ => False
  | .read _ _ => False
  | _ => True

theorem HopLog.observe_quiet {action : Action} (quiet : Quiet action) (log : HopLog)
    (joining : Bool) (answer : action.Answer) :
    log.observe joining (.plain action) answer = log := by
  cases action with
  | send => cases quiet
  | recv => cases quiet
  | read => cases quiet
  | _ => rfl

/-- The contract of code that leaves no trace in the log. -/
def hushed {State : Type} : Contract State Action Action.Answer Unit :=
  Contract.insisting (fun _ _ action => Quiet action) fun _ _ _ _ => ()

/-! ## Receive halves -/

section Receive

theorem hushed_act {State : Type} {keep : Unit → State → Prop} {action : Action}
    (quiet : Quiet action) : Keeps hushed keep (perform action) :=
  fun _ _ holds => ⟨quiet, fun _ _ => holds⟩

/-- The switch sees the first byte of the packet. -/
theorem openPacket_hushed (packet : List UInt8) :
    Triple hushed (fun _ receiver => receiver.outputBufLen = 255) (openPacket packet)
      fun type _ _ => ∀ byte ∈ packet.head?, type = byte := by
  intro _ receiver ready
  refine ⟨trivial, fun _ _ => ⟨trivial, fun _ _ => ⟨trivial, fun _ _ => ⟨trivial, fun _ _ => ?_⟩⟩⟩⟩
  intro byte member
  cases packet with
  | nil => cases member
  | cons first rest =>
      obtain rfl : first = byte := Option.some.inj member
      exact Receiver.type_load rfl ready

theorem printPayload_hushed (outlets : List Port) :
    Keeps hushed (fun _ _ => True) (printPayload outlets) := by
  refine Keeps.get_bind fun _ => Keeps.forM (fun _ => Keeps.forM (fun _ => ?_) _) _
  exact Keeps.bind (hushed_act trivial) fun _ => hushed_act trivial

theorem closePacket_hushed (packet : List UInt8) :
    Triple hushed (fun _ _ => True) (closePacket packet)
      fun _ _ receiver => receiver.outputBufLen = 255 := by
  have adds : Keeps hushed (fun _ _ => True) (addPayload packet) := by
    refine Keeps.get_bind fun _ => Keeps.bind (Keeps.forM (fun _ => ?_) _) fun _ => ?_
    · exact hushed_act trivial
    exact Keeps.bind (hushed_act trivial) fun _ => Keeps.update fun _ _ => id
  exact Triple.bind adds fun _ => Triple.update fun _ _ _ => rfl

end Receive

/-! ## Quiet code inside a sketch -/

section Inside

variable {State Part Value : Type} {contract : Contract State HopAction HopAction.Answer HopLog}

/-- Quiet code on a part of a sketch does what it does by itself, and the log stays
what it is. -/
theorem shared_quiet (part : State → Part) (update : Part → State → State)
    {program : SketchM Part Value} {before : Part → Prop} {after : Value → Part → Prop}
    {log : HopLog} {state : State}
    (asks : ∀ changed action, Quiet action →
      contract.require log (update changed state) (.plain action) ∧
        ∀ answer, contract.record log (update changed state) (.plain action) answer = log)
    (quiet : Triple hushed (fun _ => before) program fun value _ => after value)
    (start : before (part state)) :
    ((shared program).focus part update state).Meets contract
      (fun reached final value => reached = log ∧
        ∃ changed, final = update changed state ∧ after value changed) log := by
  refine Resumption.Meets.embed_iff.2 (Resumption.Meets.through_iff.2 ?_)
  have meets := quiet () (part state) start
  generalize program (part state) = current at meets
  induction current with
  | done changed value => exact ⟨rfl, changed, rfl, meets⟩
  | ask changed action resume ih =>
      obtain ⟨asked, answered⟩ := meets
      obtain ⟨required, same⟩ := asks changed action asked
      refine ⟨required, fun answer _ => ?_⟩
      have recorded : contract.record log (update changed state) (.plain action) answer = log :=
        same answer
      show (resume answer).Meets _ _ (contract.record log (update changed state) _ answer)
      rw [recorded]
      exact ih answer (answered answer trivial)

end Inside

/-! ## The base -/

/-- A request for no sensor carries nothing. -/
def Bare (packet : List UInt8) : Prop :=
  hasType .dataReq packet = true → packet = [MsgType.dataReq.code]

namespace HopBase

/-- What the log says of the base, wherever it stops. -/
structure Fair (log : HopLog) (sketch : HopBase) : Prop where
  bounded : log.sent.length ≤ log.moved + log.ended
  bare : ∀ packet ∈ log.sent, Bare packet
  filled : Brief log.typed → [] ∉ log.sent
  matched : [] ∉ log.heard →
    log.restarts ≤ HopLog.count .dataRsp log.heard ∧
      HopLog.count .dataRsp log.heard ≤ log.restarts + 1
  rejoins : sketch.joined = true → log.rejoined = true ∧ 0 < log.restarts

/-- What the log says of the base as it acts.  No change of channel waits for a packet when
the radio is asked to follow its sequence. -/
structure Acts (log : HopLog) (sketch : HopBase) (action : HopAction) : Prop
    extends Fair log sketch where
  settled : ∀ reset interval, action = .advanceFrequencySequence reset interval →
    log.due = false

/-- The contract that keeps the log. -/
abbrev tallying : Contract HopBase HopAction HopAction.Answer HopLog :=
  Contract.insisting Acts fun log sketch action answer => log.observe sketch.joining action answer

/-- What holds all through a transmit half. -/
structure Steady (log : HopLog) (sketch : HopBase) : Prop where
  single : sketch.joining = true → sketch.joined = false
  bounded : log.sent.length ≤ log.moved + log.ended
  bare : ∀ packet ∈ log.sent, Bare packet
  filled : Brief log.typed → [] ∉ log.sent
  matched : [] ∉ log.heard → log.restarts = HopLog.count .dataRsp log.heard
  rejoins : sketch.joined = true → log.rejoined = true ∧ 0 < log.restarts
  ready : sketch.receiver.outputBufLen = 255

/-- A channel has been reached on which the base is to send a join. -/
def Calls (sketch : HopBase) : Prop := sketch.joining = true ∧ sketch.joinTxComplete = false

/-- The condition of `sendLine`. -/
def Sends (sketch : HopBase) : Prop :=
  (1 < sketch.transmitter.bufIdx ∧ sketch.transmitter.done = true) ∨ sketch.Calls

/-- What is in the buffer was typed since the last end. -/
def Fits (log : HopLog) (sketch : HopBase) : Prop :=
  Brief log.typed → 0 < sketch.transmitter.bufIdx.toNat ∧
    (sketch.transmitter.done = false → ∃ stretch, stretch <:+ log.typed ∧
      (∀ inputChar ∈ stretch, ¬ EndsTyping inputChar) ∧
        sketch.transmitter.bufIdx.toNat ≤ 1 + stretch.length)

/-- Between two calls of `loop()` no line is finished, and no channel waits for a join. -/
structure Rests (log : HopLog) (sketch : HopBase) : Prop extends Steady log sketch where
  settled : log.due = false
  unfinished : sketch.transmitter.done = true → ¬ 1 < sketch.transmitter.bufIdx
  fits : Fits log sketch

/-- While characters are read, whatever is to be sent has a reason, and a change of channel
that waits for a packet is one. -/
structure Reads (log : HopLog) (sketch : HopBase) : Prop extends Steady log sketch where
  due : log.due = true → sketch.Calls
  asked : sketch.Sends → log.sent.length < log.moved + log.ended
  fits : Fits log sketch

variable {log : HopLog} {sketch : HopBase} {interval : UInt32}

/-- What the builds share may be done by a base that differs in its buffers. -/
theorem Fair.plain (fair : Fair log sketch) {changed : HopBase}
    (same : changed.joined = sketch.joined) {action : Action} : Acts log changed (.plain action) :=
  ⟨{ fair with rejoins := fun joined => fair.rejoins (same.symm.trans joined) },
    fun _ _ same => nomatch same⟩

theorem Steady.fair (steady : Steady log sketch) : Fair log sketch where
  bounded := steady.bounded
  bare := steady.bare
  filled := steady.filled
  matched free := ⟨(steady.matched free).le, (steady.matched free).ge.trans (Nat.le_succ _)⟩
  rejoins := steady.rejoins

theorem Rests.acts (rests : Rests log sketch) (action : HopAction) : Acts log sketch action :=
  ⟨rests.toSteady.fair, fun _ _ _ => rests.settled⟩

/-- A change of channel while the base joins is one that waits for a join. -/
theorem Rests.follow (rests : Rests log sketch) (changed : Bool) :
    Reads (log.observe sketch.joining (.advanceFrequencySequence false interval) changed)
      { sketch with joinTxComplete := !changed } := by
  obtain ⟨steady, settled, unfinished, fits⟩ := rests
  show Reads (if sketch.joining = true ∧ changed = true then
    { log with moved := log.moved + 1, due := true } else log) _
  split
  · rename_i moves
    have calls : Calls { sketch with joinTxComplete := !changed } := by
      simp [Calls, moves.1, moves.2]
    have more : log.sent.length < log.moved + 1 + log.ended := by
      have bounded := steady.bounded
      omega
    exact ⟨{ steady with bounded := more.le }, fun _ => calls, fun _ => more, fits⟩
  · rename_i stays
    refine ⟨{ steady with }, ?_, ?_, fits⟩
    · exact fun due => absurd (settled.symm.trans due) Bool.false_ne_true
    rintro (finished | ⟨joining, incomplete⟩)
    · exact absurd finished.1 (unfinished finished.2)
    · refine absurd ⟨joining, ?_⟩ stays
      simpa using incomplete

theorem followSequence_reads :
    Triple tallying Rests followSequence fun _ log sketch => Reads log sketch ∧
      (sketch.transmitter.done = true → ¬ 1 < sketch.transmitter.bufIdx) := by
  refine Triple.get_bind fun known => Triple.ite (fun _ => ?_) fun joined => ?_
  · rintro log sketch ⟨rests, rfl⟩
    exact ⟨rests.acts _, fun changed _ => ⟨rests.follow changed, rests.unfinished⟩⟩
  · rintro log sketch ⟨rests, rfl⟩
    refine ⟨rests.acts _, fun changed _ => ⟨?_, rests.unfinished⟩⟩
    have alone : sketch.joining = false := by
      cases joining : sketch.joining with
      | false => rfl
      | true => exact absurd (rests.single joining) joined
    have same : log.observe sketch.joining (.advanceFrequencySequence false
        freqChangeIntervalMillis) changed = log := if_neg (by simp [alone])
    show Reads (log.observe sketch.joining _ changed) sketch
    rw [same]
    refine ⟨rests.toSteady, ?_, ?_, rests.fits⟩
    · exact fun due => absurd (rests.settled.symm.trans due) Bool.false_ne_true
    rintro (finished | ⟨joining, _⟩)
    · exact absurd finished.1 (rests.unfinished finished.2)
    · exact absurd (alone.symm.trans joining) Bool.false_ne_true

section Quietly

variable {Value : Type}

theorem onTransmitter_quiet {program : SketchM Transmitter Value} {before : Transmitter → Prop}
    {after : Value → Transmitter → Prop} (fair : Fair log sketch)
    (quiet : Triple hushed (fun _ => before) program fun value _ => after value)
    (start : before sketch.transmitter) :
    (onTransmitter program sketch).Meets tallying
      (fun reached final value => reached = log ∧
        ∃ changed, final = { sketch with transmitter := changed } ∧ after value changed) log := by
  refine shared_quiet (fun sketch : HopBase => sketch.transmitter)
    (fun transmitter sketch => { sketch with transmitter := transmitter }) ?_ quiet start
  intro changed action quiet
  exact ⟨fair.plain (by rfl), fun answer => HopLog.observe_quiet quiet log _ answer⟩

theorem onReceiver_quiet {program : SketchM Receiver Value} {before : Receiver → Prop}
    {after : Value → Receiver → Prop} (fair : Fair log sketch)
    (quiet : Triple hushed (fun _ => before) program fun value _ => after value)
    (start : before sketch.receiver) :
    (onReceiver program sketch).Meets tallying
      (fun reached final value => reached = log ∧
        ∃ changed, final = { sketch with receiver := changed } ∧ after value changed) log := by
  refine shared_quiet (fun sketch : HopBase => sketch.receiver)
    (fun receiver sketch => { sketch with receiver := receiver }) ?_ quiet start
  intro changed action quiet
  exact ⟨fair.plain (by rfl), fun answer => HopLog.observe_quiet quiet log _ answer⟩

end Quietly

/-! ### Reading -/

theorem arrive_hushed (transmitter : Transmitter) :
    Triple hushed (fun _ known => known = transmitter)
      (do
        Base.forwarder.arrive
        modify fun transmitter =>
          if transmitter.unread = [] then transmitter else { transmitter with done := false }
        Base.forwarder.arrive)
      fun _ _ changed => changed.bufIdx = transmitter.bufIdx ∧
        (changed.done = transmitter.done ∨ changed.done = false) := by
  rintro _ _ rfl
  refine ⟨trivial, fun _ _ => ⟨trivial, fun _ _ => ?_⟩⟩
  dsimp only
  split
  · exact ⟨rfl, .inl rfl⟩
  · exact ⟨rfl, .inr rfl⟩

/-- New characters open the line again, unless it waits to be sent. -/
theorem Reads.open (reads : Reads log sketch)
    (unfinished : sketch.transmitter.done = true → ¬ 1 < sketch.transmitter.bufIdx)
    {changed : Transmitter} (length : changed.bufIdx = sketch.transmitter.bufIdx)
    (opened : changed.done = sketch.transmitter.done ∨ changed.done = false) :
    Reads log { sketch with transmitter := changed } := by
  obtain ⟨steady, due, asked, fits⟩ := reads
  refine ⟨{ steady with }, due, ?_, fun brief => ?_⟩
  · rintro (⟨long, done⟩ | calls)
    · rcases opened with same | reading
      · exact asked (.inl ⟨length ▸ long, same ▸ done⟩)
      · exact absurd (reading.symm.trans done) Bool.false_ne_true
    · exact asked (.inr calls)
  · obtain ⟨positive, within⟩ := fits brief
    show 0 < changed.bufIdx.toNat ∧ (changed.done = false → _)
    rw [length]
    refine ⟨positive, fun reading => ?_⟩
    cases done : sketch.transmitter.done with
    | false => exact within done
    | true =>
        refine ⟨[], List.nil_suffix, nofun, ?_⟩
        exact Nat.le_of_not_lt fun long => unfinished done (UInt8.lt_iff_toNat_lt.2 long)

theorem Steady.type (steady : Steady log sketch) {inputChar : UInt8}
    (other : inputChar ≠ joinCommand) : Steady (log.type inputChar) sketch := by
  have more := log.ended_type inputChar
  refine { steady with
    bounded := ?_, filled := fun brief => steady.filled brief.front, rejoins := ?_ }
  · show log.sent.length ≤ log.moved + (log.type inputChar).ended
    rw [more]
    exact steady.bounded.trans (Nat.add_le_add_left (Nat.le_add_right _ _) _)
  · intro joined
    obtain ⟨rejoined, positive⟩ := steady.rejoins joined
    exact ⟨by simp [HopLog.type, rejoined, other], positive⟩

/-- The line is open for one character more. -/
theorem Fits.type (fits : Fits log sketch) (reading : sketch.transmitter.done = false)
    {inputChar : UInt8} (goesOn : ¬ EndsTyping inputChar)
    (brief : Brief (log.typed ++ [inputChar])) :
    0 < sketch.transmitter.bufIdx.toNat ∧ ∃ stretch, stretch <:+ log.typed ++ [inputChar] ∧
      (∀ inputChar ∈ stretch, ¬ EndsTyping inputChar) ∧
        sketch.transmitter.bufIdx.toNat + 1 ≤ 1 + stretch.length ∧ stretch.length ≤ 250 := by
  obtain ⟨positive, within⟩ := fits brief.front
  obtain ⟨stretch, ending, going, length⟩ := within reading
  have longer : stretch ++ [inputChar] <:+ log.typed ++ [inputChar] := by
    obtain ⟨front, whole⟩ := ending
    exact ⟨front, (List.append_assoc _ _ _).symm.trans (congrArg (· ++ [inputChar]) whole)⟩
  have still : ∀ inputChar' ∈ stretch ++ [inputChar], ¬ EndsTyping inputChar' :=
    List.forall_mem_append.2 ⟨going, List.forall_mem_singleton.2 goesOn⟩
  refine ⟨positive, _, longer, still, ?_, brief _ longer.isInfix still⟩
  rw [List.length_append, List.length_singleton]
  omega

/-- The switch of the default build, on a character that is read. -/
theorem switch_goesOn {inputChar : UInt8} (other : inputChar ≠ joinCommand)
    (goesOn : Base.switch inputChar ≠ .ends) : ¬ EndsTyping inputChar := by
  rintro (newline | carriage | command)
  · exact goesOn (if_pos (.inl newline))
  · exact goesOn (if_pos (.inr carriage))
  · exact other command

theorem switch_ends {inputChar : UInt8} (ends : Base.switch inputChar = .ends) :
    EndsTyping inputChar := by
  unfold Base.switch at ends
  split at ends
  · rename_i last
    exact last.imp_right .inl
  · split_ifs at ends

/-- A character that leaves the line open leaves nothing more to be sent. -/
theorem Reads.keep (reads : Reads log sketch) {inputChar : UInt8}
    (other : inputChar ≠ joinCommand) {changed : Transmitter} (going : changed.done = false)
    (fits : Fits (log.type inputChar) { sketch with transmitter := changed }) :
    Reads (log.type inputChar) { sketch with transmitter := changed } := by
  refine ⟨{ reads.toSteady.type other with }, reads.due, ?_, fits⟩
  rintro (finished | calls)
  · exact absurd (going.symm.trans finished.2) Bool.false_ne_true
  · refine (reads.asked (.inr calls)).trans_le (Nat.add_le_add_left ?_ _)
    rw [log.ended_type]
    exact Nat.le_add_right _ _

/-- A character that ends the line is a reason to send. -/
theorem Reads.finish (reads : Reads log sketch) {inputChar : UInt8} (ends : EndsTyping inputChar) :
    log.sent.length < log.moved + (log.type inputChar).ended := by
  rw [log.ended_type, if_pos ends]
  exact Nat.lt_succ_of_le reads.bounded

theorem readCharacter_reads {inputChar : UInt8} (reads : Reads log sketch)
    (reading : sketch.transmitter.done = false) :
    (readCharacter inputChar sketch).Meets tallying (fun log sketch _ => Reads log sketch)
      (log.type inputChar) := by
  unfold readCharacter
  split
  · rename_i command
    have more := reads.finish (.inr (.inr command))
    refine ⟨?_, ?_, fun _ => more, ?_⟩
    · exact { reads.toSteady with
        single := fun _ => rfl
        bounded := more.le
        filled := fun brief => reads.filled brief.front
        rejoins := nofun }
    · exact fun due => ⟨rfl, (reads.due due).2⟩
    · exact fun brief => ⟨(reads.fits brief.front).1, nofun⟩
  · rename_i other
    unfold onTransmitter Forwarder.readCharacter
    cases stroke : Base.forwarder.switch inputChar with
    | ends =>
        have more := reads.finish (switch_ends stroke)
        refine ⟨{ reads.toSteady.type other with }, reads.due, fun _ => more, ?_⟩
        exact fun brief => ⟨(reads.fits brief.front).1, nofun⟩
    | skips =>
        refine reads.keep other reading fun brief => ?_
        obtain ⟨positive, stretch, ending, going, length, _⟩ :=
          reads.fits.type reading (switch_goesOn other (stroke.trans_ne nofun)) brief
        exact ⟨positive, fun _ => ⟨stretch, ending, going, (Nat.le_succ _).trans length⟩⟩
    | selects sensor =>
        refine reads.keep other reading fun brief => ?_
        obtain ⟨positive, stretch, ending, going, length, _⟩ :=
          reads.fits.type reading (switch_goesOn other (stroke.trans_ne nofun)) brief
        exact ⟨positive, fun _ => ⟨stretch, ending, going, (Nat.le_succ _).trans length⟩⟩
    | keeps byte =>
        refine ⟨?_, fun _ _ => ?_⟩
        · exact (reads.toSteady.type other).fair.plain (by rfl)
        · refine reads.keep other reading fun brief => ?_
          obtain ⟨positive, stretch, ending, going, length, short⟩ :=
            reads.fits.type reading (switch_goesOn other (stroke.trans_ne nofun)) brief
          have next : (sketch.transmitter.bufIdx + 1).toNat =
              sketch.transmitter.bufIdx.toNat + 1 := by
            rw [UInt8.toNat_add, Nat.mod_eq_of_lt (by simp; omega)]
            rfl
          show 0 < (sketch.transmitter.bufIdx + 1).toNat ∧ (_ → ∃ stretch, _ ∧ _ ∧
            (sketch.transmitter.bufIdx + 1).toNat ≤ _)
          rw [next]
          exact ⟨Nat.succ_pos _, fun _ => ⟨stretch, ending, going, length⟩⟩

theorem readCharacters_reads (characters : List UInt8) :
    Keeps tallying Reads (readCharacters characters) := by
  induction characters with
  | nil => exact Keeps.pure ()
  | cons inputChar rest ih =>
      refine Triple.get_bind fun known => Triple.ite (fun reading => ?_) fun _ => ?_
      · rintro log sketch ⟨reads, rfl⟩
        refine ⟨reads.toSteady.fair.plain (by rfl), fun _ _ => ?_⟩
        have taken : Reads log { sketch with
            transmitter := { sketch.transmitter with unread := rest } } :=
          ⟨{ reads.toSteady with }, reads.due, reads.asked, reads.fits⟩
        change ((readCharacter inputChar >>= fun _ => readCharacters rest) { sketch with
          transmitter := { sketch.transmitter with unread := rest } }).Meets tallying _
            (log.type inputChar)
        refine Resumption.Meets.bind_iff.2 ?_
        exact (readCharacter_reads taken reading).mono fun log sketch _ reads => ih log sketch reads
      · exact Triple.pure () fun _ _ => And.left

/-! ### Sending -/

/-- The packet that `sendBuffer` sends. -/
def packet (transmitter : Transmitter) : List UInt8 :=
  (transmitter.buf.set 0 (Base.msgType transmitter.sensor).code).upTo transmitter.bufIdx.toNat

theorem packet_eq {transmitter : Transmitter} (started : 0 < transmitter.bufIdx.toNat) :
    packet transmitter = (Base.msgType transmitter.sensor).code :: transmitter.waiting :=
  transmitter.upTo_typed _ started

/-- A join is all that is sent for no sensor. -/
theorem packet_bare {transmitter : Transmitter}
    (alone : transmitter.sensor = .none → transmitter.bufIdx = 1) : Bare (packet transmitter) := by
  intro request
  rcases Nat.eq_zero_or_pos transmitter.bufIdx.toNat with empty | started
  · unfold packet at request
    rw [empty] at request
    cases request
  · rw [packet_eq started] at request ⊢
    cases chosen : transmitter.sensor with
    | none =>
        have nothing : transmitter.waiting = [] := by
          unfold Line.waiting
          rw [alone chosen]
          exact List.drop_take_self
        rw [nothing]
        rfl
    | proCV =>
        rw [chosen] at request
        cases request
    | seapHOx =>
        rw [chosen] at request
        cases request

theorem sendBuffer_rests (steady : Steady log sketch)
    (asked : log.sent.length < log.moved + log.ended)
    (alone : sketch.transmitter.sensor = .none → sketch.transmitter.bufIdx = 1)
    (filled : Brief log.typed → 0 < sketch.transmitter.bufIdx.toNat) :
    (onTransmitter sendBuffer sketch).Meets tallying
      (fun log sketch _ => Rests log sketch) log := by
  have fair := steady.fair
  have sent : Steady (log.send (packet sketch.transmitter)) sketch := by
    refine { steady with bounded := ?_, bare := ?_, filled := fun brief => ?_ }
    · show (log.sent ++ _).length ≤ log.moved + log.ended
      rw [List.length_append]
      exact asked
    · exact List.forall_mem_append.2 ⟨steady.bare, List.forall_mem_singleton.2 (packet_bare alone)⟩
    · show [] ∉ log.sent ++ _
      rw [List.mem_append, List.mem_singleton, packet_eq (filled brief)]
      exact not_or.2 ⟨steady.filled brief, nofun⟩
  have acts : ∀ changed action, Acts log { sketch with transmitter := changed } (.plain action) :=
    fun _ _ => fair.plain (by rfl)
  refine ⟨acts _ _, fun _ _ => ⟨acts _ _, fun _ _ => ⟨acts _ _, fun _ _ => ⟨acts _ _, fun _ _ =>
    ⟨acts _ _, fun _ _ => ⟨acts _ _, fun _ _ => ⟨sent.fair.plain (by rfl), fun _ _ => ?_⟩⟩⟩⟩⟩⟩⟩
  refine ⟨{ sent with }, rfl, fun _ => Nat.lt_irrefl 1, fun _ => ⟨Nat.one_pos, fun _ => ?_⟩⟩
  exact ⟨[], List.nil_suffix, nofun, Nat.le_refl 1⟩

/-- A base that is to send does, and then nothing is left to be sent. -/
theorem sendLine_rests : Triple tallying Reads sendLine fun _ => Rests := by
  refine Triple.get_bind fun known => Triple.ite (fun sends => ?_) fun quiet => ?_
  · rintro log sketch ⟨reads, rfl⟩
    show (onTransmitter sendBuffer sketch.prepareJoin).Meets tallying _ log
    have asked := reads.asked sends
    unfold prepareJoin
    split
    · exact sendBuffer_rests { reads.toSteady with } asked (fun _ => rfl) fun _ => Nat.one_pos
    · rename_i chosen
      exact sendBuffer_rests reads.toSteady asked (fun none => absurd none chosen)
        fun brief => (reads.fits brief).1
  · rintro log sketch ⟨reads, rfl⟩
    refine ⟨reads.toSteady, ?_, fun done long => quiet (.inl ⟨long, done⟩), reads.fits⟩
    exact Bool.eq_false_iff.2 fun due => quiet (.inr (reads.due due))

/-- The transmit half of the base. -/
theorem forward_rests : Triple tallying (fun log sketch => Reads log sketch ∧
      (sketch.transmitter.done = true → ¬ 1 < sketch.transmitter.bufIdx)) forward
    fun _ => Rests := by
  have opens : Triple tallying (fun log sketch => Reads log sketch ∧
      (sketch.transmitter.done = true → ¬ 1 < sketch.transmitter.bufIdx))
      (onTransmitter do
        Base.forwarder.arrive
        modify fun transmitter =>
          if transmitter.unread = [] then transmitter else { transmitter with done := false }
        Base.forwarder.arrive) fun _ => Reads := by
    rintro log sketch ⟨reads, unfinished⟩
    refine (onTransmitter_quiet reads.toSteady.fair (arrive_hushed sketch.transmitter) rfl).mono ?_
    rintro _ _ _ ⟨rfl, changed, rfl, length, opened⟩
    exact reads.open unfinished length opened
  refine opens.bind fun _ => Triple.get_bind fun known => ?_
  refine Triple.bind ((readCharacters_reads known.transmitter.unread).pre fun _ _ => And.left) ?_
  exact fun _ => sendLine_rests

/-! ### Receiving -/

/-- All but the receive buffer is as it is between two calls of `loop()`. -/
def Handled (log : HopLog) (sketch : HopBase) : Prop :=
  ∀ receiver : Receiver, receiver.outputBufLen = 255 →
    Rests log { sketch with receiver := receiver }

theorem Handled.fair (handled : Handled log sketch) : Fair log sketch :=
  { (handled {} rfl).toSteady.fair with }

theorem Rests.hear (rests : Rests log sketch) (packet : List UInt8) :
    Fair { log with heard := log.heard ++ [packet] } sketch := by
  refine { rests.toSteady.fair with matched := fun filled => ?_ }
  have matched := rests.matched fun member => filled (List.mem_append_left _ member)
  show log.restarts ≤ HopLog.count .dataRsp (log.heard ++ [packet]) ∧ _
  rw [HopLog.count_snoc, matched]
  split <;> omega

/-- An answer begins the sequence anew. -/
theorem Rests.answered (rests : Rests log sketch) {packet : List UInt8}
    (first : ∀ byte ∈ packet.head?, MsgType.dataRsp.code = byte) :
    Handled
      { log with heard := log.heard ++ [packet], restarts := log.restarts + 1, rejoined := true }
      { sketch with joined := true, joining := false } := by
  intro receiver ready
  obtain ⟨steady, settled, unfinished, fits⟩ := rests
  refine ⟨{ steady with
    single := nofun
    matched := fun filled => ?_
    rejoins := fun _ => ⟨rfl, Nat.succ_pos _⟩
    ready := ready }, settled, unfinished, fits⟩
  have some : packet ≠ [] := fun none => filled (none ▸ List.mem_append_right _ List.mem_cons_self)
  show log.restarts + 1 = HopLog.count .dataRsp (log.heard ++ [packet])
  rw [HopLog.count_seen some first, steady.matched fun member =>
    filled (List.mem_append_left _ member)]
  rfl

/-- Any other packet does not. -/
theorem Rests.passed (rests : Rests log sketch) {packet : List UInt8} {type : UInt8}
    (first : ∀ byte ∈ packet.head?, type = byte) (other : type ≠ MsgType.dataRsp.code) :
    Handled { log with heard := log.heard ++ [packet] } sketch := by
  intro receiver ready
  obtain ⟨steady, settled, unfinished, fits⟩ := rests
  refine ⟨{ steady with matched := fun filled => ?_, ready := ready }, settled, unfinished, fits⟩
  have some : packet ≠ [] := fun none => filled (none ▸ List.mem_append_right _ List.mem_cons_self)
  show log.restarts = HopLog.count .dataRsp (log.heard ++ [packet])
  rw [HopLog.count_seen some first, if_neg other]
  exact steady.matched fun member => filled (List.mem_append_left _ member)

theorem handlePacket_rests (rests : Rests log sketch) (packet : List UInt8) :
    (handlePacket packet sketch).Meets tallying (fun log sketch _ => Rests log sketch)
      { log with heard := log.heard ++ [packet] } := by
  refine Resumption.Meets.bind_iff.2 ?_
  refine (onReceiver_quiet (rests.hear packet) (openPacket_hushed packet) rests.ready).mono ?_
  rintro _ _ type ⟨rfl, loaded, rfl, first⟩
  have closes : Triple tallying Handled (onReceiver (closePacket packet)) fun _ => Rests := by
    intro log sketch handled
    refine (onReceiver_quiet handled.fair (closePacket_hushed packet) trivial).mono ?_
    rintro _ _ _ ⟨rfl, changed, rfl, ready⟩
    exact handled changed ready
  dsimp only
  split
  · rename_i answer
    have answered := rests.answered (answer ▸ first)
    have acts : Acts { log with heard := log.heard ++ [packet] }
        { sketch with receiver := loaded }
        (.advanceFrequencySequence true freqChangeIntervalMillis) :=
      ⟨{ rests.hear packet with }, fun _ _ _ => rests.settled⟩
    exact ⟨acts, fun _ _ => closes _ _ fun receiver => answered receiver⟩
  · rename_i other
    have passed := rests.passed first other
    have fair : Fair { log with heard := log.heard ++ [packet] }
        { sketch with receiver := loaded } := { passed.fair with }
    refine Resumption.Meets.bind_iff.2 ?_
    refine (onReceiver_quiet fair (printPayload_hushed _) trivial).mono ?_
    rintro _ _ _ ⟨rfl, changed, rfl, _⟩
    exact closes _ _ fun receiver => passed receiver

theorem receive_rests : Keeps tallying Rests receive := by
  refine Triple.get_bind fun known => ?_
  rintro log sketch ⟨rests, rfl⟩
  refine ⟨rests.acts _, fun packet? _ => ?_⟩
  cases packet? with
  | none => exact rests
  | some packet => exact handlePacket_rests rests packet

/-! ### Runs -/

theorem loop_rests : Keeps tallying Rests loop :=
  followSequence_reads.bind fun _ => forward_rests.bind fun _ => receive_rests

theorem loops_rests (iterations : Nat) : Keeps tallying Rests (loops iterations) := by
  induction iterations with
  | zero => exact Keeps.pure ()
  | succ iterations ih => exact loop_rests.bind fun _ => ih

theorem rests_start : Rests {} {} where
  single := nofun
  bounded := Nat.le_refl 0
  bare := nofun
  filled _ := nofun
  matched _ := rfl
  rejoins := nofun
  ready := rfl
  settled := rfl
  unfinished _ := Nat.lt_irrefl 1
  fits _ := ⟨Nat.one_pos, nofun⟩

end HopBase

/-! ## The endpoint -/

namespace HopEndpoint

/-- What the log says of the endpoint, wherever it stops. -/
structure Fair (log : HopLog) : Prop where
  owed : [] ∉ log.heard → HopLog.count .dataRsp log.sent ≤ HopLog.count .dataReq log.heard ∧
    HopLog.count .dataReq log.heard ≤ HopLog.count .dataRsp log.sent + 1
  begun : log.restarts ≤ HopLog.count .dataRsp log.sent ∧
    HopLog.count .dataRsp log.sent ≤ log.restarts + 1
  filled : [] ∉ log.sent

/-- The contract that keeps the log. -/
abbrev answering : Contract Endpoint HopAction HopAction.Answer HopLog :=
  Contract.insisting (fun log _ _ => Fair log) fun log _ action answer =>
    log.observe false action answer

/-- Each join that was heard has been answered. -/
structure Even (log : HopLog) : Prop where
  owed : [] ∉ log.heard → HopLog.count .dataRsp log.sent = HopLog.count .dataReq log.heard
  begun : log.restarts = HopLog.count .dataRsp log.sent
  filled : [] ∉ log.sent

/-- Between two halves, the receive buffer is ready as well. -/
abbrev Rests (log : HopLog) (endpoint : Endpoint) : Prop :=
  Even log ∧ endpoint.receiver.outputBufLen = 255

variable {log : HopLog} {endpoint : Endpoint}

theorem Even.fair (even : Even log) : Fair log where
  owed free := ⟨(even.owed free).le, (even.owed free).ge.trans (Nat.le_succ _)⟩
  begun := ⟨even.begun.le, even.begun.ge.trans (Nat.le_succ _)⟩
  filled := even.filled

/-- Nothing but a packet or a new beginning counts. -/
theorem Even.observe (even : Even log) {action : Action}
    (delivers : ∀ capacity, action ≠ .recv capacity) (sends : ∀ packet, action ≠ .send packet)
    (answer : action.Answer) : Even (log.observe false (.plain action) answer) := by
  cases action with
  | recv capacity => exact absurd rfl (delivers capacity)
  | send packet => exact absurd rfl (sends packet)
  | read port inputChar => cases port <;> exact { even with }
  | _ => exact even

/-- What a sensor writes is no answer to a join. -/
theorem Even.line (even : Even log) {sensor : Sensor} (chosen : sensor ≠ .none)
    (rest : List UInt8) :
    Even (log.send ((Endpoint.msgType sensor).code :: rest)) := by
  have other : hasType .dataRsp ((Endpoint.msgType sensor).code :: rest) = false := by
    cases sensor with
    | none => exact absurd rfl chosen
    | proCV => rfl
    | seapHOx => rfl
  have same : HopLog.count .dataRsp (log.sent ++ [(Endpoint.msgType sensor).code :: rest]) =
      HopLog.count .dataRsp log.sent := by
    rw [HopLog.count_snoc, other]
    rfl
  refine ⟨fun free => same.trans (even.owed free), even.begun.trans same.symm, ?_⟩
  show [] ∉ log.sent ++ _
  rw [List.mem_append, List.mem_singleton]
  exact not_or.2 ⟨even.filled, nofun⟩

theorem blinkLed_rests : Keeps answering Rests (shared Endpoint.blinkLed) := by
  have acts : ∀ action, (∀ capacity, action ≠ .recv capacity) → (∀ packet, action ≠ .send packet) →
      Keeps (answering.through HopAction.plain) Rests (perform action) :=
    fun action delivers sends log endpoint rests =>
      ⟨rests.1.fair, fun answer _ => ⟨rests.1.observe delivers sends answer, rests.2⟩⟩
  refine Triple.through ?_
  refine Keeps.bind (acts _ nofun nofun) fun now => Keeps.get_bind fun known => Keeps.ite ?_ ?_
  · refine Keeps.get_bind fun known => Keeps.bind (acts _ nofun nofun) fun _ => ?_
    refine Keeps.bind (Keeps.update fun _ _ => id) fun _ => ?_
    exact Keeps.bind (acts _ nofun nofun) fun _ => Keeps.update fun _ _ => id
  · exact Keeps.pure ()

/-- A transmit half. -/
theorem forward_rests {port : Port} {array : ArrayName} {part : Endpoint → Transmitter}
    {update : Transmitter → Endpoint → Endpoint}
    (chosen : ∀ endpoint, (part endpoint).sensor ≠ .none)
    (apart : ∀ changed endpoint, (update changed endpoint).receiver = endpoint.receiver) :
    Keeps answering Rests (shared ((Endpoint.forwarder port array).forward.focus part update)) := by
  rintro log endpoint ⟨even, ready⟩
  refine Resumption.Meets.through_iff.2 (Resumption.Meets.embed_iff.2 ?_)
  have selects : ∀ inputChar sensor, Endpoint.switch inputChar = .selects sensor →
      sensor ≠ .none := by
    intro inputChar sensor stroke
    unfold Endpoint.switch at stroke
    split_ifs at stroke
  have moves := @Forwarder.forward_typed HopLog
    ((answering.through HopAction.plain).along fun changed => update changed endpoint) Even
    (Endpoint.forwarder port array) (· ≠ .none) selects
    (fun action delivers sends log _ even =>
      ⟨even.fair, fun answer _ => even.observe delivers sends answer⟩)
    fun sensor rest chosen log _ even => ⟨even.fair, fun _ _ => even.line chosen rest⟩
  refine (moves log (part endpoint) ⟨even, chosen endpoint⟩).mono ?_
  exact fun log changed _ rests => ⟨rests.1, (congrArg _ (apart changed endpoint)).trans ready⟩

theorem Rests.hear (even : Even log) (packet : List UInt8) :
    Fair { log with heard := log.heard ++ [packet] } := by
  refine { even.fair with owed := fun filled => ?_ }
  have owed := even.owed fun member => filled (List.mem_append_left _ member)
  show HopLog.count .dataRsp log.sent ≤ HopLog.count .dataReq (log.heard ++ [packet]) ∧ _
  rw [HopLog.count_snoc, owed]
  split <;> omega

/-- A join that was heard is answered, and then the sequence begins anew. -/
theorem answerJoin_even (even : Even log) {packet : List UInt8}
    (first : ∀ byte ∈ packet.head?, MsgType.dataReq.code = byte) :
    (answerJoin endpoint).Meets answering (fun log reached _ => Even log ∧ reached = endpoint)
      { log with heard := log.heard ++ [packet] } := by
  have answered : HopLog.count .dataRsp (log.sent ++ [[MsgType.dataRsp.code]]) =
      HopLog.count .dataRsp log.sent + 1 := HopLog.count_snoc _ _ _
  have owed : [] ∉ log.heard ++ [packet] →
      HopLog.count .dataRsp (log.sent ++ [[MsgType.dataRsp.code]]) =
        HopLog.count .dataReq (log.heard ++ [packet]) := by
    intro filled
    have some : packet ≠ [] :=
      fun none => filled (none ▸ List.mem_append_right _ List.mem_cons_self)
    rw [answered, HopLog.count_seen some first, even.owed fun member =>
      filled (List.mem_append_left _ member)]
    rfl
  have filled : [] ∉ log.sent ++ [[MsgType.dataRsp.code]] := by
    rw [List.mem_append, List.mem_singleton]
    exact not_or.2 ⟨even.filled, nofun⟩
  have sent : Fair (HopLog.send { log with heard := log.heard ++ [packet] }
      [MsgType.dataRsp.code]) := by
    refine ⟨fun free => ⟨(owed free).le, (owed free).ge.trans (Nat.le_succ _)⟩, ?_, filled⟩
    show log.restarts ≤ HopLog.count .dataRsp (log.sent ++ [[MsgType.dataRsp.code]]) ∧
      HopLog.count .dataRsp (log.sent ++ [[MsgType.dataRsp.code]]) ≤ log.restarts + 1
    rw [answered, even.begun]
    exact ⟨Nat.le_succ _, Nat.le_refl _⟩
  refine ⟨Rests.hear even packet, fun _ _ => ⟨sent, fun _ _ => ⟨sent, fun _ _ => ⟨?_, rfl⟩⟩⟩⟩
  exact ⟨owed, (congrArg (· + 1) even.begun).trans answered.symm, filled⟩

/-- Any other packet is not. -/
theorem Even.pass (even : Even log) {packet : List UInt8} {type : UInt8}
    (first : ∀ byte ∈ packet.head?, type = byte) (other : type ≠ MsgType.dataReq.code) :
    Even { log with heard := log.heard ++ [packet] } := by
  refine { even with owed := fun filled => ?_ }
  have some : packet ≠ [] := fun none => filled (none ▸ List.mem_append_right _ List.mem_cons_self)
  show HopLog.count .dataRsp log.sent = HopLog.count .dataReq (log.heard ++ [packet])
  rw [HopLog.count_seen some first, if_neg other]
  exact even.owed fun member => filled (List.mem_append_left _ member)

theorem onReceiver_quiet {Value : Type} {program : SketchM Receiver Value}
    {before : Receiver → Prop} {after : Value → Receiver → Prop} (fair : Fair log)
    (quiet : Triple hushed (fun _ => before) program fun value _ => after value)
    (start : before endpoint.receiver) :
    (onReceiver program endpoint).Meets answering
      (fun reached final value => reached = log ∧
        ∃ changed, final = { endpoint with receiver := changed } ∧ after value changed) log := by
  refine shared_quiet Endpoint.receiver
    (fun receiver endpoint => { endpoint with receiver := receiver }) ?_ quiet start
  exact fun _ _ quiet => ⟨fair, fun answer => HopLog.observe_quiet quiet log _ answer⟩

theorem handlePacket_rests (rests : Rests log endpoint) (packet : List UInt8) :
    (handlePacket packet endpoint).Meets answering (fun log endpoint _ => Rests log endpoint)
      { log with heard := log.heard ++ [packet] } := by
  obtain ⟨even, ready⟩ := rests
  refine Resumption.Meets.bind_iff.2 ?_
  refine (onReceiver_quiet (Rests.hear even packet) (openPacket_hushed packet) ready).mono ?_
  rintro _ _ type ⟨rfl, loaded, rfl, first⟩
  have closes : Triple answering (fun log _ => Even log) (onReceiver (closePacket packet))
      fun _ => Rests := by
    intro log endpoint even
    refine (onReceiver_quiet even.fair (closePacket_hushed packet) trivial).mono ?_
    rintro _ _ _ ⟨rfl, changed, rfl, ready⟩
    exact ⟨even, ready⟩
  dsimp only
  split
  · rename_i join
    refine Resumption.Meets.bind_iff.2 ((answerJoin_even even (join ▸ first)).mono ?_)
    rintro log endpoint _ ⟨even, _⟩
    exact closes log endpoint even
  · rename_i other
    refine Resumption.Meets.bind_iff.2 ?_
    refine (onReceiver_quiet (Rests.hear even packet) (printPayload_hushed _) trivial).mono ?_
    rintro _ _ _ ⟨rfl, changed, rfl, _⟩
    exact closes _ _ (even.pass first other)

theorem receive_rests : Keeps answering Rests receive := by
  refine Triple.get_bind fun known => ?_
  rintro log endpoint ⟨rests, rfl⟩
  refine ⟨rests.1.fair, fun packet? _ => ?_⟩
  cases packet? with
  | none => exact rests
  | some packet => exact handlePacket_rests rests packet

/-! ### Runs -/

theorem loop_rests : Keeps answering Rests loop := by
  refine Keeps.bind blinkLed_rests fun _ => Keeps.bind ?_ fun _ => ?_
  · exact fun log endpoint rests => ⟨rests.1.fair, fun _ _ => rests⟩
  · refine Keeps.bind (forward_rests (fun _ => nofun) fun _ _ => rfl) fun _ => ?_
    exact Keeps.bind (forward_rests (fun _ => nofun) fun _ _ => rfl) fun _ => receive_rests

theorem loops_rests (iterations : Nat) : Keeps answering Rests (loops iterations) := by
  induction iterations with
  | zero => exact Keeps.pure ()
  | succ iterations ih => exact loop_rests.bind fun _ => ih

theorem rests_start : Rests {} {} :=
  ⟨⟨fun _ => rfl, rfl, nofun⟩, rfl⟩

end HopEndpoint

end Roam.Bridge
