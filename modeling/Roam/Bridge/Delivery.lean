import Roam.Bridge.Loops

/-!
# Lines on their way

What the two sketches do to lines, from the characters that arrive to the bytes
that leave.  The sketches meet in packets only, so that any way they may run side
by side is a run of each of them, with the packets the one has sent heard by the
other.  Characters may arrive at any time; once no more of them arrive, every
iteration takes at least one of those that are left.
-/

namespace Roam.Bridge

open Roam.Data Roam.Interaction

/-! ## Runs -/

abbrev SketchStep (State : Type) : Type := Step State Action Action.Answer

/-- What holds at the start and is kept by two programs holds when both have run. -/
theorem keep_of_runs {State : Type} {require : Journal → State → Action → Prop}
    {keep : Journal → State → Prop} {first second : SketchM State Unit}
    (early : Keeps (recording require) keep first) (late : Keeps (recording require) keep second)
    {start middle final : State} (started : keep {} start) {before after : List (SketchStep State)}
    (running : Resumption.Runs (first start) before (.done middle ()))
    (further : Resumption.Runs (second middle) after (.done final ())) :
    keep (Journal.of (before ++ after)) final := by
  have both : Keeps (recording require) keep (first >>= fun _ => second) := early.bind fun _ => late
  rw [← recording_after]
  exact (both {} start started).runs (running.bind further) (Contract.insisting_allows _ _)

/-! ## Silence -/

/-- The characters that an answer brings. -/
def brought : (action : Action) → action.Answer → List UInt8
  | .arrive _, characters => characters
  | _, _ => []

/-- No characters arrive. -/
def Silent (action : Action) (answer : action.Answer) : Prop := brought action answer = []

instance (action : Action) (answer : action.Answer) : Decidable (Silent action answer) :=
  inferInstanceAs (Decidable (brought action answer = []))

/-- The contract of ports that have fallen silent. -/
def quiet {State : Type} : Contract State Action Action.Answer Unit where
  require _ _ _ := True
  allow _ _ action answer := Silent action answer
  record _ _ _ _ := ()

theorem quiet_allows {State : Type} {trace : List (SketchStep State)}
    (silent : ∀ step ∈ trace, Silent step.action step.answer) : quiet.Allows () trace :=
  (quiet.allows_iff (fun _ _ _ _ => Iff.rfl) () trace).2 silent

theorem Journal.arrived_observe (journal : Journal) {action : Action} {answer : action.Answer}
    (silent : Silent action answer) :
    (journal.observe action answer).arrived = journal.arrived := by
  cases action with
  | arrive port =>
      cases silent
      funext other
      show extend journal.arrived port [] other = _
      unfold extend
      split
      · exact List.append_nil _
      · rfl
  | index access array position size => exact (apply_ite Journal.arrived _ _ _).trans (ite_self _)
  | _ => rfl

theorem Journal.arrived_append {State : Type} (trace : List (SketchStep State))
    {silence : List (SketchStep State)}
    (silent : ∀ step ∈ silence, Silent step.action step.answer) :
    (Journal.of (trace ++ silence)).arrived = (Journal.of trace).arrived := by
  induction silence using List.reverseRecOn with
  | nil => rw [List.append_nil]
  | append_singleton front step ih =>
      obtain ⟨earlier, last⟩ := List.forall_mem_append.1 silent
      rw [← List.append_assoc, Journal.of, List.foldl_append]
      exact (Journal.arrived_observe _ (last step List.mem_cons_self)).trans (ih earlier)

namespace Forwarder

variable (forwarder : Forwarder) {left : Nat}

/-- What a character does has no influence on those behind it. -/
theorem readCharacter_keeps (holds : List UInt8 → Prop) (inputChar : UInt8) :
    Keeps quiet (fun _ transmitter => holds transmitter.unread)
      (forwarder.readCharacter inputChar) := by
  unfold readCharacter
  cases forwarder.switch inputChar with
  | ends => exact Keeps.update fun _ _ => id
  | skips => exact Keeps.pure ()
  | selects sensor => exact Keeps.update fun _ _ => id
  | keeps byte => exact fun _ transmitter start => ⟨trivial, fun _ _ => start⟩

/-- A character is taken off the port, and the read loop goes on behind it. -/
theorem readCharacters_cons {inputChar : UInt8} {rest : List UInt8}
    (behind : Triple quiet (fun _ transmitter => transmitter.unread = rest)
      (forwarder.readCharacters rest) fun _ _ transmitter => transmitter.unread.length ≤ left)
    {transmitter : Transmitter} (goes : transmitter.done = false) :
    (forwarder.readCharacters (inputChar :: rest) transmitter).Meets quiet
      (fun _ transmitter _ => transmitter.unread.length ≤ left) () := by
  unfold readCharacters
  rw [Program.bind_apply, Program.get_apply, Resumption.bind_done, if_pos goes]
  refine ⟨trivial, fun _ _ => ?_⟩
  have kept := forwarder.readCharacter_keeps (· = rest) inputChar
  exact Triple.bind kept (fun _ => behind) () { transmitter with unread := rest } rfl

theorem readCharacters_unread (characters : List UInt8) (few : characters.length ≤ left) :
    Triple quiet (fun _ transmitter => transmitter.unread = characters)
      (forwarder.readCharacters characters)
      fun _ _ transmitter => transmitter.unread.length ≤ left := by
  induction characters with
  | nil =>
      rintro _ transmitter nothing
      show transmitter.unread.length ≤ left
      rw [nothing]
      exact few
  | cons inputChar rest ih =>
      rintro _ transmitter unread
      cases done : transmitter.done with
      | false => exact forwarder.readCharacters_cons (ih (Nat.le_of_succ_le few)) done
      | true =>
          unfold readCharacters
          rw [Program.bind_apply, Program.get_apply, Resumption.bind_done, if_neg (by simp [done])]
          show transmitter.unread.length ≤ left
          rw [unread]
          exact few

theorem sendLine_unread :
    Keeps quiet (fun _ transmitter => transmitter.unread.length ≤ left) forwarder.sendLine := by
  refine Keeps.get_bind fun known => Keeps.ite ?_ (Keeps.pure ())
  intro _ transmitter short
  refine ⟨trivial, fun _ _ => ⟨trivial, fun _ _ => ⟨trivial, fun _ _ => ⟨trivial, fun _ _ => ?_⟩⟩⟩⟩
  exact ⟨trivial, fun _ _ => ⟨trivial, fun _ _ => ⟨trivial, fun _ _ => short⟩⟩⟩

/-- At a silent port nothing changes. -/
theorem arrive_keeps (holds : Transmitter → Prop) :
    Keeps quiet (fun _ => holds) forwarder.arrive := by
  intro _ transmitter start
  refine ⟨trivial, fun characters silent => ?_⟩
  cases silent
  show holds { transmitter with unread := transmitter.unread ++ [] }
  rw [List.append_nil]
  exact start

/-- A transmit half of a silent port takes one of the characters that are left. -/
theorem forward_unread :
    Triple quiet (fun _ transmitter => transmitter.unread.length ≤ left + 1) forwarder.forward
      fun _ _ transmitter => transmitter.unread.length ≤ left := by
  let opened (transmitter : Transmitter) : Prop :=
    transmitter.unread.length ≤ left + 1 ∧ (transmitter.unread = [] ∨ transmitter.done = false)
  have opens : Triple quiet (fun _ transmitter => transmitter.unread.length ≤ left + 1)
      (modify fun transmitter =>
        if transmitter.unread = [] then transmitter else { transmitter with done := false })
      fun _ _ => opened := by
    refine Triple.update fun _ transmitter few => ?_
    split
    · exact ⟨few, Or.inl ‹_›⟩
    · exact ⟨few, Or.inr rfl⟩
  refine Triple.bind (forwarder.arrive_keeps fun transmitter => _ ≤ left + 1) fun _ => ?_
  refine opens.bind fun _ => Triple.bind (forwarder.arrive_keeps opened) fun _ => ?_
  refine Triple.get_bind fun known => Triple.bind ?_ fun _ => forwarder.sendLine_unread
  rintro _ transmitter ⟨⟨few, ready⟩, rfl⟩
  cases unread : transmitter.unread with
  | nil => exact forwarder.readCharacters_unread [] (Nat.zero_le _) () _ unread
  | cons inputChar rest =>
      have goes : transmitter.done = false := ready.resolve_left (by simp [unread])
      rw [unread] at few
      have behind := forwarder.readCharacters_unread rest (Nat.le_of_succ_le_succ few)
      exact forwarder.readCharacters_cons behind goes

end Forwarder

/-! ### Whole iterations -/

/-- A program of another part of the state leaves the characters alone. -/
theorem focus_keeps {State Part : Type} {part : State → Part} {update : Part → State → State}
    (holds : State → Prop) (still : ∀ changed state, holds state → holds (update changed state))
    (program : SketchM Part Unit) :
    Keeps quiet (fun _ => holds) (program.focus part update) := by
  intro _ state start
  refine Resumption.Meets.embed_iff.2 ?_
  refine (Resumption.Meets.undemanding (fun _ _ _ => trivial) _ _).mono ?_
  exact fun _ changed _ _ => still changed state start

/-- An iteration of the base at a silent port. -/
theorem Base.loop_unread (left : Nat) :
    Triple quiet (fun _ base => base.transmitter.unread.length ≤ left + 1) Base.loop
      fun _ _ base => base.transmitter.unread.length ≤ left := by
  have forward : Triple quiet (fun _ base => base.transmitter.unread.length ≤ left + 1)
      (forwarder.forward.focus transmitter
        fun transmitter base => { base with transmitter := transmitter })
      fun _ _ base => base.transmitter.unread.length ≤ left :=
    Triple.focus (fun _ => rfl) fun _ => forwarder.forward_unread
  refine forward.bind fun _ => focus_keeps (fun base : Base => base.transmitter.unread.length ≤ left) ?_ _
  exact fun _ _ => id

/-- As many iterations at a silent port as there are characters take all of them. -/
theorem Base.loops_unread (iterations : Nat) :
    Triple quiet (fun _ base => base.transmitter.unread.length ≤ iterations)
      (Base.loops iterations) fun _ _ base => base.transmitter.unread = [] := by
  induction iterations with
  | zero => exact Triple.pure () fun _ _ none => List.eq_nil_of_length_eq_zero (Nat.le_zero.1 none)
  | succ iterations ih => exact (Base.loop_unread iterations).bind fun _ => ih

/-- The sensors have few characters left. -/
def Endpoint.Few (seaphox procv : Nat) (endpoint : Endpoint) : Prop :=
  endpoint.seaphox.unread.length ≤ seaphox ∧ endpoint.procv.unread.length ≤ procv

theorem Endpoint.blinkLed_unread (seaphox procv : Nat) :
    Keeps quiet (fun _ => Few seaphox procv) blinkLed := by
  intro _ endpoint few
  refine ⟨trivial, fun now _ => ?_⟩
  refine (Keeps.ite (Keeps.get_bind fun known => ?_) (Keeps.pure ())) () endpoint few
  exact fun _ _ few => ⟨trivial, fun _ _ => ⟨trivial, fun _ _ => few⟩⟩

/-- An iteration of the endpoint at silent ports takes a character of each sensor. -/
theorem Endpoint.loop_unread (left : Nat) :
    Triple quiet (fun _ => Few (left + 1) (left + 1)) loop fun _ _ => Few left left := by
  have seaphox : Triple quiet (fun _ => Few (left + 1) (left + 1)) forwardSeaphox
      fun _ _ => Few left (left + 1) := by
    refine Triple.focus (fun _ => rfl) fun endpoint ghost transmitter few => ?_
    have reads := (forwarder .seaphox .seaphoxBuf).forward_unread ghost transmitter few.1
    exact reads.mono fun _ _ _ fewer => ⟨fewer, few.2⟩
  have procv : Triple quiet (fun _ => Few left (left + 1)) forwardProcv
      fun _ _ => Few left left := by
    refine Triple.focus (fun _ => rfl) fun endpoint ghost transmitter few => ?_
    have reads := (forwarder .procv .procvBuf).forward_unread ghost transmitter few.2
    exact reads.mono fun _ _ _ fewer => ⟨few.1, fewer⟩
  refine Triple.bind (blinkLed_unread _ _) fun _ => seaphox.bind fun _ => procv.bind fun _ => ?_
  refine focus_keeps (Few left left) ?_ _
  exact fun _ _ => id

theorem Endpoint.loops_unread (iterations : Nat) :
    Triple quiet (fun _ => Endpoint.Few iterations iterations) (Endpoint.loops iterations)
      fun _ _ endpoint => endpoint.seaphox.unread = [] ∧ endpoint.procv.unread = [] := by
  induction iterations with
  | zero =>
      refine Triple.pure () fun _ endpoint few => ?_
      exact ⟨List.eq_nil_of_length_eq_zero (Nat.le_zero.1 few.1),
        List.eq_nil_of_length_eq_zero (Nat.le_zero.1 few.2)⟩
  | succ iterations ih => exact (Endpoint.loop_unread iterations).bind fun _ => ih

/-! ## Lines sent -/

namespace Channel

variable {channel : Channel} {journal : Journal} {line : Line} {sensor : Sensor}

/-- At rest a channel has sent the lines that its port has ended, and no others. -/
theorem Rests.sent_eq (rests : channel.Rests journal line sensor) (fits : channel.Fits journal) :
    journal.sent.filter channel.mine = (channel.reading journal).routed.map channel.packet := by
  obtain ⟨_, sound⟩ := rests.follows.inside fits
  have nothing : channel.ready line sensor = [] :=
    if_neg fun finished => finished.2 (rests.idle fits finished.1)
  rw [sound.sent, nothing, List.append_nil]

/-- A port without unread characters has delivered all that arrived. -/
theorem Follows.read_all (follows : channel.Follows journal line sensor)
    (unread : line.unread = []) : journal.read channel.port = journal.arrived channel.port := by
  rw [follows.arrived, unread, List.append_nil]

theorem Follows.unread_le (follows : channel.Follows journal line sensor) :
    line.unread.length ≤ (journal.arrived channel.port).length := by
  rw [follows.arrived, List.length_append]
  exact Nat.le_add_left _ _

end Channel

/-- A packet of the given type. -/
def hasType (type : MsgType) (packet : List UInt8) : Bool := packet.head? = some type.code

namespace Endpoint

/-- All lines of a sensor have the same destination. -/
theorem routed_eq (initial : Sensor) (stream : List UInt8) :
    (routing.read initial stream).routed =
      (routing.assemble stream).completed.map fun line => (initial, line) := by
  rw [routing.assemble_eq initial stream, List.map_map]
  have same : ∀ routed ∈ (routing.read initial stream).routed, routed.1 = initial := by
    induction stream using List.reverseRecOn with
    | nil => exact fun _ member => absurd member List.not_mem_nil
    | append_singleton front symbol ih =>
        rw [Routing.read_append_singleton]
        cases ends : routing.ends symbol with
        | true =>
            rw [Routing.take_of_ends ends]
            split
            · exact ih
            · exact List.forall_mem_append.2 ⟨ih, List.forall_mem_singleton.2 (mode_eq _ _)⟩
        | false =>
            rw [Routing.take_of_goes ends]
            exact ih
  conv_lhs => rw [← List.map_id (routing.read initial stream).routed]
  refine List.map_congr_left fun routed member => ?_
  exact Prod.ext (same routed member) rfl

/-- What a sensor has sent, once all its characters are read. -/
theorem sent_eq {port : Port} {array : ArrayName} {sensor : Sensor} {journal : Journal}
    {line : Line} (rests : (channel port array sensor).Rests journal line sensor)
    (unread : line.unread = []) (fits : routing.Fits 250 (journal.arrived port)) :
    journal.sent.filter (hasType (msgType sensor)) =
      (routing.assemble (journal.arrived port)).completed.map ((msgType sensor).code :: ·) := by
  have all : journal.read port = journal.arrived port := rests.follows.read_all unread
  have sent := rests.sent_eq ((all ▸ fits).mono (by decide))
  have reading : ((channel port array sensor).reading journal).routed = _ := routed_eq sensor _
  rw [reading, List.map_map] at sent
  rw [← all]
  exact sent

end Endpoint

/-- The lines of each sensor, whenever its characters arrive and however they are
split, are sent in order, each once and behind the type of the sensor; nothing else
is sent. -/
theorem sensor_lines_are_sent {first second : Nat}
    {arriving silence : List (SketchStep Endpoint)} {endpoint final : Endpoint}
    (early : Resumption.Runs (Endpoint.loops first {}) arriving (.done endpoint ()))
    (late : Resumption.Runs (Endpoint.loops second endpoint) silence (.done final ()))
    (silent : ∀ step ∈ silence, Silent step.action step.answer)
    (enough : ((Journal.of arriving).arrived .seaphox).length ≤ second ∧
      ((Journal.of arriving).arrived .procv).length ≤ second)
    (seaphoxFits : Endpoint.routing.Fits 250 ((Journal.of arriving).arrived .seaphox))
    (procvFits : Endpoint.routing.Fits 250 ((Journal.of arriving).arrived .procv)) :
    (Journal.of (arriving ++ silence)).sent.filter (hasType .seaphoxDataRsp) =
        (Endpoint.routing.assemble ((Journal.of arriving).arrived .seaphox)).completed.map
          (MsgType.seaphoxDataRsp.code :: ·) ∧
      (Journal.of (arriving ++ silence)).sent.filter (hasType .procvDataRsp) =
        (Endpoint.routing.assemble ((Journal.of arriving).arrived .procv)).completed.map
          (MsgType.procvDataRsp.code :: ·) ∧
      ∀ packet ∈ (Journal.of (arriving ++ silence)).sent,
        hasType .seaphoxDataRsp packet = true ∨ hasType .procvDataRsp packet = true := by
  have rests : Endpoint.Rests (Journal.of arriving) endpoint :=
    (Endpoint.loops_keeps first {} {} Endpoint.rests_start).runs early (Contract.insisting_allows _ _)
  have few : Endpoint.Few second second endpoint :=
    ⟨rests.seaphox.follows.unread_le.trans enough.1, rests.procv.follows.unread_le.trans enough.2⟩
  obtain ⟨seaphoxRead, procvRead⟩ : final.seaphox.unread = [] ∧ final.procv.unread = [] :=
    (Endpoint.loops_unread second () endpoint few).runs late (quiet_allows silent)
  have ended : Endpoint.Rests (Journal.of (arriving ++ silence)) final :=
    keep_of_runs (Endpoint.loops_keeps first) (Endpoint.loops_keeps second) Endpoint.rests_start
      early late
  have arrived := Journal.arrived_append arriving silent
  rw [← arrived] at seaphoxFits procvFits
  have seaphox := Endpoint.sent_eq ended.seaphox seaphoxRead seaphoxFits
  have procv := Endpoint.sent_eq ended.procv procvRead procvFits
  rw [arrived] at seaphox procv
  exact ⟨seaphox, procv, ended.own⟩

/-- Both sensors write a line; that of the proCV arrives in three pieces. -/
def readings : List (SketchStep Endpoint) × Endpoint × Unit :=
  Surroundings.run { arrivals := fun position port =>
      if port = .seaphox ∧ position = 1 then [65, 13, 10]
      else if port = .procv ∧ position < 15 then [66]
      else if port = .procv ∧ position < 25 then [10]
      else [] }
    (Endpoint.loops 3) {}

/-- Three more iterations in silence. -/
def readingsSent : List (SketchStep Endpoint) × Endpoint × Unit :=
  Surroundings.run {} (Endpoint.loops 3) readings.2.1

theorem sensor_lines_are_sent_readings :
    (Journal.of (readings.1 ++ readingsSent.1)).sent.filter (hasType .seaphoxDataRsp) = [[12, 65]] ∧
      (Journal.of (readings.1 ++ readingsSent.1)).sent.filter (hasType .procvDataRsp) =
        [[10, 66, 66]] := by
  have early : Resumption.Runs (Endpoint.loops 3 {}) readings.1 (.done readings.2.1 ()) :=
    Surroundings.run_runs _ _ _
  have late : Resumption.Runs (Endpoint.loops 3 readings.2.1) readingsSent.1
      (.done readingsSent.2.1 ()) := Surroundings.run_runs _ _ _
  have silent : ∀ step ∈ readingsSent.1, Silent step.action step.answer := by decide +kernel
  have seaphox : (Journal.of readings.1).arrived .seaphox = [65, 13, 10] := by decide +kernel
  have procv : (Journal.of readings.1).arrived .procv = [66, 66, 10] := by decide +kernel
  have sent := sensor_lines_are_sent early late silent
    ⟨by rw [seaphox]; decide, by rw [procv]; decide⟩
    (by rw [seaphox]; exact LineFormat.fits_of_length_le _ (by decide))
    (by rw [procv]; exact LineFormat.fits_of_length_le _ (by decide))
  rw [seaphox, procv] at sent
  exact ⟨sent.1.trans (by decide +kernel), sent.2.1.trans (by decide +kernel)⟩

/-! ## Lines received -/

namespace Endpoint

/-- What a packet of the base is printed as at the port of a sensor. -/
theorem shows_packet {port : Port} {sensor : Sensor}
    (selects : ∀ mode, port ∈ outlets (Base.msgType mode).code ↔ mode = sensor)
    (routed : Sensor × List UInt8) (short : (Base.channel.packet routed).length ≤ maxMessageLen) :
    shows outlets port (Base.channel.packet routed) =
      if routed.1 = sensor then routed.2 else [] := by
  unfold shows heardPayload
  rw [List.take_of_length_le short]
  exact if_congr (selects routed.1) rfl rfl

/-- What the endpoint prints to a sensor when it hears the lines of a typed stream. -/
theorem printed_eq {port : Port} {sensor : Sensor}
    (selects : ∀ mode, port ∈ outlets (Base.msgType mode).code ↔ mode = sensor)
    {stream : List UInt8} {journal : Journal} {receiver : Receiver}
    (hears : Hears outlets journal receiver)
    (lines : journal.heard =
      (Base.routing.read .none stream).routed.map Base.channel.packet)
    (short : ∀ packet ∈ journal.heard, packet.length ≤ maxMessageLen) :
    journal.printed port = Base.routing.destined .none sensor stream := by
  rw [lines] at short
  rw [hears.printed, lines, List.flatMap_map, ← Routing.read_to, Reading.to]
  refine List.flatMap_congr fun routed member => ?_
  exact shows_packet selects routed (short _ (List.mem_map_of_mem member))

end Endpoint

/-- The typed lines of each sensor, whenever their characters arrive and however they
are split, are written to that sensor in order, and nothing else is. -/
theorem typed_lines_reach_their_sensor {first second third : Nat}
    {arriving silence : List (SketchStep Base)} {base final : Base}
    {relayed : List (SketchStep Endpoint)} {endpoint : Endpoint}
    (early : Resumption.Runs (Base.loops first {}) arriving (.done base ()))
    (late : Resumption.Runs (Base.loops second base) silence (.done final ()))
    (silent : ∀ step ∈ silence, Silent step.action step.answer)
    (enough : ((Journal.of arriving).arrived .usb).length ≤ second)
    (fits : Base.routing.Fits 250 ((Journal.of arriving).arrived .usb))
    (relay : Resumption.Runs (Endpoint.loops third {}) relayed (.done endpoint ()))
    (delivered : (Journal.of relayed).heard = (Journal.of (arriving ++ silence)).sent) :
    (Journal.of relayed).printed .seaphox =
        Base.routing.destined .none .seapHOx ((Journal.of arriving).arrived .usb) ∧
      (Journal.of relayed).printed .procv =
        Base.routing.destined .none .proCV ((Journal.of arriving).arrived .usb) := by
  have rests : Base.Rests (Journal.of arriving) base :=
    (Base.loops_keeps first {} {} Base.rests_start).runs early (Contract.insisting_allows _ _)
  have unread : final.transmitter.unread = [] :=
    (Base.loops_unread second () base (rests.line.follows.unread_le.trans enough)).runs late
      (quiet_allows silent)
  have ended : Base.Rests (Journal.of (arriving ++ silence)) final :=
    keep_of_runs (Base.loops_keeps first) (Base.loops_keeps second) Base.rests_start early late
  have heard : Endpoint.Rests (Journal.of relayed) endpoint :=
    (Endpoint.loops_keeps third {} {} Endpoint.rests_start).runs relay (Contract.insisting_allows _ _)
  have read := ended.line.follows.read_all unread
  rw [Journal.arrived_append arriving silent] at read
  have within : Base.channel.Fits (Journal.of (arriving ++ silence)) := by
    unfold Channel.Fits
    rw [read]
    exact fits.mono (by decide)
  have sent := ended.line.sent_eq within
  unfold Channel.reading at sent
  have all : (Journal.of (arriving ++ silence)).sent.filter Base.channel.mine =
      (Journal.of (arriving ++ silence)).sent := List.filter_eq_self.2 fun _ _ => rfl
  rw [read, all, ← delivered] at sent
  have short : ∀ packet ∈ (Journal.of relayed).heard, packet.length ≤ maxMessageLen := by
    rw [delivered]
    exact ended.short
  constructor
  · exact Endpoint.printed_eq (fun mode => by cases mode <;> decide) heard.hears sent short
  · exact Endpoint.printed_eq (fun mode => by cases mode <;> decide) heard.hears sent short

/-- `$hi` is typed in two pieces, with `%yo` right behind it. -/
def greeting : List (SketchStep Base) × Base × Unit :=
  Surroundings.run { arrivals := fun position _ =>
      if position = 0 then [36, 104]
      else if position = 6 then [105, 10, 37, 121, 111, 10] else [] }
    (Base.loops 2) {}

/-- Eight more iterations in silence, in which the second line is read. -/
def greeted : List (SketchStep Base) × Base × Unit :=
  Surroundings.run {} (Base.loops 8) greeting.2.1

/-- The packets of the greeting come in. -/
def greetingHeard : List (SketchStep Endpoint) × Endpoint × Unit :=
  Surroundings.run { packets := fun position =>
      if position = 5 then some [11, 104, 105]
      else if position = 26 then some [9, 121, 111] else none }
    (Endpoint.loops 2) {}

theorem typed_lines_reach_their_sensor_greeting :
    (Journal.of greetingHeard.1).printed .seaphox = [104, 105] ∧
      (Journal.of greetingHeard.1).printed .procv = [121, 111] := by
  have early : Resumption.Runs (Base.loops 2 {}) greeting.1 (.done greeting.2.1 ()) :=
    Surroundings.run_runs _ _ _
  have late : Resumption.Runs (Base.loops 8 greeting.2.1) greeted.1 (.done greeted.2.1 ()) :=
    Surroundings.run_runs _ _ _
  have relay : Resumption.Runs (Endpoint.loops 2 {}) greetingHeard.1
      (.done greetingHeard.2.1 ()) := Surroundings.run_runs _ _ _
  have silent : ∀ step ∈ greeted.1, Silent step.action step.answer := by decide +kernel
  have typed : (Journal.of greeting.1).arrived .usb = [36, 104, 105, 10, 37, 121, 111, 10] := by
    decide +kernel
  have enough : ((Journal.of greeting.1).arrived .usb).length ≤ 8 := by decide +kernel
  have fits : Base.routing.Fits 250 ((Journal.of greeting.1).arrived .usb) := by
    rw [typed]
    exact LineFormat.fits_of_length_le _ (by decide)
  have delivered : (Journal.of greetingHeard.1).heard =
      (Journal.of (greeting.1 ++ greeted.1)).sent := by
    decide +kernel
  have reached := typed_lines_reach_their_sensor early late silent enough fits relay delivered
  rw [typed] at reached
  exact ⟨reached.1.trans (by decide +kernel), reached.2.trans (by decide +kernel)⟩

end Roam.Bridge
