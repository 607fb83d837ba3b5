import Roam.Bridge.Reception

/-!
# The two loops

The halves of each sketch are put together.  Each half leaves alone what the
other one follows, and the two sensors of the endpoint do not meet in the journal:
they have their own ports and buffers, and their packets differ in the type.
-/

namespace Roam.Bridge

open Roam.Data Roam.Interaction

/-! ## Channels side by side -/

/-- What one channel does is nothing to another one. -/
theorem Channel.agrees_of_owns {first second : Channel} (ports : second.port ≠ first.port)
    (arrays : second.array ≠ first.array)
    (apart : ∀ packet, first.mine packet = true → second.mine packet = false)
    (journal : Journal) {action : Action} (owned : first.owns action) (answer : action.Answer) :
    second.Agrees journal (journal.observe action answer) := by
  cases action with
  | arrive port =>
      cases owned
      exact ⟨extend_of_ne ports _ _, rfl, Iff.rfl, rfl⟩
  | read port inputChar =>
      cases owned
      exact ⟨rfl, extend_of_ne ports _ _, Iff.rfl, rfl⟩
  | index access array position size =>
      by_cases inside : access.Inside position
      · rw [Journal.observe_inside _ _ _ inside]
        exact ⟨rfl, rfl, Iff.rfl, rfl⟩
      · rw [Journal.observe_outside _ _ _ inside]
        rcases owned with rfl | rfl
        · exact absurd trivial inside
        · refine ⟨rfl, rfl, ?_, rfl⟩
          rw [List.mem_cons]
          exact or_iff_right arrays
  | send packet =>
      refine ⟨rfl, rfl, Iff.rfl, ?_⟩
      show (journal.sent ++ [packet]).filter second.mine = _
      rw [List.filter_append, List.filter_singleton, apart packet owned.1]
      exact List.append_nil _
  | waitCAD => exact ⟨rfl, rfl, Iff.rfl, rfl⟩
  | waitPacketSent => exact ⟨rfl, rfl, Iff.rfl, rfl⟩
  | recv => cases owned
  | print => cases owned
  | received => cases owned
  | millis => cases owned
  | digitalWrite => cases owned

/-- A receive half is nothing to a channel. -/
theorem Channel.agrees_of_receives (channel : Channel) (journal : Journal) {action : Action}
    (received : receives action) (answer : action.Answer) :
    channel.Agrees journal (journal.observe action answer) := by
  cases action with
  | index access array position size =>
      cases access with
      | read => exact ⟨rfl, rfl, Iff.rfl, rfl⟩
      | character => cases received
      | typeByte => cases received
  | recv => exact ⟨rfl, rfl, Iff.rfl, rfl⟩
  | print => exact ⟨rfl, rfl, Iff.rfl, rfl⟩
  | received => exact ⟨rfl, rfl, Iff.rfl, rfl⟩
  | arrive => cases received
  | read => cases received
  | send => cases received
  | waitCAD => cases received
  | waitPacketSent => cases received
  | millis => cases received
  | digitalWrite => cases received

/-- What an action hands to the radio. -/
def Action.sends : Action → List (List UInt8)
  | .send packet => [packet]
  | _ => []

theorem Journal.sent_observe (journal : Journal) (action : Action) (answer : action.Answer) :
    (journal.observe action answer).sent = journal.sent ++ action.sends := by
  cases action with
  | send packet => rfl
  | index access array position size =>
      show _ = journal.sent ++ []
      rw [List.append_nil]
      exact (apply_ite Journal.sent _ _ _).trans (ite_self _)
  | _ => exact (List.append_nil _).symm

/-- A transmit half is nothing to the receiver. -/
theorem Hears.of_owns {channel : Channel} {outlets : UInt8 → List Port} {journal : Journal}
    {receiver : Receiver} (hears : Hears outlets journal receiver) {action : Action}
    (owned : channel.owns action) (answer : action.Answer) :
    Hears outlets (journal.observe action answer) receiver := by
  obtain ⟨ready, counted, received, printed⟩ := hears
  cases action with
  | index access array position size =>
      by_cases inside : access.Inside position
      · rw [Journal.observe_inside _ _ _ inside]
        exact ⟨ready, counted, received, printed⟩
      · rw [Journal.observe_outside _ _ _ inside]
        exact ⟨ready, counted, received, printed⟩
  | recv => cases owned
  | print => cases owned
  | received => cases owned
  | _ => exact ⟨ready, counted, received, printed⟩

/-! ## Between two halves -/

/-- No packet is longer than the radio takes. -/
def Short (journal : Journal) : Prop := ∀ packet ∈ journal.sent, packet.length ≤ maxMessageLen

theorem Short.observe {journal : Journal} (short : Short journal) {action : Action}
    (sends : ∀ packet ∈ action.sends, packet.length ≤ maxMessageLen) (answer : action.Answer) :
    Short (journal.observe action answer) := by
  unfold Short
  rw [journal.sent_observe action answer]
  exact List.forall_mem_append.2 ⟨short, sends⟩

/-- A transmit half sends its line buffer. -/
theorem sends_of_owns {channel : Channel} {action : Action} (owned : channel.owns action) :
    ∀ packet ∈ action.sends, channel.mine packet = true ∧ packet.length ≤ maxMessageLen := by
  cases action with
  | send packet => exact List.forall_mem_singleton.2 owned
  | _ => exact fun _ member => absurd member List.not_mem_nil

/-- A receive half sends nothing. -/
theorem sends_of_receives {action : Action} (received : receives action) : action.sends = [] := by
  cases action with
  | send packet => cases received
  | _ => rfl

namespace Channel

variable {channel : Channel} {journal later : Journal} {line : Line} {sensor : Sensor}

/-- Between two halves a channel follows its port, and no finished line waits. -/
structure Rests (channel : Channel) (journal : Journal) (line : Line) (sensor : Sensor) : Prop where
  follows : channel.Follows journal line sensor
  idle : channel.Fits journal → line.done = true → line.waiting = []

theorem Agrees.fits_iff (agrees : channel.Agrees journal later) :
    channel.Fits later ↔ channel.Fits journal := by
  unfold Channel.Fits
  rw [agrees.read]

theorem Rests.of_agrees (rests : channel.Rests journal line sensor)
    (agrees : channel.Agrees journal later) : channel.Rests later line sensor :=
  ⟨rests.follows.of_agrees agrees, fun fits => rests.idle (agrees.fits_iff.1 fits)⟩

/-- Before anything has arrived. -/
theorem rests_start (unread : line.unread = []) (index : line.bufIdx = 1)
    (started : sensor = channel.initial) :
    channel.Rests {} line sensor := by
  have nothing : line.waiting = [] := by
    rw [Line.waiting_eq_nil_iff, index]
    exact Nat.le_refl 1
  refine ⟨⟨?_, started, fun _ => ⟨List.not_mem_nil, ?_, ?_, ?_⟩, fun broken => ?_⟩, fun _ _ => nothing⟩
  · rw [unread]
    rfl
  · rw [index]
    exact Nat.le_refl 1
  · rw [nothing, ite_self]
    rfl
  · exact (if_neg fun finished => finished.2 nothing).symm
  · exact absurd (channel.routing.fits_of_length_le (Nat.zero_le _)) broken

end Channel

theorem hears_start (outlets : UInt8 → List Port) : Hears outlets {} {} :=
  ⟨rfl, rfl, rfl, fun _ => rfl⟩

/-! ## The base -/

namespace Base

/-- What the base makes of typed characters.  `$` and `%` select the sensor, `&`
stands for a carriage return and `#` for escape; blanks and `*` are dropped. -/
def routing : Routing UInt8 Sensor UInt8 where
  ends inputChar := inputChar = 10 ∨ inputChar = 13
  keep inputChar :=
    if inputChar = 32 ∨ inputChar = 42 ∨ inputChar = 36 ∨ inputChar = 37 then none
    else if inputChar = 38 then some 13
    else if inputChar = 35 then some 27
    else some inputChar
  selects inputChar :=
    if inputChar = 36 then some .seapHOx
    else if inputChar = 37 then some .proCV
    else none
  keep_of_selects := by
    intro inputChar sensor selected
    split at selected
    · simp_all
    · split at selected
      · simp_all
      · cases selected
  selects_of_ends := by
    intro inputChar ends
    rcases of_decide_eq_true ends with rfl | rfl <;> rfl

theorem switch_eq (inputChar : UInt8) : switch inputChar = routing.stroke inputChar := by
  unfold switch Routing.stroke routing
  by_cases ends : inputChar = 10 ∨ inputChar = 13
  · simp [ends]
  · simp only [ends, decide_false, if_false]
    split_ifs <;> simp_all

/-- Every packet of the base is a line that was typed. -/
def channel : Channel where
  toForwarder := forwarder
  routing := routing
  initial := .none
  mine _ := true
  switch_eq := switch_eq
  mine_typed _ _ := rfl

/-- What holds whenever the base acts. -/
structure Accounts (journal : Journal) (base : Base) : Prop where
  bounded : channel.Bounded journal base.transmitter.toLine
  typed : channel.Fits journal → base.transmitter.inputBufCksum =
    cksum (payloads journal.sent) + cksum base.transmitter.waiting
  counts : Counts journal base.receiver
  short : Short journal

/-- What holds between two halves. -/
structure Rests (journal : Journal) (base : Base) : Prop where
  line : channel.Rests journal base.transmitter.toLine base.transmitter.sensor
  typed : channel.Fits journal → base.transmitter.inputBufCksum =
    cksum (payloads journal.sent) + cksum base.transmitter.waiting
  hears : Hears outlets journal base.receiver
  short : Short journal

theorem Rests.accounts {journal : Journal} {base : Base} (rests : Rests journal base) :
    Accounts journal base :=
  ⟨rests.line.follows.bounded, rests.typed, rests.hears.counts, rests.short⟩

/-- The contract of the base: its accounts are right whenever it acts. -/
abbrev accounting : Contract Base Action Action.Answer Journal :=
  recording fun journal base _ => Accounts journal base

/-- The surroundings of the transmit half. -/
def scene (base : Base) : Scene channel fun journal transmitter _ =>
    Accounts journal { base with transmitter := transmitter } where
  others journal := Hears outlets journal base.receiver ∧ Short journal
  clear := True
  extra := 0
  closed _ _ answer owned others :=
    ⟨others.1.of_owns owned answer,
      others.2.observe (fun packet member => (sends_of_owns owned packet member).2) answer⟩
  permit _ _ _ others bounded balances :=
    ⟨bounded, fun fits => (balances trivial fits).trans (UInt32.add_zero _), others.1.counts,
      others.2⟩

/-- The surroundings of the receive half. -/
def audience (base : Base) : Audience fun journal receiver _ =>
    Accounts journal { base with receiver := receiver } where
  others journal :=
    channel.Rests journal base.transmitter.toLine base.transmitter.sensor ∧
      (channel.Fits journal → base.transmitter.inputBufCksum =
        cksum (payloads journal.sent) + cksum base.transmitter.waiting) ∧ Short journal
  closed journal action answer received others := by
    obtain ⟨line, typed, short⟩ := others
    have agrees := channel.agrees_of_receives journal received answer
    have nothing : (journal.observe action answer).sent = journal.sent := by
      rw [journal.sent_observe, sends_of_receives received, List.append_nil]
    refine ⟨line.of_agrees agrees, fun fits => ?_, ?_⟩
    · rw [nothing]
      exact typed (agrees.fits_iff.1 fits)
    · unfold Short
      rw [nothing]
      exact short
  permit _ _ _ others counts :=
    ⟨others.1.follows.bounded, others.2.1, counts, others.2.2⟩

theorem forward_keeps : Keeps accounting Rests (forwarder.forward.focus transmitter
    fun transmitter base => { base with transmitter := transmitter }) := by
  refine Triple.focus (fun _ => rfl) fun base => ?_
  refine (scene base).forward.weaken ?_ ?_
  · rintro journal transmitter ⟨⟨follows, idle⟩, typed, hears, short⟩
    refine ⟨⟨follows, fun _ fits => ?_, hears, short⟩, idle⟩
    exact (typed fits).trans (UInt32.add_zero _).symm
  · rintro _ journal transmitter ⟨⟨follows, balances, hears, short⟩, idle⟩
    refine ⟨⟨follows, idle⟩, fun fits => ?_, hears, short⟩
    exact (balances trivial fits).trans (UInt32.add_zero _)

theorem once (type : UInt8) : (outlets type).Nodup :=
  List.nodup_cons.2 ⟨List.not_mem_nil, List.nodup_nil⟩

theorem receive_keeps : Keeps accounting Rests ((receive outlets).focus receiver
    fun receiver base => { base with receiver := receiver }) := by
  refine Triple.focus (fun _ => rfl) fun base => ?_
  refine ((audience base).receive once).weaken ?_ ?_
  · rintro journal receiver ⟨line, typed, hears, short⟩
    exact ⟨hears, line, typed, short⟩
  · rintro _ journal receiver ⟨hears, line, typed, short⟩
    exact ⟨line, typed, hears, short⟩

theorem rests_start : Rests {} {} where
  line := channel.rests_start rfl rfl rfl
  typed _ := rfl
  hears := hears_start outlets
  short := nofun

/-- The base keeps its accounts over any number of iterations. -/
theorem loops_keeps (iterations : Nat) : Keeps accounting Rests (loops iterations) := by
  induction iterations with
  | zero => exact Keeps.pure ()
  | succ iterations ih => exact (forward_keeps.bind fun _ => receive_keeps).bind fun _ => ih

end Base

/-! ## The endpoint -/

namespace Endpoint

/-- What the endpoint makes of the characters of a sensor: blanks and `*` are dropped. -/
def routing : Routing UInt8 Sensor UInt8 where
  ends inputChar := inputChar = 10 ∨ inputChar = 13
  keep inputChar := if inputChar = 32 ∨ inputChar = 42 then none else some inputChar
  selects _ := none
  keep_of_selects := nofun
  selects_of_ends _ _ := rfl

theorem switch_eq (inputChar : UInt8) : switch inputChar = routing.stroke inputChar := by
  unfold switch Routing.stroke routing
  by_cases ends : inputChar = 10 ∨ inputChar = 13
  · simp [ends]
  · simp only [ends, decide_false, if_false]
    split_ifs <;> simp_all

/-- A sensor selects nothing, so that its lines keep their destination. -/
theorem mode_eq (initial : Sensor) (stream : List UInt8) :
    (routing.read initial stream).mode = initial := by
  induction stream using List.reverseRecOn with
  | nil => rfl
  | append_singleton front symbol ih =>
      rw [Routing.read_append_singleton]
      cases ends : routing.ends symbol with
      | true =>
          rw [Routing.take_of_ends ends]
          split <;> exact ih
      | false =>
          rw [Routing.take_of_goes ends]
          exact ih

/-- Which packets are lines of a sensor: those of its type. -/
def channel (port : Port) (array : ArrayName) (sensor : Sensor) : Channel where
  toForwarder := forwarder port array
  routing := routing
  initial := sensor
  mine packet := packet.head? = some (msgType sensor).code
  switch_eq := switch_eq
  mine_typed stream line := by
    rw [mode_eq]
    exact decide_eq_true rfl

abbrev seaphoxChannel : Channel := channel .seaphox .seaphoxBuf .seapHOx

abbrev procvChannel : Channel := channel .procv .procvBuf .proCV

/-- What holds whenever the endpoint acts. -/
structure Accounts (journal : Journal) (endpoint : Endpoint) : Prop where
  seaphox : seaphoxChannel.Bounded journal endpoint.seaphox
  procv : procvChannel.Bounded journal endpoint.procv
  typed : seaphoxChannel.Fits journal → procvChannel.Fits journal → endpoint.inputBufCksum =
    cksum (payloads journal.sent) + (cksum endpoint.seaphox.waiting + cksum endpoint.procv.waiting)
  counts : Counts journal endpoint.receiver
  short : Short journal

/-- Every packet is a line of one of the sensors. -/
def Own (journal : Journal) : Prop :=
  ∀ packet ∈ journal.sent, seaphoxChannel.mine packet = true ∨ procvChannel.mine packet = true

/-- What holds between two halves. -/
structure Rests (journal : Journal) (endpoint : Endpoint) : Prop where
  seaphox : seaphoxChannel.Rests journal endpoint.seaphox .seapHOx
  procv : procvChannel.Rests journal endpoint.procv .proCV
  typed : seaphoxChannel.Fits journal → procvChannel.Fits journal → endpoint.inputBufCksum =
    cksum (payloads journal.sent) + (cksum endpoint.seaphox.waiting + cksum endpoint.procv.waiting)
  hears : Hears outlets journal endpoint.receiver
  short : Short journal
  own : Own journal

theorem Rests.accounts {journal : Journal} {endpoint : Endpoint} (rests : Rests journal endpoint) :
    Accounts journal endpoint :=
  ⟨rests.seaphox.follows.bounded, rests.procv.follows.bounded, rests.typed, rests.hears.counts,
    rests.short⟩

/-- The contract of the endpoint: its accounts are right whenever it acts. -/
abbrev accounting : Contract Endpoint Action Action.Answer Journal :=
  recording fun journal endpoint _ => Accounts journal endpoint

/-- What the transmit half of one sensor finds of the other one and of the receiver. -/
structure Beside (other : Channel) (line : Line) (receiver : Receiver) (delivered : List UInt8)
    (journal : Journal) : Prop where
  delivered : journal.read other.port = delivered
  rests : other.Rests journal line other.initial
  hears : Hears outlets journal receiver
  short : Short journal
  own : Own journal

theorem Beside.of_owns (first other : Channel) (ports : other.port ≠ first.port)
    (arrays : other.array ≠ first.array)
    (apart : ∀ packet, first.mine packet = true → other.mine packet = false)
    (mine : ∀ packet, first.mine packet = true →
      seaphoxChannel.mine packet = true ∨ procvChannel.mine packet = true)
    {line : Line} {receiver : Receiver} {delivered : List UInt8} {journal : Journal}
    (beside : Beside other line receiver delivered journal) {action : Action}
    (owned : first.owns action) (answer : action.Answer) :
    Beside other line receiver delivered (journal.observe action answer) := by
  have agrees := Channel.agrees_of_owns ports arrays apart journal owned answer
  have sends := sends_of_owns owned
  refine ⟨agrees.read.trans beside.delivered, beside.rests.of_agrees agrees,
    beside.hears.of_owns owned answer,
    beside.short.observe (fun packet member => (sends packet member).2) answer, ?_⟩
  unfold Own
  rw [journal.sent_observe action answer]
  exact List.forall_mem_append.2
    ⟨beside.own, fun packet member => mine packet (sends packet member).1⟩

theorem apart {first second : Sensor} (ne : (msgType first).code ≠ (msgType second).code)
    (packet : List UInt8) (mine : decide (packet.head? = some (msgType first).code) = true) :
    decide (packet.head? = some (msgType second).code) = false := by
  rw [of_decide_eq_true mine]
  exact decide_eq_false fun same => ne (Option.some.inj same)

/-- The surroundings of the transmit half of the SeapHOx. -/
def seaphoxScene (endpoint : Endpoint) (delivered : List UInt8) :
    Scene seaphoxChannel fun journal transmitter _ =>
      Accounts journal (withSeaphox transmitter endpoint) where
  others := Beside procvChannel endpoint.procv endpoint.receiver delivered
  clear := routing.Fits 254 delivered
  extra := cksum endpoint.procv.waiting
  closed _ _ answer owned others :=
    others.of_owns seaphoxChannel procvChannel nofun nofun (apart (by decide)) (fun _ => Or.inl)
      owned answer
  permit journal transmitter _ others bounded balances := by
    refine ⟨bounded, others.rests.follows.bounded, fun seaphox procv => ?_, others.hears.counts,
      others.short⟩
    exact (balances (others.delivered ▸ procv) seaphox).trans (UInt32.add_assoc _ _ _)

/-- The surroundings of the transmit half of the proCV. -/
def procvScene (endpoint : Endpoint) (delivered : List UInt8) :
    Scene procvChannel fun journal transmitter _ =>
      Accounts journal (withProcv transmitter endpoint) where
  others := Beside seaphoxChannel endpoint.seaphox endpoint.receiver delivered
  clear := routing.Fits 254 delivered
  extra := cksum endpoint.seaphox.waiting
  closed _ _ answer owned others :=
    others.of_owns procvChannel seaphoxChannel nofun nofun (apart (by decide)) (fun _ => Or.inr)
      owned answer
  permit journal transmitter _ others bounded balances := by
    refine ⟨others.rests.follows.bounded, bounded, fun seaphox procv => ?_, others.hears.counts,
      others.short⟩
    refine (balances (others.delivered ▸ seaphox) procv).trans ?_
    rw [UInt32.add_assoc, UInt32.add_comm (cksum transmitter.waiting)]
    rfl

/-- The surroundings of the receive half. -/
def audience (endpoint : Endpoint) : Audience fun journal receiver _ =>
    Accounts journal { endpoint with receiver := receiver } where
  others journal :=
    seaphoxChannel.Rests journal endpoint.seaphox .seapHOx ∧
      procvChannel.Rests journal endpoint.procv .proCV ∧
      (seaphoxChannel.Fits journal → procvChannel.Fits journal → endpoint.inputBufCksum =
        cksum (payloads journal.sent) +
          (cksum endpoint.seaphox.waiting + cksum endpoint.procv.waiting)) ∧
      Short journal ∧ Own journal
  closed journal action answer received others := by
    obtain ⟨seaphox, procv, typed, short, own⟩ := others
    have first := seaphoxChannel.agrees_of_receives journal received answer
    have second := procvChannel.agrees_of_receives journal received answer
    have nothing : (journal.observe action answer).sent = journal.sent := by
      rw [journal.sent_observe, sends_of_receives received, List.append_nil]
    refine ⟨seaphox.of_agrees first, procv.of_agrees second, fun whole fits => ?_, ?_, ?_⟩
    · rw [nothing]
      exact typed (first.fits_iff.1 whole) (second.fits_iff.1 fits)
    · unfold Short
      rw [nothing]
      exact short
    · unfold Own
      rw [nothing]
      exact own
  permit _ _ _ others counts :=
    ⟨others.1.follows.bounded, others.2.1.follows.bounded, others.2.2.1, counts, others.2.2.2.1⟩

/-- An action that the journal does not mention. -/
theorem perform_keeps {action : Action}
    (still : ∀ (journal : Journal) answer, journal.observe action answer = journal) :
    Keeps accounting Rests (perform action) := by
  intro journal endpoint rests
  refine ⟨rests.accounts, fun answer _ => ?_⟩
  show Rests (journal.observe action answer) endpoint
  rw [still]
  exact rests

/-- The LED is nothing to the lines. -/
theorem Rests.led {journal : Journal} {endpoint : Endpoint} (rests : Rests journal endpoint)
    (ledMillis : UInt32) (ledOn : Bool) :
    Rests journal { endpoint with ledMillis := ledMillis, ledOn := ledOn } :=
  ⟨rests.seaphox, rests.procv, rests.typed, rests.hears, rests.short, rests.own⟩

theorem blinkLed_keeps : Keeps accounting Rests blinkLed := by
  refine (perform_keeps fun _ _ => rfl).bind fun now => Keeps.get_bind fun known => ?_
  refine Keeps.ite (Keeps.get_bind fun known => ?_) (Keeps.pure ())
  refine (perform_keeps fun _ _ => rfl).bind fun _ => ?_
  refine Keeps.bind (Keeps.update fun _ _ rests => rests.led _ _) fun _ => ?_
  exact (perform_keeps fun _ _ => rfl).bind fun now => Keeps.update fun _ _ rests => rests.led _ _

theorem forwardSeaphox_keeps : Keeps accounting Rests forwardSeaphox := by
  intro journal endpoint start
  have beside : Beside procvChannel endpoint.procv endpoint.receiver
      (journal.read Port.procv) journal :=
    ⟨rfl, start.procv, start.hears, start.short, start.own⟩
  have resting :
      (seaphoxScene endpoint (journal.read Port.procv)).Rests journal endpoint.seaphoxPart := by
    refine ⟨⟨start.seaphox.follows, fun procv seaphox => ?_, beside⟩, start.seaphox.idle⟩
    exact (start.typed seaphox procv).trans (UInt32.add_assoc _ _ _).symm
  refine Resumption.Meets.embed_iff.2 (((seaphoxScene endpoint _).forward _ _ resting).mono ?_)
  rintro journal transmitter _ ⟨⟨follows, balances, beside⟩, idle⟩
  have selected : transmitter.sensor = .seapHOx := follows.selected.trans (mode_eq _ _)
  rw [selected] at follows
  refine ⟨⟨follows, idle⟩, beside.rests, fun seaphox procv => ?_, beside.hears, beside.short,
    beside.own⟩
  exact (balances (beside.delivered ▸ procv) seaphox).trans (UInt32.add_assoc _ _ _)

theorem forwardProcv_keeps : Keeps accounting Rests forwardProcv := by
  intro journal endpoint start
  have beside : Beside seaphoxChannel endpoint.seaphox endpoint.receiver
      (journal.read Port.seaphox) journal :=
    ⟨rfl, start.seaphox, start.hears, start.short, start.own⟩
  have resting :
      (procvScene endpoint (journal.read Port.seaphox)).Rests journal endpoint.procvPart := by
    refine ⟨⟨start.procv.follows, fun seaphox procv => ?_, beside⟩, start.procv.idle⟩
    refine (start.typed seaphox procv).trans ?_
    rw [UInt32.add_comm (cksum endpoint.seaphox.waiting), ← UInt32.add_assoc]
    rfl
  refine Resumption.Meets.embed_iff.2 (((procvScene endpoint _).forward _ _ resting).mono ?_)
  rintro journal transmitter _ ⟨⟨follows, balances, beside⟩, idle⟩
  have selected : transmitter.sensor = .proCV := follows.selected.trans (mode_eq _ _)
  rw [selected] at follows
  refine ⟨beside.rests, ⟨follows, idle⟩, fun seaphox procv => ?_, beside.hears, beside.short,
    beside.own⟩
  refine (balances (beside.delivered ▸ seaphox) procv).trans ?_
  rw [UInt32.add_assoc, UInt32.add_comm (cksum transmitter.waiting)]
  rfl

theorem once (type : UInt8) : (outlets type).Nodup := by
  unfold outlets
  split_ifs <;> decide

theorem receive_keeps : Keeps accounting Rests ((receive outlets).focus receiver
    fun receiver endpoint => { endpoint with receiver := receiver }) := by
  refine Triple.focus (fun _ => rfl) fun endpoint => ?_
  refine ((audience endpoint).receive once).weaken ?_ ?_
  · rintro journal receiver ⟨seaphox, procv, typed, hears, short, own⟩
    exact ⟨hears, seaphox, procv, typed, short, own⟩
  · rintro _ journal receiver ⟨hears, seaphox, procv, typed, short, own⟩
    exact ⟨seaphox, procv, typed, hears, short, own⟩

theorem rests_start : Rests {} {} where
  seaphox := Channel.rests_start rfl rfl rfl
  procv := Channel.rests_start rfl rfl rfl
  typed _ _ := rfl
  hears := hears_start outlets
  short := nofun
  own := nofun

/-- The endpoint keeps its accounts over any number of iterations. -/
theorem loops_keeps (iterations : Nat) : Keeps accounting Rests (loops iterations) := by
  induction iterations with
  | zero => exact Keeps.pure ()
  | succ iterations ih =>
      have loop_keeps : Keeps accounting Rests loop :=
        blinkLed_keeps.bind fun _ => forwardSeaphox_keeps.bind fun _ =>
          forwardProcv_keeps.bind fun _ => receive_keeps
      exact loop_keeps.bind fun _ => ih

end Endpoint

end Roam.Bridge
