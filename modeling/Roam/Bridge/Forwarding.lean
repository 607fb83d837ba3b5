import Roam.Bridge.Sketches

/-!
# One transmit half

A transmit half is followed against the characters it has read.  Between any two
actions the line buffer holds what the characters read so far have left of their
last line, the packets sent are the lines that were ended, and the checksum is
the sum of both, as long as no line has grown beyond its buffer.
-/

namespace Roam.Bridge

open Roam.Data Roam.Interaction

/-! ## Checksums -/

@[simp]
theorem cksum_nil : cksum [] = 0 := rfl

@[simp]
theorem cksum_singleton (byte : UInt8) : cksum [byte] = byte.toUInt32 := UInt32.add_zero _

theorem cksum_append (first second : List UInt8) :
    cksum (first ++ second) = cksum first + cksum second := by
  induction first with
  | nil => exact (UInt32.zero_add _).symm
  | cons byte first ih =>
      show byte.toUInt32 + cksum (first ++ second) = _
      rw [ih, ← UInt32.add_assoc]
      rfl

theorem cksum_perm {first second : List UInt8} (perm : first.Perm second) :
    cksum first = cksum second := by
  induction perm with
  | nil => rfl
  | cons byte _ ih => exact congrArg (byte.toUInt32 + ·) ih
  | swap first second rest =>
      show second.toUInt32 + (first.toUInt32 + cksum rest) =
        first.toUInt32 + (second.toUInt32 + cksum rest)
      rw [← UInt32.add_assoc, UInt32.add_comm second.toUInt32, UInt32.add_assoc]
  | trans _ _ earlier later => exact earlier.trans later

/-- The payload bytes of some packets. -/
def payloads (packets : List (List UInt8)) : List UInt8 := packets.flatMap (List.drop 1)

/-! ## The line buffer -/

/-- The bytes that wait in a line buffer. -/
def Line.waiting (line : Line) : List UInt8 := (line.buf.upTo line.bufIdx.toNat).drop 1

theorem Line.length_waiting (line : Line) : line.waiting.length = line.bufIdx.toNat - 1 := by
  have small : line.bufIdx.toNat ≤ maxMessageLen := Nat.le_of_lt_succ line.bufIdx.toNat_lt
  rw [waiting, Buffer.upTo, List.length_drop, List.length_take, line.buf.length_cells,
    Nat.min_eq_left small]

theorem Line.waiting_eq_nil_iff (line : Line) : line.waiting = [] ↔ line.bufIdx.toNat ≤ 1 := by
  rw [← List.length_eq_zero_iff, length_waiting]
  omega

namespace Transmitter

variable (transmitter : Transmitter)

/-- A byte pushed inside the buffer waits behind the others. -/
theorem waiting_push (byte : UInt8) (started : 1 ≤ transmitter.bufIdx.toNat)
    (room : transmitter.bufIdx.toNat < maxMessageLen) :
    (transmitter.push byte).waiting = transmitter.waiting ++ [byte] ∧
      (transmitter.push byte).bufIdx.toNat = transmitter.bufIdx.toNat + 1 := by
  have small : transmitter.bufIdx.toNat < 255 := room
  have next : (transmitter.bufIdx + 1).toNat = transmitter.bufIdx.toNat + 1 := by
    rw [UInt8.toNat_add]
    have one : (1 : UInt8).toNat = 1 := rfl
    omega
  refine ⟨?_, next⟩
  show ((transmitter.buf.set transmitter.bufIdx.toNat byte).upTo
    (transmitter.bufIdx + 1).toNat).drop 1 = _
  rw [next, Buffer.upTo_set _ _ room, List.drop_append_of_le_length]
  · rfl
  · rw [Buffer.upTo, List.length_take, transmitter.buf.length_cells]
    omega

/-- The type byte is not part of what waits. -/
theorem upTo_typed (byte : UInt8) (started : 1 ≤ transmitter.bufIdx.toNat) :
    (transmitter.buf.set 0 byte).upTo transmitter.bufIdx.toNat = byte :: transmitter.waiting :=
  Buffer.upTo_set_zero _ _ (by decide) started

end Transmitter

/-! ## The journal -/

/-- An access that stays inside a line buffer of 255 bytes: characters are written
behind the type byte, and the type byte in front. -/
def Access.Inside : Access → Nat → Prop
  | .read, _ => True
  | .character, position => 1 ≤ position ∧ position ≤ 254
  | .typeByte, position => position = 0

instance : (access : Access) → (position : Nat) → Decidable (access.Inside position)
  | .read, _ => .isTrue trivial
  | .character, position => inferInstanceAs (Decidable (1 ≤ position ∧ position ≤ 254))
  | .typeByte, position => inferInstanceAs (Decidable (position = 0))

/-- What a run has made of the surroundings of a sketch. -/
structure Journal where
  arrived : Port → List UInt8 := fun _ => []
  read : Port → List UInt8 := fun _ => []
  /-- Buffers in which something was written outside its place. -/
  outside : List ArrayName := []
  sent : List (List UInt8) := []
  heard : List (List UInt8) := []
  received : List (List UInt8) := []
  printed : Port → List UInt8 := fun _ => []

/-- More bytes for one port. -/
def extend (streams : Port → List UInt8) (port : Port) (more : List UInt8) : Port → List UInt8 :=
  fun other => if other = port then streams other ++ more else streams other

@[simp]
theorem extend_self (streams : Port → List UInt8) (port : Port) (more : List UInt8) :
    extend streams port more port = streams port ++ more := if_pos rfl

theorem extend_of_ne {port other : Port} (ne : other ≠ port) (streams : Port → List UInt8)
    (more : List UInt8) : extend streams port more other = streams other := if_neg ne

namespace Journal

def observe (journal : Journal) : (action : Action) → action.Answer → Journal
  | .arrive port, characters => { journal with arrived := extend journal.arrived port characters }
  | .read port inputChar, _ => { journal with read := extend journal.read port [inputChar] }
  | .index access array position _, _ =>
      if access.Inside position then journal
      else { journal with outside := array :: journal.outside }
  | .send packet, _ => { journal with sent := journal.sent ++ [packet] }
  | .recv _, packet => { journal with heard := journal.heard ++ packet.toList }
  | .received packet, _ => { journal with received := journal.received ++ [packet] }
  | .print port byte, _ => { journal with printed := extend journal.printed port [byte] }
  | _, _ => journal

theorem observe_inside (journal : Journal) {access : Access} (array : ArrayName) {position : Nat}
    (size : Nat) (inside : access.Inside position) :
    journal.observe (.index access array position size) () = journal := if_pos inside

theorem observe_outside (journal : Journal) {access : Access} (array : ArrayName) {position : Nat}
    (size : Nat) (outside : ¬ access.Inside position) :
    journal.observe (.index access array position size) () =
      { journal with outside := array :: journal.outside } := if_neg outside

/-- The journal of a run. -/
def of {State : Type} (trace : List (Step State Action Action.Answer)) : Journal :=
  trace.foldl (fun journal step => journal.observe step.action step.answer) {}

end Journal

/-- The contract that keeps the journal, with a duty. -/
def recording {State : Type} (require : Journal → State → Action → Prop) :
    Contract State Action Action.Answer Journal :=
  Contract.insisting require fun journal _ action answer => journal.observe action answer

theorem recording_after {State : Type} {require : Journal → State → Action → Prop}
    (trace : List (Step State Action Action.Answer)) :
    (recording require).after {} trace = Journal.of trace := rfl

/-! ## Channels -/

/-- A forwarder with what its characters mean: how they are routed into lines, the
selection it starts with, and which packets of the sketch are its own. -/
structure Channel extends Forwarder where
  routing : Routing UInt8 Sensor UInt8
  initial : Sensor
  mine : List UInt8 → Bool
  switch_eq : ∀ inputChar, switch inputChar = routing.stroke inputChar
  mine_typed : ∀ stream line,
    mine ((msgType (routing.read initial stream).mode).code :: line) = true

namespace Channel

variable (channel : Channel)

/-- What the characters read so far amount to. -/
def reading (journal : Journal) : Reading Sensor UInt8 :=
  channel.routing.read channel.initial (journal.read channel.port)

/-- No line read so far has left more than 254 bytes. -/
def Fits (journal : Journal) : Prop :=
  channel.routing.Fits 254 (journal.read channel.port)

/-- The packet of a line. -/
def packet (routed : Sensor × List UInt8) : List UInt8 :=
  (channel.msgType routed.1).code :: routed.2

/-- The line that is finished and not yet sent. -/
def ready (line : Line) (sensor : Sensor) : List (List UInt8) :=
  if line.done = true ∧ line.waiting ≠ [] then [channel.packet (sensor, line.waiting)] else []

/-- While no line was too long, the buffer holds the last line, and all others are sent. -/
structure Sound (journal : Journal) (line : Line) (sensor : Sensor) : Prop where
  started : 1 ≤ line.bufIdx.toNat
  unfinished : (channel.reading journal).unfinished = if line.done then [] else line.waiting
  sent : (channel.reading journal).routed.map channel.packet =
    journal.sent.filter channel.mine ++ channel.ready line sensor

/-- How a line follows what its port has delivered. -/
structure Follows (journal : Journal) (line : Line) (sensor : Sensor) : Prop where
  arrived : journal.arrived channel.port = journal.read channel.port ++ line.unread
  selected : sensor = (channel.reading journal).mode
  inside : channel.Fits journal → channel.array ∉ journal.outside ∧ channel.Sound journal line sensor
  outside : ¬ channel.Fits journal → channel.array ∈ journal.outside

/-- No write has left the buffer, and the index has not wrapped. -/
def Bounded (journal : Journal) (line : Line) : Prop :=
  channel.Fits journal → channel.array ∉ journal.outside ∧ 1 ≤ line.bufIdx.toNat

/-- Two journals that say the same about a channel. -/
structure Agrees (first second : Journal) : Prop where
  arrived : second.arrived channel.port = first.arrived channel.port
  read : second.read channel.port = first.read channel.port
  outside : channel.array ∈ second.outside ↔ channel.array ∈ first.outside
  sent : second.sent.filter channel.mine = first.sent.filter channel.mine

variable {channel} {journal later : Journal} {line : Line} {sensor : Sensor}

theorem Follows.bounded (follows : channel.Follows journal line sensor) :
    channel.Bounded journal line :=
  fun fits => (follows.inside fits).imp_right Sound.started

theorem ready_of_open (goes : line.done = false) : channel.ready line sensor = [] :=
  if_neg fun finished => absurd (goes.symm.trans finished.1) Bool.false_ne_true

theorem Follows.of_agrees (follows : channel.Follows journal line sensor)
    (agrees : channel.Agrees journal later) : channel.Follows later line sensor := by
  have reading : channel.reading later = channel.reading journal := by
    unfold Channel.reading
    rw [agrees.read]
  have fits : channel.Fits later ↔ channel.Fits journal := by
    unfold Channel.Fits
    rw [agrees.read]
  refine ⟨?_, ?_, fun whole => ?_, fun broken => ?_⟩
  · rw [agrees.arrived, agrees.read, follows.arrived]
  · rw [reading, follows.selected]
  · obtain ⟨within, sound⟩ := follows.inside (fits.1 whole)
    refine ⟨mt agrees.outside.1 within, sound.started, ?_, ?_⟩
    · rw [reading, sound.unfinished]
    · rw [reading, agrees.sent, sound.sent]
  · exact agrees.outside.2 (follows.outside (mt fits.2 broken))

/-- The actions of a transmit half. -/
def owns (channel : Channel) : Action → Prop
  | .arrive port => port = channel.port
  | .read port _ => port = channel.port
  | .index access array _ _ => access = .read ∨ array = channel.array
  | .waitCAD => True
  | .send packet => channel.mine packet = true ∧ packet.length ≤ maxMessageLen
  | .waitPacketSent => True
  | _ => False

variable (channel) (journal)

/-- The journal once one more character has been read. -/
abbrev read (inputChar : UInt8) : Journal := journal.observe (.read channel.port inputChar) ()

theorem reading_read (inputChar : UInt8) :
    channel.reading (channel.read journal inputChar) =
      channel.routing.take (channel.reading journal) inputChar := by
  unfold reading
  rw [← Routing.read_append_singleton]
  simp only [Journal.observe, extend_self]

theorem fits_read_iff (inputChar : UInt8) :
    channel.Fits (channel.read journal inputChar) ↔ channel.Fits journal ∧
      (channel.routing.take (channel.reading journal) inputChar).unfinished.length ≤ 254 := by
  unfold Fits
  rw [← reading_read]
  unfold reading
  simp only [Journal.observe, extend_self]
  rw [LineFormat.fits_append_singleton, channel.routing.assemble_eq channel.initial]

variable {channel} {journal}

theorem Fits.length_le (fits : channel.Fits journal) :
    (channel.reading journal).unfinished.length ≤ 254 := by
  have last := fits _ (List.prefix_refl _)
  rw [channel.routing.assemble_eq channel.initial] at last
  exact last

/-- A character that does not make the line longer. -/
theorem Follows.read {changed : Line} {selected : Sensor} {inputChar : UInt8} {rest : List UInt8}
    (follows : channel.Follows journal line sensor) (unread : line.unread = inputChar :: rest)
    (consumed : changed.unread = rest)
    (mode : selected = (channel.routing.take (channel.reading journal) inputChar).mode)
    (short : (channel.routing.take (channel.reading journal) inputChar).unfinished.length ≤
      (channel.reading journal).unfinished.length)
    (sound : channel.Sound journal line sensor →
      channel.Sound (channel.read journal inputChar) changed selected) :
    channel.Follows (channel.read journal inputChar) changed selected := by
  have fits : channel.Fits (channel.read journal inputChar) ↔ channel.Fits journal := by
    rw [fits_read_iff]
    exact ⟨And.left, fun fits => ⟨fits, short.trans fits.length_le⟩⟩
  refine ⟨?_, ?_, fun whole => ?_, fun broken => follows.outside (mt fits.2 broken)⟩
  · simp only [Channel.read, Journal.observe, extend_self, consumed]
    rw [follows.arrived, unread, List.append_assoc]
    rfl
  · rw [reading_read, mode]
  · exact (follows.inside (fits.1 whole)).imp_right sound

end Channel

/-- What surrounds a transmit half: what the rest of the sketch knows of the
journal, the condition under which the rest of the checksum is known, and that
rest.  The duty of the sketch follows from the bounds, the checksum and the rest. -/
structure Scene (channel : Channel) (require : Journal → Transmitter → Action → Prop) where
  others : Journal → Prop
  clear : Prop
  extra : UInt32
  closed : ∀ journal action answer, channel.owns action → others journal →
    others (journal.observe action answer)
  permit : ∀ journal transmitter action, others journal →
    channel.Bounded journal transmitter.toLine →
    (clear → channel.Fits journal → transmitter.inputBufCksum =
      cksum (payloads journal.sent) + cksum transmitter.waiting + extra) →
    require journal transmitter action

namespace Scene

variable {channel : Channel} {require : Journal → Transmitter → Action → Prop}
variable (scene : Scene channel require)

/-- The checksum is the sum of what was sent and what waits. -/
def Balances (journal : Journal) (transmitter : Transmitter) : Prop :=
  scene.clear → channel.Fits journal → transmitter.inputBufCksum =
    cksum (payloads journal.sent) + cksum transmitter.waiting + scene.extra

/-- The invariant of the transmit half. -/
structure Keep (journal : Journal) (transmitter : Transmitter) : Prop where
  follows : channel.Follows journal transmitter.toLine transmitter.sensor
  balances : scene.Balances journal transmitter
  others : scene.others journal

/-- Between two transmit halves no finished line waits. -/
def Rests (journal : Journal) (transmitter : Transmitter) : Prop :=
  scene.Keep journal transmitter ∧
    (channel.Fits journal → transmitter.done = true → transmitter.waiting = [])

variable {scene}

theorem Keep.permits {journal : Journal} {transmitter : Transmitter}
    (keep : scene.Keep journal transmitter) (action : Action) :
    require journal transmitter action :=
  scene.permit journal transmitter action keep.others keep.follows.bounded keep.balances

/-- Characters that arrive wait behind the unread ones. -/
theorem arrive : Keeps (recording require) scene.Rests channel.arrive := by
  rintro journal transmitter ⟨keep, rests⟩
  refine ⟨keep.permits _, fun characters _ => ?_⟩
  obtain ⟨follows, balances, others⟩ := keep
  have heard := scene.closed journal (.arrive channel.port) characters rfl others
  refine ⟨⟨⟨?_, follows.selected, fun fits => ?_, follows.outside⟩, balances, heard⟩, rests⟩
  · show extend journal.arrived channel.port characters channel.port = _
    rw [extend_self, follows.arrived, List.append_assoc]
    rfl
  · obtain ⟨within, sound⟩ := follows.inside fits
    exact ⟨within, sound.started, sound.unfinished, sound.sent⟩

/-- The read loop is opened when something is unread. -/
theorem opens : Keeps (recording require) scene.Rests (modify fun transmitter =>
    if transmitter.unread = [] then transmitter else { transmitter with done := false }) := by
  refine Keeps.update fun journal transmitter resting => ?_
  split
  · exact resting
  · obtain ⟨⟨follows, balances, others⟩, rests⟩ := resting
    refine ⟨⟨⟨follows.arrived, follows.selected, fun fits => ?_, follows.outside⟩, balances,
      others⟩, nofun⟩
    obtain ⟨within, sound⟩ := follows.inside fits
    refine ⟨within, sound.started, ?_, ?_⟩
    · rw [sound.unfinished]
      cases done : transmitter.done with
      | false => rfl
      | true => exact (rests fits done).symm
    · rw [sound.sent]
      have nothing : channel.ready transmitter.toLine transmitter.sensor = [] :=
        if_neg fun finished => finished.2 (rests fits finished.1)
      rw [nothing]
      rfl

/-! ### One character -/

/-- A character kept in the buffer. -/
theorem keepByte {before : Journal} {transmitter : Transmitter} {inputChar byte : UInt8}
    (stroke : channel.routing.stroke inputChar = .keeps byte)
    (goes : transmitter.done = false)
    (follows : channel.Follows before transmitter.toLine transmitter.sensor)
    (balances : scene.Balances before transmitter) {rest : List UInt8}
    (unread : transmitter.unread = inputChar :: rest) (journal : Journal)
    (written : journal = (channel.read before inputChar).observe
      (.index .character channel.array transmitter.bufIdx.toNat maxMessageLen) ()) :
    let pushed := { transmitter with unread := rest }.push byte
    channel.Follows journal pushed.toLine pushed.sensor ∧ scene.Balances journal pushed := by
  intro pushed
  have taken := channel.reading_read before inputChar
  have kept : channel.routing.take (channel.reading before) inputChar =
      { channel.reading before with
        unfinished := (channel.reading before).unfinished ++ [byte] } := by
    simp only [Routing.take, stroke]
  have fits := channel.fits_read_iff before inputChar
  rw [kept, List.length_append, List.length_singleton] at fits
  rw [kept] at taken
  have arrived : (channel.read before inputChar).arrived channel.port =
      (channel.read before inputChar).read channel.port ++ rest := by
    simp only [Channel.read, Journal.observe, extend_self]
    rw [follows.arrived, unread, List.append_assoc]
    rfl
  have full := transmitter.length_waiting
  have small := transmitter.bufIdx.toNat_lt
  by_cases inRange : 1 ≤ transmitter.bufIdx.toNat ∧ transmitter.bufIdx.toNat ≤ 254
  · have same : journal = channel.read before inputChar :=
      written.trans (Journal.observe_inside _ _ _ inRange)
    obtain ⟨longer, index⟩ := Transmitter.waiting_push { transmitter with unread := rest } byte
      inRange.1 (Nat.lt_succ_of_le inRange.2)
    rw [same]
    refine ⟨⟨arrived, ?_, fun whole => ?_, fun broken => ?_⟩, fun clear whole => ?_⟩
    · rw [taken]
      exact follows.selected
    · obtain ⟨within, started, unfinished, sent⟩ := follows.inside (fits.1 whole).1
      rw [goes, if_neg Bool.false_ne_true] at unfinished
      refine ⟨within, ?_, ?_, ?_⟩
      · show 1 ≤ pushed.bufIdx.toNat
        rw [index]
        exact Nat.le_add_left 1 _
      · rw [taken, unfinished]
        show transmitter.waiting ++ [byte] = if transmitter.done then [] else pushed.waiting
        rw [goes, if_neg Bool.false_ne_true, longer]
        rfl
      · rw [taken]
        have open_ : channel.ready pushed.toLine pushed.sensor = [] := Channel.ready_of_open goes
        rw [open_]
        rw [Channel.ready_of_open goes] at sent
        exact sent
    · refine follows.outside fun whole => broken (fits.2 ⟨whole, ?_⟩)
      obtain ⟨_, _, unfinished, _⟩ := follows.inside whole
      rw [unfinished, goes, if_neg Bool.false_ne_true, full]
      omega
    · rw [longer, cksum_append]
      have sum := balances clear (fits.1 whole).1
      show transmitter.inputBufCksum + byte.toUInt32 =
        cksum (payloads before.sent) + (cksum transmitter.waiting + cksum [byte]) + scene.extra
      rw [sum, cksum_singleton]
      ac_rfl
  · have stray : ¬ Access.character.Inside transmitter.bufIdx.toNat := inRange
    rw [Journal.observe_outside _ _ _ stray] at written
    have broken : ¬ channel.Fits (channel.read before inputChar) := by
      rintro whole
      obtain ⟨early, length⟩ := fits.1 whole
      obtain ⟨_, started, unfinished, _⟩ := follows.inside early
      rw [unfinished, goes, if_neg Bool.false_ne_true, full] at length
      omega
    rw [written]
    refine ⟨⟨arrived, ?_, fun whole => absurd whole broken, fun _ => List.mem_cons_self⟩,
      fun _ whole => absurd whole broken⟩
    show transmitter.sensor = (channel.reading (channel.read before inputChar)).mode
    rw [taken]
    exact follows.selected

section Character

variable {journal : Journal} {transmitter : Transmitter} {inputChar : UInt8} {rest : List UInt8}

/-- The switch on a character that has just been taken off the port. -/
theorem readCharacter (keep : scene.Keep journal transmitter) (goes : transmitter.done = false)
    (unread : transmitter.unread = inputChar :: rest) :
    (channel.readCharacter inputChar { transmitter with unread := rest }).Meets
      (recording require) (fun journal transmitter _ => scene.Keep journal transmitter ∧
        transmitter.unread = rest) (channel.read journal inputChar) := by
  obtain ⟨follows, balances, others⟩ := keep
  have heard := scene.closed journal (.read channel.port inputChar) () rfl others
  have taken := channel.reading_read journal inputChar
  have earlier : channel.Fits (channel.read journal inputChar) → channel.Fits journal :=
    fun fits => ((channel.fits_read_iff journal inputChar).1 fits).1
  unfold Forwarder.readCharacter
  rw [channel.switch_eq]
  cases stroke : channel.routing.stroke inputChar with
  | ends =>
      have ended : channel.routing.take (channel.reading journal) inputChar =
          if (channel.reading journal).unfinished.isEmpty then channel.reading journal
          else ⟨(channel.reading journal).mode, (channel.reading journal).routed ++
            [((channel.reading journal).mode, (channel.reading journal).unfinished)], []⟩ := by
        simp only [Routing.take, stroke]
      refine ⟨⟨?_, fun clear fits => balances clear (earlier fits), heard⟩, rfl⟩
      apply follows.read unread rfl
      · rw [ended, follows.selected]
        split <;> rfl
      · rw [ended]
        split
        · exact Nat.le_refl _
        · exact Nat.zero_le _
      · rintro ⟨started, unfinished, sent⟩
        rw [goes, if_neg Bool.false_ne_true] at unfinished
        rw [Channel.ready_of_open goes, List.append_nil] at sent
        refine ⟨started, ?_, ?_⟩
        · rw [taken, ended]
          split
          · exact List.isEmpty_iff.1 ‹_›
          · rfl
        · rw [taken, ended]
          split
          · rename_i empty
            have nothing : transmitter.waiting = [] := unfinished ▸ List.isEmpty_iff.1 empty
            rw [sent, Channel.ready, if_neg fun finished => finished.2 nothing, List.append_nil]
            rfl
          · rename_i nonempty
            have something : transmitter.waiting ≠ [] := fun nothing =>
              nonempty (List.isEmpty_iff.2 (unfinished.trans nothing))
            rw [List.map_append, sent, Channel.ready, if_pos ⟨rfl, something⟩, follows.selected,
              unfinished]
            rfl
  | skips =>
      have same : channel.routing.take (channel.reading journal) inputChar =
          channel.reading journal := by
        simp only [Routing.take, stroke]
      refine ⟨⟨?_, fun clear fits => balances clear (earlier fits), heard⟩, rfl⟩
      apply follows.read unread rfl
      · rw [same]
        exact follows.selected
      · rw [same]
      · rintro ⟨started, unfinished, sent⟩
        exact ⟨started, by rw [taken, same]; exact unfinished, by rw [taken, same]; exact sent⟩
  | selects sensor =>
      have moved : channel.routing.take (channel.reading journal) inputChar =
          { channel.reading journal with mode := sensor } := by
        simp only [Routing.take, stroke]
      refine ⟨⟨?_, fun clear fits => balances clear (earlier fits), heard⟩, rfl⟩
      apply follows.read unread rfl
      · rw [moved]
      · rw [moved]
      · rintro ⟨started, unfinished, sent⟩
        refine ⟨started, by rw [taken, moved]; exact unfinished, ?_⟩
        have open_ : channel.ready { transmitter.toLine with unread := rest } sensor = [] :=
          Channel.ready_of_open goes
        rw [Channel.ready_of_open goes, ← open_] at sent
        rw [taken, moved]
        exact sent
  | keeps byte =>
      refine ⟨scene.permit _ _ _ heard (fun fits => follows.bounded (earlier fits))
        fun clear fits => balances clear (earlier fits), ?_⟩
      intro _ _
      obtain ⟨later, weighs⟩ := keepByte stroke goes follows balances unread _ rfl
      have owned : channel.owns (.index .character channel.array transmitter.bufIdx.toNat
          maxMessageLen) := Or.inr rfl
      exact ⟨⟨later, weighs, scene.closed _ _ () owned heard⟩, rfl⟩

end Character

/-- The read loop takes characters off the port until a line ends. -/
theorem readCharacters (characters : List UInt8) :
    Triple (recording require)
      (fun journal transmitter => scene.Keep journal transmitter ∧
        transmitter.unread = characters)
      (channel.readCharacters characters) fun _ => scene.Keep := by
  induction characters with
  | nil => exact Triple.pure () fun _ _ => And.left
  | cons inputChar rest ih =>
      refine Triple.get_bind fun known => Triple.ite (fun goes => ?_) fun _ => ?_
      · rintro journal transmitter ⟨⟨keep, unread⟩, rfl⟩
        refine ⟨keep.permits _, fun _ _ => ?_⟩
        show ((channel.readCharacter inputChar { transmitter with unread := rest }).bind
          fun later _ => channel.readCharacters rest later).Meets (recording require) _
            (channel.read journal inputChar)
        refine Resumption.Meets.bind_iff.2 ((readCharacter keep goes unread).mono ?_)
        exact fun journal transmitter _ => ih journal transmitter
      · exact Triple.pure () fun _ _ start => start.1.1

/-! ### A finished line -/

/-- The type byte changes nothing that is waiting. -/
theorem Keep.typed {journal : Journal} {transmitter : Transmitter}
    (keep : scene.Keep journal transmitter) (started : 1 ≤ transmitter.bufIdx.toNat)
    (byte : UInt8) :
    scene.Keep journal { transmitter with buf := transmitter.buf.set 0 byte } := by
  obtain ⟨follows, balances, others⟩ := keep
  have same : Line.waiting { transmitter.toLine with buf := transmitter.buf.set 0 byte } =
      transmitter.waiting := by
    unfold Line.waiting
    rw [transmitter.upTo_typed byte started]
    rfl
  refine ⟨⟨follows.arrived, follows.selected, fun fits => ?_, follows.outside⟩, ?_, others⟩
  · obtain ⟨within, _, unfinished, sent⟩ := follows.inside fits
    refine ⟨within, started, ?_, ?_⟩
    · rw [same]
      exact unfinished
    · rw [sent]
      unfold Channel.ready
      rw [same]
  · intro clear fits
    rw [same]
    exact balances clear fits

/-- A line that has been sent is in the journal instead of the buffer. -/
theorem Keep.sent {journal : Journal} {transmitter : Transmitter}
    (keep : scene.Keep journal transmitter) (finished : transmitter.done = true)
    (many : 1 < transmitter.bufIdx.toNat) :
    scene.Rests
      (journal.observe (.send (channel.packet (transmitter.sensor, transmitter.waiting))) ())
      { transmitter with bufIdx := 1 } := by
  obtain ⟨follows, balances, others⟩ := keep
  have empty : Line.waiting { transmitter.toLine with bufIdx := 1 } = [] :=
    (Line.waiting_eq_nil_iff _).2 (Nat.le_refl 1)
  have something : transmitter.waiting ≠ [] := by
    rw [Ne, Line.waiting_eq_nil_iff]
    omega
  have mine : channel.mine (channel.packet (transmitter.sensor, transmitter.waiting)) = true := by
    rw [follows.selected]
    exact channel.mine_typed _ _
  have owned : channel.owns (.send (channel.packet (transmitter.sensor, transmitter.waiting))) := by
    refine ⟨mine, ?_⟩
    rw [Channel.packet, List.length_cons, Line.length_waiting]
    have small := transmitter.bufIdx.toNat_lt
    unfold maxMessageLen
    omega
  have heard := scene.closed journal _ () owned others
  refine ⟨⟨⟨follows.arrived, follows.selected, fun fits => ?_, follows.outside⟩, ?_, heard⟩, ?_⟩
  · obtain ⟨within, _, unfinished, sent⟩ := follows.inside fits
    rw [finished, if_pos rfl] at unfinished
    refine ⟨within, Nat.le_refl 1, ?_, ?_⟩
    · rw [empty, ite_self]
      exact unfinished
    · have nothing : channel.ready { transmitter.toLine with bufIdx := 1 } transmitter.sensor = [] :=
        if_neg fun waits => waits.2 empty
      rw [nothing, List.append_nil]
      rw [Channel.ready, if_pos ⟨finished, something⟩] at sent
      show _ = List.filter channel.mine (journal.sent ++ [_])
      rw [List.filter_append, List.filter_singleton, mine]
      exact sent
  · intro clear fits
    have sum := balances clear fits
    show transmitter.inputBufCksum =
      cksum (payloads (journal.sent ++ [_])) + cksum (Line.waiting _) + _
    rw [empty, payloads, List.flatMap_append, cksum_append, sum, payloads]
    simp [Channel.packet, UInt32.add_assoc]
  · exact fun _ _ => empty

/-- Once its packet has been handed over, a line is sent. -/
theorem send {journal : Journal} {transmitter : Transmitter}
    (keep : scene.Keep journal transmitter) (finished : transmitter.done = true)
    (many : 1 < transmitter.bufIdx.toNat) {packet : List UInt8}
    (same : packet = channel.packet (transmitter.sensor, transmitter.waiting)) :
    ((do
      Bridge.perform (.send packet)
      modify fun transmitter => { transmitter with bufIdx := 1 }
      Bridge.perform .waitPacketSent : SketchM Transmitter Unit) transmitter).Meets
        (recording require) (fun journal transmitter _ => scene.Rests journal transmitter) journal := by
  subst same
  have resting := keep.sent finished many
  exact ⟨keep.permits _, fun _ _ => ⟨resting.1.permits _, fun _ _ => resting⟩⟩

/-- A finished line is sent, and nothing waits behind it. -/
theorem sendLine : Triple (recording require) scene.Keep channel.sendLine fun _ => scene.Rests := by
  refine Triple.get_bind fun known => Triple.ite (fun finished => ?_) fun unfinished => ?_
  · rintro journal transmitter ⟨keep, rfl⟩
    have many : 1 < transmitter.bufIdx.toNat := UInt8.lt_iff_toNat_lt.1 finished.1
    have typed := keep.typed (Nat.le_of_lt many) (channel.msgType transmitter.sensor).code
    refine ⟨keep.permits _, fun _ _ => ⟨typed.permits _, fun _ _ => ⟨typed.permits _, fun _ _ => ?_⟩⟩⟩
    refine ⟨typed.permits _, fun _ _ => ⟨typed.permits _, fun _ _ => ?_⟩⟩
    refine send typed finished.2 many ?_
    have packet := transmitter.upTo_typed (channel.msgType transmitter.sensor).code
      (Nat.le_of_lt many)
    refine packet.trans (congrArg _ ?_)
    unfold Line.waiting
    rw [packet]
    rfl
  · rintro journal transmitter ⟨keep, rfl⟩
    refine ⟨keep, fun _ done => ?_⟩
    rw [Line.waiting_eq_nil_iff]
    exact Nat.le_of_not_lt fun many => unfinished ⟨UInt8.lt_iff_toNat_lt.2 many, done⟩

/-- A transmit half follows its port. -/
theorem forward : Keeps (recording require) scene.Rests channel.forward := by
  refine scene.arrive.bind fun _ => scene.opens.bind fun _ => scene.arrive.bind fun _ => ?_
  refine Triple.get_bind fun known => Triple.bind ?_ fun _ => sendLine
  refine (readCharacters known.unread).pre ?_
  rintro journal transmitter ⟨resting, rfl⟩
  exact ⟨resting.1, rfl⟩

end Scene

end Roam.Bridge
