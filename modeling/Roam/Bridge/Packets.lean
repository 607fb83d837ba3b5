import Roam.Bridge.Delivery

/-!
# Packets of any kind

A receive half names the type of a packet before it looks at anything else.  The
name is looked up at the first byte of the receive buffer, which no test restricts,
and which an empty packet leaves as it was.  Each packet is followed from its
delivery to the checksum, with all that is indexed in between.
-/

namespace Roam.Bridge

open Roam.Data Roam.Interaction

/-- An array that was indexed, with its size. -/
structure Lookup where
  array : ArrayName
  position : Nat
  size : Nat

/-- A packet with what was indexed while it was in hand. -/
structure Handled where
  packet : List UInt8
  lookups : List Lookup := []

namespace Handled

/-- A lookup is inside its array, and a byte of the receive buffer is one that the
packet has written. -/
def Sound (packet : List UInt8) (lookup : Lookup) : Prop :=
  lookup.position < lookup.size ∧
    (lookup.array = .outputBuf → lookup.position < packet.length)

instance (packet : List UInt8) (lookup : Lookup) : Decidable (Sound packet lookup) :=
  inferInstanceAs (Decidable (_ ∧ _))

/-- The sketch survives the packet. -/
def Survived (handled : Handled) : Prop := ∀ lookup ∈ handled.lookups, Sound handled.packet lookup

instance : DecidablePred Survived := fun handled =>
  inferInstanceAs (Decidable (∀ lookup ∈ handled.lookups, Sound handled.packet lookup))

def add (handled : Handled) (lookup : Lookup) : Handled :=
  { handled with lookups := handled.lookups ++ [lookup] }

theorem survived_add (handled : Handled) (lookup : Lookup) :
    (handled.add lookup).Survived ↔ handled.Survived ∧ Sound handled.packet lookup := by
  unfold Survived add
  rw [List.forall_mem_append, List.forall_mem_singleton]

end Handled

/-- The packet starts with the number of a message type. -/
def Named (packet : List UInt8) : Prop := ∃ type ∈ packet.head?, type.toNat < numMsgTypes

instance : DecidablePred Named := fun packet =>
  inferInstanceAs (Decidable (∃ type ∈ packet.head?, type.toNat < numMsgTypes))

/-! ## The packets of a run -/

/-- The packets that have been handled, and the one in hand.  A packet is in hand
from its delivery until it is added to the checksum. -/
structure Register where
  hand : Option Handled := none
  handled : List Handled := []

namespace Register

def observe (register : Register) : (action : Action) → action.Answer → Register
  | .recv _, some packet =>
      { hand := some { packet }, handled := register.handled ++ register.hand.toList }
  | .received _, _ => { hand := none, handled := register.handled ++ register.hand.toList }
  | .index _ array position size, _ =>
      { register with hand := register.hand.map (·.add ⟨array, position, size⟩) }
  | _, _ => register

/-- The packets of a run. -/
def of {State : Type} (trace : List (SketchStep State)) : Register :=
  trace.foldl (fun register step => register.observe step.action step.answer) {}

/-- All packets that have been delivered. -/
def packets (register : Register) : List (List UInt8) :=
  (register.handled ++ register.hand.toList).map Handled.packet

theorem packets_index (register : Register) (lookup : Lookup) :
    packets { register with hand := register.hand.map (·.add lookup) } = register.packets := by
  obtain ⟨_ | held, handled⟩ := register
  · rfl
  · simp [packets, Handled.add]

theorem packets_recv (register : Register) (packet : List UInt8) :
    packets { hand := some { packet }, handled := register.handled ++ register.hand.toList } =
      register.packets ++ [packet] := by
  simp [packets]

/-- The register lists the packets that the journal has heard. -/
theorem packets_of {State : Type} (trace : List (SketchStep State)) :
    (of trace).packets = (Journal.of trace).heard := by
  induction trace using List.reverseRecOn with
  | nil => rfl
  | append_singleton front step ih =>
      obtain ⟨state, action, answer⟩ := step
      rw [of, Journal.of, List.foldl_append, List.foldl_append]
      show ((of front).observe action answer).packets =
        ((Journal.of front).observe action answer).heard
      cases action with
      | recv capacity =>
          cases answer with
          | none => simpa [observe, Journal.observe] using ih
          | some packet => exact (packets_recv _ packet).trans (congrArg (· ++ [packet]) ih)
      | received packet => simpa [observe, Journal.observe, packets] using ih
      | index access array position size =>
          rw [show ((Journal.of front).observe (.index access array position size) answer).heard =
            (Journal.of front).heard from (apply_ite Journal.heard _ _ _).trans (ite_self _), ← ih]
          exact packets_index _ _
      | _ => exact ih

/-- No packet is in hand, and of those that were, the sketch survived the named ones. -/
structure Rests (register : Register) : Prop where
  empty : register.hand = none
  settled : ∀ handled ∈ register.handled, handled.Survived ↔ Named handled.packet

/-- The packet is in hand, and everything hangs on its name. -/
structure Holds (packet : List UInt8) (register : Register) : Prop where
  held : ∃ handled, register.hand = some handled ∧ handled.packet = packet ∧
    (handled.Survived ↔ Named packet)
  settled : ∀ handled ∈ register.handled, handled.Survived ↔ Named handled.packet

variable {register : Register} {packet : List UInt8}

/-- With no packet in hand, nothing but a delivery counts. -/
theorem Rests.observe (rests : register.Rests) {action : Action}
    (silent : ∀ capacity, action ≠ .recv capacity) (answer : action.Answer) :
    (register.observe action answer).Rests := by
  obtain ⟨empty, settled⟩ := rests
  cases action with
  | recv capacity => exact absurd rfl (silent capacity)
  | received packet =>
      refine ⟨rfl, fun handled member => settled handled ?_⟩
      simpa [Register.observe, empty] using member
  | index access array position size => exact ⟨by simp [Register.observe, empty], settled⟩
  | _ => exact ⟨empty, settled⟩

/-- A sound lookup leaves it at the name. -/
theorem Holds.index (holds : register.Holds packet) (access : Access) {lookup : Lookup}
    (sound : Handled.Sound packet lookup) :
    (register.observe (.index access lookup.array lookup.position lookup.size) ()).Holds
      packet := by
  obtain ⟨⟨handled, inHand, rfl, hangs⟩, settled⟩ := holds
  refine ⟨⟨handled.add lookup, ?_, rfl, ?_⟩, settled⟩
  · simp [Register.observe, inHand]
  · rw [Handled.survived_add, and_iff_left sound]
    exact hangs

/-- The packet leaves the hand. -/
theorem Holds.received (holds : register.Holds packet) :
    (register.observe (.received packet) ()).Rests := by
  obtain ⟨⟨handled, inHand, rfl, hangs⟩, settled⟩ := holds
  refine ⟨rfl, ?_⟩
  show ∀ other ∈ register.handled ++ register.hand.toList, _
  rw [inHand]
  exact List.forall_mem_append.2 ⟨settled, List.forall_mem_singleton.2 hangs⟩

end Register

/-- The contract that keeps the register. -/
abbrev registering (State : Type) : Contract State Action Action.Answer Register :=
  Contract.watching fun register _ action answer => register.observe action answer

/-! ## Transmit halves -/

section Transmit

variable {Ghost : Type} {contract : Contract Transmitter Action Action.Answer Ghost}
variable {keep : Ghost → Prop}

/-- Whatever every action of a transmit half keeps, sending a line keeps: it goes out behind
the type of its sensor. -/
theorem Forwarder.sendLine_typed (forwarder : Forwarder) {fine : Sensor → Prop}
    (acts : ∀ action, (∀ capacity, action ≠ .recv capacity) → (∀ packet, action ≠ .send packet) →
      Keeps contract (fun ghost _ => keep ghost) (perform action))
    (sends : ∀ sensor rest, fine sensor → Keeps contract (fun ghost _ => keep ghost)
      (perform (.send ((forwarder.msgType sensor).code :: rest)))) :
    Keeps contract (fun ghost transmitter => keep ghost ∧ fine transmitter.sensor)
      forwarder.sendLine := by
  refine Triple.get_bind fun known => Triple.ite (fun ready => ?_) fun _ =>
    Triple.pure _ fun _ _ => And.left
  rintro ghost transmitter ⟨⟨holds, chosen⟩, rfl⟩
  have started : 1 ≤ transmitter.bufIdx.toNat := (UInt8.lt_iff_toNat_lt.1 ready.1).le
  have packet := transmitter.upTo_typed (forwarder.msgType transmitter.sensor).code started
  have typed := sends transmitter.sensor transmitter.waiting chosen
  rw [← packet] at typed
  have ask : ∀ {action : Action} {ghost : Ghost} {transmitter : Transmitter}
      {resume : action.Answer → Resumption Transmitter Action Action.Answer Unit}
      {good : Ghost → Transmitter → Unit → Prop},
      Keeps contract (fun ghost _ => keep ghost) (perform action) → keep ghost →
      (∀ ghost answer, keep ghost → (resume answer).Meets contract good ghost) →
        (Resumption.ask transmitter action resume).Meets contract good ghost :=
    fun keeps holds rest =>
      ⟨(keeps _ _ holds).1, fun answer allowed => rest _ answer ((keeps _ _ holds).2 answer allowed)⟩
  refine ask (acts _ nofun nofun) holds fun _ _ holds => ?_
  refine ask (acts _ nofun nofun) holds fun _ _ holds => ?_
  refine ask (acts _ nofun nofun) holds fun _ _ holds => ?_
  refine ask (acts _ nofun nofun) holds fun _ _ holds => ?_
  refine ask (acts _ nofun nofun) holds fun _ _ holds => ?_
  refine ask typed holds fun _ _ holds => ?_
  exact ask (acts _ nofun nofun) holds fun _ _ holds => ⟨holds, chosen⟩

/-- Whatever every action of a transmit half keeps.  What it sends is a line behind the type
of a sensor, one of those that were selected. -/
theorem Forwarder.forward_typed (forwarder : Forwarder) {fine : Sensor → Prop}
    (selects : ∀ inputChar sensor, forwarder.switch inputChar = .selects sensor → fine sensor)
    (acts : ∀ action, (∀ capacity, action ≠ .recv capacity) → (∀ packet, action ≠ .send packet) →
      Keeps contract (fun ghost _ => keep ghost) (perform action))
    (sends : ∀ sensor rest, fine sensor → Keeps contract (fun ghost _ => keep ghost)
      (perform (.send ((forwarder.msgType sensor).code :: rest)))) :
    Keeps contract (fun ghost transmitter => keep ghost ∧ fine transmitter.sensor)
      forwarder.forward := by
  have act : ∀ {action : Action} {value : Transmitter → Prop},
      Keeps contract (fun ghost _ => keep ghost) (perform action) →
      Keeps contract (fun ghost transmitter => keep ghost ∧ value transmitter) (perform action) :=
    fun keeps ghost transmitter ⟨holds, known⟩ =>
      ⟨(keeps ghost transmitter holds).1, fun answer allowed =>
        ⟨(keeps ghost transmitter holds).2 answer allowed, known⟩⟩
  have writes : ∀ {change : Transmitter → Transmitter},
      (∀ transmitter, fine transmitter.sensor → fine (change transmitter).sensor) →
      Keeps contract (fun ghost transmitter => keep ghost ∧ fine transmitter.sensor)
        (modify change) :=
    fun stays => Keeps.update fun _ _ ⟨holds, chosen⟩ => ⟨holds, stays _ chosen⟩
  have arrives : Keeps contract (fun ghost transmitter => keep ghost ∧ fine transmitter.sensor)
      forwarder.arrive :=
    Keeps.bind (act (acts _ nofun nofun)) fun _ => writes fun _ => id
  have opens : Keeps contract (fun ghost transmitter => keep ghost ∧ fine transmitter.sensor)
      (modify fun transmitter =>
        if transmitter.unread = [] then transmitter else { transmitter with done := false }) := by
    refine writes fun transmitter chosen => ?_
    split <;> exact chosen
  have reads : ∀ inputChar, Keeps contract
      (fun ghost transmitter => keep ghost ∧ fine transmitter.sensor)
      (forwarder.readCharacter inputChar) := by
    intro inputChar
    unfold Forwarder.readCharacter
    cases stroke : forwarder.switch inputChar with
    | ends => exact writes fun _ => id
    | skips => exact Keeps.pure ()
    | selects sensor => exact writes fun _ _ => selects inputChar sensor stroke
    | keeps byte =>
        refine Keeps.get_bind fun _ => Keeps.bind (act (acts _ nofun nofun)) fun _ => ?_
        exact writes fun _ => id
  have loops : ∀ characters, Keeps contract
      (fun ghost transmitter => keep ghost ∧ fine transmitter.sensor)
      (forwarder.readCharacters characters) := by
    intro characters
    induction characters with
    | nil => exact Keeps.pure ()
    | cons inputChar rest ih =>
        refine Keeps.get_bind fun _ => Keeps.ite ?_ (Keeps.pure ())
        refine Keeps.bind (act (acts _ nofun nofun)) fun _ => Keeps.bind (writes fun _ => id) fun _ => ?_
        exact (reads inputChar).bind fun _ => ih
  refine arrives.bind fun _ => opens.bind fun _ => ?_
  exact arrives.bind fun _ => Keeps.get_bind fun _ => (loops _).bind fun _ =>
    forwarder.sendLine_typed acts sends

/-- Whatever every action other than a reception keeps, a transmit half keeps. -/
theorem Forwarder.forward_keeps (forwarder : Forwarder)
    (acts : ∀ action, (∀ capacity, action ≠ .recv capacity) →
      Keeps contract (fun ghost _ => keep ghost) (perform action)) :
    Keeps contract (fun ghost _ => keep ghost) forwarder.forward :=
  (forwarder.forward_typed (fun _ _ _ => trivial) (fun action delivers _ => acts action delivers)
    fun _ _ _ => acts _ nofun).weaken (fun _ _ holds => ⟨holds, trivial⟩) fun _ _ _ => And.left

end Transmit

/-! ## Receive halves -/

section Receive

variable {State : Type} {whole : Receiver → State}

/-- The bytes behind the type byte belong to the packet. -/
theorem sound_of_mem_positions {receiver : Receiver} {packet : List UInt8} {position : Nat}
    (member : position ∈ (receiver.load packet).positions) :
    Handled.Sound packet ⟨.outputBuf, position, maxMessageLen⟩ := by
  have length : (receiver.load packet).outputBufLen.toNat =
      min receiver.outputBufLen.toNat packet.length := by
    have fits : (packet.take receiver.outputBufLen.toNat).length < 256 :=
      (List.length_take_le _ _).trans_lt receiver.outputBufLen.toNat_lt
    rw [← List.length_take]
    exact UInt8.toNat_ofNat_of_lt' fits
  obtain ⟨_, behind⟩ := List.mem_range'_1.1 member
  have capacity := receiver.outputBufLen.toNat_lt
  rw [length] at behind
  refine ⟨?_, fun _ => ?_⟩
  · show position < 255
    omega
  · show position < packet.length
    omega

/-- The packet is in hand, and in the receive buffer. -/
def InHand (receiver : Receiver) (packet : List UInt8) (register : Register)
    (loaded : Receiver) : Prop :=
  register.Holds packet ∧ loaded = receiver.load packet

/-- A byte behind the type byte is read. -/
theorem index_inHand (receiver : Receiver) (packet : List UInt8) {i : Nat}
    (member : i ∈ (receiver.load packet).positions) :
    Keeps ((registering State).along whole) (InHand receiver packet)
      (perform (.index .read .outputBuf i maxMessageLen)) := by
  rintro register loaded ⟨holds, same⟩
  exact ⟨trivial, fun _ _ => ⟨holds.index .read (sound_of_mem_positions member), same⟩⟩

theorem printPayload_inHand (receiver : Receiver) (packet : List UInt8) (outlets : List Port) :
    Keeps ((registering State).along whole) (InHand receiver packet) (printPayload outlets) := by
  rintro register _ ⟨holds, rfl⟩
  have prints : Keeps ((registering State).along whole) (InHand receiver packet)
      ((receiver.load packet).positions.forM fun i => outlets.forM fun port => do
        perform (.index .read .outputBuf i maxMessageLen)
        perform (.print port ((receiver.load packet).outputBuf.get i)) :
          SketchM Receiver Unit) := by
    refine Keeps.forM_mem fun i member => Keeps.forM (fun port => ?_) outlets
    exact (index_inHand receiver packet member).bind fun _ _ _ inHand =>
      ⟨trivial, fun _ _ => inHand⟩
  exact prints register _ ⟨holds, rfl⟩

/-- The packet is added to the checksum. -/
theorem addPayload_rests (receiver : Receiver) (packet : List UInt8) :
    Triple ((registering State).along whole) (InHand receiver packet) (addPayload packet)
      fun _ register _ => register.Rests := by
  rintro register _ ⟨holds, rfl⟩
  have reads : Keeps ((registering State).along whole) (InHand receiver packet)
      ((receiver.load packet).positions.forM fun i =>
        perform (.index .read .outputBuf i maxMessageLen) : SketchM Receiver Unit) :=
    Keeps.forM_mem fun i member => index_inHand receiver packet member
  refine Resumption.Meets.bind_iff.2 (Resumption.Meets.bind_iff.2 ?_)
  refine (reads register _ ⟨holds, rfl⟩).mono ?_
  rintro register _ _ ⟨holds, rfl⟩
  exact ⟨trivial, fun _ _ => holds.received⟩

/-- The first byte of an empty packet is an old one. -/
theorem Handled.survived_iff {receiver : Receiver} (ready : receiver.outputBufLen = 255)
    (packet : List UInt8) :
    Handled.Survived { packet, lookups := [⟨.outputBuf, 0, maxMessageLen⟩,
      ⟨.msgTypeNames, ((receiver.load packet).outputBuf.get 0).toNat, numMsgTypes⟩,
      ⟨.outputBuf, 0, maxMessageLen⟩, ⟨.outputBuf, 0, maxMessageLen⟩] } ↔ Named packet := by
  cases packet with
  | nil =>
      refine iff_of_false (fun survived => ?_) nofun
      exact absurd ((survived _ List.mem_cons_self).2 rfl) (Nat.lt_irrefl 0)
  | cons type rest =>
      rw [Receiver.type_load rfl ready]
      simp [Survived, Sound, Named, maxMessageLen]

/-- A packet that was delivered leaves the hand again. -/
theorem handlePacket_rests {register : Register} {receiver : Receiver} (rests : register.Rests)
    (ready : receiver.outputBufLen = 255) (outlets : UInt8 → List Port) (packet : List UInt8) :
    (handlePacket outlets packet receiver).Meets ((registering State).along whole)
      (fun register receiver _ => register.Rests ∧ receiver.outputBufLen = 255)
      (register.observe (.recv receiver.outputBufLen) (some packet)) := by
  refine ⟨trivial, fun _ _ => ⟨trivial, fun _ _ => ⟨trivial, fun _ _ => ⟨trivial, fun _ _ => ?_⟩⟩⟩⟩
  have settled : ∀ handled ∈ register.handled ++ register.hand.toList,
      handled.Survived ↔ Named handled.packet := by
    rw [rests.empty]
    exact List.forall_mem_append.2 ⟨rests.settled, nofun⟩
  have hangs := Handled.survived_iff ready packet
  show ((do
    printPayload (outlets ((receiver.load packet).outputBuf.get 0))
    addPayload packet
    modify fun receiver => { receiver with outputBufLen := 255 } : SketchM Receiver Unit)
      (receiver.load packet)).Meets ((registering State).along whole) _ _
  refine Resumption.Meets.bind_iff.2 ((printPayload_inHand receiver packet _ _ _ ?_).mono ?_)
  · exact ⟨⟨⟨_, rfl, rfl, hangs⟩, settled⟩, rfl⟩
  intro register loaded _ inHand
  refine Resumption.Meets.bind_iff.2 ((addPayload_rests receiver packet _ _ inHand).mono ?_)
  intro register loaded _ rests
  exact ⟨rests, rfl⟩

theorem receive_rests (outlets : UInt8 → List Port) :
    Keeps ((registering State).along whole)
      (fun register receiver => register.Rests ∧ receiver.outputBufLen = 255)
      (receive outlets) := by
  rintro register receiver ⟨rests, ready⟩
  refine ⟨trivial, fun packet? _ => ?_⟩
  cases packet? with
  | none => exact ⟨rests, ready⟩
  | some packet => exact handlePacket_rests rests ready outlets packet

end Receive

/-! ## Both sketches -/

/-- Between two halves no packet is in hand, and the receive buffer is ready. -/
abbrev Awaits {State : Type} (receiver : State → Receiver) (register : Register) (state : State) :
    Prop :=
  register.Rests ∧ (receiver state).outputBufLen = 255

/-- A transmit half has nothing to do with the receiver. -/
theorem forward_awaits {State : Type} {receiver : State → Receiver} {part : State → Transmitter}
    {update : Transmitter → State → State} (same : ∀ state, update (part state) state = state)
    (apart : ∀ transmitter state, receiver (update transmitter state) = receiver state)
    (forwarder : Forwarder) :
    Keeps (registering State) (Awaits receiver) (forwarder.forward.focus part update) := by
  refine Triple.focus same fun state => ?_
  have acts : ∀ action : Action, (∀ capacity, action ≠ .recv capacity) →
      Keeps ((registering State).along fun changed => update changed state)
        (fun register _ => register.Rests ∧ (receiver state).outputBufLen = 255)
        (perform action) :=
    fun _ silent _ _ start => ⟨trivial, fun answer _ => ⟨start.1.observe silent answer, start.2⟩⟩
  refine (forwarder.forward_keeps acts).weaken ?_ ?_
  · rintro register transmitter ⟨rests, ready⟩
    exact ⟨rests, apart transmitter state ▸ ready⟩
  · rintro _ register transmitter ⟨rests, ready⟩
    exact ⟨rests, (apart transmitter state).symm ▸ ready⟩

theorem Register.rests_start : Register.Rests {} := ⟨rfl, nofun⟩

namespace Base

theorem loops_awaits (iterations : Nat) :
    Keeps (registering Base) (Awaits receiver) (loops iterations) := by
  have forwards : Keeps (registering Base) (Awaits receiver) (forwarder.forward.focus transmitter
      fun transmitter base => { base with transmitter := transmitter }) := by
    refine forward_awaits ?_ ?_ forwarder
    · exact fun _ => rfl
    · exact fun _ _ => rfl
  have receives : Keeps (registering Base) (Awaits receiver)
      ((receive outlets).focus receiver
        fun receiver base => { base with receiver := receiver }) :=
    Triple.focus (fun _ => rfl) fun base => receive_rests outlets
  induction iterations with
  | zero => exact Keeps.pure ()
  | succ iterations ih =>
      exact Keeps.bind (Keeps.bind forwards fun _ => receives) fun _ => ih

end Base

namespace Endpoint

theorem blinkLed_awaits : Keeps (registering Endpoint) (Awaits receiver) blinkLed := by
  have acts : ∀ action : Action, (∀ capacity, action ≠ .recv capacity) →
      Keeps (registering Endpoint) (Awaits receiver) (perform action) :=
    fun _ silent _ _ start => ⟨trivial, fun answer _ => ⟨start.1.observe silent answer, start.2⟩⟩
  refine Keeps.bind (acts .millis nofun) fun now => Keeps.get_bind fun _ => ?_
  refine Keeps.ite ?_ (Keeps.pure ())
  refine Keeps.get_bind fun _ => Keeps.bind (acts _ nofun) fun _ => ?_
  refine Keeps.bind (Keeps.update fun _ _ => id) fun _ => ?_
  exact Keeps.bind (acts .millis nofun) fun now => Keeps.update fun _ _ => id

theorem loops_awaits (iterations : Nat) :
    Keeps (registering Endpoint) (Awaits receiver) (loops iterations) := by
  have seaphox : Keeps (registering Endpoint) (Awaits receiver) forwardSeaphox := by
    unfold forwardSeaphox
    refine forward_awaits ?_ ?_ _
    · exact fun _ => rfl
    · exact fun _ _ => rfl
  have procv : Keeps (registering Endpoint) (Awaits receiver) forwardProcv := by
    unfold forwardProcv
    refine forward_awaits ?_ ?_ _
    · exact fun _ => rfl
    · exact fun _ _ => rfl
  have receives : Keeps (registering Endpoint) (Awaits receiver)
      ((receive outlets).focus receiver
        fun receiver endpoint => { endpoint with receiver := receiver }) :=
    Triple.focus (fun _ => rfl) fun endpoint => receive_rests outlets
  induction iterations with
  | zero => exact Keeps.pure ()
  | succ iterations ih =>
      refine Keeps.bind (Keeps.bind blinkLed_awaits fun _ => ?_) fun _ => ih
      exact seaphox.bind fun _ => procv.bind fun _ => receives

end Endpoint

/-- Of the packets a run has handled, which are those it has heard, the sketch survived
the named ones. -/
theorem packets_survived {State : Type} {receiver : State → Receiver}
    {program : SketchM State Unit} (keeps : Keeps (registering State) (Awaits receiver) program)
    {start final : State} (ready : (receiver start).outputBufLen = 255)
    {trace : List (SketchStep State)}
    (run : Resumption.Runs (program start) trace (.done final ())) :
    (Register.of trace).handled.map Handled.packet = (Journal.of trace).heard ∧
      ∀ handled ∈ (Register.of trace).handled, handled.Survived ↔ Named handled.packet := by
  obtain ⟨⟨empty, settled⟩, _⟩ := (keeps {} start ⟨Register.rests_start, ready⟩).runs run
    (Contract.watching_allows _ _)
  have nothing : (Register.of trace).hand = none := empty
  refine ⟨?_, settled⟩
  rw [← Register.packets_of, Register.packets, nothing]
  exact congrArg (List.map Handled.packet) (List.append_nil _).symm

/-- A sketch survives the packets that start with the number of a message type, and no
others. -/
theorem survives_iff_named {first second : Nat} {baseTrace : List (SketchStep Base)}
    {endpointTrace : List (SketchStep Endpoint)} {base : Base} {endpoint : Endpoint}
    (baseRun : Resumption.Runs (Base.loops first {}) baseTrace (.done base ()))
    (endpointRun : Resumption.Runs (Endpoint.loops second {}) endpointTrace
      (.done endpoint ())) :
    ((Register.of baseTrace).handled.map Handled.packet = (Journal.of baseTrace).heard ∧
      ∀ handled ∈ (Register.of baseTrace).handled, handled.Survived ↔ Named handled.packet) ∧
    ((Register.of endpointTrace).handled.map Handled.packet = (Journal.of endpointTrace).heard ∧
      ∀ handled ∈ (Register.of endpointTrace).handled,
        handled.Survived ↔ Named handled.packet) :=
  ⟨packets_survived (Base.loops_awaits first) rfl baseRun,
    packets_survived (Endpoint.loops_awaits second) rfl endpointRun⟩

/-- One iteration of the base in which every look at the radio finds the packet. -/
def hearing (packet : List UInt8) : List (SketchStep Base) × Base × Unit :=
  Surroundings.run { packets := fun _ => some packet } (Base.loops 1) {}

/-- One iteration of the endpoint in which every look at the radio finds the packet. -/
def sensing (packet : List UInt8) : List (SketchStep Endpoint) × Endpoint × Unit :=
  Surroundings.run { packets := fun _ => some packet } (Endpoint.loops 1) {}

theorem hearing_runs (packet : List UInt8) : Resumption.Runs (Base.loops 1 {}) (hearing packet).1
    (.done (hearing packet).2.1 ()) :=
  Surroundings.run_runs _ _ _

theorem sensing_runs (packet : List UInt8) :
    Resumption.Runs (Endpoint.loops 1 {}) (sensing packet).1 (.done (sensing packet).2.1 ()) :=
  Surroundings.run_runs _ _ _

/-- A reading that the base prints, and a request for the proCV. -/
theorem survives_iff_named_reading :
    (Journal.of (hearing [10, 55, 46]).1).heard = [[10, 55, 46]] ∧
      (Journal.of (sensing [9, 33]).1).heard = [[9, 33]] ∧
      (∀ handled ∈ (Register.of (hearing [10, 55, 46]).1).handled, handled.Survived) ∧
      ∀ handled ∈ (Register.of (sensing [9, 33]).1).handled, handled.Survived := by
  have near : (Journal.of (hearing [10, 55, 46]).1).heard = [[10, 55, 46]] := by decide +kernel
  have far : (Journal.of (sensing [9, 33]).1).heard = [[9, 33]] := by decide +kernel
  obtain ⟨⟨nearPackets, nearIff⟩, farPackets, farIff⟩ :=
    survives_iff_named (hearing_runs [10, 55, 46]) (sensing_runs [9, 33])
  rw [near] at nearPackets
  rw [far] at farPackets
  have nearNamed : ∀ packet ∈ (Register.of (hearing [10, 55, 46]).1).handled.map Handled.packet,
      Named packet := by
    rw [nearPackets]
    decide
  have farNamed : ∀ packet ∈ (Register.of (sensing [9, 33]).1).handled.map Handled.packet,
      Named packet := by
    rw [farPackets]
    decide
  rw [List.forall_mem_map] at nearNamed farNamed
  exact ⟨near, far, fun handled member => (nearIff handled member).2 (nearNamed handled member),
    fun handled member => (farIff handled member).2 (farNamed handled member)⟩

/-- A packet of another network with a first byte that is no message type, and an empty
packet. -/
theorem stray_packets_break :
    ¬ ((∀ (iterations : Nat) (trace : List (SketchStep Base)) (base : Base),
        Resumption.Runs (Base.loops iterations {}) trace (.done base ()) →
          ∀ handled ∈ (Register.of trace).handled, handled.Survived) ∨
      ∀ (iterations : Nat) (trace : List (SketchStep Endpoint)) (endpoint : Endpoint),
        Resumption.Runs (Endpoint.loops iterations {}) trace (.done endpoint ()) →
          ∀ handled ∈ (Register.of trace).handled, handled.Survived) := by
  rintro (always | always)
  · have survived := always 1 _ _ (hearing_runs [200])
    exact absurd survived (by decide +kernel)
  · have survived := always 1 _ _ (sensing_runs [])
    exact absurd survived (by decide +kernel)

end Roam.Bridge
