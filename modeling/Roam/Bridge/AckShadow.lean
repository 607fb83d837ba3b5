import Roam.Bridge.Acknowledged

/-!
# The default build in the shadow of acknowledgements

Both halves of the build with acknowledgements cast those of the default build: every
step of the default build is there, in states that differ in the checksums only, and
all other steps have to do with acknowledgements.
-/

namespace Roam.Bridge

open Roam.Data Roam.Interaction

/-! ## Transmit halves -/

namespace Transmitter

/-- The checksum is ahead by so much. -/
def ahead (more : UInt32) (transmitter : Transmitter) : Transmitter :=
  { transmitter with inputBufCksum := transmitter.inputBufCksum + more }

theorem ahead_push (more : UInt32) (transmitter : Transmitter) (byte : UInt8) :
    (transmitter.ahead more).push byte = (transmitter.push byte).ahead more := by
  unfold ahead push
  simp only [UInt32.add_assoc, UInt32.add_comm more]

end Transmitter

/-- The packet of a line is no acknowledgement. -/
theorem typed_packet {forwarder : Forwarder} (own : ∀ sensor, forwarder.msgType sensor ≠ .ack)
    (transmitter : Transmitter) (many : 1 < transmitter.bufIdx) :
    let packet := (transmitter.buf.set 0 (forwarder.msgType transmitter.sensor).code).upTo
      transmitter.bufIdx.toNat
    packet ≠ [] ∧ isAck packet = false := by
  have started : 1 < transmitter.bufIdx.toNat := UInt8.lt_iff_toNat_lt.1 many
  have packet := transmitter.upTo_typed (forwarder.msgType transmitter.sensor).code
    (Nat.le_of_lt started)
  rw [packet]
  constructor
  · exact List.cons_ne_nil _ _
  · refine decide_eq_false fun same => own transmitter.sensor ?_
    have code : (forwarder.msgType transmitter.sensor).code = MsgType.ack.code :=
      Option.some.inj same
    generalize forwarder.msgType transmitter.sensor = type at code
    cases type <;> first | rfl | cases code

section Transmit

variable {relates : Ledger → Transmitter → Transmitter → Prop} {ledger : Ledger} {more : UInt32}

/-- A program takes the same steps, and ends the same way, if the checksum is ahead. -/
abbrev Moves {Value : Type} (relates : Ledger → Transmitter → Transmitter → Prop)
    (ledger : Ledger) (more : UInt32) (program : SketchM Transmitter Value) : Prop :=
  (ackShade relates).Matches ledger (fun big small => big = small.ahead more) program program

theorem Moves.change {change : Transmitter → Transmitter}
    (commutes : ∀ transmitter : Transmitter,
      change (transmitter.ahead more) = (change transmitter).ahead more) :
    Moves relates ledger more (modify change) :=
  Shade.Matches.update fun _ transmitter same => same ▸ commutes transmitter

variable (permit : ∀ transmitter : Transmitter, relates ledger (transmitter.ahead more) transmitter)

include permit

/-- An action that has nothing to do with packets. -/
theorem moves_plain {action : Action} (shown : (ackShade relates).shows action)
    (reply : ∀ answer, (ackShade relates).reply action answer = answer)
    (still : ∀ answer, ledger.observe action answer = ledger) :
    Moves relates ledger more (perform action) :=
  Shade.Matches.ask shown (fun _ small same => same ▸ permit small) reply still

theorem moves_arrive (forwarder : Forwarder) : Moves relates ledger more forwarder.arrive :=
  Shade.Matches.bind (moves_plain permit trivial (fun _ => rfl) fun _ => rfl) fun _ =>
    Moves.change fun _ => rfl

theorem moves_readCharacter (forwarder : Forwarder) (inputChar : UInt8) :
    Moves relates ledger more (forwarder.readCharacter inputChar) := by
  unfold Forwarder.readCharacter
  cases forwarder.switch inputChar with
  | ends => exact Moves.change fun _ => rfl
  | skips => exact Shade.Matches.pure ()
  | selects sensor => exact Moves.change fun _ => rfl
  | keeps byte =>
      apply Shade.Matches.get_bind
      rintro _ known rfl
      refine Shade.Matches.bind (moves_plain permit trivial (fun _ => rfl) fun _ => rfl) fun _ => ?_
      exact Moves.change fun transmitter => Transmitter.ahead_push more transmitter byte

theorem moves_readCharacters (forwarder : Forwarder) (characters : List UInt8) :
    Moves relates ledger more (forwarder.readCharacters characters) := by
  induction characters with
  | nil => exact Shade.Matches.pure ()
  | cons inputChar rest ih =>
      have goes : Moves relates ledger more (do
          perform (.read forwarder.port inputChar)
          modify fun transmitter => { transmitter with unread := rest }
          forwarder.readCharacter inputChar
          forwarder.readCharacters rest) := by
        refine Shade.Matches.bind (moves_plain permit trivial (fun _ => rfl) fun _ => rfl) fun _ => ?_
        refine Shade.Matches.bind (Moves.change fun _ => rfl) fun _ => ?_
        exact (moves_readCharacter permit forwarder inputChar).bind fun _ => ih
      rintro _ transmitter rfl
      exact .ite_at (fun _ => goes _ transmitter rfl) fun _ => .done ⟨rfl, rfl, rfl⟩

theorem moves_sendLine {forwarder : Forwarder}
    (own : ∀ sensor, forwarder.msgType sensor ≠ .ack) :
    Moves relates ledger more forwarder.sendLine := by
  rintro _ transmitter rfl
  refine .ite_at (fun finished => ?_) fun _ => .done ⟨rfl, rfl, rfl⟩
  have packet := typed_packet own transmitter finished.1
  have plain : ledger.observe (.send ((transmitter.buf.set 0
      (forwarder.msgType transmitter.sensor).code).upTo transmitter.bufIdx.toNat)) () = ledger := by
    rw [Ledger.observe, packet.2]
    rfl
  let typed : Transmitter := { transmitter with
    buf := transmitter.buf.set 0 (forwarder.msgType transmitter.sensor).code }
  refine .both trivial (permit transmitter) fun _ _ => .both trivial (permit typed) fun _ _ => ?_
  refine .both trivial (permit typed) fun _ _ => .both trivial (permit typed) fun _ _ => ?_
  refine .both trivial (permit typed) fun _ _ => .both packet (permit typed) fun _ _ => ?_
  change (ackShade relates).together.Casts _ (ledger.observe (.send ((transmitter.buf.set 0
    (forwarder.msgType transmitter.sensor).code).upTo transmitter.bufIdx.toNat)) ()) _ _
  rw [plain]
  exact .both trivial (permit { typed with bufIdx := 1 }) fun _ _ => .done ⟨rfl, rfl, rfl⟩

/-- A transmit half takes the same steps, however far the checksum is ahead. -/
theorem moves_forward {forwarder : Forwarder}
    (own : ∀ sensor, forwarder.msgType sensor ≠ .ack) :
    Moves relates ledger more forwarder.forward := by
  have opens : Moves relates ledger more (modify fun transmitter =>
      if transmitter.unread = [] then transmitter else { transmitter with done := false }) := by
    apply Moves.change
    intro transmitter
    unfold Transmitter.ahead
    dsimp only
    split <;> rfl
  refine (moves_arrive permit forwarder).bind fun _ => opens.bind fun _ => ?_
  refine (moves_arrive permit forwarder).bind fun _ => Shade.Matches.get_bind ?_
  rintro _ known rfl
  exact (moves_readCharacters permit forwarder _).bind fun _ => moves_sendLine permit own

end Transmit

/-! ## A packet that is no acknowledgement -/

/-- The same packet of the given type is in the receive buffer, and the checksum is ahead. -/
structure Likewise (more : UInt32) (type : UInt8) (big small : Receiver) : Prop where
  positions : big.positions = small.positions
  cells : ∀ i ∈ small.positions, big.outputBuf.get i = small.outputBuf.get i
  bigType : big.outputBuf.get 0 = type
  smallType : small.outputBuf.get 0 = type
  ahead : big.outputBufCksum = small.outputBufCksum + more

theorem Likewise.payload {more : UInt32} {type : UInt8} {big small : Receiver}
    (same : Likewise more type big small) :
    big.payload = small.payload := by
  unfold Receiver.payload
  rw [same.positions]
  exact List.map_congr_left same.cells

section Handle

variable {relates : Ledger → Receiver → Receiver → Prop} {ledger : Ledger} {more : UInt32}
variable {type : UInt8} (permit : ∀ big small : Receiver, big.outputBufCksum = small.outputBufCksum + more →
  relates ledger big small)

include permit

theorem matches_mark (array : ArrayName) (position size : Nat) :
    (ackShade relates).Matches ledger (Likewise more type)
      (perform (.index .read array position size)) (perform (.index .read array position size)) :=
  Shade.Matches.ask trivial (fun _ _ same => permit _ _ same.ahead) (fun _ => rfl) fun _ => rfl

theorem matches_printPayload (outlets : List Port) :
    (ackShade relates).Matches ledger (Likewise more type) (printPayload outlets)
      (printPayload outlets) := by
  refine Shade.Matches.get_bind fun known seen same => ?_
  rw [same.positions]
  refine Shade.Matches.forM fun i member => Shade.Matches.forM fun port _ => ?_
  rw [same.cells i member]
  refine Shade.Matches.bind (matches_mark permit _ _ _) fun _ => ?_
  exact Shade.Matches.ask trivial (fun _ _ same => permit _ _ same.ahead) (fun _ => rfl)
    fun _ => rfl

theorem matches_printPacket (other : type ≠ MsgType.ack.code) (outlets : UInt8 → List Port) :
    (ackShade relates).Matches ledger (Likewise more type) (printPacket outlets)
      (do printPayload (outlets ((← get).outputBuf.get 0))) := by
  refine Shade.Matches.get_bind fun known seen same => ?_
  dsimp only
  rw [same.bigType, same.smallType, if_neg other]
  exact matches_printPayload permit _

theorem matches_addPayload {packet : List UInt8} (plain : isAck packet = false) :
    (ackShade relates).Matches ledger (Likewise more type) (addPayload packet) (addPayload packet) := by
  refine Shade.Matches.get_bind fun known seen same => ?_
  rw [same.positions]
  refine Shade.Matches.bind (Shade.Matches.forM fun i _ => matches_mark permit _ _ _) fun _ => ?_
  refine Shade.Matches.bind ?_ fun _ => Shade.Matches.update fun big small same => ?_
  · refine Shade.Matches.ask plain (fun _ _ same => permit _ _ same.ahead) (fun _ => rfl) ?_
    intro _
    show (if isAck packet then _ else ledger) = ledger
    rw [plain]
    rfl
  · refine ⟨same.positions, same.cells, same.bigType, same.smallType, ?_⟩
    show big.outputBufCksum + cksum big.payload = small.outputBufCksum + cksum small.payload + more
    rw [same.payload, same.ahead, UInt32.add_assoc, UInt32.add_assoc, UInt32.add_comm more]

/-- A packet that is no acknowledgement is handled as in the default build. -/
theorem handlePacket_casts {packet : List UInt8} (some : packet ≠ []) (plain : isAck packet = false)
    (outlets : UInt8 → List Port) {big small : Receiver} (ready : big.outputBufLen = 255)
    (plainReady : small.outputBufLen = 255)
    (ahead : big.outputBufCksum = small.outputBufCksum + more) :
    (ackShade relates).together.Casts
      (fun reached big _ small _ => reached = ledger ∧ big.outputBufLen = 255 ∧
        small.outputBufLen = 255 ∧ big.outputBuf.get 0 = packet.headD 0 ∧
        big.outputBuf.get 0 ≠ MsgType.ack.code ∧
        big.outputBufCksum = small.outputBufCksum + more)
      ledger (handlePacketOrAck outlets packet big) (handlePacket outlets packet small) := by
  obtain ⟨byte, rest, rfl⟩ := List.exists_cons_of_ne_nil some
  have first : (big.load (byte :: rest)).outputBuf.get 0 = byte := Receiver.type_load rfl ready
  have second : (small.load (byte :: rest)).outputBuf.get 0 = byte :=
    Receiver.type_load rfl plainReady
  have other : byte ≠ MsgType.ack.code := fun same =>
    of_decide_eq_false plain (congrArg Option.some same)
  have positions : (big.load (byte :: rest)).positions = (small.load (byte :: rest)).positions := by
    unfold Receiver.positions Receiver.load
    rw [ready, plainReady]
  have loaded : Likewise more byte (big.load (byte :: rest)) (small.load (byte :: rest)) := by
    refine ⟨positions, ?_, first, second, ahead⟩
    have payload := (Receiver.payload_load (byte :: rest) ready).trans
      (Receiver.payload_load (byte :: rest) plainReady).symm
    unfold Receiver.payload at payload
    rw [positions] at payload
    exact List.map_inj_left.1 payload
  refine Shade.Matches.andThen (matches_mark permit _ _ _) (fun _ known seen same => ?_) loaded
  have named : (ackShade relates).Matches ledger (Likewise more byte)
      (perform (.index .read .msgTypeNames (known.outputBuf.get 0).toNat numMsgTypes))
      (perform (.index .read .msgTypeNames (seen.outputBuf.get 0).toNat numMsgTypes)) := by
    rw [same.bigType, same.smallType]
    exact matches_mark permit _ _ _
  refine Shade.Matches.andThen named (fun _ _ _ same => ?_) same
  refine Shade.Matches.andThen (matches_mark permit _ _ _) (fun _ _ _ same => ?_) same
  refine Shade.Matches.andThen (matches_mark permit _ _ _) (fun _ _ _ same => ?_) same
  have printed : (ackShade relates).Matches ledger (Likewise more byte) (printPacket outlets)
      (do printPayload (outlets ((← get).outputBuf.get 0))) :=
    matches_printPacket permit other outlets
  refine Shade.Matches.andThen printed (fun _ _ _ same => ?_) same
  refine Shade.Matches.andThen (matches_addPayload permit plain) (fun _ _ _ same => ?_) same
  exact .done ⟨rfl, rfl, rfl, same.bigType, same.bigType.trans_ne other, same.ahead⟩

end Handle

/-! ## Receive halves -/

/-- Between two receive halves the checksums are ahead by the acknowledgements, and all of
them have been sent. -/
structure Level (light : UInt32) (ledger : Ledger) (acknowledger : Acknowledger)
    (receiver : Receiver) : Prop where
  ready : acknowledger.receiver.outputBufLen = 255
  plainReady : receiver.outputBufLen = 255
  ackBuf : ∃ type, acknowledger.ackBuf = [MsgType.ack.code, type]
  typed : acknowledger.inputBufCksum = light + cksum (payloads ledger.acks)
  counted : acknowledger.receiver.outputBufCksum =
    receiver.outputBufCksum + cksum (ledger.counted.flatMap heardPayload)
  known : ledger.counted = ledger.heard
  owes : ledger.Owes []

theorem Level.exceeds {light : UInt32} {ledger : Ledger} {acknowledger : Acknowledger}
    {receiver : Receiver} (level : Level light ledger acknowledger receiver) :
    ledger.Exceeds acknowledger.inputBufCksum acknowledger.receiver.outputBufCksum light
      receiver.outputBufCksum :=
  ⟨level.typed, level.counted, level.known ▸ List.prefix_refl _, [], level.owes, Nat.zero_le 1⟩

section Receive

variable {relates : Ledger → Acknowledger → Receiver → Prop} {light : UInt32}
variable (permit : ∀ ledger acknowledger receiver,
  ledger.Exceeds acknowledger.inputBufCksum acknowledger.receiver.outputBufCksum light
    receiver.outputBufCksum → relates ledger acknowledger receiver)

include permit

/-- The ledger and the receiver are these. -/
abbrev Held (ledger : Ledger) (loaded : Receiver) (reached : Ledger) (after : Receiver) : Prop :=
  reached = ledger ∧ after = loaded

/-- The contract of code that handles an acknowledgement: nothing of it falls into the
shadow of a receive half that has ended. -/
abbrev unseenBy (relates : Ledger → Acknowledger → Receiver → Prop) (acknowledger : Acknowledger)
    (receiver : Receiver) : Contract Receiver Action Action.Answer Ledger :=
  ((ackShade relates).unseen receiver).along fun receiver =>
    { acknowledger with receiver := receiver }

section Unseen

variable {ledger : Ledger} {acknowledger : Acknowledger} {receiver loaded : Receiver}

omit permit

/-- Nothing of a read needs to fall into the shadow. -/
theorem mark_unseen (free : relates ledger { acknowledger with receiver := loaded } receiver)
    (array : ArrayName) (position size : Nat) :
    Keeps (unseenBy relates acknowledger receiver) (Held ledger loaded)
      (perform (.index .read array position size)) := by
  rintro _ _ ⟨rfl, rfl⟩
  exact ⟨⟨rfl, free⟩, fun _ _ => ⟨rfl, rfl⟩⟩

/-- Of an acknowledgement only the type it names is printed. -/
theorem printPacket_unseen
    (free : relates ledger { acknowledger with receiver := loaded } receiver)
    (ack : loaded.outputBuf.get 0 = MsgType.ack.code) (outlets : UInt8 → List Port) :
    Keeps (unseenBy relates acknowledger receiver) (Held ledger loaded) (printPacket outlets) := by
  have marks := mark_unseen free
  refine Triple.get_bind fun known => Triple.ite (fun _ => ?_) fun other => ?_
  · refine Triple.pre ?_ fun _ _ => And.left
    exact (marks _ _ _).bind fun _ => Keeps.get_bind fun _ => (marks _ _ _).bind fun _ =>
      marks _ _ _
  · rintro _ _ ⟨⟨_, rfl⟩, rfl⟩
    exact absurd ack other

/-- An acknowledgement is added to the checksum. -/
theorem addPayload_unseen
    (free : relates ledger { acknowledger with receiver := loaded } receiver)
    {packet : List UInt8} (ack : isAck packet = true) :
    Triple (unseenBy relates acknowledger receiver) (Held ledger loaded) (addPayload packet)
      fun _ => Held { ledger with counted := ledger.counted ++ [packet] }
        { loaded with outputBufCksum := loaded.outputBufCksum + cksum loaded.payload } := by
  refine Triple.get_bind fun known => ?_
  have marks : Triple (unseenBy relates acknowledger receiver)
      (fun reached after => Held ledger loaded reached after ∧ after = known)
      (known.positions.forM fun i => perform (.index .read .outputBuf i 255))
      fun _ => Held ledger loaded :=
    (Keeps.forM (fun _ => mark_unseen free _ _ _) _).pre fun _ _ => And.left
  refine Triple.bind marks fun _ => ?_
  rintro _ _ ⟨rfl, rfl⟩
  refine ⟨⟨ack, free⟩, fun _ _ => ⟨?_, rfl⟩⟩
  exact if_pos ack

end Unseen

/-- Nothing of the handling of an acknowledgement falls into the shadow. -/
theorem handleAck_unseen {ledger : Ledger} {acknowledger : Acknowledger} {receiver : Receiver}
    (level : Level light ledger acknowledger receiver) (outlets : UInt8 → List Port)
    {packet : List UInt8} (ack : isAck packet = true) :
    Triple (unseenBy relates acknowledger receiver)
      (Held { ledger with heard := ledger.heard ++ [packet] } acknowledger.receiver)
      (handlePacketOrAck outlets packet) fun _ reached after =>
        reached = { ledger with
          heard := ledger.heard ++ [packet], counted := ledger.counted ++ [packet] } ∧
        after.outputBufLen = 255 ∧ after.outputBuf.get 0 = MsgType.ack.code ∧
        after.outputBufCksum =
          acknowledger.receiver.outputBufCksum + cksum (heardPayload packet) := by
  obtain ⟨rest, rfl⟩ : ∃ rest, packet = MsgType.ack.code :: rest := by
    cases packet with
    | nil => cases ack
    | cons byte rest =>
        have same : byte = MsgType.ack.code := Option.some.inj (of_decide_eq_true ack)
        exact ⟨rest, same ▸ rfl⟩
  have type : (acknowledger.receiver.load (MsgType.ack.code :: rest)).outputBuf.get 0 =
      MsgType.ack.code := Receiver.type_load rfl level.ready
  have payload := Receiver.payload_load (MsgType.ack.code :: rest) level.ready
  obtain ⟨loaded, same⟩ : ∃ loaded,
      loaded = acknowledger.receiver.load (MsgType.ack.code :: rest) := ⟨_, rfl⟩
  rw [← same] at type payload
  have sum : loaded.outputBufCksum = acknowledger.receiver.outputBufCksum := same ▸ rfl
  have free : relates { ledger with heard := ledger.heard ++ [MsgType.ack.code :: rest] }
      { acknowledger with receiver := loaded } receiver :=
    permit _ _ _ ⟨level.typed, sum.trans level.counted, level.known ▸ List.prefix_append _ _, [],
      level.owes, Nat.zero_le 1⟩
  have marks := @mark_unseen relates _ acknowledger receiver loaded free
  have load : Triple (unseenBy relates acknowledger receiver)
      (Held { ledger with heard := ledger.heard ++ [MsgType.ack.code :: rest] }
        acknowledger.receiver)
      (modify fun receiver => receiver.load (MsgType.ack.code :: rest)) fun _ =>
        Held { ledger with heard := ledger.heard ++ [MsgType.ack.code :: rest] } loaded :=
    Triple.update fun _ _ start => ⟨start.1, start.2 ▸ same.symm⟩
  refine Triple.bind load fun _ => ?_
  refine Triple.bind (marks _ _ _) fun _ => Triple.get_bind fun _ => ?_
  refine Triple.bind ((marks _ _ _).pre fun _ _ => And.left) fun _ => ?_
  refine Triple.bind (marks _ _ _) fun _ => Triple.bind (marks _ _ _) fun _ => ?_
  refine Triple.bind (printPacket_unseen free type outlets) fun _ => ?_
  refine Triple.bind (addPayload_unseen free ack) fun _ => Triple.update ?_
  rintro _ _ ⟨rfl, rfl⟩
  refine ⟨rfl, rfl, type, ?_⟩
  rw [← sum, ← payload]

/-- What holds once a packet of the given type has been handled and is not yet answered. -/
structure Due (light : UInt32) (type : UInt8) (ledger : Ledger) (acknowledger : Acknowledger)
    (receiver : Receiver) : Prop where
  ready : acknowledger.receiver.outputBufLen = 255
  plainReady : receiver.outputBufLen = 255
  ackBuf : ∃ type, acknowledger.ackBuf = [MsgType.ack.code, type]
  typed : acknowledger.inputBufCksum = light + cksum (payloads ledger.acks)
  counted : acknowledger.receiver.outputBufCksum =
    receiver.outputBufCksum + cksum (ledger.counted.flatMap heardPayload)
  known : ledger.counted = ledger.heard
  owes : ledger.Owes [[MsgType.ack.code, type]]
  held : acknowledger.receiver.outputBuf.get 0 = type

/-- The answer to a packet falls out of the shadow. -/
theorem acknowledge_due {type : UInt8} (other : type ≠ MsgType.ack.code) (receiver : Receiver) :
    Triple ((ackShade relates).unseen receiver)
      (fun ledger acknowledger => Due light type ledger acknowledger receiver)
      Acknowledger.acknowledge
      fun _ ledger acknowledger => Level light ledger acknowledger receiver := by
  have free : ∀ ledger acknowledger, Due light type ledger acknowledger receiver →
      relates ledger acknowledger receiver := fun ledger acknowledger due =>
    permit _ _ _ ⟨due.typed, due.counted, due.known ▸ List.prefix_refl _, _, due.owes,
      Nat.le_refl 1⟩
  intro ledger acknowledger due
  refine ⟨⟨rfl, free _ _ due⟩, fun _ _ => ?_⟩
  change ((if acknowledger.receiver.outputBuf.get 0 ≠ MsgType.ack.code then
      Acknowledger.sendAck (acknowledger.receiver.outputBuf.get 0) else pure ()) acknowledger).Meets
        _ _ ledger
  obtain ⟨ready, plainReady, ⟨named, ackBuf⟩, typed, counted, known, owes, held⟩ := due
  rw [held, if_pos other]
  have exceeds : ledger.Exceeds acknowledger.inputBufCksum acknowledger.receiver.outputBufCksum
      light receiver.outputBufCksum :=
    ⟨typed, counted, known ▸ List.prefix_refl _, _, owes, Nat.le_refl 1⟩
  have told : acknowledger.ackBuf.set 1 type = [MsgType.ack.code, type] := by
    rw [ackBuf]
    rfl
  have ack : isAck (acknowledger.ackBuf.set 1 type) = true := by
    rw [told]
    rfl
  refine ⟨⟨rfl, permit _ _ _ exceeds⟩, fun _ _ => ⟨⟨rfl, permit _ _ _ exceeds⟩, fun _ _ => ?_⟩⟩
  refine ⟨⟨ack, permit _ _ _ exceeds⟩, fun _ _ => ?_⟩
  change Level light (ledger.observe (.send (acknowledger.ackBuf.set 1 type)) ()) { acknowledger with
    ackBuf := acknowledger.ackBuf.set 1 type
    inputBufCksum := acknowledger.inputBufCksum + type.toUInt32 } receiver
  have sent : ledger.observe (.send (acknowledger.ackBuf.set 1 type)) () =
      { ledger with acks := ledger.acks ++ [[MsgType.ack.code, type]] } := by
    rw [told]
    rfl
  rw [sent]
  refine ⟨ready, plainReady, ⟨type, told⟩, ?_, counted, known, ?_⟩
  · show acknowledger.inputBufCksum + type.toUInt32 =
      light + cksum (payloads (ledger.acks ++ [[MsgType.ack.code, type]]))
    rw [typed, payloads, payloads, List.flatMap_append, cksum_append, UInt32.add_assoc]
    exact congrArg _ (congrArg _ (cksum_singleton type).symm)
  · show ledger.due = ledger.acks ++ [[MsgType.ack.code, type]] ++ []
    rw [List.append_nil]
    exact owes

/-- An acknowledgement is not answered. -/
theorem acknowledge_ack {ledger : Ledger} {acknowledger : Acknowledger} {receiver : Receiver}
    (level : Level light ledger acknowledger receiver)
    (ack : acknowledger.receiver.outputBuf.get 0 = MsgType.ack.code) :
    (Acknowledger.acknowledge acknowledger).Meets ((ackShade relates).unseen receiver)
      (fun reached after _ => Level light reached after receiver) ledger := by
  refine ⟨⟨rfl, permit _ _ _ level.exceeds⟩, fun _ _ => ?_⟩
  change ((if acknowledger.receiver.outputBuf.get 0 ≠ MsgType.ack.code then
      Acknowledger.sendAck (acknowledger.receiver.outputBuf.get 0) else pure ()) acknowledger).Meets
        _ _ ledger
  rw [if_neg (not_not_intro ack)]
  exact level

/-- An acknowledgement that is heard leaves the default build where it is. -/
theorem receive_ack {ledger : Ledger} {acknowledger : Acknowledger} {receiver : Receiver}
    (level : Level light ledger acknowledger receiver) (outlets : UInt8 → List Port)
    {packet : List UInt8} (ack : isAck packet = true) :
    (ackShade relates).Casts
      (fun ledger acknowledger _ receiver _ => Level light ledger acknowledger receiver)
      { ledger with heard := ledger.heard ++ [packet] }
      ((do
        (handlePacketOrAck outlets packet).focus Acknowledger.receiver
          fun receiver acknowledger => { acknowledger with receiver := receiver }
        Acknowledger.acknowledge : SketchM Acknowledger Unit) acknowledger)
      (.done receiver ()) := by
  refine Shade.Casts.of_hidden (Resumption.Meets.bind_iff.2 (Resumption.Meets.embed_iff.2 ?_))
  refine (handleAck_unseen permit level outlets ack _ _ ⟨rfl, rfl⟩).mono ?_
  rintro _ after _ ⟨rfl, ready, type, sum⟩
  refine acknowledge_ack permit ⟨ready, level.plainReady, level.ackBuf, level.typed, ?_,
    congrArg (· ++ [packet]) level.known, level.owes⟩ type
  show after.outputBufCksum =
    receiver.outputBufCksum + cksum ((ledger.counted ++ [packet]).flatMap heardPayload)
  rw [sum, level.counted, List.flatMap_append, cksum_append, List.flatMap_singleton,
    UInt32.add_assoc]

/-- Any other packet is handled as in the default build, and then acknowledged. -/
theorem receive_plain {ledger : Ledger} {acknowledger : Acknowledger} {receiver : Receiver}
    (level : Level light ledger acknowledger receiver) (outlets : UInt8 → List Port)
    {packet : List UInt8} (filled : packet ≠ []) (plain : isAck packet = false) :
    (ackShade relates).Casts
      (fun ledger acknowledger _ receiver _ => Level light ledger acknowledger receiver)
      { ledger with due := ledger.due ++ [ackOf packet] }
      ((do
        (handlePacketOrAck outlets packet).focus Acknowledger.receiver
          fun receiver acknowledger => { acknowledger with receiver := receiver }
        Acknowledger.acknowledge : SketchM Acknowledger Unit) acknowledger)
      (handlePacket outlets packet receiver) := by
  have owes : Ledger.Owes { ledger with due := ledger.due ++ [ackOf packet] } [ackOf packet] := by
    have paid := level.owes
    unfold Ledger.Owes at paid ⊢
    rw [paid, List.append_nil]
  have around : ∀ big small : Receiver, big.outputBufCksum = small.outputBufCksum +
      cksum (ledger.counted.flatMap heardPayload) →
      relates { ledger with due := ledger.due ++ [ackOf packet] }
        { acknowledger with receiver := big } small :=
    fun big small ahead => permit _ _ _
      ⟨level.typed, ahead, level.known ▸ List.prefix_refl _, _, owes, Nat.le_refl 1⟩
  have handled := @handlePacket_casts
    (fun ledger big small => relates ledger { acknowledger with receiver := big } small)
    { ledger with due := ledger.due ++ [ackOf packet] } _ around packet filled plain outlets _ _
    level.ready level.plainReady level.counted
  rw [← Resumption.bind_done_value (handlePacket outlets packet receiver)]
  have whole : (ackShade relates).Casts
      (fun reached acknowledger (_ : Unit) receiver (_ : Unit) =>
        Due light (packet.headD 0) reached acknowledger receiver ∧
          packet.headD 0 ≠ MsgType.ack.code)
      { ledger with due := ledger.due ++ [ackOf packet] }
      ((handlePacketOrAck outlets packet acknowledger.receiver).embed
        fun receiver => { acknowledger with receiver := receiver })
      (handlePacket outlets packet receiver) := by
    refine Shade.Casts.embed_left (handled.of_together.mono ?_)
    rintro _ big _ small _ ⟨rfl, ready, plainReady, type, other, counted⟩
    exact ⟨⟨ready, plainReady, level.ackBuf, level.typed, counted, level.known, owes, type⟩,
      type ▸ other⟩
  refine Shade.Casts.bind whole (fun _ _ => rfl) ?_
  rintro reached acknowledger _ receiver _ ⟨due, other⟩
  exact Shade.Casts.of_hidden (acknowledge_due permit other receiver reached acknowledger due)

/-- A receive half that acknowledges casts one that does not. -/
theorem receive_casts (outlets : UInt8 → List Port) :
    (ackShade relates).Shadows (Level light) (Acknowledger.receive outlets) (receive outlets)
      fun ledger acknowledger _ receiver _ => Level light ledger acknowledger receiver := by
  rintro ledger ⟨⟨outputBuf, _, outputBufCksum⟩, ackBuf, inputBufCksum⟩
    ⟨plainBuf, _, plainCksum⟩ level
  have capacity := level.ready
  have plainCapacity := level.plainReady
  dsimp only at capacity plainCapacity
  subst capacity plainCapacity
  refine .both trivial (permit _ _ _ level.exceeds) fun answer filled => ?_
  cases answer with
  | none => exact .done level
  | some packet =>
      cases ack : isAck packet with
      | true =>
          have noted : ledger.observe (.recv 255) (some packet) =
              { ledger with heard := ledger.heard ++ [packet] } := if_pos ack
          have passed : (ackShade relates).reply (.recv 255) (some packet) = none := by
            simp [ack]
          change (ackShade relates).Casts _ (ledger.observe (.recv 255) (some packet)) _ _
          rw [noted, passed]
          exact receive_ack permit level outlets ack
      | false =>
          have noted : ledger.observe (.recv 255) (some packet) =
              { ledger with due := ledger.due ++ [ackOf packet] } := by
            rw [Ledger.observe, ack]
            rfl
          have passed : (ackShade relates).reply (.recv 255) (some packet) = some packet := by
            simp [ack]
          change (ackShade relates).Casts _ (ledger.observe (.recv 255) (some packet)) _ _
          rw [noted, passed]
          exact receive_plain permit level outlets (filled packet rfl) ack

end Receive

end Roam.Bridge
