import Roam.Bridge.AckShadow
import Roam.Bridge.Conservation

/-!
# Acknowledgements on the air

The two sketches with acknowledgements, on an air that may lose any packet at any time.
Whatever they do, the default build could have done as well, but for the
acknowledgements; these are true, and never lead to more of them.
-/

namespace Roam.Bridge

open Roam.Data Roam.Interaction

/-! ## The base -/

namespace AckBase

/-- The base beside its shadow. -/
structure Beside (ledger : Ledger) (sketch : AckBase) (base : Base) : Prop where
  line : sketch.base.transmitter.toLine = base.transmitter.toLine
  exceeds : ledger.Exceeds sketch.base.transmitter.inputBufCksum sketch.base.receiver.outputBufCksum
    base.transmitter.inputBufCksum base.receiver.outputBufCksum

/-- The same between two halves. -/
structure Rests (ledger : Ledger) (sketch : AckBase) (base : Base) : Prop where
  transmitter : sketch.base.transmitter = base.transmitter.ahead (cksum (payloads ledger.acks))
  level : Level base.transmitter.inputBufCksum ledger sketch.acknowledger base.receiver

theorem Rests.beside {ledger : Ledger} {sketch : AckBase} {base : Base}
    (rests : Rests ledger sketch base) : Beside ledger sketch base :=
  ⟨by rw [rests.transmitter]; rfl, rests.level.exceeds⟩

abbrev shade : Shade AckBase Base Action Action.Answer Ledger := ackShade Beside

theorem forward_casts : shade.together.Shadows Rests
    (Base.forwarder.forward.focus (·.base.transmitter) fun transmitter sketch =>
      { sketch with base := { sketch.base with transmitter := transmitter } })
    (Base.forwarder.forward.focus Base.transmitter
      fun transmitter base => { base with transmitter := transmitter })
    fun ledger sketch _ base _ => Rests ledger sketch base := by
  rintro ledger sketch base ⟨same, level⟩
  refine Shade.Casts.embed ?_
  dsimp only
  rw [same]
  have moves : Moves (fun ledger big small =>
      Beside ledger { sketch with base := { sketch.base with transmitter := big } }
        { base with transmitter := small })
      ledger (cksum (payloads ledger.acks)) Base.forwarder.forward := by
    apply moves_forward
    · intro transmitter
      refine ⟨rfl, rfl, level.counted, ?_, [], level.owes, Nat.zero_le 1⟩
      exact level.known ▸ List.prefix_refl _
    · intro sensor
      cases sensor <;> decide
  refine Shade.Casts.mono (moves _ _ rfl) ?_
  rintro _ _ _ transmitter _ ⟨rfl, rfl, rfl⟩
  exact ⟨rfl, level.ready, level.plainReady, level.ackBuf, rfl, level.counted, level.known,
    level.owes⟩

theorem receive_casts : shade.Shadows Rests
    ((Acknowledger.receive Base.outlets).focus acknowledger withAcknowledger)
    ((receive Base.outlets).focus Base.receiver
      fun receiver base => { base with receiver := receiver })
    fun ledger sketch _ base _ => Rests ledger sketch base := by
  rintro ledger sketch base ⟨same, level⟩
  refine Shade.Casts.embed ?_
  have around : ∀ (ledger : Ledger) (big : Acknowledger) (small : Receiver),
      ledger.Exceeds big.inputBufCksum big.receiver.outputBufCksum
        base.transmitter.inputBufCksum small.outputBufCksum →
      Beside ledger (withAcknowledger big sketch) { base with receiver := small } := by
    intro ledger big small exceeds
    refine ⟨?_, exceeds⟩
    show sketch.base.transmitter.toLine = base.transmitter.toLine
    rw [same]
    rfl
  refine Shade.Casts.mono (Bridge.receive_casts around Base.outlets ledger _ _ level) ?_
  intro ledger big _ small _ level
  refine ⟨?_, level⟩
  show { sketch.base.transmitter with inputBufCksum := big.inputBufCksum } =
    base.transmitter.ahead _
  rw [same, level.typed]
  rfl

theorem loops_cast (iterations : Nat) : shade.Shadows Rests (loops iterations)
    (Base.loops iterations) fun ledger sketch _ base _ => Rests ledger sketch base := by
  induction iterations with
  | zero => exact fun _ _ _ rests => .done rests
  | succ iterations ih =>
      intro ledger sketch base rests
      have starts : ∀ (small : Base) (_ : Unit), (Base.loops iterations small).state = small := by
        intro small _
        cases iterations <;> rfl
      have once : shade.Casts (fun ledger sketch (_ : Unit) base (_ : Unit) =>
          Rests ledger sketch base) ledger (loop sketch) (Base.loop base) := by
        refine Shade.Casts.bind_together (forward_casts ledger sketch base rests) ?_
        exact fun ledger sketch _ base _ rests => receive_casts ledger sketch base rests
      exact once.bind starts fun ledger sketch _ base _ rests => ih ledger sketch base rests

theorem rests_start : Rests {} {} {} :=
  ⟨rfl, rfl, rfl, ⟨0, rfl⟩, rfl, rfl, rfl, rfl⟩

end AckBase

/-! ## The endpoint -/

/-- The endpoint with its checksum ahead and another receiver. -/
def Endpoint.ahead (more : UInt32) (receiver : Receiver) (endpoint : Endpoint) : Endpoint :=
  { endpoint with inputBufCksum := endpoint.inputBufCksum + more, receiver := receiver }

namespace AckEndpoint

/-- The endpoint beside its shadow. -/
structure Beside (ledger : Ledger) (sketch : AckEndpoint) (endpoint : Endpoint) : Prop where
  seaphox : sketch.endpoint.seaphox = endpoint.seaphox
  procv : sketch.endpoint.procv = endpoint.procv
  exceeds : ledger.Exceeds sketch.endpoint.inputBufCksum sketch.endpoint.receiver.outputBufCksum
    endpoint.inputBufCksum endpoint.receiver.outputBufCksum

/-- The same between two halves. -/
structure Rests (ledger : Ledger) (sketch : AckEndpoint) (endpoint : Endpoint) : Prop where
  same : sketch.endpoint =
    endpoint.ahead (cksum (payloads ledger.acks)) sketch.endpoint.receiver
  level : Level endpoint.inputBufCksum ledger sketch.acknowledger endpoint.receiver

theorem Rests.beside {ledger : Ledger} {sketch : AckEndpoint} {endpoint : Endpoint}
    (rests : Rests ledger sketch endpoint) : Beside ledger sketch endpoint :=
  ⟨by rw [rests.same]; rfl, by rw [rests.same]; rfl, rests.level.exceeds⟩

abbrev shade : Shade AckEndpoint Endpoint Action Action.Answer Ledger := ackShade Beside

/-- A part of `loop()` in front of the receive half. -/
def Passes (program : SketchM Endpoint Unit) : Prop :=
  shade.together.Shadows Rests (program.focus endpoint withEndpoint) program
    fun ledger sketch _ endpoint _ => Rests ledger sketch endpoint

/-- Code of the endpoint that does the same whatever the checksum and the receiver are. -/
theorem passes {program : SketchM Endpoint Unit}
    (same : ∀ (relates : Ledger → Endpoint → Endpoint → Prop) (ledger : Ledger) (more : UInt32)
      (receiver plain : Receiver),
      (∀ small : Endpoint, small.receiver = plain →
        relates ledger (small.ahead more receiver) small) →
      (ackShade relates).Matches ledger
        (fun big small => big = small.ahead more receiver ∧ small.receiver = plain)
        program program) : Passes program := by
  rintro ledger sketch endpoint ⟨started, level⟩
  refine Shade.Casts.embed_left ?_
  refine Shade.Casts.mono (same (fun ledger big small => Beside ledger (withEndpoint big sketch)
    small) ledger (cksum (payloads ledger.acks)) sketch.endpoint.receiver endpoint.receiver
    ?_ _ _ ⟨started, rfl⟩) ?_
  · rintro small plain
    refine ⟨rfl, rfl, rfl, ?_, ?_, [], level.owes, Nat.zero_le 1⟩
    · rw [plain]
      exact level.counted
    · exact level.known ▸ List.prefix_refl _
  · rintro _ _ _ small _ ⟨rfl, ⟨rfl, plain⟩, rfl⟩
    refine ⟨rfl, level.ready, ?_, level.ackBuf, rfl, ?_, level.known, level.owes⟩
    · rw [plain]
      exact level.plainReady
    · rw [plain]
      exact level.counted

theorem blinkLed_passes : Passes Endpoint.blinkLed := by
  apply passes
  intro relates ledger more receiver plain permit
  have acts : ∀ {action : Action}, (ackShade relates).shows action →
      (∀ answer, (ackShade relates).reply action answer = answer) →
      (∀ answer, ledger.observe action answer = ledger) →
      (ackShade relates).Matches ledger
        (fun big small => big = small.ahead more receiver ∧ small.receiver = plain)
        (perform action) (perform action) := fun shown reply still =>
    Shade.Matches.ask shown (fun _ small same => same.1 ▸ permit small same.2) reply still
  have acts' : ∀ {change : Endpoint → Endpoint},
      (∀ small : Endpoint, change (small.ahead more receiver) = (change small).ahead more receiver) →
      (∀ small : Endpoint, (change small).receiver = small.receiver) →
      (ackShade relates).Matches ledger
        (fun big small => big = small.ahead more receiver ∧ small.receiver = plain)
        (modify change) (modify change) := fun commutes apart =>
    Shade.Matches.update fun _ small same =>
      ⟨same.1 ▸ commutes small, (apart small).trans same.2⟩
  refine Shade.Matches.bind (acts trivial (fun _ => rfl) fun _ => rfl) fun now => ?_
  refine Shade.Matches.get_bind ?_
  rintro _ known ⟨rfl, _⟩
  refine Shade.Matches.ite (Shade.Matches.get_bind ?_) (Shade.Matches.pure ())
  rintro _ known ⟨rfl, _⟩
  refine Shade.Matches.bind (acts trivial (fun _ => rfl) fun _ => rfl) fun _ => ?_
  refine Shade.Matches.bind (acts' (fun _ => rfl) fun _ => rfl) fun _ => ?_
  refine Shade.Matches.bind (acts trivial (fun _ => rfl) fun _ => rfl) fun now => ?_
  exact acts' (fun _ => rfl) fun _ => rfl

/-- A transmit half passes, since it works on a part that has only the checksum ahead. -/
theorem forward_passes {forwarder : Forwarder} (own : ∀ sensor, forwarder.msgType sensor ≠ .ack)
    {part : Endpoint → Transmitter} {update : Transmitter → Endpoint → Endpoint}
    (parts : ∀ more receiver small, part (Endpoint.ahead more receiver small) = (part small).ahead more)
    (whole : ∀ more receiver small transmitter,
      update (Transmitter.ahead more transmitter) (Endpoint.ahead more receiver small) =
        (update transmitter small).ahead more receiver)
    (apart : ∀ transmitter small, (update transmitter small).receiver = small.receiver) :
    Passes (forwarder.forward.focus part update) := by
  apply passes
  rintro relates ledger more receiver plain permit _ small ⟨rfl, same⟩
  refine Shade.Casts.embed ?_
  rw [parts]
  have moves : Moves (fun ledger big transmitter =>
      relates ledger (update big (small.ahead more receiver)) (update transmitter small))
      ledger more forwarder.forward := by
    refine moves_forward (fun transmitter => ?_) own
    rw [whole]
    exact permit _ ((apart transmitter small).trans same)
  refine Shade.Casts.mono (moves _ (part small) rfl) ?_
  rintro _ _ _ transmitter _ ⟨rfl, rfl, rfl⟩
  exact ⟨rfl, ⟨whole _ _ _ _, (apart transmitter small).trans same⟩, rfl⟩

theorem own (sensor : Sensor) : Endpoint.msgType sensor ≠ .ack := by
  cases sensor <;> decide

theorem receive_casts : shade.Shadows Rests
    ((Acknowledger.receive Endpoint.outlets).focus acknowledger withAcknowledger)
    ((receive Endpoint.outlets).focus Endpoint.receiver
      fun receiver endpoint => { endpoint with receiver := receiver })
    fun ledger sketch _ endpoint _ => Rests ledger sketch endpoint := by
  rintro ledger sketch endpoint ⟨same, level⟩
  refine Shade.Casts.embed ?_
  have around : ∀ (ledger : Ledger) (big : Acknowledger) (small : Receiver),
      ledger.Exceeds big.inputBufCksum big.receiver.outputBufCksum endpoint.inputBufCksum
        small.outputBufCksum →
      Beside ledger (withAcknowledger big sketch) { endpoint with receiver := small } := by
    intro ledger big small exceeds
    refine ⟨?_, ?_, exceeds⟩
    · show sketch.endpoint.seaphox = endpoint.seaphox
      rw [same]
      rfl
    · show sketch.endpoint.procv = endpoint.procv
      rw [same]
      rfl
  refine Shade.Casts.mono (Bridge.receive_casts around Endpoint.outlets ledger _ _ level) ?_
  intro ledger big _ small _ level
  refine ⟨?_, level⟩
  show { sketch.endpoint with
    receiver := big.receiver, inputBufCksum := big.inputBufCksum } = _
  rw [same, level.typed]
  rfl

theorem loops_cast (iterations : Nat) : shade.Shadows Rests (loops iterations)
    (Endpoint.loops iterations) fun ledger sketch _ endpoint _ => Rests ledger sketch endpoint := by
  have seaphox : Passes Endpoint.forwardSeaphox :=
    forward_passes own (fun _ _ _ => rfl) (fun _ _ _ _ => rfl) fun _ _ => rfl
  have procv : Passes Endpoint.forwardProcv :=
    forward_passes own (fun _ _ _ => rfl) (fun _ _ _ _ => rfl) fun _ _ => rfl
  induction iterations with
  | zero => exact fun _ _ _ rests => .done rests
  | succ iterations ih =>
      intro ledger sketch endpoint rests
      have starts : ∀ (small : Endpoint) (_ : Unit),
          (Endpoint.loops iterations small).state = small := by
        intro small _
        cases iterations <;> rfl
      have once : shade.Casts (fun ledger sketch (_ : Unit) endpoint (_ : Unit) =>
          Rests ledger sketch endpoint) ledger (loop sketch) (Endpoint.loop endpoint) := by
        refine Shade.Casts.bind_together (blinkLed_passes ledger sketch endpoint rests) ?_
        intro ledger sketch _ endpoint _ rests
        refine Shade.Casts.bind_together (seaphox ledger sketch endpoint rests) ?_
        intro ledger sketch _ endpoint _ rests
        refine Shade.Casts.bind_together (procv ledger sketch endpoint rests) ?_
        exact fun ledger sketch _ endpoint _ rests => receive_casts ledger sketch endpoint rests
      exact once.bind starts fun ledger sketch _ endpoint _ rests =>
        ih ledger sketch endpoint rests

theorem rests_start : Rests {} {} {} :=
  ⟨rfl, rfl, rfl, ⟨0, rfl⟩, rfl, rfl, rfl, rfl⟩

end AckEndpoint

/-! ## Both sketches -/

/-- The state of one of the two sketches that acknowledge. -/
abbrev AckSketch : Type := AckBase ⊕ AckEndpoint

/-- The two sketches in execution, with the packets on their way. -/
abbrev AckSketches : Type := Pair AckSketch Action Action.Answer Unit (Both (List (List UInt8)))

abbrev AckEvent : Type := Event AckSketch Action Action.Answer

/-- The air between them. -/
abbrev ackEther : Medium AckSketch Action Action.Answer (Both (List (List UInt8))) := traffic.medium

/-- The base is the client and the endpoint the server; both are switched on. -/
def AckSketches.start (iterations : Both Nat) : AckSketches where
  parties :=
    ⟨(AckBase.loops iterations.client {}).embed Sum.inl,
      (AckEndpoint.loops iterations.server {}).embed Sum.inr⟩
  air := ⟨[], []⟩

/-- What one of them has done to its surroundings. -/
def ackJournal (side : Side) (trace : List AckEvent) : Journal := Journal.of (Pair.steps side trace)

/-- A sketch beside its shadow. -/
def Beside (ledger : Ledger) : AckSketch → Sketch → Prop
  | .inl sketch, .inl base => AckBase.Beside ledger sketch base
  | .inr sketch, .inr endpoint => AckEndpoint.Beside ledger sketch endpoint
  | _, _ => False

/-- The same between two halves. -/
def Rests (ledger : Ledger) : AckSketch → Sketch → Prop
  | .inl sketch, .inl base => AckBase.Rests ledger sketch base
  | .inr sketch, .inr endpoint => AckEndpoint.Rests ledger sketch endpoint
  | _, _ => False

theorem Rests.beside {ledger : Ledger} {sketch : AckSketch} {plain : Sketch}
    (rests : Rests ledger sketch plain) : Beside ledger sketch plain := by
  cases sketch with
  | inl sketch =>
      cases plain with
      | inl base => exact AckBase.Rests.beside rests
      | inr endpoint => exact rests
  | inr sketch =>
      cases plain with
      | inl base => exact rests
      | inr endpoint => exact AckEndpoint.Rests.beside rests

/-- Between two halves nothing is owed. -/
theorem Rests.owes {ledger : Ledger} {sketch : AckSketch} {plain : Sketch}
    (rests : Rests ledger sketch plain) : ledger.Owes [] := by
  cases sketch <;> cases plain
  · exact rests.level.owes
  · cases rests
  · cases rests
  · exact rests.level.owes

/-- At most one acknowledgement is owed at any time. -/
theorem Beside.owes {ledger : Ledger} {sketch : AckSketch} {plain : Sketch}
    (beside : Beside ledger sketch plain) : ∃ rest, ledger.Owes rest ∧ rest.length ≤ 1 := by
  cases sketch <;> cases plain
  · exact beside.exceeds.owes
  · cases beside
  · cases beside
  · exact beside.exceeds.owes

/-- The air with acknowledgements crosses into the air without. -/
theorem crosses : (ackShade Beside).Crosses ackEther ether
    (Traffic.Thins (fun packet => !isAck packet) (· ≠ [])) := by
  apply Traffic.crosses
  · intro action answer fine
    cases action with
    | recv capacity => exact fine
    | _ => trivial
  · intro action either
    cases action with
    | send packet =>
        intro item member
        obtain rfl : packet = item := Option.some.inj member
        rcases either with shown | hidden
        · exact shown.1
        · rintro rfl
          cases hidden
    | _ => nofun
  · intro action answer
    cases action with
    | recv capacity => rfl
    | _ => rfl
  · intro action hides
    cases action with
    | send packet =>
        refine ⟨fun _ => rfl, ?_⟩
        intro item member
        obtain rfl : packet = item := Option.some.inj member
        have ack : isAck packet = true := hides
        rw [ack]
        rfl
    | recv capacity => cases hides
    | _ => exact ⟨fun _ => rfl, nofun⟩

namespace Journal

/-- The journal without the acknowledgements. -/
def plain (journal : Journal) : Journal :=
  { journal with
    sent := journal.sent.filter fun packet => !isAck packet
    heard := journal.heard.filter fun packet => !isAck packet
    received := journal.received.filter fun packet => !isAck packet }

variable {relates : Ledger → AckSketch → Sketch → Prop} (journal : Journal)

/-- A step that falls into the shadow does there what it does here. -/
theorem plain_shown {action : Action} (shown : (ackShade relates).shows action)
    (answer : action.Answer) :
    (journal.observe action answer).plain =
      journal.plain.observe action ((ackShade relates).reply action answer) := by
  cases action with
  | send packet =>
      have other : isAck packet = false := shown.2
      simp [observe, plain, List.filter_append, other]
  | received packet =>
      have other : isAck packet = false := shown
      simp [observe, plain, List.filter_append, other]
  | recv capacity =>
      cases (answer : Option (List UInt8)) with
      | none => simp [observe, plain]
      | some packet =>
          cases ack : isAck packet <;>
            simp [observe, plain, List.filter_append, Option.filter, ack]
  | index access array position size =>
      by_cases inside : access.Inside position
      · rw [observe_inside _ _ _ inside]
        exact (observe_inside _ _ _ inside).symm
      · rw [observe_outside _ _ _ inside]
        exact (observe_outside journal.plain _ _ inside).symm
  | _ => rfl

/-- A step that does not fall into the shadow has to do with acknowledgements. -/
theorem plain_hidden {action : Action} (hidden : (ackShade relates).hides action)
    (answer : action.Answer) : (journal.observe action answer).plain = journal.plain := by
  cases action with
  | send packet =>
      have ack : isAck packet = true := hidden
      simp [observe, plain, List.filter_append, ack]
  | received packet =>
      have ack : isAck packet = true := hidden
      simp [observe, plain, List.filter_append, ack]
  | index access array position size =>
      obtain rfl : access = .read := hidden
      rfl
  | arrive => cases hidden
  | read => cases hidden
  | waitCAD => cases hidden
  | waitPacketSent => cases hidden
  | recv => cases hidden
  | print => cases hidden
  | millis => cases hidden
  | digitalWrite => cases hidden

theorem plain_falls {trace : List (SketchStep AckSketch)} {shadow : List (SketchStep Sketch)}
    (falls : (ackShade relates).Falls trace shadow) :
    Journal.of shadow = (Journal.of trace).plain := by
  suffices general : ∀ journal : Journal,
      shadow.foldl (fun journal step => journal.observe step.action step.answer) journal.plain =
        (trace.foldl (fun journal step => journal.observe step.action step.answer) journal).plain from
    general {}
  induction falls with
  | nil => exact fun _ => rfl
  | both shown _ ih =>
      intro journal
      rw [List.foldl_cons, List.foldl_cons, ← ih, plain_shown journal shown]
  | alone hidden _ ih =>
      intro journal
      rw [List.foldl_cons, ← ih, plain_hidden journal hidden]

end Journal

/-- The ledger is kept in the journal. -/
structure Ledger.Kept (journal : Journal) (ledger : Ledger) : Prop where
  acks : ledger.acks = journal.sent.filter isAck
  due : ledger.due = (journal.heard.filter fun packet => !isAck packet).map ackOf
  heard : ledger.heard = journal.heard.filter isAck
  counted : ledger.counted = journal.received.filter isAck

theorem Ledger.Kept.observe {journal : Journal} {ledger : Ledger} (kept : ledger.Kept journal)
    (action : Action) (answer : action.Answer) :
    (ledger.observe action answer).Kept (journal.observe action answer) := by
  obtain ⟨acks, due, heard, counted⟩ := kept
  cases action with
  | send packet =>
      cases ack : isAck packet <;> constructor <;>
        simp [Ledger.observe, Journal.observe, List.filter_append, *]
  | received packet =>
      cases ack : isAck packet <;> constructor <;>
        simp [Ledger.observe, Journal.observe, List.filter_append, *]
  | recv capacity =>
      cases (answer : Option (List UInt8)) with
      | none => constructor <;> simp [Ledger.observe, Journal.observe, *]
      | some packet =>
          cases ack : isAck packet <;> constructor <;>
            simp [Ledger.observe, Journal.observe, List.filter_append, *]
  | index access array position size =>
      by_cases inside : access.Inside position
      · rw [Journal.observe_inside _ _ _ inside]
        exact ⟨acks, due, heard, counted⟩
      · rw [Journal.observe_outside _ _ _ inside]
        exact ⟨acks, due, heard, counted⟩
  | _ => exact ⟨acks, due, heard, counted⟩

theorem Ledger.kept_after (trace : List (SketchStep AckSketch)) :
    ((ackShade Beside).after {} trace).Kept (Journal.of trace) := by
  suffices general : ∀ (ledger : Ledger) (journal : Journal), ledger.Kept journal →
      ((ackShade Beside).after ledger trace).Kept
        (trace.foldl (fun journal step => journal.observe step.action step.answer) journal) from
    general {} {} ⟨rfl, rfl, rfl, rfl⟩
  induction trace with
  | nil => exact fun _ _ kept => kept
  | cons step trace ih =>
      intro ledger journal kept
      exact ih _ _ (kept.observe step.action step.answer)

/-- Both sketches cast the default build. -/
theorem start_casts (iterations : Both Nat) (side : Side) :
    (ackShade Beside).Casts
      (fun ledger (sketch : AckSketch) (_ : Unit) (plain : Sketch) (_ : Unit) =>
        Rests ledger sketch plain) {}
      ((AckSketches.start iterations).parties.of side)
      ((Sketches.start iterations).parties.of side) := by
  cases side with
  | client =>
      exact Shade.Casts.embed (AckBase.loops_cast iterations.client {} {} {} AckBase.rests_start)
  | server =>
      exact Shade.Casts.embed
        (AckEndpoint.loops_cast iterations.server {} {} {} AckEndpoint.rests_start)

section Run

variable {iterations : Both Nat} {trace : List AckEvent} {last : AckSketches}

/-- A run of the two sketches, with the run of the default build in its shadow. -/
theorem shadow_runs (run : Pair.Runs ackEther (AckSketches.start iterations) trace last) :
    ∃ light final, Pair.Runs ether (Sketches.start iterations) light final ∧ ∀ side,
      journal side light = (ackJournal side trace).plain ∧
        ∃ ledger : Ledger, ledger.Kept (ackJournal side trace) ∧
          (ackShade Beside).Casts
            (fun ledger (sketch : AckSketch) (_ : Unit) (plain : Sketch) (_ : Unit) =>
              Rests ledger sketch plain) ledger (last.parties.of side) (final.parties.of side) := by
  have near : Traffic.Thins (fun packet => !isAck packet) (· ≠ ([] : List UInt8))
      (AckSketches.start iterations).air (Sketches.start iterations).air := by
    constructor
    · intro side
      cases side <;> nofun
    · intro side
      cases side <;> exact List.Sublist.refl []
  have casts : ∀ side, (ackShade Beside).Casts
      (fun ledger (sketch : AckSketch) (_ : Unit) (plain : Sketch) (_ : Unit) =>
        Rests ledger sketch plain) ((⟨{}, {}⟩ : Both Ledger).of side)
      ((AckSketches.start iterations).parties.of side)
      ((Sketches.start iterations).parties.of side) := by
    intro side
    have casts := start_casts iterations side
    cases side <;> exact casts
  obtain ⟨light, final, ran, sides⟩ := crosses.runs run near casts
  refine ⟨light, final, ran, fun side => ?_⟩
  obtain ⟨falls, casts⟩ := sides side
  refine ⟨Journal.plain_falls falls, _, Ledger.kept_after _, ?_⟩
  cases side <;> exact casts

/-- With acknowledgements the two sketches carry the same bytes as without: whatever the air
loses, and wherever they stop, the default build could have got to the same lines, packets and
printed payloads, but for the acknowledgements. -/
theorem acks_change_nothing
    (run : Pair.Runs ackEther (AckSketches.start iterations) trace last) :
    ∃ light final, Pair.Runs ether (Sketches.start iterations) light final ∧ ∀ side,
      journal side light = (ackJournal side trace).plain ∧
        ((∃ state, last.parties.of side = .done state ()) →
          ∃ state, final.parties.of side = .done state ()) := by
  obtain ⟨light, final, ran, sides⟩ := shadow_runs run
  refine ⟨light, final, ran, fun side => ?_⟩
  obtain ⟨same, ledger, _, casts⟩ := sides side
  refine ⟨same, ?_⟩
  rintro ⟨state, ended⟩
  rw [ended] at casts
  obtain ⟨small, _, stops, _⟩ := casts.of_done
  exact ⟨small, stops⟩

/-- Surroundings that bring characters by the position in the run, and the first packet that is
on its way. -/
def prompt (arrivals : Nat → Port → List UInt8) (position : Nat)
    (air : Both (List (List UInt8))) (side : Side) (_ : AckSketch) (action : Action)
    (_ : Option (AckSketch × Action)) : Option action.Answer :=
  match action with
  | .recv _ => some (air.of side.peer).head?
  | action => some (({ arrivals := arrivals } : Surroundings).answer position action)

/-- A line is typed for the SeapHOx; the endpoint acknowledges it, and the base hears of it. -/
def thanked : List AckEvent × AckSketches :=
  Pair.play ackEther (prompt fun position port =>
      if position = 1 ∧ port = .usb then [36, 65, 10] else [])
    0 (List.replicate 16 .client ++ List.replicate 20 .server ++ List.replicate 12 .client)
    (AckSketches.start ⟨2, 1⟩)

theorem acks_change_nothing_thanked : ∃ light final,
    Pair.Runs ether (Sketches.start ⟨2, 1⟩) light final ∧
      (journal .client light).sent = [[11, 65]] ∧ (journal .client light).heard = [] ∧
      (journal .server light).printed .seaphox = [65] := by
  have run : Pair.Runs ackEther (AckSketches.start ⟨2, 1⟩) thanked.1 thanked.2 :=
    Pair.play_runs _ _ _ _
  have sent : (ackJournal .client thanked.1).plain.sent = [[11, 65]] := by decide +kernel
  have heard : (ackJournal .client thanked.1).plain.heard = [] := by decide +kernel
  have printed : (ackJournal .server thanked.1).plain.printed .seaphox = [65] := by decide +kernel
  obtain ⟨light, final, ran, sides⟩ := acks_change_nothing run
  refine ⟨light, final, ran, ?_, ?_, ?_⟩
  · rw [(sides .client).1, sent]
  · rw [(sides .client).1, heard]
  · rw [(sides .server).1, printed]

/-- What one of the two sketches hears was sent by the other one. -/
theorem ack_heard_sublist_sent (run : Pair.Runs ackEther (AckSketches.start iterations) trace last)
    (side : Side) : (ackJournal side trace).heard.Sublist (ackJournal side.peer trace).sent := by
  unfold ackJournal
  rw [Journal.heard_of, Journal.sent_of]
  have heard := traffic.heard_sublist run side
  cases side <;> exact heard

/-- A sketch owes at most the acknowledgement of the packet in hand, and none at the end. -/
theorem acks_sent (run : Pair.Runs ackEther (AckSketches.start iterations) trace last)
    (side : Side) :
    ∃ rest, (ackJournal side trace).plain.heard.map ackOf =
        (ackJournal side trace).sent.filter isAck ++ rest ∧ rest.length ≤ 1 ∧
      ((∃ state, last.parties.of side = .done state ()) → rest = []) := by
  obtain ⟨light, final, _, sides⟩ := shadow_runs run
  obtain ⟨_, ledger, kept, casts⟩ := sides side
  have owed : ∀ rest, ledger.Owes rest → (ackJournal side trace).plain.heard.map ackOf =
      (ackJournal side trace).sent.filter isAck ++ rest := by
    intro rest owes
    rw [← kept.acks]
    exact kept.due.symm.trans owes
  cases stopped : last.parties.of side with
  | done state value =>
      rw [stopped] at casts
      obtain ⟨_, _, _, rests⟩ := casts.of_done
      exact ⟨[], owed [] rests.owes, Nat.zero_le 1, fun _ => rfl⟩
  | ask state action resume =>
      obtain ⟨rest, owes, few⟩ := (casts.related fun _ _ _ _ _ => Rests.beside).owes
      refine ⟨rest, owed rest owes, few, ?_⟩
      rintro ⟨final, ended⟩
      cases ended

/-- Acknowledgements are true, and lead to nothing.  Each sketch acknowledges the packets it
hears, other than acknowledgements, one by one; the acknowledgements it hears are those of
packets it has sent and the other one has heard, in their order; and the packets that are
sent are at most twice those that are no acknowledgements. -/
theorem acks_are_true (run : Pair.Runs ackEther (AckSketches.start iterations) trace last) :
    (∀ side,
      (∃ rest, (ackJournal side trace).plain.heard.map ackOf =
          (ackJournal side trace).sent.filter isAck ++ rest ∧ rest.length ≤ 1 ∧
        ((∃ state, last.parties.of side = .done state ()) → rest = [])) ∧
      ∃ through : List (List UInt8), through.map ackOf = (ackJournal side trace).heard.filter isAck ∧
        through.Sublist (ackJournal side.peer trace).plain.heard ∧
        through.Sublist (ackJournal side trace).plain.sent) ∧
    (ackJournal .client trace).sent.length + (ackJournal .server trace).sent.length ≤
      2 * ((ackJournal .client trace).plain.sent.length +
        (ackJournal .server trace).plain.sent.length) := by
  have crossed (side : Side) : (ackJournal side trace).plain.heard.Sublist
      (ackJournal side.peer trace).plain.sent :=
    (ack_heard_sublist_sent run side).filter _
  have few (side : Side) : (ackJournal side trace).sent.length ≤
      (ackJournal side trace).plain.sent.length +
        (ackJournal side.peer trace).plain.sent.length := by
    obtain ⟨rest, paid, _, _⟩ := acks_sent run side
    have split := List.length_eq_length_filter_add (l := (ackJournal side trace).sent) isAck
    have acks := congrArg List.length paid
    rw [List.length_map, List.length_append] at acks
    have most := (crossed side).length_le
    unfold Journal.plain at acks most ⊢
    dsimp only at acks most ⊢
    omega
  refine ⟨fun side => ⟨acks_sent run side, ?_⟩, ?_⟩
  · obtain ⟨rest, paid, _, _⟩ := acks_sent run side.peer
    have heard : ((ackJournal side trace).heard.filter isAck).Sublist
        ((ackJournal side.peer trace).plain.heard.map ackOf) := by
      rw [paid]
      exact ((ack_heard_sublist_sent run side).filter isAck).trans (List.sublist_append_left _ _)
    obtain ⟨through, among, same⟩ := List.sublist_map_iff.1 heard
    have own := crossed side.peer
    rw [Side.peer_peer] at own
    exact ⟨through, same.symm, among, among.trans own⟩
  · have client := few .client
    have server := few .server
    rw [Side.peer_client] at client
    rw [Side.peer_server] at server
    omega

theorem acks_are_true_thanked : ∃ through : List (List UInt8),
    through.map ackOf = [[13, 11]] ∧ through.Sublist [[11, 65]] := by
  have run : Pair.Runs ackEther (AckSketches.start ⟨2, 1⟩) thanked.1 thanked.2 :=
    Pair.play_runs _ _ _ _
  have told : (ackJournal .client thanked.1).heard.filter isAck = [[13, 11]] := by decide +kernel
  have sent : (ackJournal .client thanked.1).plain.sent = [[11, 65]] := by decide +kernel
  obtain ⟨_, through, same, _, own⟩ := (acks_are_true run).1 .client
  exact ⟨through, same.trans told, sent ▸ own⟩

/-! ## The checksums -/

/-- The packets of a list, counted with and without the acknowledgements. -/
theorem cksum_split (packets : List (List UInt8)) (bytes : List UInt8 → List UInt8) :
    cksum (packets.flatMap bytes) =
      cksum ((packets.filter fun packet => !isAck packet).flatMap bytes) +
        cksum ((packets.filter isAck).flatMap bytes) := by
  rw [← cksum_append, ← List.flatMap_append]
  refine cksum_perm (List.Perm.flatMap_right _ ?_)
  have split := List.filter_append_perm isAck packets
  exact (List.perm_append_comm.trans split).symm

/-- No packet is longer than the radio takes, acknowledgements included. -/
theorem ack_short (run : Pair.Runs ackEther (AckSketches.start iterations) trace last) (side : Side)
    (short : Short (ackJournal side trace).plain) : Short (ackJournal side trace) := by
  obtain ⟨rest, paid, _, _⟩ := acks_sent run side
  intro packet member
  cases ack : isAck packet with
  | true =>
      have told : packet ∈ (ackJournal side trace).plain.heard.map ackOf := by
        rw [paid]
        exact List.mem_append_left _ (List.mem_filter.2 ⟨member, ack⟩)
      obtain ⟨heard, _, rfl⟩ := List.mem_map.1 told
      show 2 ≤ 255
      decide
  | false => exact short packet (List.mem_filter.2 ⟨member, by simp [ack]⟩)

/-- What is counted of the packets a sketch hears is the beginning of each kind. -/
theorem received_subperm {journal : Journal} {ledger : Ledger} (kept : ledger.Kept journal)
    (plain : journal.plain.received <+: journal.plain.heard)
    (acks : ledger.counted <+: ledger.heard) : journal.received.Subperm journal.heard := by
  have split (packets : List (List UInt8)) :
      ((packets.filter fun packet => !isAck packet) ++ packets.filter isAck).Perm packets :=
    List.perm_append_comm.trans (List.filter_append_perm isAck packets)
  rw [kept.counted, kept.heard] at acks
  have both : ((journal.received.filter fun packet => !isAck packet) ++
      journal.received.filter isAck).Sublist
      ((journal.heard.filter fun packet => !isAck packet) ++ journal.heard.filter isAck) :=
    plain.sublist.append acks.sublist
  exact (split journal.received).symm.subperm.trans
    (both.subperm.trans (split journal.heard).subperm)

/-- The sum of a sender with acknowledgements, where the default build has its own right. -/
theorem typed_with_acks {journal : Journal} {ledger : Ledger} (kept : ledger.Kept journal)
    {input light waiting : UInt32} (typed : input = light + cksum (payloads ledger.acks))
    (plain : light = cksum (payloads journal.plain.sent) + waiting) :
    input = cksum (payloads journal.sent) + waiting := by
  rw [typed, plain, kept.acks, payloads, payloads, payloads, cksum_split journal.sent,
    UInt32.add_assoc, UInt32.add_comm waiting, ← UInt32.add_assoc]
  rfl

/-- The sum of a receiver with acknowledgements, where the default build has its own right. -/
theorem counted_with_acks {journal : Journal} {ledger : Ledger} (kept : ledger.Kept journal)
    {output light : UInt32} (counted : output = light + cksum (ledger.counted.flatMap heardPayload))
    (plain : light = cksum (journal.plain.received.flatMap heardPayload)) :
    output = cksum (journal.received.flatMap heardPayload) := by
  rw [counted, plain, kept.counted, cksum_split journal.received]
  rfl

/-- The base with acknowledgements, wherever it stops. -/
theorem ack_base_accounts (run : Pair.Runs ackEther (AckSketches.start iterations) trace last)
    (fits : Base.routing.Fits 254 ((ackJournal .client trace).read .usb)) :
    ∃ sketch : AckBase, last.parties.client.state = .inl sketch ∧
      sketch.base.transmitter.inputBufCksum = cksum (payloads (ackJournal .client trace).sent) +
        cksum sketch.base.transmitter.waiting ∧
      sketch.base.receiver.outputBufCksum =
        cksum ((ackJournal .client trace).received.flatMap heardPayload) ∧
      (ackJournal .client trace).received.Subperm (ackJournal .client trace).heard ∧
      Short (ackJournal .client trace) := by
  obtain ⟨light, final, ran, sides⟩ := shadow_runs run
  obtain ⟨same, ledger, kept, casts⟩ := sides .client
  have beside := casts.related fun _ _ _ _ _ => Rests.beside
  obtain ⟨inner, stopped, own, steps, whole⟩ := (ran.project .client).of_embed
  have accounts := Base.accounts own
  have known : Journal.of inner = (ackJournal .client trace).plain := by
    rw [← same, journal, steps, Journal.of_embed]
  rw [known] at accounts
  have placed : (final.parties.of .client).state = .inl stopped.state := by
    rw [whole]
    cases stopped <;> rfl
  rw [placed] at beside
  change Beside ledger last.parties.client.state _ at beside
  cases stands : last.parties.client.state with
  | inr endpoint =>
      rw [stands] at beside
      cases beside
  | inl sketch =>
      rw [stands] at beside
      obtain ⟨line, typed, counted, heard, _⟩ := beside
      refine ⟨sketch, rfl, ?_, ?_, ?_, ack_short run .client accounts.short⟩
      · have waiting : sketch.base.transmitter.waiting = stopped.state.transmitter.waiting :=
          congrArg Line.waiting line
        rw [waiting]
        exact typed_with_acks kept typed (accounts.typed fits)
      · exact counted_with_acks kept counted accounts.counts.counted
      · exact received_subperm kept accounts.counts.known heard

/-- The endpoint with acknowledgements, wherever it stops. -/
theorem ack_endpoint_accounts
    (run : Pair.Runs ackEther (AckSketches.start iterations) trace last)
    (seaphox : Endpoint.routing.Fits 254 ((ackJournal .server trace).read .seaphox))
    (procv : Endpoint.routing.Fits 254 ((ackJournal .server trace).read .procv)) :
    ∃ sketch : AckEndpoint, last.parties.server.state = .inr sketch ∧
      sketch.endpoint.inputBufCksum = cksum (payloads (ackJournal .server trace).sent) +
        (cksum sketch.endpoint.seaphox.waiting + cksum sketch.endpoint.procv.waiting) ∧
      sketch.endpoint.receiver.outputBufCksum =
        cksum ((ackJournal .server trace).received.flatMap heardPayload) ∧
      (ackJournal .server trace).received.Subperm (ackJournal .server trace).heard ∧
      Short (ackJournal .server trace) := by
  obtain ⟨light, final, ran, sides⟩ := shadow_runs run
  obtain ⟨same, ledger, kept, casts⟩ := sides .server
  have beside := casts.related fun _ _ _ _ _ => Rests.beside
  obtain ⟨inner, stopped, own, steps, whole⟩ := (ran.project .server).of_embed
  have accounts := Endpoint.accounts own
  have known : Journal.of inner = (ackJournal .server trace).plain := by
    rw [← same, journal, steps, Journal.of_embed]
  rw [known] at accounts
  have placed : (final.parties.of .server).state = .inr stopped.state := by
    rw [whole]
    cases stopped <;> rfl
  rw [placed] at beside
  change Beside ledger last.parties.server.state _ at beside
  cases stands : last.parties.server.state with
  | inl base =>
      rw [stands] at beside
      cases beside
  | inr sketch =>
      rw [stands] at beside
      obtain ⟨first, second, typed, counted, heard, _⟩ := beside
      refine ⟨sketch, rfl, ?_, ?_, ?_, ack_short run .server accounts.short⟩
      · rw [first, second]
        exact typed_with_acks kept typed (accounts.typed seaphox procv)
      · exact counted_with_acks kept counted accounts.counts.counted
      · exact received_subperm kept accounts.counts.known heard

/-- Acknowledgements are counted on both sides: in every reachable state the sum of a sender
is that of its receiver, of the packets on their way or lost, acknowledgements among them, and
of the bytes that wait in its line buffers. -/
theorem acks_are_counted (run : Pair.Runs ackEther (AckSketches.start iterations) trace last)
    (typed : Base.routing.Fits 250 ((ackJournal .client trace).read .usb))
    (measured : ∀ sensor : Sensor, sensor ≠ .none →
      Endpoint.routing.Fits 250 ((ackJournal .server trace).read sensor.port)) :
    ∃ (base : AckBase) (endpoint : AckEndpoint),
      last.parties.client.state = .inl base ∧ last.parties.server.state = .inr endpoint ∧
      Conserved base.base.transmitter.inputBufCksum endpoint.endpoint.receiver.outputBufCksum
        (flying (ackJournal .client trace).sent (ackJournal .server trace).received)
        base.base.transmitter.waiting ∧
      Conserved endpoint.endpoint.inputBufCksum base.base.receiver.outputBufCksum
        (flying (ackJournal .server trace).sent (ackJournal .client trace).received)
        (endpoint.endpoint.seaphox.waiting ++ endpoint.endpoint.procv.waiting) := by
  obtain ⟨base, near, input, output, early, short⟩ :=
    ack_base_accounts run (typed.mono (by decide))
  obtain ⟨endpoint, far, sum, total, late, brief⟩ := ack_endpoint_accounts run
    ((measured .seapHOx (by decide)).mono (by decide))
    ((measured .proCV (by decide)).mono (by decide))
  have requests := late.trans (ack_heard_sublist_sent run .server).subperm
  have responses := early.trans (ack_heard_sublist_sent run .client).subperm
  refine ⟨base, endpoint, near, far, conserved ?_, conserved ?_⟩
  · rw [input, cksum_payloads short requests (List.prefix_refl _), total]
  · rw [sum, cksum_append, cksum_payloads brief responses (List.prefix_refl _), output]

theorem acks_are_counted_thanked : ∃ (base : AckBase) (endpoint : AckEndpoint),
    thanked.2.parties.client.state = .inl base ∧ thanked.2.parties.server.state = .inr endpoint ∧
      endpoint.endpoint.inputBufCksum = base.base.receiver.outputBufCksum := by
  have run : Pair.Runs ackEther (AckSketches.start ⟨2, 1⟩) thanked.1 thanked.2 :=
    Pair.play_runs _ _ _ _
  have typed : (ackJournal .client thanked.1).read .usb = [36, 65, 10] := by decide +kernel
  have seaphox : (ackJournal .server thanked.1).read .seaphox = [] := by decide +kernel
  have procv : (ackJournal .server thanked.1).read .procv = [] := by decide +kernel
  obtain ⟨base, endpoint, near, far, _, sums⟩ := acks_are_counted run
    (by rw [typed]; exact LineFormat.fits_of_length_le _ (by decide)) fun sensor chosen => by
      cases sensor with
      | none => exact absurd rfl chosen
      | seapHOx =>
          show Endpoint.routing.Fits 250 ((ackJournal .server thanked.1).read .seaphox)
          rw [seaphox]
          exact LineFormat.fits_of_length_le _ (by decide)
      | proCV =>
          show Endpoint.routing.Fits 250 ((ackJournal .server thanked.1).read .procv)
          rw [procv]
          exact LineFormat.fits_of_length_le _ (by decide)
  refine ⟨base, endpoint, near, far, sums.settled (by decide +kernel) ?_⟩
  have waits : thanked.2.parties.server.state.elim (fun _ => [])
      (fun sketch => sketch.endpoint.seaphox.waiting ++ sketch.endpoint.procv.waiting) = [] := by
    decide +kernel
  rw [far] at waits
  exact waits

end Run

end Roam.Bridge
