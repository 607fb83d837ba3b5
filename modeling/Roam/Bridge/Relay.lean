import Roam.Interaction.Lossy
import Roam.Interaction.Refinement
import Roam.Bridge.InBounds

/-!
# The bridge on the air

The two sketches of the bridge side by side, on an air that may lose any packet at any
time.  Whatever is lost, lines get through whole, once and in their order, or not at
all.  A run may stop anywhere; what it has printed by then is judged by what it would
have printed if nothing more came in.
-/

namespace Roam.Bridge

open Roam.Data Roam.Interaction

/-! ## Packets between the sketches -/

/-- Packets are all that goes from one sketch to the other. -/
def traffic : Traffic Action Action.Answer (List UInt8) where
  sends
    | .send packet => some packet
    | _ => none
  hears
    | .recv _, packet => packet
    | _, _ => none

/-- The state of one of the two sketches. -/
abbrev Sketch : Type := Base ⊕ Endpoint

/-- The two sketches in execution, with the packets on their way. -/
abbrev Sketches : Type := Pair Sketch Action Action.Answer Unit (Both (List (List UInt8)))

abbrev SketchEvent : Type := Event Sketch Action Action.Answer

/-- The air between the sketches. -/
abbrev ether : Medium Sketch Action Action.Answer (Both (List (List UInt8))) := traffic.medium

/-- The base is the client and the endpoint the server; both are switched on. -/
def Sketches.start (iterations : Both Nat) : Sketches where
  parties :=
    ⟨(Base.loops iterations.client {}).embed Sum.inl,
      (Endpoint.loops iterations.server {}).embed Sum.inr⟩
  air := ⟨[], []⟩

/-- What one sketch has done to its surroundings. -/
def journal (side : Side) (trace : List SketchEvent) : Journal := Journal.of (Pair.steps side trace)

namespace Journal

theorem heard_of {State : Type} (trace : List (SketchStep State)) :
    (Journal.of trace).heard = traffic.heard trace := by
  induction trace using List.reverseRecOn with
  | nil => rfl
  | append_singleton front step ih =>
      rw [Journal.of, List.foldl_append, Traffic.heard, List.flatMap_append, List.flatMap_singleton]
      show ((Journal.of front).observe step.action step.answer).heard = traffic.heard front ++ _
      rw [← ih]
      obtain ⟨state, action, answer⟩ := step
      cases action with
      | recv capacity => rfl
      | index access array position size =>
          refine Eq.trans ?_ (List.append_nil _).symm
          exact (apply_ite Journal.heard _ _ _).trans (ite_self _)
      | _ => exact (List.append_nil _).symm

theorem sent_of {State : Type} (trace : List (SketchStep State)) :
    (Journal.of trace).sent = traffic.sent trace := by
  induction trace using List.reverseRecOn with
  | nil => rfl
  | append_singleton front step ih =>
      rw [Journal.of, List.foldl_append, Traffic.sent, List.flatMap_append, List.flatMap_singleton]
      show ((Journal.of front).observe step.action step.answer).sent = traffic.sent front ++ _
      rw [sent_observe, ih]
      obtain ⟨state, action, answer⟩ := step
      cases action <;> rfl

/-- What has been printed stays printed. -/
theorem printed_prefix {State : Type} (port : Port) (before later : List (SketchStep State)) :
    (Journal.of before).printed port <+: (Journal.of (before ++ later)).printed port := by
  induction later using List.reverseRecOn with
  | nil => rw [List.append_nil]
  | append_singleton front step ih =>
      rw [← List.append_assoc, Journal.of, Journal.of, List.foldl_append]
      refine ih.trans ?_
      show _ <+: ((Journal.of (before ++ front)).observe step.action step.answer).printed port
      obtain ⟨state, action, answer⟩ := step
      cases action with
      | print other byte =>
          show _ <+: extend (Journal.of (before ++ front)).printed other [byte] port
          unfold extend
          split
          · exact List.prefix_append _ _
          · exact List.prefix_refl _
      | index access array position size =>
          rw [show (Journal.observe _ (.index access array position size) answer).printed =
            (Journal.of (before ++ front)).printed from
              (apply_ite Journal.printed _ _ _).trans (ite_self _)]
      | _ => exact List.prefix_refl _

theorem of_embed {State Whole : Type} (whole : State → Whole) (trace : List (SketchStep State)) :
    Journal.of (trace.map (Step.embed whole)) = Journal.of trace := List.foldl_map

end Journal

/-- What a sketch hears was sent by the other one. -/
theorem heard_sublist_sent {iterations : Both Nat} {trace : List SketchEvent} {last : Sketches}
    (run : Pair.Runs ether (Sketches.start iterations) trace last) (side : Side) :
    (journal side trace).heard.Sublist (journal side.peer trace).sent := by
  unfold journal
  rw [Journal.heard_of, Journal.sent_of]
  have heard := traffic.heard_sublist run side
  cases side <;> exact heard

/-! ## To the end in silence -/

/-- The contract of surroundings from which nothing more comes in. -/
def still {State : Type} : Contract State Action Action.Answer Unit where
  require _ _ _ := True
  allow _ _ action answer := Silent action answer ∧ traffic.hears action answer = none
  record _ _ _ _ := ()

theorem still_live (action : Action) :
    ∃ answer : action.Answer, Silent action answer ∧ traffic.hears action answer = none := by
  cases action with
  | arrive port => exact ⟨[], rfl, rfl⟩
  | recv capacity => exact ⟨none, rfl, rfl⟩
  | millis => exact ⟨0, rfl, rfl⟩
  | _ => exact ⟨(), rfl, rfl⟩

/-- A run that has stopped could be finished without anything more coming in: all that has
arrived or been heard is what it was, and what was sent or printed is still that. -/
theorem finished_in_silence {State Whole : Type} {whole : State → Whole}
    {first : Resumption State Action Action.Answer Unit} {trace : List (SketchStep Whole)}
    {last : Resumption Whole Action Action.Answer Unit}
    (run : Resumption.Runs (first.embed whole) trace last) :
    ∃ (complete : List (SketchStep State)) (final : State),
      Resumption.Runs first complete (.done final ()) ∧
      (Journal.of complete).arrived = (Journal.of trace).arrived ∧
      (Journal.of complete).heard = (Journal.of trace).heard ∧
      (Journal.of trace).sent <+: (Journal.of complete).sent ∧
      (∀ port, (Journal.of trace).printed port <+: (Journal.of complete).printed port) ∧
      ((∃ state, last = .done state ()) → Journal.of complete = Journal.of trace) := by
  obtain ⟨inner, stopped, own, rfl, rfl⟩ := run.of_embed
  rw [Journal.of_embed]
  have meets : stopped.Meets still (fun _ _ _ => True) () :=
    (Resumption.Meets.undemanding (fun _ _ _ => trivial) _ _).mono fun _ _ _ _ => trivial
  obtain ⟨rest, final, _, further, quietly, _⟩ := meets.exists_run fun _ _ action _ => still_live action
  have silent : ∀ step ∈ rest, Silent step.action step.answer ∧
      traffic.hears step.action step.answer = none :=
    (still.allows_iff (fun _ _ _ _ => Iff.rfl) () rest).1 quietly
  have deaf : traffic.heard rest = [] := by
    refine List.flatMap_eq_nil_iff.2 fun step member => ?_
    rw [(silent step member).2]
    rfl
  refine ⟨inner ++ rest, final, own.append further, ?_, ?_, ?_, fun port => ?_, ?_⟩
  · exact Journal.arrived_append inner fun step member => (silent step member).1
  · rw [Journal.heard_of, Journal.heard_of, Traffic.heard, List.flatMap_append]
    exact (congrArg _ deaf).trans (List.append_nil _)
  · rw [Journal.sent_of, Journal.sent_of, Traffic.sent, Traffic.sent, List.flatMap_append]
    exact List.prefix_append _ _
  · exact Journal.printed_prefix port inner rest
  · rintro ⟨state, ended⟩
    cases stopped with
    | done =>
        cases further
        rw [List.append_nil]
    | ask => cases ended

/-! ## Lines sent -/

/-- The packets a channel has sent are the first of the lines that its port has ended. -/
theorem Channel.Rests.sent_prefix {channel : Channel} {journal : Journal} {line : Line}
    {sensor : Sensor} (rests : channel.Rests journal line sensor)
    (fits : channel.routing.Fits 250 (journal.arrived channel.port)) :
    journal.sent.filter channel.mine <+:
      (channel.routing.read channel.initial (journal.arrived channel.port)).routed.map
        channel.packet := by
  have arrived := rests.follows.arrived
  rw [arrived] at fits
  rw [rests.sent_eq (fits.front.mono (by decide)), arrived]
  exact (channel.routing.routed_prefix _ _ _).map channel.packet

/-- The port of a sensor. -/
def Sensor.port : Sensor → Port
  | .none => .usb
  | .seapHOx => .seaphox
  | .proCV => .procv

/-- The typed lines that have been ended for one sensor. -/
def typedFor (sensor : Sensor) (typed : List UInt8) : List (List UInt8) :=
  ((Base.routing.read .none typed).routed.filter (·.1 = sensor)).map Prod.snd

theorem flatten_filter (sensor : Sensor) (routed : List (Sensor × List UInt8)) :
    (routed.flatMap fun line => if line.1 = sensor then line.2 else []) =
      ((routed.filter (·.1 = sensor)).map Prod.snd).flatten := by
  induction routed with
  | nil => rfl
  | cons line routed ih =>
      rw [List.flatMap_cons, ih]
      by_cases same : line.1 = sensor
      · simp [same]
      · simp [same]

section Stopped

variable {iterations : Both Nat} {trace : List SketchEvent} {last : Sketches}

/-- The lines the base has sent, wherever the two sketches stop. -/
theorem base_sends (run : Pair.Runs ether (Sketches.start iterations) trace last)
    (fits : Base.routing.Fits 250 ((journal .client trace).arrived .usb)) :
    (journal .client trace).sent <+:
      (Base.routing.read .none ((journal .client trace).arrived .usb)).routed.map
        Base.channel.packet ∧ Short (journal .client trace) := by
  obtain ⟨complete, base, finished, arrived, _, sent, _⟩ := finished_in_silence (run.project .client)
  have rests : Base.Rests (Journal.of complete) base :=
    (Base.loops_keeps _ {} {} Base.rests_start).runs finished (Contract.insisting_allows _ _)
  have all : (Journal.of complete).sent.filter Base.channel.mine = (Journal.of complete).sent :=
    List.filter_eq_self.2 fun _ _ => rfl
  unfold journal at fits ⊢
  rw [← arrived] at fits ⊢
  constructor
  · exact sent.trans (all ▸ rests.line.sent_prefix fits)
  · exact fun packet member => rests.short packet (sent.subset member)

/-- The lines the endpoint has sent, wherever the two sketches stop. -/
theorem endpoint_sends (run : Pair.Runs ether (Sketches.start iterations) trace last)
    (fits : ∀ sensor : Sensor, sensor ≠ .none →
      Endpoint.routing.Fits 250 ((journal .server trace).arrived sensor.port)) :
    (∀ sensor : Sensor, sensor ≠ .none →
      ((journal .server trace).sent.filter (hasType (Endpoint.msgType sensor))).map (List.drop 1) <+:
        (Endpoint.routing.assemble ((journal .server trace).arrived sensor.port)).completed) ∧
      Endpoint.Own (journal .server trace) ∧ Short (journal .server trace) := by
  obtain ⟨complete, endpoint, finished, arrived, _, sent, _⟩ :=
    finished_in_silence (run.project .server)
  have rests : Endpoint.Rests (Journal.of complete) endpoint :=
    (Endpoint.loops_keeps _ {} {} Endpoint.rests_start).runs finished
      (Contract.insisting_allows _ _)
  unfold journal at fits ⊢
  rw [← arrived] at fits ⊢
  have lines {port : Port} {array : ArrayName} {line : Line} {sensor : Sensor}
      (resting : (Endpoint.channel port array sensor).Rests (Journal.of complete) line sensor)
      (fitting : Endpoint.routing.Fits 250 ((Journal.of complete).arrived port)) :
      ((Journal.of (Pair.steps .server trace)).sent.filter
        (hasType (Endpoint.msgType sensor))).map (List.drop 1) <+:
          (Endpoint.routing.assemble ((Journal.of complete).arrived port)).completed := by
    have begun := resting.sent_prefix fitting
    have routed : (Endpoint.routing.read sensor ((Journal.of complete).arrived port)).routed = _ :=
      Endpoint.routed_eq sensor _
    change _ <+: (Endpoint.routing.read sensor ((Journal.of complete).arrived port)).routed.map _
      at begun
    rw [routed, List.map_map] at begun
    have stripped := ((sent.filter _).trans begun).map (List.drop 1)
    have same : List.drop 1 ∘ (Endpoint.channel port array sensor).packet ∘ (sensor, ·) = id := rfl
    rw [List.map_map, same, List.map_id] at stripped
    exact stripped
  refine ⟨fun sensor chosen => ?_, fun packet member => rests.own packet (sent.subset member),
    fun packet member => rests.short packet (sent.subset member)⟩
  cases sensor with
  | none => exact absurd rfl chosen
  | seapHOx => exact lines rests.seaphox (fits _ chosen)
  | proCV => exact lines rests.procv (fits _ chosen)

/-- What is printed to a sensor, wherever the two sketches stop. -/
theorem endpoint_prints (run : Pair.Runs ether (Sketches.start iterations) trace last)
    (fits : Base.routing.Fits 250 ((journal .client trace).arrived .usb)) {sensor : Sensor}
    (chosen : sensor ≠ .none) :
    ∃ lines : List (List UInt8),
      lines.Sublist (typedFor sensor ((journal .client trace).arrived .usb)) ∧
      (journal .server trace).printed sensor.port <+: lines.flatten ∧
      ((∃ state, last.parties.server = .done state ()) →
        (journal .server trace).printed sensor.port = lines.flatten) := by
  have heard := heard_sublist_sent run .server
  obtain ⟨sent, within⟩ := base_sends run fits
  have short : ∀ packet ∈ (journal .server trace).heard, packet.length ≤ maxMessageLen :=
    fun packet member => within packet (heard.subset member)
  obtain ⟨routed, among, lines⟩ := List.sublist_map_iff.1 (heard.trans sent.sublist)
  obtain ⟨complete, endpoint, finished, _, same, _, printed, stops⟩ :=
    finished_in_silence (run.project .server)
  have rests : Endpoint.Rests (Journal.of complete) endpoint :=
    (Endpoint.loops_keeps _ {} {} Endpoint.rests_start).runs finished
      (Contract.insisting_allows _ _)
  have selects : ∀ mode, sensor.port ∈ Endpoint.outlets (Base.msgType mode).code ↔ mode = sensor := by
    cases sensor with
    | none => exact absurd rfl chosen
    | seapHOx => exact fun mode => by cases mode <;> decide
    | proCV => exact fun mode => by cases mode <;> decide
  have shown : (Journal.of complete).printed sensor.port =
      ((routed.filter (·.1 = sensor)).map Prod.snd).flatten := by
    unfold journal at lines
    rw [rests.hears.printed, same, ← flatten_filter, lines, List.flatMap_map]
    refine List.flatMap_congr fun line member => ?_
    exact Endpoint.shows_packet selects line (short _ (lines ▸ List.mem_map_of_mem member))
  refine ⟨_, (among.filter _).map Prod.snd, shown ▸ printed _, fun ended => ?_⟩
  rw [← shown, stops ended]
  rfl

/-- The sensor a packet of the endpoint speaks for. -/
def speaker (packet : List UInt8) : Sensor :=
  if hasType .seaphoxDataRsp packet = true then .seapHOx else .proCV

theorem speaker_eq_iff {packet : List UInt8}
    (own : Endpoint.seaphoxChannel.mine packet = true ∨ Endpoint.procvChannel.mine packet = true)
    {sensor : Sensor} (chosen : sensor ≠ .none) :
    speaker packet = sensor ↔ hasType (Endpoint.msgType sensor) packet = true := by
  have seaphox : packet.head? = some (Endpoint.msgType .seapHOx).code ↔
      hasType .seaphoxDataRsp packet = true := decide_eq_true_iff.symm
  have procv : packet.head? = some (Endpoint.msgType .proCV).code ↔
      hasType .procvDataRsp packet = true := decide_eq_true_iff.symm
  unfold speaker
  split
  · rename_i speaks
    have other : ¬ hasType .procvDataRsp packet = true := by
      rw [← procv, seaphox.2 speaks]
      decide
    cases sensor with
    | none => exact absurd rfl chosen
    | seapHOx => exact iff_of_true rfl speaks
    | proCV => exact iff_of_false nofun other
  · rename_i silent
    have speaks : hasType .procvDataRsp packet = true := own.resolve_left silent
    cases sensor with
    | none => exact absurd rfl chosen
    | seapHOx => exact iff_of_false nofun silent
    | proCV => exact iff_of_true rfl speaks

/-- What is printed to the user, wherever the two sketches stop. -/
theorem base_prints (run : Pair.Runs ether (Sketches.start iterations) trace last)
    (fits : ∀ sensor : Sensor, sensor ≠ .none →
      Endpoint.routing.Fits 250 ((journal .server trace).arrived sensor.port)) :
    ∃ lines : List (Sensor × List UInt8), (∀ line ∈ lines, line.1 ≠ .none) ∧
      (∀ sensor : Sensor, sensor ≠ .none → ((lines.filter (·.1 = sensor)).map Prod.snd).Sublist
        (Endpoint.routing.assemble ((journal .server trace).arrived sensor.port)).completed) ∧
      (journal .client trace).printed .usb <+: lines.flatMap Prod.snd ∧
      ((∃ state, last.parties.client = .done state ()) →
        (journal .client trace).printed .usb = lines.flatMap Prod.snd) := by
  have heard := heard_sublist_sent run .client
  obtain ⟨sent, own, within⟩ := endpoint_sends run fits
  obtain ⟨complete, base, finished, _, same, _, printed, stops⟩ :=
    finished_in_silence (run.project .client)
  have rests : Base.Rests (Journal.of complete) base :=
    (Base.loops_keeps _ {} {} Base.rests_start).runs finished (Contract.insisting_allows _ _)
  let line (packet : List UInt8) : Sensor × List UInt8 := (speaker packet, packet.drop 1)
  have shown : (Journal.of complete).printed .usb =
      ((journal .client trace).heard.map line).flatMap Prod.snd := by
    rw [rests.hears.printed, same, List.flatMap_map]
    refine List.flatMap_congr fun packet member => ?_
    have short := within packet (heard.subset member)
    show heardPayload packet = packet.drop 1
    rw [heardPayload, List.take_of_length_le short]
  refine ⟨(journal .client trace).heard.map line, ?_, fun sensor chosen => ?_, ?_, fun ended => ?_⟩
  · refine List.forall_mem_map.2 fun packet _ => ?_
    show speaker packet ≠ .none
    unfold speaker
    split <;> decide
  · rw [List.filter_map, List.map_map]
    have picked : (journal .client trace).heard.filter ((fun line => decide (line.1 = sensor)) ∘ line) =
        (journal .client trace).heard.filter (hasType (Endpoint.msgType sensor)) := by
      refine List.filter_congr fun packet member => ?_
      show decide (speaker packet = sensor) = hasType (Endpoint.msgType sensor) packet
      rw [Bool.eq_iff_iff, decide_eq_true_iff]
      exact speaker_eq_iff (own packet (heard.subset member)) chosen
    rw [picked]
    exact ((heard.filter _).map (List.drop 1)).trans (sent sensor chosen).sublist
  · exact shown ▸ printed .usb
  · rw [← shown, stops ended]
    rfl

/-- The bridge on an air that may lose any packet, wherever its sketches stop: what has been
written to a sensor is made of lines that were typed for it, and what the user has been shown
is made of lines that the sensors wrote, those of each sensor in their order, each once and
whole.  Only the last line may be cut short, and not once the sketch has finished. -/
theorem lines_get_through_whole
    (run : Pair.Runs ether (Sketches.start iterations) trace last)
    (typed : Base.routing.Fits 250 ((journal .client trace).arrived .usb))
    (measured : ∀ sensor : Sensor, sensor ≠ .none →
      Endpoint.routing.Fits 250 ((journal .server trace).arrived sensor.port)) :
    (∀ sensor : Sensor, sensor ≠ .none → ∃ lines : List (List UInt8),
      lines.Sublist (typedFor sensor ((journal .client trace).arrived .usb)) ∧
      (journal .server trace).printed sensor.port <+: lines.flatten ∧
      ((∃ state, last.parties.server = .done state ()) →
        (journal .server trace).printed sensor.port = lines.flatten)) ∧
    ∃ lines : List (Sensor × List UInt8), (∀ line ∈ lines, line.1 ≠ .none) ∧
      (∀ sensor : Sensor, sensor ≠ .none → ((lines.filter (·.1 = sensor)).map Prod.snd).Sublist
        (Endpoint.routing.assemble ((journal .server trace).arrived sensor.port)).completed) ∧
      (journal .client trace).printed .usb <+: lines.flatMap Prod.snd ∧
      ((∃ state, last.parties.client = .done state ()) →
        (journal .client trace).printed .usb = lines.flatMap Prod.snd) :=
  ⟨fun _ chosen => endpoint_prints run typed chosen, base_prints run measured⟩

end Stopped

/-- Surroundings that bring characters by the position in the run, and the last packet that is
on its way; the earlier ones are lost. -/
def hasty (arrivals : Nat → Port → List UInt8) (position : Nat)
    (air : Both (List (List UInt8))) (side : Side) (_ : Sketch) (action : Action)
    (_ : Option (Sketch × Action)) : Option action.Answer :=
  match action with
  | .recv _ => some (air.of side.peer).getLast?
  | action => some (({ arrivals := arrivals } : Surroundings).answer position action)

/-- The SeapHOx writes two lines, and the base is switched on when both are sent. -/
def readingMissed : List SketchEvent × Sketches :=
  Pair.play ether (hasty fun position port =>
      if position = 1 ∧ port = .seaphox then [65, 13, 66, 67, 10] else [])
    0 (List.replicate 32 .server ++ List.replicate 20 .client) (Sketches.start ⟨1, 2⟩)

theorem lines_get_through_whole_reading :
    ∃ lines : List (Sensor × List UInt8), [66, 67] <+: lines.flatMap Prod.snd ∧
      ((lines.filter (·.1 = .seapHOx)).map Prod.snd).Sublist [[65], [66, 67]] := by
  have typed : (journal .client readingMissed.1).arrived .usb = [] := by decide +kernel
  have seaphox : (journal .server readingMissed.1).arrived .seaphox = [65, 13, 66, 67, 10] := by
    decide +kernel
  have procv : (journal .server readingMissed.1).arrived .procv = [] := by decide +kernel
  have printed : (journal .client readingMissed.1).printed .usb = [66, 67] := by decide +kernel
  have run : Pair.Runs ether (Sketches.start ⟨1, 2⟩) readingMissed.1 readingMissed.2 :=
    Pair.play_runs _ _ _ _
  have nothing : Base.routing.Fits 250 ((journal .client readingMissed.1).arrived .usb) := by
    rw [typed]
    exact LineFormat.fits_of_length_le _ (by decide)
  have measured : ∀ sensor : Sensor, sensor ≠ .none →
      Endpoint.routing.Fits 250 ((journal .server readingMissed.1).arrived sensor.port) := by
    intro sensor chosen
    cases sensor with
    | none => exact absurd rfl chosen
    | seapHOx =>
        show Endpoint.routing.Fits 250 ((journal .server readingMissed.1).arrived .seaphox)
        rw [seaphox]
        exact LineFormat.fits_of_length_le _ (by decide)
    | proCV =>
        show Endpoint.routing.Fits 250 ((journal .server readingMissed.1).arrived .procv)
        rw [procv]
        exact LineFormat.fits_of_length_le _ (by decide)
  obtain ⟨_, lines, _, among, shown, _⟩ := lines_get_through_whole run nothing measured
  have own := among .seapHOx (by decide)
  change ((lines.filter (·.1 = .seapHOx)).map Prod.snd).Sublist
    (Endpoint.routing.assemble ((journal .server readingMissed.1).arrived .seaphox)).completed at own
  rw [seaphox] at own
  exact ⟨lines, printed ▸ shown, own.trans (by decide)⟩

end Roam.Bridge
