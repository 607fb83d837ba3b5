import Roam.Bridge.Conservation

/-!
# Bounds of the line buffers

No sketch tests the index of a line buffer.  The buffers have room for 254 bytes
behind the type byte; a line that leaves more is written beyond its buffer, and the
index wraps to zero.  As long as no line leaves more, every write stays inside.
-/

namespace Roam.Bridge

open Roam.Data Roam.Interaction

/-- Every write to the array is inside it. -/
def Action.WithinBuf (array : ArrayName) (action : Action) : Prop :=
  ∀ access position size, action = .index access array position size → access.Inside position

namespace Journal

theorem outside_observe (journal : Journal) (array : ArrayName) (action : Action)
    (answer : action.Answer) :
    array ∈ (journal.observe action answer).outside ↔
      array ∈ journal.outside ∨ ¬ action.WithinBuf array := by
  cases action with
  | index access written position size =>
      by_cases inside : access.Inside position
      · have within : (Action.index access written position size).WithinBuf array := by
          rintro _ _ _ ⟨⟩
          exact inside
        rw [observe_inside _ _ _ inside]
        exact (or_iff_left (not_not_intro within)).symm
      · have stray : ¬ (Action.index access written position size).WithinBuf array ↔
            array = written := by
          constructor
          · intro out
            by_contra ne
            exact out fun _ _ _ same => absurd (Action.index.inj same).2.1.symm ne
          · rintro rfl within
            exact inside (within _ _ _ rfl)
        rw [observe_outside _ _ _ inside, List.mem_cons, stray, or_comm]
  | _ => exact (or_iff_left (not_not_intro nofun)).symm

/-- The journal lists the arrays that were written outside. -/
theorem outside_of {State : Type} (array : ArrayName) (trace : List (SketchStep State)) :
    array ∉ (Journal.of trace).outside ↔ ∀ step ∈ trace, step.action.WithinBuf array := by
  induction trace using List.reverseRecOn with
  | nil => exact iff_of_true List.not_mem_nil nofun
  | append_singleton front step ih =>
      rw [Journal.of, List.foldl_append, List.forall_mem_append, ← ih, List.forall_mem_singleton]
      exact (not_congr (outside_observe _ array step.action step.answer)).trans
        (not_or.trans (and_congr_right' not_not))

/-- What has been read stays read. -/
theorem read_prefix_observe (journal : Journal) (port : Port) (action : Action)
    (answer : action.Answer) : journal.read port <+: (journal.observe action answer).read port := by
  cases action with
  | read other inputChar =>
      show _ <+: extend journal.read other [inputChar] port
      unfold extend
      split
      · exact List.prefix_append _ _
      · exact List.prefix_refl _
  | index access array position size =>
      rw [show (journal.observe (.index access array position size) answer).read = journal.read from
        (apply_ite Journal.read _ _ _).trans (ite_self _)]
  | _ => exact List.prefix_refl _

theorem read_prefix {State : Type} (port : Port) (before later : List (SketchStep State)) :
    (Journal.of before).read port <+: (Journal.of (before ++ later)).read port := by
  induction later using List.reverseRecOn with
  | nil => rw [List.append_nil]
  | append_singleton front step ih =>
      rw [← List.append_assoc, Journal.of, Journal.of, List.foldl_append]
      exact ih.trans (read_prefix_observe _ port step.action step.answer)

end Journal

/-- What a program guarantees whenever it acts. -/
theorem accounts_at {State : Type} {accounts keep : Journal → State → Prop}
    {program : SketchM State Unit}
    (keeps : Keeps (recording fun journal state _ => accounts journal state) keep program)
    {start : State} (started : keep {} start) {before later : List (SketchStep State)}
    {step : SketchStep State} {last : Resumption State Action Action.Answer Unit}
    (run : Resumption.Runs (program start) (before ++ step :: later) last) :
    accounts (Journal.of before) step.state :=
  (keeps {} start started).required run (Contract.insisting_allows _ _)

/-- The writes of a channel stay inside its buffer, and its index does not wrap,
exactly if no line has left more than the buffer holds. -/
theorem Channel.Follows.in_bounds_iff {channel : Channel} {State : Type}
    {trace : List (SketchStep State)} {final : Line} {sensor : Sensor}
    (ended : channel.Follows (Journal.of trace) final sensor)
    (lineOf : State → Line)
    (bounded : ∀ before step later, trace = before ++ step :: later →
      channel.Bounded (Journal.of before) (lineOf step.state)) :
    (∀ step ∈ trace, step.action.WithinBuf channel.array ∧ (lineOf step.state).bufIdx ≠ 0) ↔
      channel.Fits (Journal.of trace) := by
  constructor
  · intro inside
    by_contra broken
    have stray := ended.outside broken
    exact (Journal.outside_of _ _).2 (fun step member => (inside step member).1) stray
  · intro fits step member
    refine ⟨(Journal.outside_of _ _).1 (ended.inside fits).1 step member, fun zero => ?_⟩
    obtain ⟨before, later, rfl⟩ := List.append_of_mem member
    obtain ⟨unread, more⟩ := Journal.read_prefix channel.port before (step :: later)
    have early : channel.Fits (Journal.of before) := by
      unfold Channel.Fits at fits
      rw [← more] at fits
      exact fits.front
    have started := (bounded before step later rfl early).2
    rw [zero] at started
    exact absurd started (by decide)

section Bridge

variable {first second : Nat} {baseTrace : List (SketchStep Base)}
variable {endpointTrace : List (SketchStep Endpoint)} {base : Base} {endpoint : Endpoint}

/-- The writes to the line buffers stay inside, and the indices do not wrap, exactly if
no line has left more than 254 bytes. -/
theorem buffers_in_bounds_iff
    (baseRun : Resumption.Runs (Base.loops first {}) baseTrace (.done base ()))
    (endpointRun : Resumption.Runs (Endpoint.loops second {}) endpointTrace (.done endpoint ())) :
    ((∀ step ∈ baseTrace,
        step.action.WithinBuf .inputBuf ∧ step.state.transmitter.bufIdx ≠ 0) ↔
      Base.routing.Fits 254 ((Journal.of baseTrace).read .usb)) ∧
    ((∀ step ∈ endpointTrace,
        step.action.WithinBuf .seaphoxBuf ∧ step.state.seaphox.bufIdx ≠ 0) ↔
      Endpoint.routing.Fits 254 ((Journal.of endpointTrace).read .seaphox)) ∧
    ((∀ step ∈ endpointTrace,
        step.action.WithinBuf .procvBuf ∧ step.state.procv.bufIdx ≠ 0) ↔
      Endpoint.routing.Fits 254 ((Journal.of endpointTrace).read .procv)) := by
  have near : Base.Rests (Journal.of baseTrace) base :=
    (Base.loops_keeps first {} {} Base.rests_start).runs baseRun (Contract.insisting_allows _ _)
  have far : Endpoint.Rests (Journal.of endpointTrace) endpoint :=
    (Endpoint.loops_keeps second {} {} Endpoint.rests_start).runs endpointRun
      (Contract.insisting_allows _ _)
  refine ⟨near.line.follows.in_bounds_iff (fun base : Base => base.transmitter.toLine) ?_,
    far.seaphox.follows.in_bounds_iff Endpoint.seaphox ?_,
    far.procv.follows.in_bounds_iff Endpoint.procv ?_⟩
  · rintro before step later rfl
    exact (accounts_at (Base.loops_keeps first) Base.rests_start baseRun).bounded
  · rintro before step later rfl
    exact (accounts_at (Endpoint.loops_keeps second) Endpoint.rests_start endpointRun).seaphox
  · rintro before step later rfl
    exact (accounts_at (Endpoint.loops_keeps second) Endpoint.rests_start endpointRun).procv

end Bridge

/-- A typed character that no line end follows is kept 255 times. -/
def flood : List (SketchStep Base) × Base × Unit :=
  Surroundings.run { arrivals := fun position _ =>
      if position = 0 then List.replicate 255 97 else [] }
    (Base.loops 1) {}

theorem flood_runs : Resumption.Runs (Base.loops 1 {}) flood.1 (.done flood.2.1 ()) :=
  Surroundings.run_runs _ _ _

/-- The last of the characters is written behind the buffer. -/
theorem flood_stray : ∃ step ∈ flood.1, ¬ step.action.WithinBuf .inputBuf := by
  have wrote : (flood.1.any fun step =>
      step.action = .index .character .inputBuf 255 maxMessageLen) = true := by decide +kernel
  obtain ⟨step, member, same⟩ := List.any_eq_true.1 wrote
  refine ⟨step, member, fun within => ?_⟩
  exact absurd (within _ _ _ (of_decide_eq_true same)).2 (by decide)

theorem buffers_in_bounds_iff_flood :
    ¬ Base.routing.Fits 254 ((Journal.of flood.1).read .usb) := by
  have endpoint : Resumption.Runs (Endpoint.loops 3 {}) readings.1 (.done readings.2.1 ()) :=
    Surroundings.run_runs _ _ _
  obtain ⟨step, member, stray⟩ := flood_stray
  intro fits
  exact stray ((buffers_in_bounds_iff flood_runs endpoint).1.2 fits step member).1

theorem flood_leaves_buffer :
    ¬ ∀ (iterations : Nat) (trace : List (SketchStep Base)) (base : Base),
      Resumption.Runs (Base.loops iterations {}) trace (.done base ()) →
        ∀ step ∈ trace, step.action.WithinBuf .inputBuf ∧ step.state.transmitter.bufIdx ≠ 0 := by
  intro always
  obtain ⟨step, member, stray⟩ := flood_stray
  exact stray (always 1 _ _ flood_runs step member).1

end Roam.Bridge
