import Mathlib.Data.List.Perm.Subperm
import Roam.Bridge.Delivery

/-!
# Conservation of the checksums

Whatever the two sketches are doing, the bytes a sender has counted are those its
receiver has counted, those of the packets between them, and those that wait in
its line buffers.  A packet that was lost stays among those on their way.
-/

namespace Roam.Bridge

open Roam.Data Roam.Interaction

/-- The packets that were sent and have not been received. -/
def flying (sent received : List (List UInt8)) : List (List UInt8) := sent.diff received

theorem payloads_append (first second : List (List UInt8)) :
    payloads (first ++ second) = payloads first ++ payloads second := List.flatMap_append

/-- A sender's packets, counted where they are. -/
theorem cksum_payloads {sent heard received : List (List UInt8)}
    (short : ∀ packet ∈ sent, packet.length ≤ maxMessageLen) (once : heard.Subperm sent)
    (known : received <+: heard) :
    cksum (payloads sent) =
      cksum (received.flatMap heardPayload) + cksum (payloads (flying sent received)) := by
  have delivered : received.Subperm sent := known.sublist.subperm.trans once
  have whole : (received ++ flying sent received).Perm sent :=
    List.subperm_append_diff_self_of_count_le (List.subperm_ext_iff.1 delivered)
  have same : received.flatMap heardPayload = payloads received := by
    refine List.flatMap_congr fun packet member => ?_
    rw [heardPayload, List.take_of_length_le (short packet (delivered.subset member))]
  rw [same, ← cksum_append, ← payloads_append]
  exact cksum_perm (whole.symm.flatMap_right _)

/-- The sum of a sender is that of its receiver, of the packets on their way and of the
bytes that wait; where nothing is on its way and nothing waits, the two agree. -/
structure Conserved (input output : UInt32) (flying : List (List UInt8)) (waiting : List UInt8) :
    Prop where
  whole : input = output + cksum (payloads flying) + cksum waiting
  settled : flying = [] → waiting = [] → input = output

theorem conserved {input output : UInt32} {flying : List (List UInt8)} {waiting : List UInt8}
    (whole : input = output + cksum (payloads flying) + cksum waiting) :
    Conserved input output flying waiting := by
  refine ⟨whole, fun landed empty => ?_⟩
  subst landed empty
  rw [whole, cksum_nil, UInt32.add_zero]
  exact UInt32.add_zero _

/-- What a program guarantees whenever it acts and when it has ended holds wherever a
run of it stops. -/
theorem accounts_of_runs {State : Type} {accounts keep : Journal → State → Prop}
    {program : SketchM State Unit}
    (keeps : Keeps (recording fun journal state _ => accounts journal state) keep program)
    (ended : ∀ journal state, keep journal state → accounts journal state) {start : State}
    (started : keep {} start) {trace : List (SketchStep State)}
    {last : Resumption State Action Action.Answer Unit}
    (run : Resumption.Runs (program start) trace last) :
    accounts (Journal.of trace) last.state := by
  have meets := (keeps {} start started).runs run (Contract.insisting_allows _ _)
  cases last with
  | done state value => exact ended _ _ meets
  | ask state action resume => exact meets.1

section Bridge

variable {first second : Nat} {baseTrace : List (SketchStep Base)}
variable {endpointTrace : List (SketchStep Endpoint)}
variable {base : Resumption Base Action Action.Answer Unit}
variable {endpoint : Resumption Endpoint Action Action.Answer Unit}

theorem Base.accounts (run : Resumption.Runs (Base.loops first {}) baseTrace base) :
    Base.Accounts (Journal.of baseTrace) base.state :=
  accounts_of_runs (Base.loops_keeps first) (fun _ _ => Base.Rests.accounts) Base.rests_start run

theorem Endpoint.accounts
    (run : Resumption.Runs (Endpoint.loops second {}) endpointTrace endpoint) :
    Endpoint.Accounts (Journal.of endpointTrace) endpoint.state :=
  accounts_of_runs (Endpoint.loops_keeps second) (fun _ _ => Endpoint.Rests.accounts)
    Endpoint.rests_start run

/-- In every reachable state the sum of a sender is that of its receiver, with what is
on its way and what waits in a line buffer. -/
theorem checksums_conserved
    (baseRun : Resumption.Runs (Base.loops first {}) baseTrace base)
    (endpointRun : Resumption.Runs (Endpoint.loops second {}) endpointTrace endpoint)
    (typedFits : Base.routing.Fits 250 ((Journal.of baseTrace).read .usb))
    (seaphoxFits : Endpoint.routing.Fits 250 ((Journal.of endpointTrace).read .seaphox))
    (procvFits : Endpoint.routing.Fits 250 ((Journal.of endpointTrace).read .procv))
    (requests : (Journal.of endpointTrace).heard.Subperm (Journal.of baseTrace).sent)
    (responses : (Journal.of baseTrace).heard.Subperm (Journal.of endpointTrace).sent) :
    Conserved base.state.transmitter.inputBufCksum endpoint.state.receiver.outputBufCksum
        (flying (Journal.of baseTrace).sent (Journal.of endpointTrace).received)
        base.state.transmitter.waiting ∧
      Conserved endpoint.state.inputBufCksum base.state.receiver.outputBufCksum
        (flying (Journal.of endpointTrace).sent (Journal.of baseTrace).received)
        (endpoint.state.seaphox.waiting ++ endpoint.state.procv.waiting) := by
  have near := Base.accounts baseRun
  have far := Endpoint.accounts endpointRun
  constructor
  · apply conserved
    rw [near.typed (typedFits.mono (by decide)),
      cksum_payloads near.short requests far.counts.known, ← far.counts.counted]
  · apply conserved
    rw [far.typed (seaphoxFits.mono (by decide)) (procvFits.mono (by decide)), cksum_append,
      cksum_payloads far.short responses near.counts.known, ← near.counts.counted]

end Bridge

/-- The user types a line for each sensor and begins a third one; one line of a sensor comes
in. -/
def conversing : List (SketchStep Base) × Base × Unit :=
  Surroundings.run {
      arrivals := fun position _ =>
        if position = 0 then [36, 104, 105, 10, 37, 121, 111, 10, 36, 97] else []
      packets := fun position => if position = 31 then some [12, 65, 66] else none }
    (Base.loops 3) {}

/-- One sensor writes two lines and the other begins one; one line of the user comes in. -/
def conversed : List (SketchStep Endpoint) × Endpoint × Unit :=
  Surroundings.run {
      arrivals := fun position _ =>
        if position = 1 then [65, 66, 10]
        else if position = 15 then [67]
        else if position = 36 then [68, 10] else []
      packets := fun position => if position = 19 then some [11, 104, 105] else none }
    (Endpoint.loops 2) {}

/-- In both directions a packet is on its way and a character waits. -/
theorem checksums_conserved_conversing :
    conversing.2.1.transmitter.inputBufCksum =
        conversed.2.1.receiver.outputBufCksum + cksum (payloads [[9, 121, 111]]) + cksum [97] ∧
      conversed.2.1.inputBufCksum =
        conversing.2.1.receiver.outputBufCksum + cksum (payloads [[12, 68]]) + cksum [67] := by
  have base : Resumption.Runs (Base.loops 3 {}) conversing.1 (.done conversing.2.1 ()) :=
    Surroundings.run_runs _ _ _
  have endpoint : Resumption.Runs (Endpoint.loops 2 {}) conversed.1 (.done conversed.2.1 ()) :=
    Surroundings.run_runs _ _ _
  have typed : ((Journal.of conversing.1).read .usb).length ≤ 250 := by decide +kernel
  have seaphox : ((Journal.of conversed.1).read .seaphox).length ≤ 250 := by decide +kernel
  have procv : ((Journal.of conversed.1).read .procv).length ≤ 250 := by decide +kernel
  have requests : (Journal.of conversed.1).heard.Subperm (Journal.of conversing.1).sent := by
    decide +kernel
  have responses : (Journal.of conversing.1).heard.Subperm (Journal.of conversed.1).sent := by
    decide +kernel
  have sums := checksums_conserved base endpoint (LineFormat.fits_of_length_le _ typed)
    (LineFormat.fits_of_length_le _ seaphox) (LineFormat.fits_of_length_le _ procv)
    requests responses
  have there : flying (Journal.of conversing.1).sent (Journal.of conversed.1).received =
      [[9, 121, 111]] := by decide +kernel
  have back : flying (Journal.of conversed.1).sent (Journal.of conversing.1).received =
      [[12, 68]] := by decide +kernel
  have begun : conversing.2.1.transmitter.waiting = [97] := by decide +kernel
  have waits : conversed.2.1.seaphox.waiting ++ conversed.2.1.procv.waiting = [67] := by
    decide +kernel
  have near := sums.1.whole
  have far := sums.2.whole
  simp only [Resumption.state, there, begun] at near
  simp only [Resumption.state, back, waits] at far
  exact ⟨near, far⟩

end Roam.Bridge
