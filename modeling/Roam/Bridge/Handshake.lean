import Roam.Bridge.Joins

/-!
# The handshake

The two sketches of the hopping build side by side, on an air that may lose any packet.
A base that has joined has been answered, and so has each join that made a sketch begin
its sequence anew; what a base asks is measured by the channels it has come to.
-/

namespace Roam.Bridge

open Roam.Data Roam.Interaction

/-- A step of a sketch of the hopping build. -/
abbrev HopStep (State : Type) : Type := Step State HopAction HopAction.Answer

namespace HopStep

/-- The radio is asked to follow its frequency sequence, or to begin it anew. -/
def Follows {State : Type} (step : HopStep State) : Prop :=
  ∃ reset interval, step.action = .advanceFrequencySequence reset interval

/-- A packet goes out. -/
def Sends {State : Type} (step : HopStep State) : Prop :=
  ∃ packet, step.action = .plain (.send packet)

/-- The base is told, while it joins, that the radio has changed its channel. -/
def Moves (step : HopStep HopBase) : Prop :=
  ∃ sketch interval, sketch.joining = true ∧
    step = ⟨sketch, .advanceFrequencySequence false interval, true⟩

end HopStep

namespace HopLog

/-- The log of some steps; a state says whether its sketch is to join. -/
def of {State : Type} (joining : State → Bool) (trace : List (HopStep State)) : HopLog :=
  trace.foldl (fun log step => log.observe (joining step.state) step.action step.answer) {}

theorem of_snoc {State : Type} (joining : State → Bool) (front : List (HopStep State))
    (step : HopStep State) : of joining (front ++ [step]) =
      (of joining front).observe (joining step.state) step.action step.answer :=
  List.foldl_append

theorem of_embed {State Whole : Type} (whole : State → Whole) (joining : Whole → Bool)
    (trace : List (HopStep State)) :
    of joining (trace.map (Step.embed whole)) = of (joining ∘ whole) trace := List.foldl_map

/-- What waits for a packet waits until one goes out. -/
theorem due_observe {log : HopLog} (due : log.due = true) (joining : Bool) {action : HopAction}
    (unsent : ∀ packet, action ≠ .plain (.send packet)) (answer : action.Answer) :
    (log.observe joining action answer).due = true := by
  cases action with
  | plain action =>
      cases action with
      | send packet => exact absurd rfl (unsent packet)
      | recv capacity => cases answer <;> exact due
      | read port inputChar => cases port <;> exact due
      | _ => exact due
  | advanceFrequencySequence reset interval =>
      cases reset with
      | true => exact due
      | false =>
          show (if joining = true ∧ answer = true then { log with moved := _, due := true }
            else log).due = true
          split
          · rfl
          · exact due

theorem due_after {log : HopLog} (due : log.due = true) {between : List (HopStep HopBase)}
    (unsent : ¬ ∃ other ∈ between, other.Sends) :
    (HopBase.tallying.after log between).due = true := by
  induction between generalizing log with
  | nil => exact due
  | cons step between ih =>
      have still : (log.observe step.state.joining step.action step.answer).due = true :=
        due_observe due _ (fun packet sends => unsent ⟨step, List.mem_cons_self, packet, sends⟩) _
      refine ih still ?_
      rintro ⟨other, member, sends⟩
      exact unsent ⟨other, List.mem_cons_of_mem _ member, sends⟩

/-- So does a change of channel of a base that joins. -/
theorem due_moves {step : HopStep HopBase} (moves : step.Moves) (before : List (HopStep HopBase))
    {between : List (HopStep HopBase)} (unsent : ¬ ∃ other ∈ between, other.Sends) :
    (HopBase.tallying.after {} (before ++ step :: between)).due = true := by
  obtain ⟨sketch, interval, joining, rfl⟩ := moves
  rw [Contract.after_append, Contract.after_cons]
  have due : ((HopBase.tallying.after {} before).observe sketch.joining
      (.advanceFrequencySequence false interval) true).due = true := by
    simp [observe, joining]
  exact due_after due unsent

end HopLog

/-! ## One sketch -/

section Base

variable {iterations : Nat} {trace : List (HopStep HopBase)}
variable {last : Resumption HopBase HopAction HopAction.Answer Unit}

theorem HopBase.runs (run : Resumption.Runs (HopBase.loops iterations {}) trace last) :
    last.Meets HopBase.tallying (fun log sketch _ => HopBase.Rests log sketch)
      (HopLog.of HopBase.joining trace) :=
  (HopBase.loops_rests iterations {} {} HopBase.rests_start).runs run
    (Contract.insisting_allows _ _)

/-- The base, wherever it stops. -/
theorem HopBase.fair (run : Resumption.Runs (HopBase.loops iterations {}) trace last) :
    HopBase.Fair (HopLog.of HopBase.joining trace) last.state := by
  have meets := HopBase.runs run
  cases last with
  | done state value => exact meets.toSteady.fair
  | ask state action resume => exact meets.1.toFair

/-- Behind a change of channel while the base joins, a packet goes out before the radio is
asked to follow its sequence again. -/
theorem HopBase.sends_between (run : Resumption.Runs (HopBase.loops iterations {}) trace last)
    {step next : HopStep HopBase} {between : List (HopStep HopBase)}
    (stretch : step :: between ++ [next] <:+: trace) (moves : step.Moves) (follows : next.Follows) :
    ∃ other ∈ between, other.Sends := by
  obtain ⟨before, later, rfl⟩ := stretch
  obtain ⟨reset, interval, same⟩ := follows
  by_contra unsent
  have split : before ++ (step :: between ++ [next]) ++ later =
      (before ++ step :: between) ++ next :: later := by simp
  rw [split] at run
  have acts := (HopBase.loops_rests iterations {} {} HopBase.rests_start).required run
    (Contract.insisting_allows _ _)
  have due := HopLog.due_moves moves before unsent
  exact Bool.false_ne_true ((acts.settled reset interval same).symm.trans due)

/-- Behind the last change too, once the calls of `loop()` are over. -/
theorem HopBase.sends_behind {state : HopBase}
    (run : Resumption.Runs (HopBase.loops iterations {}) trace (.done state ()))
    {step : HopStep HopBase} {later : List (HopStep HopBase)} (stretch : step :: later <:+ trace)
    (moves : step.Moves) : ∃ other ∈ later, other.Sends := by
  obtain ⟨before, rfl⟩ := stretch
  by_contra unsent
  have rests : HopBase.Rests (HopBase.tallying.after {} (before ++ step :: later)) state :=
    HopBase.runs run
  exact Bool.false_ne_true (rests.settled.symm.trans (HopLog.due_moves moves before unsent))

/-- The base of the hopping build asks on each channel it comes to while it joins: behind every
change of channel a packet goes out before the radio is asked to follow its sequence again.
It asks for no more than it has a reason for, one packet for each of these changes and at most
one for each line or command to join, and what it sends for no sensor is a bare join. -/
theorem asks_on_each_channel (run : Resumption.Runs (HopBase.loops iterations {}) trace last) :
    (∀ (step next : HopStep HopBase) (between : List (HopStep HopBase)),
        step :: between ++ [next] <:+: trace → step.Moves → next.Follows →
          ∃ other ∈ between, other.Sends) ∧
      (∀ state, last = .done state () → ∀ (step : HopStep HopBase) (later : List (HopStep HopBase)),
        step :: later <:+ trace → step.Moves → ∃ other ∈ later, other.Sends) ∧
      let log := HopLog.of HopBase.joining trace
      log.sent.length ≤ log.moved + log.ended ∧ ∀ packet ∈ log.sent, Bare packet := by
  have fair := HopBase.fair run
  refine ⟨?_, ?_, fair.bounded, fair.bare⟩
  · intro step next between stretch moves follows
    exact HopBase.sends_between run stretch moves follows
  · rintro state rfl step later stretch moves
    exact HopBase.sends_behind run stretch moves

end Base

/-- Surroundings in which the user tells the base to join, and the radio changes its channel
each time it is asked. -/
def summons (position : Nat) : (action : HopAction) → action.Answer
  | .advanceFrequencySequence _ _ => true
  | .plain action =>
      Surroundings.answer { arrivals := fun place port =>
        if place = 1 ∧ port = .usb then [HopBase.joinCommand] else [] } position action

/-- Three calls of `loop()` on a base that nobody answers. -/
def unanswered : List (HopStep HopBase) × HopBase × Unit :=
  Resumption.play summons 0 (HopBase.loops 3 {})

/-- In the second and third call the base comes to a channel, and asks there. -/
theorem asks_on_each_channel_unanswered :
    (∃ other ∈ (unanswered.1.drop 13).take 10, other.Sends) ∧
      ∃ other ∈ unanswered.1.drop 24, other.Sends := by
  have run : Resumption.Runs (HopBase.loops 3 {}) unanswered.1 (.done unanswered.2.1 ()) :=
    Resumption.play_runs _ _ _
  have long : unanswered.1.length = 34 := by decide +kernel
  have second : unanswered.1.drop 12 = unanswered.1[12] :: unanswered.1.drop 13 :=
    List.drop_eq_getElem_cons _
  have third : unanswered.1.drop 23 = unanswered.1[23] :: unanswered.1.drop 24 :=
    List.drop_eq_getElem_cons _
  have moved : unanswered.1[12].Moves := ⟨_, freqChangeIntervalMillis / 3, by decide +kernel, rfl⟩
  have again : unanswered.1[23].Moves := ⟨_, freqChangeIntervalMillis / 3, by decide +kernel, rfl⟩
  constructor
  · refine (asks_on_each_channel run).1 _ unanswered.1[23] _ ?_ moved ⟨_, _, rfl⟩
    refine ⟨unanswered.1.take 12, unanswered.1.drop 24, ?_⟩
    have whole : (unanswered.1.drop 13).take 10 ++ unanswered.1.drop 23 = unanswered.1.drop 13 :=
      List.take_append_drop 10 (unanswered.1.drop 13)
    simp [← third, whole, ← second]
  · refine (asks_on_each_channel run).2.1 _ rfl _ _ ?_ again
    rw [← third]
    exact List.drop_suffix 23 unanswered.1

/-- The endpoint, wherever it stops. -/
theorem HopEndpoint.fair {iterations : Nat} {trace : List (HopStep Endpoint)}
    {last : Resumption Endpoint HopAction HopAction.Answer Unit}
    (run : Resumption.Runs (HopEndpoint.loops iterations {}) trace last) :
    HopEndpoint.Fair (HopLog.of (fun _ => false) trace) := by
  have meets := (HopEndpoint.loops_rests iterations {} {} HopEndpoint.rests_start).runs run
    (Contract.insisting_allows _ _)
  cases last with
  | done state value => exact meets.1.fair
  | ask state action resume => exact meets.1

/-! ## Both sketches -/

/-- Packets are all that goes from one sketch to the other. -/
def hopTraffic : Traffic HopAction HopAction.Answer (List UInt8) where
  sends
    | .plain action => traffic.sends action
    | .advanceFrequencySequence _ _ => none
  hears
    | .plain action, answer => traffic.hears action answer
    | .advanceFrequencySequence _ _, _ => none

/-- The state of one of the two sketches. -/
abbrev HopSketch : Type := HopBase ⊕ Endpoint

/-- The two sketches in execution, with the packets on their way. -/
abbrev HopSketches : Type :=
  Pair HopSketch HopAction HopAction.Answer Unit (Both (List (List UInt8)))

abbrev HopEvent : Type := Event HopSketch HopAction HopAction.Answer

/-- The air between the sketches. -/
abbrev hopEther : Medium HopSketch HopAction HopAction.Answer (Both (List (List UInt8))) :=
  hopTraffic.medium

/-- The base is the client and the endpoint the server; both are switched on. -/
def HopSketches.start (iterations : Both Nat) : HopSketches where
  parties :=
    ⟨(HopBase.loops iterations.client {}).embed Sum.inl,
      (HopEndpoint.loops iterations.server {}).embed Sum.inr⟩
  air := ⟨[], []⟩

/-- Only a base joins. -/
def HopSketch.joining : HopSketch → Bool := Sum.elim HopBase.joining fun _ => false

/-- The log of one sketch. -/
def hopLog (side : Side) (trace : List HopEvent) : HopLog :=
  HopLog.of HopSketch.joining (Pair.steps side trace)

namespace HopLog

theorem observe_heard (log : HopLog) (joining : Bool) (action : HopAction)
    (answer : action.Answer) :
    (log.observe joining action answer).heard =
      log.heard ++ (hopTraffic.hears action answer).toList := by
  cases action with
  | plain action =>
      cases action with
      | recv capacity =>
          cases answer with
          | none => exact (List.append_nil _).symm
          | some packet => rfl
      | read port inputChar => cases port <;> exact (List.append_nil _).symm
      | _ => exact (List.append_nil _).symm
  | advanceFrequencySequence reset intervalMillis =>
      refine Eq.trans ?_ (List.append_nil _).symm
      cases reset with
      | true => rfl
      | false => exact (apply_ite HopLog.heard _ _ _).trans (ite_self _)

theorem observe_sent (log : HopLog) (joining : Bool) (action : HopAction) (answer : action.Answer) :
    (log.observe joining action answer).sent = log.sent ++ (hopTraffic.sends action).toList := by
  cases action with
  | plain action =>
      cases action with
      | send packet => rfl
      | recv capacity => cases answer <;> exact (List.append_nil _).symm
      | read port inputChar => cases port <;> exact (List.append_nil _).symm
      | _ => exact (List.append_nil _).symm
  | advanceFrequencySequence reset intervalMillis =>
      refine Eq.trans ?_ (List.append_nil _).symm
      cases reset with
      | true => rfl
      | false => exact (apply_ite HopLog.sent _ _ _).trans (ite_self _)

variable {State : Type}

theorem heard_of (joining : State → Bool) (trace : List (HopStep State)) :
    (of joining trace).heard = hopTraffic.heard trace := by
  induction trace using List.reverseRecOn with
  | nil => rfl
  | append_singleton front step ih =>
      rw [of_snoc, observe_heard, ih, Traffic.heard, Traffic.heard, List.flatMap_append,
        List.flatMap_singleton]

theorem sent_of (joining : State → Bool) (trace : List (HopStep State)) :
    (of joining trace).sent = hopTraffic.sent trace := by
  induction trace using List.reverseRecOn with
  | nil => rfl
  | append_singleton front step ih =>
      rw [of_snoc, observe_sent, ih, Traffic.sent, Traffic.sent, List.flatMap_append,
        List.flatMap_singleton]

end HopLog

section Run

variable {iterations : Both Nat} {trace : List HopEvent} {last : HopSketches}

/-- What a sketch hears was sent by the other one. -/
theorem hop_heard_sublist_sent
    (run : Pair.Runs hopEther (HopSketches.start iterations) trace last) (side : Side) :
    (hopLog side trace).heard.Sublist (hopLog side.peer trace).sent := by
  unfold hopLog
  rw [HopLog.heard_of, HopLog.sent_of]
  have heard := hopTraffic.heard_sublist run side
  cases side <;> exact heard

/-- The base among the two, wherever they stop. -/
theorem hop_base_fair (run : Pair.Runs hopEther (HopSketches.start iterations) trace last) :
    ∃ sketch : HopBase, last.parties.client.state = .inl sketch ∧
      HopBase.Fair (hopLog .client trace) sketch := by
  obtain ⟨inner, stopped, own, steps, whole⟩ := (run.project .client).of_embed
  refine ⟨stopped.state, ?_, ?_⟩
  · show (last.parties.of .client).state = _
    rw [whole]
    cases stopped <;> rfl
  · unfold hopLog
    rw [steps, HopLog.of_embed]
    exact HopBase.fair own

/-- The endpoint among the two, wherever they stop. -/
theorem hop_endpoint_fair (run : Pair.Runs hopEther (HopSketches.start iterations) trace last) :
    HopEndpoint.Fair (hopLog .server trace) := by
  obtain ⟨inner, stopped, own, steps, whole⟩ := (run.project .server).of_embed
  unfold hopLog
  rw [steps, HopLog.of_embed]
  exact HopEndpoint.fair own

/-- In the hopping build nobody begins a sequence alone, in every interleaving and under every
loss.  Each time the base begins anew it has heard an answer of its own, each answer is to a
join of the base that was heard, and each time the endpoint begins anew it has answered one;
a base that has joined has been answered since the last command to join. -/
theorem joins_are_answered (run : Pair.Runs hopEther (HopSketches.start iterations) trace last)
    (brief : Brief (hopLog .client trace).typed) :
    (hopLog .client trace).restarts ≤ HopLog.count .dataRsp (hopLog .server trace).sent ∧
      HopLog.count .dataRsp (hopLog .server trace).sent ≤
        HopLog.count .dataReq (hopLog .client trace).sent ∧
      (hopLog .server trace).restarts ≤ HopLog.count .dataRsp (hopLog .server trace).sent ∧
      HopLog.count .dataRsp (hopLog .server trace).sent ≤ (hopLog .server trace).restarts + 1 ∧
      ∀ sketch : HopBase, last.parties.client.state = .inl sketch → sketch.joined = true →
        (hopLog .client trace).rejoined = true ∧ 0 < (hopLog .client trace).restarts := by
  obtain ⟨base, stands, fair⟩ := hop_base_fair run
  have endpoint := hop_endpoint_fair run
  have answers := hop_heard_sublist_sent run .client
  have joins := hop_heard_sublist_sent run .server
  have answered := fair.matched fun member => endpoint.filled (answers.subset member)
  have owed := endpoint.owed fun member => fair.filled brief (joins.subset member)
  refine ⟨?_, ?_, endpoint.begun.1, endpoint.begun.2, ?_⟩
  · exact answered.1.trans answers.countP_le
  · exact owed.1.trans joins.countP_le
  · intro sketch same joined
    obtain rfl : base = sketch := Sum.inl.inj (stands.symm.trans same)
    exact fair.rejoins joined

end Run

/-- The surroundings of a sketch as `summons` has them, with the first packet that is on its
way. -/
def beckon (position : Nat) (air : Both (List (List UInt8))) (side : Side) (_ : HopSketch)
    (action : HopAction) (_ : Option (HopSketch × HopAction)) : Option action.Answer :=
  match action with
  | .plain (.recv _) => some (air.of side.peer).head?
  | action => some (summons position action)

/-- The base is told to join and sends two joins; the endpoint answers the first one. -/
def beckoned : List HopEvent × HopSketches :=
  Pair.play hopEther beckon 0
    (List.replicate 12 .client ++ List.replicate 15 .server ++ List.replicate 17 .client)
    (HopSketches.start ⟨2, 1⟩)

theorem joins_are_answered_beckoned :
    1 ≤ HopLog.count .dataRsp (hopLog .server beckoned.1).sent ∧
      (hopLog .client beckoned.1).rejoined = true := by
  have run : Pair.Runs hopEther (HopSketches.start ⟨2, 1⟩) beckoned.1 beckoned.2 :=
    Pair.play_runs _ _ _ _
  have typed : (hopLog .client beckoned.1).typed = [64] := by decide +kernel
  have brief : Brief (hopLog .client beckoned.1).typed := by
    rw [typed]
    exact fun stretch inside _ => inside.length_le.trans (by decide)
  have restarts : (hopLog .client beckoned.1).restarts = 1 := by decide +kernel
  have joined : ∃ sketch : HopBase, beckoned.2.parties.client.state = .inl sketch ∧
      sketch.joined = true := by
    have stands : Sum.elim HopBase.joined (fun _ => false)
        beckoned.2.parties.client.state = true := by
      decide +kernel
    cases state : beckoned.2.parties.client.state with
    | inl sketch => exact ⟨sketch, rfl, by simpa [state] using stands⟩
    | inr endpoint => simp [state] at stands
  obtain ⟨sketch, stands, joins⟩ := joined
  obtain ⟨begun, _, _, _, since⟩ := joins_are_answered run brief
  exact ⟨restarts ▸ begun, (since sketch stands joins).1⟩

end Roam.Bridge
