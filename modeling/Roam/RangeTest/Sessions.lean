import Roam.RangeTest.Endpoint

/-!
# The sketches use their nodes

Whatever a sketch does besides, what its object does is a session: the radio is set
up and then some of the public members are called.  So every run of the two
sketches is, as far as the air is concerned, a run of two nodes, and what holds of
all runs of two nodes holds of the range test.
-/

namespace Roam.RangeTest

open Roam.Interaction
open Roam.Node

/-! ## Code besides the object's -/

section Own

variable {Globals Value : Type}

/-- Code of the sketch itself, of which nothing is seen on the air. -/
def Own (program : Program Globals Action Action.Answer Value) : Prop :=
  ∀ object, Keeps ((onAir Globals).unseen.along (·, object)) (fun _ _ => True) program

theorem Own.hidden {program : Program Globals Action Action.Answer Value} (own : Own program) :
    (onAir Globals).Hidden program.beside := by
  intro object
  refine Keeps.beside fun other => ?_
  rintro ghost globals same
  exact (own other ghost globals trivial).mono fun _ _ _ _ => same

theorem Own.perform {action : Action} (silent : ∀ both, (onAir Globals).waits both action = none) :
    Own (Program.ask action : Program Globals Action Action.Answer action.Answer) :=
  fun object _ globals _ => ⟨silent (globals, object), fun _ _ => trivial⟩

theorem Own.update (change : Globals → Globals) :
    Own (modify change : Program Globals Action Action.Answer PUnit) :=
  fun _ => Keeps.update fun _ _ _ => trivial

theorem Own.pure (value : Value) :
    Own (Pure.pure value : Program Globals Action Action.Answer Value) :=
  fun _ => Keeps.pure value

theorem Own.bind {Result : Type} {first : Program Globals Action Action.Answer Value}
    {next : Value → Program Globals Action Action.Answer Result} (head : Own first)
    (tail : ∀ value, Own (next value)) : Own (first >>= next) :=
  fun object => (head object).bind fun value => tail value object

theorem Own.get_bind {next : Globals → Program Globals Action Action.Answer Value}
    (tail : ∀ known, Own (next known)) : Own (get >>= next) :=
  fun object => Keeps.get_bind fun known => tail known object

theorem Own.ite {condition : Prop} [Decidable condition]
    {yes no : Program Globals Action Action.Answer Value} (whenTrue : Own yes)
    (whenFalse : Own no) : Own (if condition then yes else no) :=
  fun object => Keeps.ite (whenTrue object) (whenFalse object)

end Own

theorem own_logRow (row : UInt32 → Base → Row) : Own (logRow row) := by
  refine (Own.perform fun _ => rfl).bind fun opened => Own.ite ?_ (Own.pure _)
  refine (Own.perform fun _ => rfl).bind fun now => Own.get_bind fun base => ?_
  exact Own.perform fun _ => rfl

theorem own_readButton (button : Button) : Own (readButton button) :=
  (Own.perform fun _ => rfl).bind fun _ => Own.pure _

theorem own_readButtons : Own readButtons := by
  refine (Own.update _).bind fun _ => (own_readButton _).bind fun _ => ?_
  refine (Own.update _).bind fun _ => (own_readButton _).bind fun _ => ?_
  refine (Own.update _).bind fun _ => (own_readButton _).bind fun _ => ?_
  exact (Own.update _).bind fun _ => Own.update _

theorem own_processSettingSelect : Own processSettingSelect := by
  refine Own.get_bind fun base => Own.ite ?_ (Own.pure _)
  exact (Own.perform fun _ => rfl).bind fun _ => Own.update _

theorem own_processValueSelect : Own processValueSelect := by
  refine Own.get_bind fun base => Own.ite ?_ (Own.pure _)
  exact (Own.perform fun _ => rfl).bind fun _ => Own.update _

theorem own_readClock : Own readClock :=
  (Own.perform fun _ => rfl).bind fun _ => Own.update _

theorem Endpoint.own_readClock : Own Endpoint.readClock :=
  (Own.perform fun _ => rfl).bind fun _ => Own.update _

/-! ## The calls of each sketch -/

/-- The calls the base makes of its object. -/
def CalledByBase : Operation → Prop
  | .startHeartbeats => True
  | .setTxMessage txMsgContents numChars => txMsgContents = testMessage ∧ numChars = 6
  | .buildStringFromSerial _ => True
  | .serviceTx destAddress => destAddress = endpointAddress
  | .serviceRx => True
  | .linkChangeReq destAddress _ => destAddress = endpointAddress
  | _ => False

/-- The calls the endpoint makes of its object. -/
def CalledByEndpoint : Operation → Prop
  | .buildStringFromSerial _ => True
  | .serviceTx destAddress => destAddress = baseAddress
  | .serviceRx => True
  | _ => False

/-- The callbacks of the base pass every action on and do the rest out of sight. -/
theorem callbacks_pass : (onAir Base).Passes callbacks := by
  intro action base object
  have behind {program : SketchM Unit} (own : Own program) (base : Base) :
      (program base).Meets ((onAir Base).unseen.along (·, object)) (fun _ _ value => value = ()) () :=
    (own object () base trivial).mono fun _ _ _ _ => rfl
  cases action with
  | txInd payload destAddr ack =>
      refine ⟨_, _, rfl, rfl, fun answer => ⟨answer, rfl, behind ?_ base⟩⟩
      exact (own_logRow _).bind fun _ => Own.ite (Own.update _) (Own.pure _)
  | rxInd rxMsg =>
      exact ⟨_, _, rfl, rfl, fun answer => ⟨answer, rfl, behind (own_logRow _) base⟩⟩
  | linkChangeInd settings =>
      exact ⟨_, _, rfl, rfl, fun answer => ⟨answer, rfl, behind (Own.update _) base⟩⟩
  | _ => exact ⟨_, _, rfl, rfl, fun answer => ⟨answer, rfl, rfl⟩⟩

theorem Endpoint.callbacks_pass : (onAir Endpoint).Passes Endpoint.callbacks := by
  intro action endpoint object
  refine ⟨_, _, rfl, rfl, fun answer => ⟨answer, rfl, rfl⟩⟩

/-! ## The loops -/

abbrev BaseUses {Value : Type} (program : BaseM Value) : Prop :=
  (onAir Base).Uses CalledByBase Operation.run program

abbrev EndpointUses {Value : Type} (program : Endpoint.EndpointM Value) : Prop :=
  (onAir Endpoint).Uses CalledByEndpoint Operation.run program

theorem base_calls (operation : Operation) (called : CalledByBase operation) {Value : Type}
    {program : NodeM Value} (same : operation.run = discard program) : BaseUses (call program) :=
  callbacks_pass.uses (fun _ => rfl) called same

theorem Own.base {Value : Type} {program : SketchM Value} (own : Own program) :
    BaseUses program.beside :=
  .of_hidden own.hidden

theorem processEnter_uses : BaseUses processEnter := by
  refine .get_bind fun both => .ite ?_ (.pure _)
  refine .bind ((Own.perform fun _ => rfl).bind fun _ => Own.update _).base fun _ => ?_
  refine .get_bind fun known => .bind ?_ fun _ => (Own.update _).base
  exact base_calls (.linkChangeReq endpointAddress known.1.settings) rfl
    (Program.discard_eq _).symm

theorem serviceButtons_uses : BaseUses serviceButtons := by
  refine .get_bind fun both => .ite ?_ (.pure _)
  refine .bind own_readButtons.base fun _ => .bind own_processSettingSelect.base fun _ => ?_
  exact .bind own_processValueSelect.base fun _ => processEnter_uses

theorem serviceRadio_uses : BaseUses serviceRadio := by
  refine .get_bind fun both => .ite ?_ (.pure _)
  have prepared : BaseUses prepareTestMessage := by
    refine .get_bind fun both => .ite ?_ (.pure _)
    refine .bind ?_ fun _ => (Own.update _).base
    exact base_calls (.setTxMessage testMessage 6) ⟨rfl, rfl⟩ rfl
  have sent : BaseUses sendMessage := by
    refine .bind (Own.perform fun _ => rfl).base fun pending => .bind ?_ fun built => ?_
    · exact base_calls (.buildStringFromSerial pending) trivial rfl
    · refine .get_bind fun both => .ite (.bind ?_ fun _ => (Own.update _).base) (.pure _)
      exact base_calls (.serviceTx endpointAddress) rfl (Program.discard_eq _).symm
  exact prepared.bind fun _ => sent.bind fun _ =>
    base_calls .serviceRx trivial (Program.discard_eq _).symm

theorem loops_uses (iterations : Nat) : BaseUses (loops iterations) := by
  induction iterations with
  | zero => exact .pure _
  | succ iterations ih =>
      refine .bind (.bind own_readClock.base fun _ => ?_) fun _ => ih
      exact serviceButtons_uses.bind fun _ => serviceRadio_uses

theorem Endpoint.loops_uses (iterations : Nat) : EndpointUses (Endpoint.loops iterations) := by
  have calls (operation : Operation) (called : CalledByEndpoint operation) {Value : Type}
      {program : NodeM Value} (same : operation.run = discard program) :
      EndpointUses (Endpoint.call program) :=
    Endpoint.callbacks_pass.uses (fun _ => rfl) called same
  induction iterations with
  | zero => exact .pure _
  | succ iterations ih =>
      refine .bind ?_ fun _ => ih
      refine .bind (.of_hidden Endpoint.own_readClock.hidden) fun _ => ?_
      refine .bind (.of_hidden (Own.perform fun _ => rfl).hidden) fun pending => ?_
      refine .bind (calls (.buildStringFromSerial pending) trivial rfl) fun built => ?_
      have received : EndpointUses (Endpoint.call serviceRx) :=
        calls .serviceRx trivial (Program.discard_eq _).symm
      refine .ite (.bind ?_ fun _ => received) received
      exact calls (.serviceTx baseAddress) rfl (Program.discard_eq _).symm

/-! ## Sessions -/

/-- The two calls of the driver that set the radio up succeed. -/
def Action.comesUp : (action : Action) → action.Answer → Bool
  | .radio .rf95Init, ok => ok
  | .radio .rhReliableDatagramInit, ok => ok
  | _, _ => true

/-- A radio whose driver comes up is set up. -/
def powered : Contract LoraPoint2Point Node.Action Node.Action.Answer Unit where
  require _ _ _ := True
  allow _ _ action answer := Action.comesUp (.radio action) answer
  record ghost _ _ _ := ghost

theorem setupRadio_succeeds :
    Triple powered (fun _ _ => True) setupRadio fun ok _ _ => ok = true := by
  have anything {Value : Type} (program : NodeM Value) :
      Triple powered (fun _ _ => True) program fun _ _ _ => True :=
    fun ghost node _ => Resumption.Meets.undemanding (fun _ _ _ => trivial) ghost (program node)
  refine Triple.get_bind fun known => ((anything _).pre fun _ _ _ => trivial).bind fun _ => ?_
  refine (anything _).bind fun _ => (anything forceRadioReset).bind fun _ => ?_
  rintro ghost node -
  refine ⟨trivial, fun ok up => ?_⟩
  change ok = true at up
  subst up
  refine ⟨trivial, fun ok up => ?_⟩
  change ok = true at up
  subst up
  have ready : Triple powered (fun _ _ => True) (do
      setSpreadingFactor Settings.default.spreadingFactor
      setBandwidth Settings.default.signalBandwidth
      setTxPower Settings.default.txPower
      setFrequencyChannel Settings.default.frequencyChannel
      return true) fun ok _ _ => ok = true := by
    refine (anything _).bind fun _ => (anything _).bind fun _ => ?_
    exact (anything _).bind fun _ => (anything _).bind fun _ => Triple.pure true fun _ _ _ => rfl
  exact ready ghost node trivial

section Session

variable {Globals : Type} {called : Operation → Prop}
variable {handle : (action : Node.Action) → Program Globals Action Action.Answer action.Answer}
variable {both : Globals × LoraPoint2Point}
variable {trace : List (Step (Globals × LoraPoint2Point) Action Action.Answer)}
variable {last : Resumption (Globals × LoraPoint2Point) Action Action.Answer Unit}

/-- Setting the radio up and then using the object is a session, if nothing is done where the
radio cannot be set up. -/
theorem session_of_uses (passes : (onAir Globals).Passes handle)
    {next : Bool → Program (Globals × LoraPoint2Point) Action Action.Answer Unit}
    (uses : (onAir Globals).Uses called Operation.run (next true))
    (run : Resumption.Runs ((setupRadio.hosted handle >>= next) both) trace last)
    (down : ∀ before middle, before <+: trace →
      Resumption.Runs (setupRadio.hosted handle both) before (.done middle false) →
        next false = pure ()) :
    ∃ calls : List Operation, (∀ operation ∈ calls, called operation) ∧ ∃ node,
      Resumption.Runs ((discard (session calls) : NodeM Unit) both.2)
        (trace.filterMap (onAir Globals).sees) node ∧
      (onAir Globals).Shows (fun _ => ()) node last := by
  have session_apply (calls : List Operation) : (discard (session calls) : NodeM Unit) both.2 =
      ((setupRadio both.2).bind fun node ok =>
        (if ok then do
          operate calls
          return true
        else return false : NodeM Bool) node).bind fun node _ => .done node () := rfl
  rcases run.through with ⟨waiting, action, resume, early, rfl⟩ |
    ⟨before, after, middle, ok, rfl, early, late⟩
  · obtain ⟨small, seen, shows⟩ := passes.runs (fun _ => rfl) early
    refine ⟨[], nofun, _, session_apply [] ▸ (seen.inside _).inside _, fun asked waits => ?_⟩
    exact Resumption.pending_bind (Resumption.pending_bind (shows asked waits) _) _
  · obtain ⟨small, seen, rfl⟩ := passes.runs (fun _ => rfl) early
    rw [List.filterMap_append]
    cases ok with
    | true =>
        obtain ⟨calls, each, small, further, shows⟩ := uses late
        let whole : NodeRun Bool := small.bind fun node _ => .done node true
        refine ⟨calls, each, whole.bind fun node _ => .done node (), ?_, ?_⟩
        · rw [session_apply]
          exact Resumption.Runs.inside (seen.bind (further.inside _)) _
        · cases last with
          | done final value =>
              cases shows
              rfl
          | ask state action resume =>
              intro asked waits
              exact Resumption.pending_bind (Resumption.pending_bind (shows asked waits) _) _
    | false =>
        have stops := down before middle (List.prefix_append _ _) early
        rw [stops] at late
        cases late
        refine ⟨[], nofun, _, session_apply [] ▸ (seen.bind (.refl _)).inside _, rfl⟩

end Session

/-- Every run of the base is a run of a session on the air. -/
theorem base_runs_session {iterations : Nat} {trace : List BaseStep}
    {last : Resumption (Base × LoraPoint2Point) Action Action.Answer Unit}
    (run : Resumption.Runs (sketch iterations start) trace last) :
    ∃ calls : List Operation, (∀ operation ∈ calls, CalledByBase operation) ∧ ∃ node,
      Resumption.Runs ((discard (session calls) : NodeM Unit) (LoraPoint2Point.initial baseAddress))
        (trace.filterMap (onAir Base).sees) node ∧
      (onAir Base).Shows (fun _ => ()) node last := by
  refine session_of_uses callbacks_pass ?_ run fun _ _ _ _ => rfl
  refine .bind (base_calls .startHeartbeats trivial (Program.discard_eq _).symm) fun _ => ?_
  exact loops_uses iterations

/-- Every run of the endpoint in which its radio comes up is a run of a session on the air. -/
theorem Endpoint.runs_session {iterations : Nat}
    {trace : List (Step (Endpoint × LoraPoint2Point) Action Action.Answer)}
    {last : Resumption (Endpoint × LoraPoint2Point) Action Action.Answer Unit}
    (run : Resumption.Runs (Endpoint.sketch iterations Endpoint.start) trace last)
    (up : ∀ step ∈ trace, step.action.comesUp step.answer) :
    ∃ calls : List Operation, (∀ operation ∈ calls, CalledByEndpoint operation) ∧ ∃ node,
      Resumption.Runs ((discard (session calls) : NodeM Unit)
          (LoraPoint2Point.initial endpointAddress))
        (trace.filterMap (onAir Endpoint).sees) node ∧
      (onAir Endpoint).Shows (fun _ => ()) node last := by
  refine session_of_uses Endpoint.callbacks_pass (Endpoint.loops_uses iterations) run ?_
  intro before middle within early
  obtain ⟨small, seen, rfl⟩ := Endpoint.callbacks_pass.runs (fun _ => rfl) early
  have allowed : powered.Allows () (before.filterMap (onAir Endpoint).sees) := by
    refine (powered.allows_iff (fun _ _ _ _ => Iff.rfl) () _).2 fun step member => ?_
    obtain ⟨⟨both, action, answer⟩, taken, sees⟩ := List.mem_filterMap.1 member
    have comes := up _ (within.subset taken)
    cases action
    case radio action =>
      cases sees
      exact comes
    all_goals cases sees
  have ready : false = true := (setupRadio_succeeds () _ trivial).runs seen allowed
  cases ready

/-! ## Two sketches and two nodes -/

theorem field_transparent : (onAir (Base ⊕ Endpoint)).Transparent field radio where
  seen air side sketch action answer waiting step sees admitted := by
    cases action
    case radio action =>
      cases sees
      exact ⟨admitted, rfl⟩
    all_goals cases sees
  hidden air side sketch action answer hidden := by
    cases action
    case radio action => cases hidden
    all_goals rfl
  alone air side node action answer admitted waiting := by
    cases action with
    | recvfromAckTimeout capacity timeout =>
        cases (answer : Reception) with
        | message payload srcAddr destAddr msgId flags => cases admitted
        | _ => exact admitted
    | _ => exact admitted

section Embedded

variable {Globals : Type} (whole : Globals → Base ⊕ Endpoint)

/-- The same is seen of a sketch by itself as of one of the two sketches. -/
theorem sees_embed (trace : List (Step (Globals × LoraPoint2Point) Action Action.Answer)) :
    (trace.map (Step.embed fun both => (whole both.1, both.2))).filterMap (onAir _).sees =
      trace.filterMap (onAir Globals).sees := by
  rw [List.filterMap_map]
  refine congrArg (List.filterMap · trace) (funext fun step => ?_)
  obtain ⟨both, action, answer⟩ := step
  cases action <;> rfl

theorem shows_embed {node : NodeRun Unit}
    {last : Resumption (Globals × LoraPoint2Point) Action Action.Answer Unit}
    (shows : (onAir Globals).Shows (fun _ => ()) node last) :
    (onAir (Base ⊕ Endpoint)).Shows (fun _ => ()) node
      (last.embed fun both => (whole both.1, both.2)) := by
  cases last with
  | done both value => exact shows
  | ask both action resume =>
      intro asked waits
      refine shows asked ?_
      rw [← waits]
      cases action <;> rfl

end Embedded

/-- The addresses of the two objects. -/
def addresses : Both UInt8 := ⟨baseAddress, endpointAddress⟩

/-- What each sketch may call. -/
def Called : Side → Operation → Prop
  | .client => CalledByBase
  | .server => CalledByEndpoint

/-- A radio of the endpoint that comes up. -/
def Powered (trace : List SketchEvent) : Prop :=
  ∀ event ∈ trace, event.1 = .server → event.2.action.comesUp event.2.answer

/-- Each of the two sketches makes a session on the air. -/
theorem sketches_run_sessions {iterations : Both Nat} {trace : List SketchEvent} {last : Sketches}
    (run : Pair.Runs field (Sketches.start iterations) trace last) (up : Powered trace) :
    ∃ calls : Both (List Operation), (∀ side, ∀ operation ∈ calls.of side, Called side operation) ∧
      ∃ nodes : Both (NodeRun Unit),
        (∀ side, Resumption.Runs ((Nodes.boot addresses calls).parties.of side)
          ((Pair.steps side trace).filterMap (onAir _).sees) (nodes.of side)) ∧
        ∀ side, (onAir _).Shows (fun _ => ()) (nodes.of side) (last.parties.of side) := by
  obtain ⟨inner, final, base, steps, ended⟩ := (run.project .client).of_embed
  obtain ⟨clientCalls, ofBase, client, clientRun, clientShows⟩ := base_runs_session base
  obtain ⟨other, rest, endpoint, otherSteps, otherEnded⟩ := (run.project .server).of_embed
  have powered : ∀ step ∈ other, step.action.comesUp step.answer := by
    intro step member
    have embedded : Step.embed asEndpoint step ∈ other.map (Step.embed asEndpoint) :=
      List.mem_map_of_mem member
    rw [← otherSteps] at embedded
    exact up _ (Pair.mem_steps.1 embedded) rfl
  obtain ⟨serverCalls, ofEndpoint, server, serverRun, serverShows⟩ :=
    Endpoint.runs_session endpoint powered
  refine ⟨⟨clientCalls, serverCalls⟩, ?_, ⟨client, server⟩, ?_, ?_⟩
  · rintro (_ | _)
    · exact ofBase
    · exact ofEndpoint
  · rintro (_ | _)
    · rw [steps]
      exact sees_embed Sum.inl inner ▸ clientRun
    · rw [otherSteps]
      exact sees_embed Sum.inr other ▸ serverRun
  · rintro (_ | _)
    · exact ended ▸ shows_embed Sum.inl clientShows
    · exact otherEnded ▸ shows_embed Sum.inr serverShows

/-- The two sketches on the air, however they are used and whatever is lost between them:
what happens on the air is a run of two nodes that are set up and then used by the calls of
the sketches, and each node stands where its sketch does. -/
theorem sketches_run_nodes {iterations : Both Nat} {trace : List SketchEvent} {last : Sketches}
    (run : Pair.Runs field (Sketches.start iterations) trace last) (up : Powered trace) :
    ∃ calls : Both (List Operation), (∀ side, ∀ operation ∈ calls.of side, Called side operation) ∧
      ∃ nodes : Nodes,
        Pair.Runs radio (Nodes.boot addresses calls) (trace.filterMap (onAir _).event) nodes ∧
        nodes.air = last.air ∧
        ∀ side, (onAir _).Shows (fun _ => ()) (nodes.parties.of side) (last.parties.of side) := by
  obtain ⟨calls, called, nodes, runs, shows⟩ := sketches_run_sessions run up
  exact ⟨calls, called, ⟨nodes, last.air⟩, field_transparent.runs run runs shows, rfl, shows⟩

/-- Surroundings in which both radios come up, nothing is typed or pressed and every frame
that can be taken in is taken in. -/
def quietField (clock : UInt32) (position : Nat) (air : Air) (side : Side) (sketch : Sketch)
    (action : Action) (waiting : Option (Sketch × Action)) : Option action.Answer :=
  match action with
  | .radio action => ({ clock := fun _ => clock } : Weather).answer position air side sketch.2 action
      (waiting.bind fun waiting => (onAir _).waits waiting.1 waiting.2)
  | action => ({ clock := fun _ => clock } : Bench).answer position action

/-- The base sends its test message, the endpoint is switched on and takes it in, and the
base logs that it was acknowledged. -/
def testMessageTaken : List SketchEvent × Sketches :=
  Pair.play field (quietField 6000) 0
    (List.replicate 36 .client ++ List.replicate 28 .server ++ List.replicate 6 .client)
    (Sketches.start ⟨1, 1⟩)

theorem testMessageTaken_powered : Powered testMessageTaken.1 := by
  unfold Powered
  decide +kernel

theorem sketches_run_nodes_taken :
    ∃ calls : Both (List Operation), ∃ nodes : Nodes,
      Pair.Runs radio (Nodes.boot addresses calls)
        (testMessageTaken.1.filterMap (onAir _).event) nodes := by
  obtain ⟨calls, _, nodes, run, _⟩ :=
    sketches_run_nodes (Pair.play_runs _ _ _ _) testMessageTaken_powered
  exact ⟨calls, nodes, run⟩

end Roam.RangeTest
