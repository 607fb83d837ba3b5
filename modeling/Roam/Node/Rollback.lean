import Roam.Node.Walk

/-!
# The rollback target

The previous settings are an undo slot of depth one for each of the four
parameters, shared by everything that calls a setter.  The rollback therefore
returns to the values that the last accepted change of each parameter started
from, whoever made that change.
-/

namespace Roam.Node

open Roam.Interaction

/-! ## The history of the settings -/

/-- What the link change calls of a run have recorded. -/
structure RequestLog where
  /-- Settings on entry to the last `linkChangeReq`. -/
  entered : Settings := Settings.default
  /-- That call has not sent its request yet. -/
  asking : Bool := false
  /-- Settings on entry to the last `linkChangeReq` that was acknowledged. -/
  inForce : Option Settings := none
  /-- Where the last rollback had to return to, by the history of the setters. -/
  target : Settings := Settings.default

/-- The history of a run, as far as it concerns rollbacks. -/
structure Origins where
  /-- The value each parameter had when it was last set. -/
  origin : Settings := Settings.default
  log : RequestLog := {}

namespace Origins

/-- Each driver call marks the value its parameter had before. -/
def observe (origins : Origins) (node : LoraPoint2Point) :
    (action : Action) → action.Answer → Origins
  | .rf95SetSpreadingFactor _, _ =>
      { origins with origin.spreadingFactor := node.current.spreadingFactor }
  | .rf95SetSignalBandwidth _, _ =>
      { origins with origin.signalBandwidth := node.current.signalBandwidth }
  | .rf95SetFrequency _, ok =>
      if ok then { origins with origin.frequencyChannel := node.current.frequencyChannel }
      else origins
  | .rf95SetTxPower _ _, _ => { origins with origin.txPower := node.current.txPower }
  | .enter .linkChangeReq, _ =>
      { origins with log.entered := node.current, log.asking := true }
  | .sendtoWait _ _, ok =>
      if origins.log.asking then
        { origins with
          log.asking := false
          log.inForce := if ok then some origins.log.entered else origins.log.inForce }
      else origins
  | .enter .linkChangeReqTimeout, _ => { origins with log.target := origins.origin }
  | _, _ => origins

/-- The history after the listed steps. -/
def of (trace : List NodeStep) : Origins :=
  trace.foldl (fun origins step => origins.observe step.state step.action step.answer) {}

end Origins

/-- A rollback ends on its target. -/
def returning : Contract LoraPoint2Point Action Action.Answer Origins :=
  Contract.insisting
    (fun origins node action =>
      action = .leave .linkChangeReqTimeout → node.current = origins.log.target)
    fun origins node action answer => origins.observe node action answer

/-! ## The undo slots -/

/-- The previous settings are the recorded origins, and the log is known. -/
def Slots (log : RequestLog) (origins : Origins) (node : LoraPoint2Point) : Prop :=
  node.previous = origins.origin ∧ node.current.Valid ∧ node.previous.Valid ∧ origins.log = log

theorem storeSetting_returning {good : Origins → LoraPoint2Point → Unit → Prop}
    (store : LoraPoint2Point → LoraPoint2Point) (origins : Origins) (node : LoraPoint2Point) :
    (storeSetting store node).Meets returning good origins ↔
      good origins (store node.resetPacketErrorFraction) () := by
  simp only [storeSetting, perform_apply, Program.bind_apply, Program.modify_apply,
    Program.get_apply, Resumption.bind_ask, Resumption.bind_done, Resumption.Meets.ask_iff,
    Resumption.Meets.done_iff]
  constructor
  · exact fun kept => (kept.2 () trivial).2 () trivial
  · intro reached
    refine ⟨?_, fun _ _ => ⟨?_, fun _ _ => reached⟩⟩
    · rintro ⟨⟩
    · rintro ⟨⟩

namespace Slots

variable {log : RequestLog}

theorem settles : Settles returning (Slots log) where
  setSpreadingFactor value := by
    rintro origins node ⟨slots, current, previous, same⟩
    unfold setSpreadingFactor
    split
    · exact ⟨slots, current, previous, same⟩
    · rename_i inside
      refine ⟨nofun, fun _ _ => ⟨nofun, fun _ _ => (storeSetting_returning _ _ _).2 ?_⟩⟩
      have moved := congrArg (fun settings : Settings =>
        { settings with spreadingFactor := node.current.spreadingFactor }) slots
      exact ⟨moved, current.changeSpreadingFactor (Nat.lt_of_not_le inside),
        previous.changeSpreadingFactor current.1, same⟩
  setBandwidth value := by
    rintro origins node ⟨slots, current, previous, same⟩
    unfold setBandwidth
    split
    · exact ⟨slots, current, previous, same⟩
    · rename_i inside
      refine ⟨nofun, fun _ _ => ⟨nofun, fun _ _ => (storeSetting_returning _ _ _).2 ?_⟩⟩
      have moved := congrArg (fun settings : Settings =>
        { settings with signalBandwidth := node.current.signalBandwidth }) slots
      exact ⟨moved, current.changeBandwidth (Nat.lt_of_not_le inside),
        previous.changeBandwidth current.2.1, same⟩
  setTxPower value := by
    rintro origins node ⟨slots, current, previous, same⟩
    unfold setTxPower
    split
    · exact ⟨slots, current, previous, same⟩
    · rename_i inside
      refine ⟨nofun, fun _ _ => (storeSetting_returning _ _ _).2 ?_⟩
      have moved := congrArg
        (fun settings : Settings => { settings with txPower := node.current.txPower }) slots
      exact ⟨moved, current.changeTxPower (Settings.power_inside inside),
        previous.changeTxPower current.2.2.2, same⟩
  setFrequencyChannel value := by
    rintro origins node ⟨slots, current, previous, same⟩
    unfold setFrequencyChannel
    split
    · exact ⟨slots, current, previous, same⟩
    · rename_i inside
      refine ⟨nofun, fun _ _ => ⟨nofun, fun ok _ => ?_⟩⟩
      cases ok with
      | false => exact ⟨nofun, nofun⟩
      | true =>
          refine (storeSetting_returning _ _ _).2 ?_
          have moved := congrArg (fun settings : Settings =>
            { settings with frequencyChannel := node.current.frequencyChannel }) slots
          exact ⟨moved, current.changeFrequencyChannel (Nat.lt_of_not_le inside),
            previous.changeFrequencyChannel current.2.2.1, same⟩

end Slots

/-- The undo slots, whatever the log says. -/
def Undoable (origins : Origins) (node : LoraPoint2Point) : Prop :=
  Slots origins.log origins node

namespace Undoable

theorem of_slots {log : RequestLog} {origins : Origins} {node : LoraPoint2Point}
    (slots : Slots log origins node) : Undoable origins node :=
  ⟨slots.1, slots.2.1, slots.2.2.1, rfl⟩

theorem settles : Settles returning Undoable where
  setSpreadingFactor value origins node slots :=
    (Slots.settles.setSpreadingFactor value origins node slots).mono fun _ _ _ => of_slots
  setBandwidth value origins node slots :=
    (Slots.settles.setBandwidth value origins node slots).mono fun _ _ _ => of_slots
  setTxPower value origins node slots :=
    (Slots.settles.setTxPower value origins node slots).mono fun _ _ _ => of_slots
  setFrequencyChannel value origins node slots :=
    (Slots.settles.setFrequencyChannel value origins node slots).mono fun _ _ _ => of_slots

/-- Actions other than driver settings move no origin. -/
theorem perform (action : Action) (ordinary : action ≠ .leave .linkChangeReqTimeout)
    (still : ∀ origins node answer,
      (Origins.observe origins node action answer).origin = origins.origin) :
    Keeps returning Undoable (perform action) := by
  rintro origins node ⟨slots, current, previous, _⟩
  refine ⟨fun rolledBack => absurd rolledBack ordinary, fun answer _ => ?_⟩
  exact ⟨slots.trans (still origins node answer).symm, current, previous, rfl⟩

theorem sendtoWait (payload : List UInt8) (destAddress : UInt8) :
    Keeps returning Undoable (sendtoWait payload destAddress) := by
  refine perform _ nofun fun origins node ok => ?_
  simp only [Origins.observe]
  split <;> rfl

theorem carries : Carries returning Undoable where
  plain action plain := by
    refine perform action (by rintro rfl; cases plain) fun origins node answer => ?_
    cases action with
    | enter procedure => cases procedure <;> rfl
    | leave procedure => rfl
    | sendtoWait => cases plain
    | rf95SetFrequency => cases plain
    | rf95SetSpreadingFactor => cases plain
    | rf95SetSignalBandwidth => cases plain
    | rf95SetTxPower => cases plain
    | _ => rfl
  index _ _ _ _ := perform _ nofun fun _ _ _ => rfl
  sendtoWait := sendtoWait
  statistics _ _ _ := id
  ackSnr _ _ _ := id
  heartbeatTimer _ _ _ := id

theorem timeless : Timeless returning Undoable where
  millis := perform _ nofun fun _ _ _ => rfl
  currentMillis _ _ _ := id
  linkTimer _ _ _ := id

/-- The rollback installs the previous settings, which are the recorded origins. -/
theorem linkChangeReqTimeout : Keeps returning Undoable linkChangeReqTimeout := by
  rintro origins node ⟨slots, current, previous, _⟩
  rw [linkChangeReqTimeout_apply]
  refine ⟨nofun, fun _ _ => Resumption.Meets.bind_iff.2 ?_⟩
  let log : RequestLog := { origins.log with target := origins.origin }
  have set := Slots.settles.setAll node.previous { origins with log := log }
    { node with linkChangeTimeoutTimer := node.linkChangeTimeoutTimer.clearDone }
    ⟨slots, current, previous, rfl⟩
  have installed := set.and_ends (setAll_ends _ node.previous)
  refine installed.mono ?_
  rintro later after _ ⟨⟨slot, valid, undo, same⟩, rfl⟩
  refine ⟨fun _ => ?_, fun _ _ => ⟨slot, valid, undo, rfl⟩⟩
  rw [LoraPoint2Point.withSettings_of_valid _ previous, same]
  exact slots

theorem indifferent : Indifferent returning Undoable := by
  refine timeless.indifferent carries (fun procedure => ?_) (fun procedure ordinary => ?_)
    linkChangeReqTimeout
  · exact perform _ nofun fun _ _ _ => by cases procedure <;> rfl
  · exact perform _ (fun same => ordinary (Action.leave.inj same)) fun _ _ _ => rfl

theorem reads : ReadsAnywhere returning Undoable :=
  fun _ _ _ => perform _ nofun fun _ _ _ => rfl

theorem sustains : Sustains returning Undoable := by
  have types : Types Undoable := { txMsg := fun _ _ _ => id, serialCmd := fun _ _ _ _ => id }
  refine indifferent.sustains types settles reads
    (indifferent.serviceRx settles reads ?_ fun _ _ => id)
  refine Keeps.get_bind fun _ => Keeps.bind (perform _ nofun fun _ _ _ => rfl) fun _ => ?_
  exact Keeps.bind (Keeps.update fun _ _ => id) fun _ => Keeps.pure _

end Undoable

/-! ## Every run -/

/-- A rollback ends on the settings of its target. -/
theorem rollback_reaches_target {thisAddress : UInt8} {operations : List Operation}
    {before later : List NodeStep} {step : NodeStep} {last : NodeRun Bool}
    (run : Resumption.Runs (session operations (LoraPoint2Point.initial thisAddress))
      (before ++ step :: later) last)
    (rolledBack : step.action = .leave .linkChangeReqTimeout) :
    step.state.current = (Origins.of before).log.target := by
  have start : Undoable {} (LoraPoint2Point.initial thisAddress) :=
    ⟨rfl, Settings.default_valid, Settings.default_valid, rfl⟩
  have meets := Undoable.sustains.endures.session operations {} _ start
  exact meets.required run (Contract.insisting_allows _ _) rolledBack

/-- The rollback ends on the settings in force before the last acknowledged
request exactly if each parameter was last changed from its value there. -/
theorem rollback_restores_iff (thisAddress : UInt8) (operations : List Operation)
    (before later : List NodeStep) (step : NodeStep) (last : NodeRun Bool)
    (run : Resumption.Runs (session operations (LoraPoint2Point.initial thisAddress))
      (before ++ step :: later) last)
    (rolledBack : step.action = .leave .linkChangeReqTimeout) :
    (Origins.of before).log.inForce = some step.state.current ↔
      (Origins.of before).log.inForce = some (Origins.of before).log.target := by
  rw [rollback_reaches_target run rolledBack]

/-- The power is set to 10, and another one is requested of the server. -/
def powerRequested (txPower : Int8) : List Operation :=
  [.setTxPower 10, .linkChangeReq 2 ⟨1, 2, 0, txPower⟩, .serviceTimers]

/-- A request for 50 dBm is acknowledged, and no response comes within four seconds. -/
def refusedPower : List NodeStep × NodeRun Bool :=
  Surroundings.run { clock := fun position => if position < 45 then 0 else 4000 }
    (powerRequested 50) 1

/-- The end of the rollback stands at this position of the run. -/
theorem refusedPower_runs :
    Resumption.Runs (session (powerRequested 50) (LoraPoint2Point.initial 1))
      (refusedPower.1.take 62 ++ refusedPower.1.get ⟨62, by decide⟩ :: refusedPower.1.drop 63)
      refusedPower.2 :=
  Resumption.Runs.around (Surroundings.run_runs _ _ _) ⟨62, by decide⟩

/-- The same with a request for 12 dBm, which the setter takes. -/
def takenPower : List NodeStep × NodeRun Bool :=
  Surroundings.run { clock := fun position => if position < 48 then 0 else 4000 }
    (powerRequested 12) 1

/-- The end of the rollback stands at this position of the run. -/
theorem takenPower_runs :
    Resumption.Runs (session (powerRequested 12) (LoraPoint2Point.initial 1))
      (takenPower.1.take 65 ++ takenPower.1.get ⟨65, by decide⟩ :: takenPower.1.drop 66)
      takenPower.2 :=
  Resumption.Runs.around (Surroundings.run_runs _ _ _) ⟨65, by decide⟩

/-- The first of the two rollbacks does not restore what was in force, the second one does. -/
theorem rollback_restores_iff_refused :
    (Origins.of (refusedPower.1.take 62)).log.inForce ≠
        some (Origins.of (refusedPower.1.take 62)).log.target ∧
      (Origins.of (takenPower.1.take 65)).log.inForce =
        some (takenPower.1.get ⟨65, by decide⟩).state.current := by
  constructor
  · exact mt (rollback_restores_iff 1 _ _ _ _ _ refusedPower_runs rfl).2 (by decide)
  · exact (rollback_restores_iff 1 _ _ _ _ _ takenPower_runs rfl).2 (by decide)

/-- The rollback returns to 2 dBm, the value before the power was set to 10. -/
theorem refused_power_lost :
    ¬ ∀ (thisAddress : UInt8) (operations : List Operation) (before later : List NodeStep)
      (step : NodeStep) (last : NodeRun Bool),
      Resumption.Runs (session operations (LoraPoint2Point.initial thisAddress))
        (before ++ step :: later) last →
      step.action = .leave .linkChangeReqTimeout →
        (Origins.of before).log.inForce = some step.state.current := by
  intro always
  exact absurd (always 1 _ _ _ _ _ refusedPower_runs rfl) (by decide)

end Roam.Node
