import Roam.Node.Walk

/-!
# Valid settings and the three views of them

The driver and the user's application each hold a copy of the link settings: the
driver the values last handed to it, the application the last indication.  Both
copies are read off the run.
-/

namespace Roam.Node

open Roam.Interaction

/-- What the driver and the user have been told so far. -/
structure Views where
  spreadingFactor : Option UInt8 := none
  signalBandwidth : Option UInt32 := none
  frequency : Option UInt16 := none
  txPower : Option Int8 := none
  user : Option Settings := none

namespace Views

/-- An action tells the driver or the user something new, or leaves them as they are. -/
def observe (views : Views) : Action → Views
  | .rf95SetSpreadingFactor value => { views with spreadingFactor := some value }
  | .rf95SetSignalBandwidth value => { views with signalBandwidth := some value }
  | .rf95SetFrequency value => { views with frequency := some value }
  | .rf95SetTxPower value _ => { views with txPower := some value }
  | .linkChangeInd settings => { views with user := some settings }
  | _ => views

/-- The last value handed to each driver call and the last indication of a run. -/
def last (trace : List NodeStep) : Views :=
  trace.foldl (fun views step => views.observe step.action) {}

/-- Every copy that exists is a copy of the given settings. -/
structure Agrees (views : Views) (settings : Settings) : Prop where
  spreadingFactor : ∀ value ∈ views.spreadingFactor,
    value = spreadingFactorTable.getD settings.spreadingFactor 0
  signalBandwidth : ∀ value ∈ views.signalBandwidth,
    value = signalBandwidthTable.getD settings.signalBandwidth 0
  frequency : ∀ value ∈ views.frequency,
    value = frequencyChannelTable.getD settings.frequencyChannel 0
  txPower : ∀ value ∈ views.txPower, value = settings.txPower
  user : ∀ told ∈ views.user, told = settings

/-- All five copies exist. -/
def Complete (views : Views) : Prop :=
  views.spreadingFactor.isSome ∧ views.signalBandwidth.isSome ∧ views.frequency.isSome ∧
    views.txPower.isSome ∧ views.user.isSome

/-- What is told when a setter accepts: the driver value, then the settings. -/
def told (views : Views) (driver : Action) (node : LoraPoint2Point) : Views :=
  (views.observe driver).observe (.linkChangeInd node.current)

/-- Nothing that has been told is ever untold. -/
theorem Complete.observe {views : Views} (complete : views.Complete) (action : Action) :
    (views.observe action).Complete := by
  obtain ⟨spreadingFactor, signalBandwidth, frequency, txPower, user⟩ := complete
  cases action <;> exact ⟨by first | exact spreadingFactor | rfl,
    by first | exact signalBandwidth | rfl, by first | exact frequency | rfl,
    by first | exact txPower | rfl, by first | exact user | rfl⟩

end Views

/-- The contract that collects the views. -/
abbrev viewing : Contract LoraPoint2Point Action Action.Answer Views :=
  Contract.watching fun views _ action _ => views.observe action

theorem viewing_after (trace : List NodeStep) : viewing.after {} trace = Views.last trace := rfl

/-- Current and previous settings are in range and every copy is up to date. -/
structure Coherent (views : Views) (node : LoraPoint2Point) : Prop where
  current : node.current.Valid
  previous : node.previous.Valid
  agrees : views.Agrees node.current

/-- Storing one accepted setting ends with an indication of the new settings. -/
theorem storeSetting_meets {good : Views → LoraPoint2Point → Unit → Prop}
    (store : LoraPoint2Point → LoraPoint2Point) (views : Views) (node : LoraPoint2Point) :
    (storeSetting store node).Meets viewing good views ↔
      good (views.observe (.linkChangeInd (store node.resetPacketErrorFraction).current))
        (store node.resetPacketErrorFraction) () := by
  simp only [storeSetting, perform_apply, Program.bind_apply, Program.modify_apply,
    Program.get_apply, Resumption.bind_ask, Resumption.bind_done,
    Resumption.Meets.ask_iff, Resumption.Meets.done_iff, Contract.watching_require,
    Contract.watching_allow, Contract.watching_record, true_and, forall_const]
  exact ⟨fun reached => reached (), fun reached _ => reached⟩

/-! ## One setter -/

section Setters

variable {good : Views → LoraPoint2Point → Unit → Prop} (views : Views) (node : LoraPoint2Point)

theorem setSpreadingFactor_meets (value : EnumValue) :
    (setSpreadingFactor value node).Meets viewing good views ↔
      if numSpreadingFactors ≤ value then good views node () else
        let stored := node.resetPacketErrorFraction.storeSpreadingFactor value
        good (views.told (.rf95SetSpreadingFactor (spreadingFactorTable.getD value 0)) stored)
          stored () := by
  unfold setSpreadingFactor
  split
  · exact Iff.rfl
  · simp [lookup, storeSetting_meets, Views.told, Views.observe]
    rfl

theorem setBandwidth_meets (value : EnumValue) :
    (setBandwidth value node).Meets viewing good views ↔
      if numSignalBandwidths ≤ value then good views node () else
        let stored := node.resetPacketErrorFraction.storeBandwidth value
        good (views.told (.rf95SetSignalBandwidth (signalBandwidthTable.getD value 0)) stored)
          stored () := by
  unfold setBandwidth
  split
  · exact Iff.rfl
  · simp [lookup, storeSetting_meets, Views.told, Views.observe]
    rfl

theorem setTxPower_meets (value : Int8) :
    (setTxPower value node).Meets viewing good views ↔
      if maxTxPower < value ∨ value < minTxPower then good views node () else
        let stored := node.resetPacketErrorFraction.storeTxPower value
        good (views.told (.rf95SetTxPower value false) stored) stored () := by
  unfold setTxPower
  split
  · exact Iff.rfl
  · simp [storeSetting_meets, Views.told, Views.observe]

/-- A failing frequency driver halts the node, so only success has to be good. -/
theorem setFrequencyChannel_meets (value : EnumValue) :
    (setFrequencyChannel value node).Meets viewing good views ↔
      if numFrequencyChannels ≤ value then good views node () else
        let stored := node.resetPacketErrorFraction.storeFrequencyChannel value
        good (views.told (.rf95SetFrequency (frequencyChannelTable.getD value 0)) stored)
          stored () := by
  unfold setFrequencyChannel
  split
  · exact Iff.rfl
  · simp [lookup, setFrequency, haltForever, storeSetting_meets, Views.told, Views.observe]
    rfl

end Setters

namespace Coherent

variable {views : Views} {node : LoraPoint2Point}

theorem storeSpreadingFactor (coherent : Coherent views node) {value : EnumValue}
    (inside : ¬ numSpreadingFactors ≤ value) :
    let stored := node.resetPacketErrorFraction.storeSpreadingFactor value
    Coherent (views.told (.rf95SetSpreadingFactor (spreadingFactorTable.getD value 0)) stored)
      stored where
  current := coherent.current.changeSpreadingFactor (Nat.lt_of_not_le inside)
  previous := coherent.previous.changeSpreadingFactor coherent.current.1
  agrees := {
    spreadingFactor := by rintro _ ⟨⟩; rfl
    signalBandwidth := coherent.agrees.signalBandwidth
    frequency := coherent.agrees.frequency
    txPower := coherent.agrees.txPower
    user := by rintro _ ⟨⟩; rfl }

theorem storeBandwidth (coherent : Coherent views node) {value : EnumValue}
    (inside : ¬ numSignalBandwidths ≤ value) :
    let stored := node.resetPacketErrorFraction.storeBandwidth value
    Coherent (views.told (.rf95SetSignalBandwidth (signalBandwidthTable.getD value 0)) stored)
      stored where
  current := coherent.current.changeBandwidth (Nat.lt_of_not_le inside)
  previous := coherent.previous.changeBandwidth coherent.current.2.1
  agrees := {
    spreadingFactor := coherent.agrees.spreadingFactor
    signalBandwidth := by rintro _ ⟨⟩; rfl
    frequency := coherent.agrees.frequency
    txPower := coherent.agrees.txPower
    user := by rintro _ ⟨⟩; rfl }

theorem storeFrequencyChannel (coherent : Coherent views node) {value : EnumValue}
    (inside : ¬ numFrequencyChannels ≤ value) :
    let stored := node.resetPacketErrorFraction.storeFrequencyChannel value
    Coherent (views.told (.rf95SetFrequency (frequencyChannelTable.getD value 0)) stored)
      stored where
  current := coherent.current.changeFrequencyChannel (Nat.lt_of_not_le inside)
  previous := coherent.previous.changeFrequencyChannel coherent.current.2.2.1
  agrees := {
    spreadingFactor := coherent.agrees.spreadingFactor
    signalBandwidth := coherent.agrees.signalBandwidth
    frequency := by rintro _ ⟨⟩; rfl
    txPower := coherent.agrees.txPower
    user := by rintro _ ⟨⟩; rfl }

theorem storeTxPower (coherent : Coherent views node) {value : Int8}
    (inside : ¬ (maxTxPower < value ∨ value < minTxPower)) :
    let stored := node.resetPacketErrorFraction.storeTxPower value
    Coherent (views.told (.rf95SetTxPower value false) stored) stored where
  current := coherent.current.changeTxPower (Settings.power_inside inside)
  previous := coherent.previous.changeTxPower coherent.current.2.2.2
  agrees := {
    spreadingFactor := coherent.agrees.spreadingFactor
    signalBandwidth := coherent.agrees.signalBandwidth
    frequency := coherent.agrees.frequency
    txPower := by rintro _ ⟨⟩; rfl
    user := by rintro _ ⟨⟩; rfl }

/-- An action that tells nothing new, with a change of state that leaves the
settings alone, keeps a state coherent. -/
theorem of_settings {later : LoraPoint2Point} (coherent : Coherent views node)
    (current : later.current = node.current) (previous : later.previous = node.previous) :
    Coherent views later where
  current := current ▸ coherent.current
  previous := previous ▸ coherent.previous
  agrees := current ▸ coherent.agrees

end Coherent

/-! ## Every run -/

/-- The invariant of this module: coherent, with every copy in existence. -/
def InStep (views : Views) (node : LoraPoint2Point) : Prop :=
  Coherent views node ∧ views.Complete

namespace InStep

theorem told {views : Views} {node stored : LoraPoint2Point} {driver : Action}
    (inStep : InStep views node) (coherent : Coherent (views.told driver stored) stored) :
    InStep (views.told driver stored) stored :=
  ⟨coherent, (inStep.2.observe _).observe _⟩

theorem of_settings {views : Views} {node later : LoraPoint2Point}
    (inStep : InStep views node) (current : later.current = node.current)
    (previous : later.previous = node.previous) : InStep views later :=
  ⟨inStep.1.of_settings current previous, inStep.2⟩

theorem settles : Settles viewing InStep where
  setSpreadingFactor value := by
    intro views node inStep
    refine (setSpreadingFactor_meets views node value).2 ?_
    split
    · exact inStep
    · rename_i inside
      exact inStep.told (inStep.1.storeSpreadingFactor inside)
  setBandwidth value := by
    intro views node inStep
    refine (setBandwidth_meets views node value).2 ?_
    split
    · exact inStep
    · rename_i inside
      exact inStep.told (inStep.1.storeBandwidth inside)
  setTxPower value := by
    intro views node inStep
    refine (setTxPower_meets views node value).2 ?_
    split
    · exact inStep
    · rename_i inside
      exact inStep.told (inStep.1.storeTxPower inside)
  setFrequencyChannel value := by
    intro views node inStep
    refine (setFrequencyChannel_meets views node value).2 ?_
    split
    · exact inStep
    · rename_i inside
      exact inStep.told (inStep.1.storeFrequencyChannel inside)

/-- Actions other than driver settings and indications tell nothing. -/
theorem perform_silent (action : Action)
    (silent : ∀ views : Views, views.observe action = views) :
    Keeps viewing InStep (perform action) := by
  intro views node inStep
  refine ⟨trivial, fun answer _ => ?_⟩
  rw [Contract.watching_record, silent views]
  exact inStep

theorem perform_plain {action : Action} (plain : action.plain = true) :
    Keeps viewing InStep (perform action) := by
  refine perform_silent _ fun views => ?_
  cases action <;> first | rfl | exact absurd plain Bool.false_ne_true

theorem recvfromAckTimeout : Keeps viewing InStep recvfromAckTimeout := by
  refine Keeps.get_bind fun _ => (perform_silent _ fun _ => rfl).bind fun reception => ?_
  refine Keeps.bind (Keeps.update fun views node inStep => ?_) fun _ => Keeps.pure _
  exact inStep.of_settings rfl rfl

theorem carries : Carries viewing InStep where
  plain _ := perform_plain
  index _ _ _ _ := perform_silent _ fun _ => rfl
  sendtoWait _ _ := perform_silent _ fun _ => rfl
  statistics _ _ _ inStep := inStep.of_settings rfl rfl
  ackSnr _ _ _ inStep := inStep.of_settings rfl rfl
  heartbeatTimer _ _ _ inStep := inStep.of_settings rfl rfl

theorem timeless : Timeless viewing InStep where
  millis := perform_silent _ fun _ => rfl
  currentMillis _ _ _ inStep := inStep.of_settings rfl rfl
  linkTimer _ _ _ inStep := inStep.of_settings rfl rfl

theorem types : Types InStep where
  txMsg _ _ _ inStep := inStep.of_settings rfl rfl
  serialCmd _ _ _ _ inStep := inStep.of_settings rfl rfl

theorem indifferent : Indifferent viewing InStep := by
  have enter := fun procedure => perform_silent (.enter procedure) fun _ => rfl
  have leave := fun procedure => perform_silent (.leave procedure) fun _ => rfl
  refine timeless.indifferent carries enter (fun _ _ => leave _) ?_
  exact settles.linkChangeReqTimeout (enter _) (leave _) (timeless.onLinkTimer _)

theorem reads : ReadsAnywhere viewing InStep :=
  fun _ _ _ => perform_silent _ fun _ => rfl

theorem sustains : Sustains viewing InStep :=
  indifferent.sustains types settles reads (indifferent.serviceRx settles reads
    recvfromAckTimeout fun _ _ inStep => inStep.of_settings rfl rfl)

end InStep

/-- Setting up tells the driver all four defaults, and the user with them. -/
theorem setupRadio_inStep (thisAddress : UInt8) :
    (setupRadio (LoraPoint2Point.initial thisAddress)).Meets viewing
      (fun views node ok => ok = true → InStep views node) {} := by
  simp [setupRadio, forceRadioReset, Resumption.Meets.bind_iff, setSpreadingFactor_meets,
    setBandwidth_meets, setTxPower_meets, setFrequencyChannel_meets, Settings.default,
    numSpreadingFactors, numSignalBandwidths, numFrequencyChannels, maxTxPower, minTxPower]
  have start : Coherent {} (LoraPoint2Point.initial thisAddress) := {
    current := Settings.default_valid
    previous := Settings.default_valid
    agrees := ⟨nofun, nofun, nofun, nofun, nofun⟩ }
  have spreadingFactor := start.storeSpreadingFactor (show ¬ numSpreadingFactors ≤ 0 by decide)
  have bandwidth := spreadingFactor.storeBandwidth (show ¬ numSignalBandwidths ≤ 2 by decide)
  have txPower := bandwidth.storeTxPower
    (show ¬ (maxTxPower < (2 : Int8) ∨ (2 : Int8) < minTxPower) by decide)
  have channel := txPower.storeFrequencyChannel (show ¬ numFrequencyChannels ≤ 0 by decide)
  exact ⟨channel, rfl, rfl, rfl, rfl, rfl⟩

theorem session_inStep (thisAddress : UInt8) (operations : List Operation) :
    (session operations (LoraPoint2Point.initial thisAddress)).Meets viewing
      (fun views node ok => ok = true → InStep views node) {} := by
  refine Resumption.Meets.bind_iff.2 ((setupRadio_inStep thisAddress).mono ?_)
  intro views node ok inStep
  cases ok with
  | false => exact nofun
  | true =>
      refine Resumption.Meets.bind_iff.2 ?_
      have kept := InStep.sustains.endures.operate operations views node (inStep rfl)
      exact kept.mono fun _ _ _ later _ => later

/-- After a successful setup and any calls, current and previous settings are in
range, the driver was last handed the table entries of the current settings, and
the user was last told exactly these. -/
theorem settings_valid_and_views_agree (thisAddress : UInt8) (operations : List Operation)
    (trace : List NodeStep) (node : LoraPoint2Point)
    (run : Resumption.Runs (session operations (LoraPoint2Point.initial thisAddress)) trace
      (.done node true)) :
    node.current.Valid ∧ node.previous.Valid ∧
      (Views.last trace).spreadingFactor =
        some (spreadingFactorTable.getD node.current.spreadingFactor 0) ∧
      (Views.last trace).signalBandwidth =
        some (signalBandwidthTable.getD node.current.signalBandwidth 0) ∧
      (Views.last trace).frequency =
        some (frequencyChannelTable.getD node.current.frequencyChannel 0) ∧
      (Views.last trace).txPower = some node.current.txPower ∧
      (Views.last trace).user = some node.current := by
  have ended := (session_inStep thisAddress operations).runs run (Contract.watching_allows _ trace)
  obtain ⟨coherent, hasSpreadingFactor, hasBandwidth, hasFrequency, hasTxPower, hasUser⟩ :=
    ended rfl
  rw [viewing_after] at coherent hasSpreadingFactor hasBandwidth hasFrequency hasTxPower hasUser
  obtain ⟨spreadingFactor, bandwidth, frequency, txPower, user⟩ := coherent.agrees
  refine ⟨coherent.current, coherent.previous, ?_, ?_, ?_, ?_, ?_⟩
  · obtain ⟨value, found⟩ := Option.isSome_iff_exists.1 hasSpreadingFactor
    rw [found, spreadingFactor value found]
  · obtain ⟨value, found⟩ := Option.isSome_iff_exists.1 hasBandwidth
    rw [found, bandwidth value found]
  · obtain ⟨value, found⟩ := Option.isSome_iff_exists.1 hasFrequency
    rw [found, frequency value found]
  · obtain ⟨value, found⟩ := Option.isSome_iff_exists.1 hasTxPower
    rw [found, txPower value found]
  · obtain ⟨told, found⟩ := Option.isSome_iff_exists.1 hasUser
    rw [found, user told found]

/-- A session that accepts one setting, refuses another and follows a peer. -/
def followingSession : List NodeStep × NodeRun Bool :=
  Surroundings.run { receives := fun _ => .message [3, 4, 1, 5, 10] 9 1 0 0 }
    [.setSpreadingFactor 3, .setTxPower 21, .serviceRx] 1

theorem settings_valid_and_views_agree_following :
    (Views.last followingSession.1).frequency = some 9110 ∧
      (Views.last followingSession.1).user = some ⟨4, 1, 5, 10⟩ := by
  have agree := settings_valid_and_views_agree 1 _ followingSession.1
    followingSession.2.state (Surroundings.run_runs _ _ _)
  exact ⟨agree.2.2.2.2.1, agree.2.2.2.2.2.2⟩

end Roam.Node
