import Roam.RangeTest.Walk

/-!
# The settings in the log

The four setting globals of the base are the user's pending selection and the
mirror of the object's settings at once.  Every indication overwrites them with
the settings in force; every press of the value button then moves one of them
on.  A row shows the settings in force exactly when the presses since the last
indication have taken each value around whole circles.
-/

namespace Roam.RangeTest

open Roam.Interaction
open Roam.Node

/-! ## Going around -/

section Circle

variable {α : Type} {next : α → α} {position : α → Nat} {count : Nat}

/-- Stepping through a circle of positions is addition modulo its length. -/
theorem position_iterate
    (moves : ∀ value, position value < count →
      position (next value) = if position value + 1 = count then 0 else position value + 1)
    {value : α} (inside : position value < count) (steps : Nat) :
    position (next^[steps] value) = (position value + steps) % count := by
  induction steps with
  | zero => exact (Nat.mod_eq_of_lt inside).symm
  | succ steps ih =>
      have below : (position value + steps) % count < count :=
        Nat.mod_lt _ (Nat.zero_lt_of_lt inside)
      rw [Function.iterate_succ_apply', moves _ (ih ▸ below), ih, ← Nat.add_assoc,
        ← Nat.mod_add_mod (position value + steps) count 1]
      split
      · rename_i last
        rw [last, Nat.mod_self]
      · rename_i early
        exact (Nat.mod_eq_of_lt (by omega)).symm

/-- A value comes back exactly after whole rounds. -/
theorem iterate_eq_self_iff (injective : Function.Injective position)
    (moves : ∀ value, position value < count →
      position (next value) = if position value + 1 = count then 0 else position value + 1)
    {value : α} (inside : position value < count) (steps : Nat) :
    next^[steps] value = value ↔ count ∣ steps := by
  have back : next^[steps] value = value ↔ (position value + steps) % count = position value := by
    rw [← position_iterate moves inside]
    exact injective.eq_iff.symm
  have round : (position value + steps) ≡ position value + 0 [MOD count] ↔ steps ≡ 0 [MOD count] :=
    ⟨Nat.ModEq.add_left_cancel' _, Nat.ModEq.add_left _⟩
  rw [back, ← Nat.modEq_zero_iff_dvd, ← round, Nat.ModEq, Nat.add_zero, Nat.mod_eq_of_lt inside]

end Circle

theorem increment_iterate_iff {count value : EnumValue} (inside : value < count) (steps : Nat) :
    (increment count)^[steps] value = value ↔ count ∣ steps :=
  iterate_eq_self_iff Function.injective_id (fun _ _ => rfl) inside steps

/-- The number of steps from the lowest power. -/
def powerPosition (txPower : Int8) : Nat := (txPower - minTxPower).toUInt8.toNat

theorem powerPosition_injective : Function.Injective powerPosition := by
  intro first second same
  have shifted : first - minTxPower = second - minTxPower :=
    congrArg UInt8.toInt8 (UInt8.toNat_inj.1 same)
  rw [← Int8.sub_add_cancel first minTxPower, shifted, Int8.sub_add_cancel]

/-- What holds of every byte holds of every power. -/
theorem forall_power {P : Int8 → Prop} (bytes : ∀ byte < 256, P (UInt8.ofNat byte).toInt8)
    (txPower : Int8) : P txPower := by
  have found := bytes txPower.toUInt8.toNat (UInt8.toNat_lt _)
  rwa [UInt8.ofNat_toNat, Int8.toInt8_toUInt8] at found

theorem powerPosition_lt : ∀ txPower : Int8,
    minTxPower ≤ txPower ∧ txPower ≤ maxTxPower → powerPosition txPower < 19 :=
  forall_power (by decide +kernel)

theorem powerPosition_increment : ∀ txPower : Int8, powerPosition txPower < 19 →
    powerPosition (incrementTxPower txPower) =
      if powerPosition txPower + 1 = 19 then 0 else powerPosition txPower + 1 :=
  forall_power (by decide +kernel)

theorem incrementTxPower_iterate_iff {txPower : Int8}
    (inside : minTxPower ≤ txPower ∧ txPower ≤ maxTxPower) (steps : Nat) :
    incrementTxPower^[steps] txPower = txPower ↔ 19 ∣ steps :=
  iterate_eq_self_iff powerPosition_injective powerPosition_increment
    (powerPosition_lt _ inside) steps

/-! ## Presses -/

/-- How often the value button was taken as pressed on each of the four settings. -/
structure Presses where
  spreadingFactor : Nat := 0
  signalBandwidth : Nat := 0
  frequencyChannel : Nat := 0
  txPower : Nat := 0
  deriving DecidableEq, Repr

namespace Presses

/-- One more press, while `setting` is selected. -/
def add (presses : Presses) (setting : UInt8) : Presses :=
  match setting.toNat with
  | 0 => { presses with spreadingFactor := presses.spreadingFactor + 1 }
  | 1 => { presses with signalBandwidth := presses.signalBandwidth + 1 }
  | 2 => { presses with frequencyChannel := presses.frequencyChannel + 1 }
  | 3 => { presses with txPower := presses.txPower + 1 }
  | _ => presses

/-- What the presses make of the settings in force. -/
def advance (presses : Presses) (settings : Settings) : Settings where
  spreadingFactor := (increment numSpreadingFactors)^[presses.spreadingFactor]
    settings.spreadingFactor
  signalBandwidth := (increment numSignalBandwidths)^[presses.signalBandwidth]
    settings.signalBandwidth
  frequencyChannel := (increment numFrequencyChannels)^[presses.frequencyChannel]
    settings.frequencyChannel
  txPower := incrementTxPower^[presses.txPower] settings.txPower

/-- Each value has gone around its circle a whole number of times: 6 spreading
factors, 3 bandwidths, 16 channels and 19 powers. -/
def Whole (presses : Presses) : Prop :=
  numSpreadingFactors ∣ presses.spreadingFactor ∧ numSignalBandwidths ∣ presses.signalBandwidth ∧
    numFrequencyChannels ∣ presses.frequencyChannel ∧ 19 ∣ presses.txPower

instance (presses : Presses) : Decidable presses.Whole :=
  inferInstanceAs (Decidable (_ ∧ _ ∧ _ ∧ _))

/-- The switch of the loop is one more press. -/
theorem advance_add (presses : Presses) (settings : Settings) {base : Base}
    (selection : base.settings = presses.advance settings) :
    base.advanceValue = (presses.add base.setting).advance settings := by
  unfold Base.advanceValue add
  rw [selection]
  generalize base.setting.toNat = selected
  rcases selected with _ | _ | _ | _ | _ <;> simp only [advance, Function.iterate_succ_apply']

theorem advance_eq_self_iff (presses : Presses) {settings : Settings} (valid : settings.Valid) :
    presses.advance settings = settings ↔ presses.Whole := by
  obtain ⟨spreadingFactor, signalBandwidth, frequencyChannel, power⟩ := valid
  rw [Whole, ← increment_iterate_iff spreadingFactor, ← increment_iterate_iff signalBandwidth,
    ← increment_iterate_iff frequencyChannel, ← incrementTxPower_iterate_iff power]
  exact ⟨fun same => ⟨congrArg Settings.spreadingFactor same,
    congrArg Settings.signalBandwidth same, congrArg Settings.frequencyChannel same,
    congrArg Settings.txPower same⟩,
    fun ⟨first, second, third, fourth⟩ => by
      simp only [advance, first, second, third, fourth]⟩

/-- An indication clears the count, and a press of the value button adds to it. -/
def observe (presses : Presses) (both : Base × LoraPoint2Point) : Action → Presses
  | .radio (.linkChangeInd _) => {}
  | .triggered .valueSelect => presses.add both.1.setting
  | _ => presses

/-- The presses since the last indication of a run. -/
def pending (trace : List BaseStep) : Presses :=
  trace.foldl (fun presses step => presses.observe step.state step.action) {}

end Presses

/-! ## The object's code -/

/-- The globals are the presses made on the settings in force, which are in range. -/
structure Selected (presses : Presses) (globals current : Settings) : Prop where
  selection : globals = presses.advance current
  valid : current.Valid

/-- The contract of the object's code: it calls back only while the globals are
known, and its indications overwrite them. -/
def mirroring : Contract LoraPoint2Point Node.Action Node.Action.Answer (Presses × Settings) :=
  Contract.insisting
    (fun ghost node action =>
      match action with
      | .txInd _ _ _ => Selected ghost.1 ghost.2 node.current
      | .rxInd _ => Selected ghost.1 ghost.2 node.current
      | _ => True)
    fun ghost _ action _ =>
      match action with
      | .linkChangeInd settings => ({}, settings)
      | _ => ghost

namespace Selected

/-- The invariant of the object's code. -/
abbrev Keep (ghost : Presses × Settings) (node : LoraPoint2Point) : Prop :=
  Selected ghost.1 ghost.2 node.current

/-- Only an indication moves the globals. -/
theorem perform (action : Node.Action) (silent : ∀ settings, action ≠ .linkChangeInd settings) :
    Keeps mirroring Keep (Node.perform action) := by
  intro ghost node selected
  cases action
  case linkChangeInd settings => exact absurd rfl (silent settings)
  case txInd => exact ⟨selected, fun _ _ => selected⟩
  case rxInd => exact ⟨selected, fun _ _ => selected⟩
  all_goals exact ⟨trivial, fun _ _ => selected⟩

theorem reads : ReadsAnywhere mirroring Keep := fun _ _ _ => perform _ nofun

/-- A store ends with an indication, after which the globals are the settings in force. -/
theorem adjusts : Adjusts mirroring Keep fun _ node => node.current.Valid where
  index _ _ _ _ := perform _ nofun
  driver action adjusts := by
    apply perform
    rintro settings rfl
    cases adjusts
  setFrequency tenthMegahertz := by
    intro ghost node selected
    exact ⟨trivial, fun _ _ => ⟨selected, fun _ => trivial⟩⟩
  storeSetting store stored := by
    intro ghost node selected
    refine ⟨trivial, fun _ _ => ⟨trivial, fun _ _ => ?_⟩⟩
    have cleared : Keep ghost node.resetPacketErrorFraction := selected
    exact ⟨rfl, stored ghost _ cleared⟩

theorem settles : Settles mirroring Keep :=
  adjusts.settles_of_valid (fun _ _ selected => selected.valid) fun _ _ _ _ _ valid => valid

theorem carries : Carries mirroring Keep where
  plain action plain := by
    apply perform
    rintro settings rfl
    cases plain
  index _ _ _ _ := perform _ nofun
  sendtoWait _ _ := perform (.sendtoWait _ _) nofun
  statistics _ _ _ := id
  ackSnr _ _ _ := id
  heartbeatTimer _ _ _ := id

theorem timeless : Timeless mirroring Keep where
  millis := perform .millis nofun
  currentMillis _ _ _ := id
  linkTimer _ _ _ := id

theorem types : Types Keep where
  txMsg _ _ _ := id
  serialCmd _ _ _ _ := id

theorem recvfromAckTimeout : Keeps mirroring Keep recvfromAckTimeout := by
  refine .get_bind fun node => ?_
  refine (perform (.recvfromAckTimeout node.rxMsg.bufLen 200) nofun).bind fun reception => ?_
  exact Keeps.bind (Keeps.update fun _ _ => id) fun _ => .pure _

theorem endures : Endures mirroring Keep := by
  have enter : ∀ procedure, Keeps mirroring Keep (Node.perform (.enter procedure)) :=
    fun _ => perform _ nofun
  have leave : ∀ procedure, Keeps mirroring Keep (Node.perform (.leave procedure)) :=
    fun _ => perform _ nofun
  have rollback := settles.linkChangeReqTimeout (enter _) (leave _) (timeless.onLinkTimer _)
  have indifferent := timeless.indifferent carries enter (fun _ _ => leave _) rollback
  have reception := indifferent.serviceRx settles reads recvfromAckTimeout fun _ _ => id
  exact (indifferent.sustains types settles reads reception).endures

end Selected

/-! ## The sketch -/

/-- The contract of the sketch: every row shows the selection. -/
def logging : Contract (Base × LoraPoint2Point) Action Action.Answer Presses :=
  Contract.insisting
    (fun presses both action =>
      match action with
      | .printRow row => Selected presses row.settings both.2.current
      | _ => True)
    fun presses both action _ => presses.observe both action

theorem logging_after (trace : List BaseStep) :
    logging.after {} trace = Presses.pending trace := rfl

/-- How the history of the object's code follows the one of the sketch. -/
abbrev Follows (ghost : Presses × Settings) (presses : Presses) (base : Base) : Prop :=
  ghost = (presses, base.settings)

/-- The callbacks log the selection and take indications over. -/
theorem relays : Relays mirroring logging Follows where
  act action ghost presses base object follows asked := by
    subst follows
    cases action
    all_goals exact ⟨trivial, fun _ _ => ⟨trivial, rfl⟩⟩
  log action logs ghost object presses base follows := by
    cases action
    case openDataFile => exact ⟨trivial, fun _ _ => follows⟩
    case millis => exact ⟨trivial, fun _ _ => follows⟩
    all_goals cases logs
  print action answer ghost presses base object row asked follows tells shows := by
    refine ⟨?_, follows⟩
    show Selected presses row.settings object.current
    cases action
    case txInd =>
      cases follows
      rw [shows]
      exact asked
    case rxInd =>
      cases follows
      rw [shows]
      exact asked
    all_goals cases tells
  lastAck _ _ _ follows := follows

/-- The invariant of the sketch. -/
def Logs (presses : Presses) (both : Base × LoraPoint2Point) : Prop :=
  Selected presses both.1.settings both.2.current

namespace Logs

/-- Calls of the object that keep the selection keep the log right. -/
theorem call {Value : Type} {program : NodeM Value}
    (keeps : Keeps mirroring Selected.Keep program) : Keeps logging Logs (call program) := by
  refine (relays.call keeps).weaken ?_ ?_
  · intro presses both logs
    exact ⟨_, rfl, logs⟩
  · rintro _ presses both ⟨_, rfl, selected⟩
    exact selected

/-- An action that neither prints a row nor is a press of the value button. -/
theorem perform (action : Action) (state : LoraPoint2Point)
    (free : ∀ presses base, logging.require presses (base, state) action)
    (still : ∀ presses base, Presses.observe presses (base, state) action = presses) :
    Keeps (logging.along (·, state)) (fun presses base => Logs presses (base, state))
      (perform action) := by
  intro presses base logs
  refine ⟨free presses base, fun answer _ => ?_⟩
  have same : (logging.along (·, state)).record presses base action answer = presses :=
    still presses base
  rw [same]
  exact logs

/-- A press of the value button is counted and advances the selection. -/
theorem processValueSelect (state : LoraPoint2Point) :
    Keeps (logging.along (·, state)) (fun presses base => Logs presses (base, state))
      processValueSelect := by
  refine .get_bind fun _ => .ite ?_ (.pure ())
  intro presses base logs
  exact ⟨trivial, fun _ _ => ⟨presses.advance_add _ logs.selection, logs.valid⟩⟩

/-- What a scan changes besides, the log does not show. -/
theorem counts : Counts Logs := by
  intro base changed settings _ presses state logs
  show Selected presses changed.settings state.current
  rw [settings]
  exact logs

theorem scans : Scans logging Logs where
  ask action scans state := by
    cases action
    case digitalRead => exact perform _ state (fun _ _ => trivial) fun _ _ => rfl
    case triggered button =>
      cases button
      case settingSelect => exact perform _ state (fun _ _ => trivial) fun _ _ => rfl
      all_goals cases scans
    all_goals cases scans
  counts := counts
  processValueSelect := Keeps.beside processValueSelect
  processEnter := counts.processEnter
    (fun state => perform _ state (fun _ _ => trivial) fun _ _ => rfl)
    fun _ => call (Selected.endures.linkChangeReq _ _)

theorem polls : Polls logging Logs := by
  have endures := Selected.endures
  exact {
    poll := fun action polls => Keeps.beside fun state => by
      cases action
      case millis => exact perform .millis state (fun _ _ => trivial) fun _ _ => rfl
      case typed => exact perform .typed state (fun _ _ => trivial) fun _ _ => rfl
      all_goals cases polls
    times := fun _ _ _ _ _ _ logs => logs
    setupRadio := call endures.setupRadio
    startHeartbeats := call endures.carries.startHeartbeats
    setTxMessage := call (endures.texts.setTxMessage _ _)
    buildStringFromSerial := fun pending => call (endures.buildStringFromSerial pending)
    serviceTx := call (endures.texts.serviceTx _)
    serviceRx := call endures.serviceRx }

theorem sketch (iterations : Nat) : Keeps logging Logs (sketch iterations) :=
  polls.sketch scans.serviceButtons iterations

/-- Before setup nothing is selected and the defaults are in force. -/
theorem start : Logs {} start := ⟨rfl, Settings.default_valid⟩

end Logs

/-- Whatever the buttons, the port, the peer and the clock do, a row shows the
settings in force exactly if the presses of the value button since the last
indication have taken every value around whole circles. -/
theorem row_shows_current_iff {iterations : Nat} {before later : List BaseStep} {step : BaseStep}
    {last : Resumption (Base × LoraPoint2Point) Action Action.Answer Unit} {row : Row}
    (run : Resumption.Runs (sketch iterations start) (before ++ step :: later) last)
    (logged : step.action = .printRow row) :
    row.settings = step.state.2.current ↔ (Presses.pending before).Whole := by
  obtain ⟨both, action, answer⟩ := step
  cases logged
  have kept := Logs.sketch iterations {} start Logs.start
  have selected : Selected (logging.after {} before) row.settings both.2.current :=
    kept.required run (Contract.insisting_allows _ _)
  rw [logging_after] at selected
  rw [selected.selection]
  exact Presses.advance_eq_self_iff _ selected.valid

/-- The value button held down over two iterations of the loop, more than five
seconds apart. -/
def heldButton : List BaseStep × Resumption (Base × LoraPoint2Point) Action Action.Answer Unit :=
  let clock := fun position => if position < 44 then 5001 else 10002
  Bench.run { radio := { clock := clock }, clock := clock, presses := fun _ pin => pin = 6 } 2

/-- The row of the second test message. -/
def heldButtonRow : Row where
  timestamp := 10002
  srcAddr := 0xBB
  destAddr := 0xEE
  msgType := 1
  flags := none
  ack := true
  message := testMessage
  settings := { Settings.default with spreadingFactor := 1 }

/-- The row stands at this position of the run. -/
theorem heldButton_runs : Resumption.Runs (sketch 2 start)
    (heldButton.1.take 63 ++ heldButton.1.get ⟨63, by decide +kernel⟩ :: heldButton.1.drop 64)
    heldButton.2 :=
  Resumption.Runs.around (Bench.run_runs _ _) ⟨63, by decide +kernel⟩

theorem heldButton_row :
    (heldButton.1.get ⟨63, by decide +kernel⟩).action = .printRow heldButtonRow :=
  Action.eq_printRow (by decide +kernel)

theorem row_shows_current_iff_held :
    heldButtonRow.settings ≠ (heldButton.1.get ⟨63, by decide +kernel⟩).state.2.current := by
  exact mt (row_shows_current_iff heldButton_runs heldButton_row).1 (by decide +kernel)

/-- The row shows the spreading factor selected by the button, not the one in force. -/
theorem pending_selection_logged :
    ¬ ∀ (iterations : Nat) (before later : List BaseStep) (step : BaseStep)
      (last : Resumption (Base × LoraPoint2Point) Action Action.Answer Unit) (row : Row),
      Resumption.Runs (sketch iterations start) (before ++ step :: later) last →
        step.action = .printRow row → row.settings = step.state.2.current := by
  intro always
  have shown := always 2 _ _ _ _ _ heldButton_runs heldButton_row
  exact absurd shown (by decide +kernel)

end Roam.RangeTest
