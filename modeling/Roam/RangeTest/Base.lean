import Roam.Interaction.Host
import Roam.Node.Session

/-!
# The range test base

`LoRaRangeTest_Base` owns one `loraPoint2Point` object, polls three buttons,
sends a test message every five seconds and logs every message to the SD card
from the object's callbacks.  `Base` holds the sketch's globals; its code runs
next to the object or calls it.  The OLED display and the text printed to the
USB port are left out.
-/

namespace Roam.RangeTest

open Roam.Interaction
open Roam.Node

inductive Button where
  | settingSelect
  | valueSelect
  | enter
  deriving DecidableEq, Repr

/-- `BUTTON_*`. -/
def Button.pin : Button → UInt8
  | .settingSelect => 9
  | .valueSelect => 6
  | .enter => 5

/-- `RH_RELIABLE_DATAGRAM_ADDR`. -/
def baseAddress : UInt8 := 0xBB

/-- The address every request of the sketch goes to. -/
def endpointAddress : UInt8 := 0xEE

/-- One row of `datalog.csv`.  The column of the flags stays empty for a message sent. -/
structure Row where
  timestamp : UInt32
  srcAddr : UInt8
  destAddr : UInt8
  msgType : UInt8
  flags : Option UInt8
  ack : Bool
  message : List UInt8
  settings : Settings
  deriving DecidableEq

/-- What the sketch does outside its globals.  `radio` is an action of the object,
`typed` polls the USB port, and `triggered` marks that a button is acted upon. -/
inductive Action where
  | radio (action : Node.Action)
  | millis
  | digitalRead (pin : UInt8)
  | typed
  | openDataFile
  | printRow (row : Row)
  | triggered (button : Button)

/-- The answer each action waits for. -/
abbrev Action.Answer : Action → Type
  | .radio action => action.Answer
  | .millis => UInt32
  | .digitalRead _ => Bool
  | .typed => List UInt8
  | .openDataFile => Bool
  | .printRow _ => Unit
  | .triggered _ => Unit

/-- The row an action writes, if it writes one. -/
def Action.row? : Action → Option Row
  | .printRow row => some row
  | _ => none

theorem Action.eq_printRow {action : Action} {row : Row} (found : action.row? = some row) :
    action = .printRow row := by
  cases action
  case printRow printed => exact congrArg Action.printRow (Option.some.inj found)
  all_goals cases found

/-- The globals of the sketch.  `settings` collects `spreadingFactor`,
`signalBandwidth`, `frequencyChannel` and `txPower`. -/
structure Base where
  prevMillis : UInt32 := 0
  currentMillis : UInt32 := 0
  lastAckMillis : UInt32 := 0
  prevButtonScanMillis : UInt32 := 0
  timeUp : Bool := false
  settings : Settings := Settings.default
  setting : UInt8 := 0
  settingSelectCount : UInt8 := 0
  valueSelectCount : UInt8 := 0
  enterCount : UInt8 := 0
  noPressCount : UInt8 := 0
  settingSelect : Bool := false
  valueSelect : Bool := false
  enter : Bool := false
  prevSettingSelect : Bool := false
  prevValueSelect : Bool := false
  prevEnter : Bool := false
  valueChanged : Bool := false
  suspendRadio : Bool := false
  deriving DecidableEq

/-- Code of the sketch itself. -/
abbrev SketchM (Value : Type) : Type := Program Base Action Action.Answer Value

/-- Code of the sketch with the object in it. -/
abbrev BaseM (Value : Type) : Type :=
  Program (Base × LoraPoint2Point) Action Action.Answer Value

abbrev BaseStep : Type := Step (Base × LoraPoint2Point) Action Action.Answer

def perform (action : Action) : SketchM action.Answer := Program.ask action

/-! ## Callbacks -/

/-- Append a row to the log, if the file can be opened. -/
def logRow (row : UInt32 → Base → Row) : SketchM Unit := do
  if ← perform .openDataFile then
    let now ← perform .millis
    perform (.printRow (row now (← get)))

def txInd (payload : List UInt8) (destAddr : UInt8) (ack : Bool) : SketchM Unit := do
  logRow fun now base => {
    timestamp := now
    srcAddr := baseAddress
    destAddr := destAddr
    msgType := payload.getD 0 0
    flags := none
    ack := ack
    message := payload.drop 1
    settings := base.settings }
  if ack then
    modify fun base => { base with lastAckMillis := base.currentMillis }

def rxInd (rxMsg : Message) : SketchM Unit :=
  logRow fun now base => {
    timestamp := now
    srcAddr := rxMsg.srcAddr
    destAddr := rxMsg.destAddr
    msgType := rxMsg.buf.get 0
    flags := some rxMsg.flags
    ack := true
    message := rxMsg.bytes.drop 1
    settings := base.settings }

def linkChangeInd (settings : Settings) : SketchM Unit :=
  modify fun base => { base with settings := settings }

/-- How the sketch takes part in an action of the object: it runs the callbacks. -/
def callbacks : (action : Node.Action) → SketchM action.Answer
  | .txInd payload destAddr ack => do
      perform (.radio (.txInd payload destAddr ack))
      txInd payload destAddr ack
  | .rxInd rxMsg => do
      perform (.radio (.rxInd rxMsg))
      rxInd rxMsg
  | .linkChangeInd settings => do
      perform (.radio (.linkChangeInd settings))
      linkChangeInd settings
  | action => perform (.radio action)

/-- Call the object. -/
def call {Value : Type} (program : NodeM Value) : BaseM Value :=
  program.hosted callbacks

/-! ## Buttons -/

/-- The three `operator++` on the setting enumerations: every case goes to the
next one, the last to the first.  A value that is no case has no successor in
the source. -/
def increment (count value : EnumValue) : EnumValue :=
  if value + 1 = count then 0 else value + 1

/-- `txPower++`, with the jump back behind the highest power. -/
def incrementTxPower (txPower : Int8) : Int8 :=
  if maxTxPower < txPower + 1 then minTxPower else txPower + 1

namespace Base

/-- The part of a scan that counts: one count for each pressed button, and all
counts cleared by the second scan with neither the value nor the enter button
pressed. -/
def countPresses (base : Base) : Base :=
  let base := if base.settingSelect then
    { base with noPressCount := 0, settingSelectCount := base.settingSelectCount + 1 } else base
  let base := if base.valueSelect then
    { base with noPressCount := 0, valueSelectCount := base.valueSelectCount + 1 } else base
  let base := if base.enter then
    { base with noPressCount := 0, enterCount := base.enterCount + 1 } else base
  let base := if !(base.enter || base.valueSelect || base.enter) then
    { base with noPressCount := base.noPressCount + 1 } else base
  let base := if base.noPressCount = 2 then
    { base with
      settingSelectCount := 0, valueSelectCount := 0, enterCount := 0, noPressCount := 0 }
    else base
  if base.noPressCount = 10 then { base with noPressCount := 0 } else base

/-- The setting button taken as pressed. -/
def selectSetting (base : Base) : Base :=
  { base with
    settingSelectCount := base.settingSelectCount + 1
    valueSelectCount := 0
    enterCount := 0
    noPressCount := 0
    setting := if 3 < base.setting + 1 then 0 else base.setting + 1 }

/-- The switch on `setting` that advances one value. -/
def advanceValue (base : Base) : Settings :=
  match base.setting.toNat with
  | 0 => { base.settings with
      spreadingFactor := increment numSpreadingFactors base.settings.spreadingFactor }
  | 1 => { base.settings with
      signalBandwidth := increment numSignalBandwidths base.settings.signalBandwidth }
  | 2 => { base.settings with
      frequencyChannel := increment numFrequencyChannels base.settings.frequencyChannel }
  | 3 => { base.settings with txPower := incrementTxPower base.settings.txPower }
  | _ => base.settings

/-- The value button taken as pressed. -/
def selectValue (base : Base) : Base :=
  { base with
    valueSelectCount := base.valueSelectCount + 1
    settingSelectCount := 0
    enterCount := 0
    noPressCount := 0
    valueChanged := true
    settings := base.advanceValue }

end Base

/-- A pressed button pulls its pin low. -/
def readButton (button : Button) : SketchM Bool := do
  return !(← perform (.digitalRead button.pin))

def readButtons : SketchM Unit := do
  modify fun base => { base with
    prevButtonScanMillis := base.currentMillis
    prevSettingSelect := base.settingSelect
    prevValueSelect := base.valueSelect
    prevEnter := base.enter }
  let settingSelect ← readButton .settingSelect
  modify fun base => { base with settingSelect := settingSelect }
  let valueSelect ← readButton .valueSelect
  modify fun base => { base with valueSelect := valueSelect }
  let enter ← readButton .enter
  modify fun base => { base with enter := enter }
  modify Base.countPresses

def processSettingSelect : SketchM Unit := do
  if (← get).settingSelectCount = 2 then
    perform (.triggered .settingSelect)
    modify Base.selectSetting

def processValueSelect : SketchM Unit := do
  if (← get).valueSelectCount = 2 then
    perform (.triggered .valueSelect)
    modify Base.selectValue

/-- The enter button asks the endpoint for the settings on display. -/
def processEnter : BaseM Unit := do
  if (← get).1.enterCount = 2 then
    Program.beside do
      perform (.triggered .enter)
      modify fun base => { base with
        enterCount := base.enterCount + 1
        settingSelectCount := 0
        valueSelectCount := 0
        noPressCount := 0 }
    call (linkChangeReq endpointAddress (← get).1.settings)
    Program.beside do
      modify fun base => { base with valueChanged := false }

/-! ## The sketch -/

def readClock : SketchM Unit := do
  let now ← perform .millis
  modify fun base => { base with currentMillis := now }

/-- At most one scan in ten milliseconds. -/
def serviceButtons : BaseM Unit := do
  let base := (← get).1
  if 10 < base.currentMillis - base.prevButtonScanMillis then
    Program.beside readButtons
    Program.beside processSettingSelect
    Program.beside processValueSelect
    processEnter

/-- `"foobar"`. -/
def testMessage : List UInt8 := "foobar".toUTF8.toList

def prepareTestMessage : BaseM Unit := do
  let base := (← get).1
  if 5000 < base.currentMillis - base.prevMillis then
    let _ ← call (setTxMessage testMessage 6)
    Program.beside do
      modify fun base => { base with prevMillis := base.currentMillis, timeUp := true }

/-- Send when the typed line or the test message is complete. -/
def sendMessage : BaseM Unit := do
  let pending ← Program.beside (perform .typed)
  let built ← call (buildStringFromSerial pending)
  if built ≠ 0 ∨ (← get).1.timeUp then
    call (serviceTx endpointAddress)
    Program.beside do
      modify fun base => { base with timeUp := false }

def serviceRadio : BaseM Unit := do
  if (← get).1.suspendRadio = false then
    prepareTestMessage
    sendMessage
    call serviceRx

def loop : BaseM Unit := do
  Program.beside readClock
  serviceButtons
  serviceRadio

/-- `loop()` called a number of times. -/
def loops : Nat → BaseM Unit
  | 0 => pure ()
  | iterations + 1 => do
      loop
      loops iterations

/-- `setup()` and then the main loop.  A radio that cannot be set up ends in an
endless loop. -/
def sketch (iterations : Nat) : BaseM Unit := do
  if ← call setupRadio then
    call startHeartbeats
    loops iterations

/-- The globals and the object as constructed. -/
def start : Base × LoraPoint2Point := ({}, LoraPoint2Point.initial baseAddress)

/-! ## Surroundings given by functions -/

/-- Surroundings of the sketch: those of the object, and the clock, the pressed
pins, the typed characters and the SD card by the position in the run. -/
structure Bench where
  radio : Surroundings := {}
  clock : Nat → UInt32 := fun _ => 0
  presses : Nat → UInt8 → Bool := fun _ _ => false
  typed : Nat → List UInt8 := fun _ => []
  opens : Nat → Bool := fun _ => true

namespace Bench

def answer (bench : Bench) (position : Nat) : (action : Action) → Option action.Answer
  | .radio action => bench.radio.answer position action
  | .millis => some (bench.clock position)
  | .digitalRead pin => some (!bench.presses position pin)
  | .typed => some (bench.typed position)
  | .openDataFile => some (bench.opens position)
  | .printRow _ => some ()
  | .triggered _ => some ()

/-- The run of the sketch on a bench. -/
def run (bench : Bench) (iterations : Nat) :
    List BaseStep × Resumption (Base × LoraPoint2Point) Action Action.Answer Unit :=
  Resumption.drive bench.answer 0 (sketch iterations start)

theorem run_runs (bench : Bench) (iterations : Nat) :
    Resumption.Runs (sketch iterations start) (bench.run iterations).1
      (bench.run iterations).2 :=
  Resumption.drive_runs _ _ _

end Bench

end Roam.RangeTest
