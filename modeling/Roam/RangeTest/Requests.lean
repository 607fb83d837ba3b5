import Roam.RangeTest.Log

/-!
# Requests of the base

The globals of the base are written by the value button and by the indications of
the object.  Both keep each setting within its range, and so the enter button asks
for a link that exists, and the tables are read inside.
-/

namespace Roam.RangeTest

open Roam.Interaction
open Roam.Node

/-! ## The value button -/

theorem increment_lt {count value : EnumValue} (inside : value < count) :
    increment count value < count := by
  unfold increment
  split
  · exact Nat.zero_lt_of_lt inside
  · rename_i early
    exact Nat.lt_of_le_of_ne inside early

theorem incrementTxPower_inside : ∀ txPower : Int8, minTxPower ≤ txPower ∧ txPower ≤ maxTxPower →
    minTxPower ≤ incrementTxPower txPower ∧ incrementTxPower txPower ≤ maxTxPower :=
  forall_power (by decide +kernel)

/-- The button moves a setting to the next of its values. -/
theorem Base.advanceValue_valid {base : Base} (valid : base.settings.Valid) :
    base.advanceValue.Valid := by
  obtain ⟨spreadingFactor, signalBandwidth, frequencyChannel, power⟩ := valid
  unfold Base.advanceValue
  split
  · exact ⟨increment_lt spreadingFactor, signalBandwidth, frequencyChannel, power⟩
  · exact ⟨spreadingFactor, increment_lt signalBandwidth, frequencyChannel, power⟩
  · exact ⟨spreadingFactor, signalBandwidth, increment_lt frequencyChannel, power⟩
  · exact ⟨spreadingFactor, signalBandwidth, frequencyChannel, incrementTxPower_inside _ power⟩
  · exact ⟨spreadingFactor, signalBandwidth, frequencyChannel, power⟩

/-! ## What is asked for -/

/-- The enter button has been taken as pressed, and nothing has been sent since. -/
def Action.asks (asking : Bool) : Action → Bool
  | .triggered .enter => true
  | .radio (.sendtoWait _ _) => false
  | _ => asking

/-- A request is under way after the listed steps. -/
def asking (trace : List BaseStep) : Bool :=
  trace.foldl (fun asking step => step.action.asks asking) false

/-- The globals are in range when a request is made and when a value is advanced, the
tables are read inside while a request is under way, and what is sent then asks for
the globals. -/
def Action.Sound (asking : Bool) (settings : Settings) : Action → Prop
  | .triggered .valueSelect => settings.Valid
  | .radio (.enter .linkChangeReq) => settings.Valid
  | .radio (.index _ position size) => asking = true → position < size
  | .radio (.sendtoWait payload destAddress) => asking = true →
      settings.Valid ∧ destAddress = endpointAddress ∧
        payload = MsgType.linkChangeReq.code :: settings.encode
  | _ => True

/-! ## The object's code -/

/-- The contract of the object's code, which knows the globals of the sketch and
whether a request is under way. -/
def requesting : Contract LoraPoint2Point Node.Action Node.Action.Answer (Settings × Bool) :=
  Contract.insisting (fun ghost _ action => (Action.radio action).Sound ghost.2 ghost.1)
    fun ghost _ action _ =>
      match action with
      | .linkChangeInd settings => (settings, ghost.2)
      | .sendtoWait _ _ => (ghost.1, false)
      | _ => ghost

/-- Globals and settings in force are in range. -/
structure InRange (ghost : Settings × Bool) (node : LoraPoint2Point) : Prop where
  globals : ghost.1.Valid
  current : node.current.Valid

/-- No request is under way. -/
structure Idle (ghost : Settings × Bool) (node : LoraPoint2Point) : Prop extends
    InRange ghost node where
  idle : ghost.2 = false

namespace Idle

theorem perform (action : Node.Action) (silent : ∀ settings, action ≠ .linkChangeInd settings) :
    Keeps requesting Idle (Node.perform action) := by
  rintro ⟨globals, asking⟩ node ⟨⟨valid, current⟩, rfl⟩
  cases action with
  | linkChangeInd settings => exact absurd rfl (silent settings)
  | index => exact ⟨nofun, fun _ _ => ⟨⟨valid, current⟩, rfl⟩⟩
  | sendtoWait => exact ⟨nofun, fun _ _ => ⟨⟨valid, current⟩, rfl⟩⟩
  | enter procedure =>
      cases procedure with
      | linkChangeReq => exact ⟨valid, fun _ _ => ⟨⟨valid, current⟩, rfl⟩⟩
      | _ => exact ⟨trivial, fun _ _ => ⟨⟨valid, current⟩, rfl⟩⟩
  | _ => exact ⟨trivial, fun _ _ => ⟨⟨valid, current⟩, rfl⟩⟩

theorem reads : ReadsAnywhere requesting Idle := fun _ _ _ => perform _ nofun

theorem frame {ghost : Settings × Bool} {node later : LoraPoint2Point} (idle : Idle ghost node)
    (current : later.current = node.current) : Idle ghost later :=
  ⟨⟨idle.globals, current ▸ idle.current⟩, idle.idle⟩

theorem carries : Carries requesting Idle where
  plain action plain := by
    apply perform
    rintro settings rfl
    cases plain
  index _ _ _ _ := perform _ nofun
  sendtoWait _ _ := perform (.sendtoWait _ _) nofun
  statistics _ _ _ idle := idle.frame rfl
  ackSnr _ _ _ idle := idle.frame rfl
  heartbeatTimer _ _ _ idle := idle.frame rfl

/-- A store ends with an indication of settings in range. -/
theorem adjusts : Adjusts requesting Idle fun ghost node =>
    node.current.Valid ∧ ghost.2 = false where
  index _ _ _ _ := perform _ nofun
  driver action adjusts := by
    apply perform
    rintro settings rfl
    cases adjusts
  setFrequency tenthMegahertz := by
    intro ghost node idle
    exact ⟨trivial, fun _ _ => ⟨idle, fun _ => trivial⟩⟩
  storeSetting store stored := by
    intro ghost node idle
    refine ⟨trivial, fun _ _ => ⟨trivial, fun _ _ => ?_⟩⟩
    have cleared : Idle ghost node.resetPacketErrorFraction := idle.frame rfl
    obtain ⟨current, idle⟩ := stored ghost _ cleared
    exact ⟨⟨current, current⟩, idle⟩

theorem settles : Settles requesting Idle :=
  adjusts.settles_of_valid (fun _ _ idle => idle.current)
    fun _ _ _ _ idle valid => ⟨valid, idle.idle⟩

theorem timeless : Timeless requesting Idle where
  millis := perform .millis nofun
  currentMillis _ _ _ idle := idle.frame rfl
  linkTimer _ _ _ idle := idle.frame rfl

theorem types : Types Idle where
  txMsg _ _ _ idle := idle.frame rfl
  serialCmd _ _ _ _ idle := idle.frame rfl

theorem indifferent : Indifferent requesting Idle := by
  have enter : ∀ procedure, Keeps requesting Idle (Node.perform (.enter procedure)) :=
    fun _ => perform _ nofun
  have leave : ∀ procedure, Keeps requesting Idle (Node.perform (.leave procedure)) :=
    fun _ => perform _ nofun
  exact timeless.indifferent carries enter (fun _ _ => leave _)
    (settles.linkChangeReqTimeout (enter _) (leave _) (timeless.onLinkTimer _))

theorem serviceRx : Keeps requesting Idle serviceRx := by
  refine indifferent.serviceRx settles reads ?_ fun _ _ idle => idle.frame rfl
  refine Keeps.get_bind fun node => ?_
  refine Keeps.bind (perform (.recvfromAckTimeout node.rxMsg.bufLen 200) nofun) fun reception => ?_
  exact Keeps.bind (Keeps.update fun _ _ idle => idle.frame rfl) fun _ => Keeps.pure _

end Idle

/-- The request for the globals is under way. -/
structure Requests (settings : Settings) (ghost : Settings × Bool) (node : LoraPoint2Point) : Prop
    extends InRange ghost node where
  same : ghost.1 = settings

namespace Requests

variable {settings : Settings}

theorem lookup {α : Type} [Inhabited α] (array : ArrayName) {table : List α} {position : Nat}
    (inside : position < table.length) :
    Keeps requesting (Requests settings) (lookup array table position) :=
  Keeps.bind (fun _ _ requests => ⟨fun _ => inside, fun _ _ => requests⟩) fun _ => Keeps.pure _

theorem printSettings (valid : settings.Valid) :
    Keeps requesting (Requests settings) (printSettings settings) := by
  refine (lookup _ valid.1).bind fun _ => (lookup _ valid.2.1).bind fun _ => ?_
  exact (lookup _ valid.2.2.1).bind fun _ => Keeps.pure _

/-- What is sent asks for the globals. -/
theorem sendtoWait : Triple requesting (Requests settings)
    (sendtoWait (MsgType.linkChangeReq.code :: settings.encode) endpointAddress)
    fun _ => Idle := by
  rintro ⟨_, asking⟩ node ⟨⟨valid, current⟩, rfl⟩
  exact ⟨fun _ => ⟨valid, rfl, rfl⟩, fun _ _ => ⟨⟨valid, current⟩, rfl⟩⟩

/-- A request for the globals reads the tables inside, and sends what it was given. -/
theorem linkChangeReq (valid : settings.Valid) :
    Triple requesting (Requests settings) (linkChangeReq endpointAddress settings)
      fun _ => Idle := by
  have enter : Keeps requesting (Requests settings) (Node.perform (.enter .linkChangeReq)) :=
    fun _ _ requests => ⟨requests.globals, fun _ _ => requests⟩
  have accepted : Keeps requesting Idle (do
      setAll settings
      onLinkTimer .pause
      onLinkTimer .clearDone
      onLinkTimer (·.setTimeout linkChangeTimeoutMillis)
      serviceTimers
      onLinkTimer .start) := by
    refine (Idle.settles.setAll settings).bind fun _ => ?_
    refine Keeps.bind (Idle.timeless.onLinkTimer _) fun _ => ?_
    refine Keeps.bind (Idle.timeless.onLinkTimer _) fun _ => ?_
    refine Keeps.bind (Idle.timeless.onLinkTimer _) fun _ => ?_
    exact Idle.indifferent.serviceTimers.bind fun _ => Idle.timeless.onLinkTimer _
  refine Triple.bind enter fun _ => Triple.bind ?_ fun _ => Idle.perform _ nofun
  refine Triple.bind (printSettings valid) fun _ => sendtoWait.bind fun acknowleged => ?_
  exact Keeps.ite accepted (Keeps.pure ())

end Requests

/-! ## The sketch -/

/-- The contract of the sketch. -/
def watching : Contract (Base × LoraPoint2Point) Action Action.Answer Bool :=
  Contract.insisting (fun asking both action => action.Sound asking both.1.settings)
    fun asking _ action _ => action.asks asking

/-- The object's code knows the globals, and whether a request is under way. -/
theorem relays_requesting : Relays requesting watching fun ghost asking base =>
    ghost = (base.settings, asking) where
  act action ghost asking base object follows asked := by
    subst follows
    refine ⟨asked, fun answer _ => ⟨trivial, ?_⟩⟩
    cases action <;> rfl
  log action logs ghost object asking base follows := by
    cases action
    case openDataFile => exact ⟨trivial, fun _ _ => follows⟩
    case millis => exact ⟨trivial, fun _ _ => follows⟩
    all_goals cases logs
  print _ _ _ _ _ _ _ _ follows _ _ := ⟨trivial, follows⟩
  lastAck _ _ _ follows := follows

/-- Globals and settings in force are in range, and no request is under way. -/
def Rests (asking : Bool) (both : Base × LoraPoint2Point) : Prop :=
  Idle (both.1.settings, asking) both.2

namespace Rests

theorem call {Value : Type} {program : NodeM Value} (keeps : Keeps requesting Idle program) :
    Keeps watching Rests (call program) := by
  refine (relays_requesting.call keeps).weaken ?_ ?_
  · intro asking both rests
    exact ⟨_, rfl, rests⟩
  · rintro _ asking both ⟨_, rfl, idle⟩
    exact idle

section Beside

variable (object : LoraPoint2Point)

/-- An action of the sketch that is neither the value button nor the enter button. -/
theorem perform (action : Action) (free : ∀ asking settings, action.Sound asking settings)
    (still : ∀ asking, action.asks asking = asking) :
    Keeps (watching.along (·, object)) (fun asking base => Rests asking (base, object))
      (perform action) := by
  rintro asking base rests
  refine ⟨free _ _, fun answer _ => ?_⟩
  have same : action.asks asking = asking := still asking
  show Rests (action.asks asking) (base, object)
  rw [same]
  exact rests

/-- The value button finds the globals in range and leaves them there. -/
theorem processValueSelect :
    Keeps (watching.along (·, object)) (fun asking base => Rests asking (base, object))
      processValueSelect := by
  refine Keeps.get_bind fun _ => Keeps.ite ?_ (Keeps.pure ())
  rintro asking base ⟨⟨globals, current⟩, idle⟩
  exact ⟨globals, fun _ _ => ⟨⟨Base.advanceValue_valid globals, current⟩, idle⟩⟩

end Beside

/-- The enter button asks for the globals. -/
theorem processEnter : Keeps watching Rests processEnter := by
  refine Keeps.get_bind fun _ => Keeps.ite ?_ (Keeps.pure ())
  have pressed : Triple watching Rests (Program.beside do
      RangeTest.perform (.triggered .enter)
      modify fun base => { base with
        enterCount := base.enterCount + 1
        settingSelectCount := 0
        valueSelectCount := 0
        noPressCount := 0 })
      fun _ _ both => both.1.settings.Valid ∧ both.2.current.Valid :=
    fun _ _ rests => ⟨trivial, fun _ _ => ⟨rests.globals, rests.current⟩⟩
  refine pressed.bind fun _ => Triple.get_bind fun known => ?_
  rintro asking both ⟨⟨globals, current⟩, rfl⟩
  have requested := relays_requesting.call (Requests.linkChangeReq globals)
  refine Resumption.Meets.bind_iff.2 ((requested asking both ?_).mono ?_)
  · exact ⟨_, rfl, ⟨globals, current⟩, rfl⟩
  · rintro asking both _ ⟨_, rfl, idle⟩
    exact idle

theorem scans : Scans watching Rests where
  ask action scans object := by
    cases action
    case digitalRead => exact perform object _ (fun _ _ => trivial) fun _ => rfl
    case triggered button =>
      cases button
      case settingSelect => exact perform object _ (fun _ _ => trivial) fun _ => rfl
      all_goals cases scans
    all_goals cases scans
  counts base changed settings _ asking object rests := by
    show Idle (changed.settings, asking) object
    rw [settings]
    exact rests
  processValueSelect := Keeps.beside processValueSelect
  processEnter := processEnter

theorem polls : Polls watching Rests := by
  have texts := Idle.types.texts Idle.carries.toEmits Idle.reads
  exact {
    poll := fun action polls => Keeps.beside fun object => by
      cases action
      case millis => exact perform object .millis (fun _ _ => trivial) fun _ => rfl
      case typed => exact perform object .typed (fun _ _ => trivial) fun _ => rfl
      all_goals cases polls
    times := fun _ _ _ _ _ _ rests => rests
    setupRadio := call (Idle.carries.setupRadio Idle.settles)
    startHeartbeats := call Idle.carries.startHeartbeats
    setTxMessage := call (texts.setTxMessage _ _)
    buildStringFromSerial := fun pending =>
      call (Idle.types.buildStringFromSerial Idle.carries.toEmits Idle.reads Idle.settles
        pending)
    serviceTx := call (texts.serviceTx _)
    serviceRx := call Idle.serviceRx }

theorem start : Rests false start := ⟨⟨Settings.default_valid, Settings.default_valid⟩, rfl⟩

end Rests

/-- Whatever the buttons, the port, the peer and the clock do, the settings of the base
are in range when a value is advanced and when a link change is requested.  A request
under way reads the tables inside and sends what is on display to the endpoint. -/
theorem requests_valid_links {iterations : Nat} {before later : List BaseStep} {step : BaseStep}
    {last : Resumption (Base × LoraPoint2Point) Action Action.Answer Unit}
    (run : Resumption.Runs (sketch iterations start) (before ++ step :: later) last) :
    (step.action = .triggered .valueSelect → step.state.1.settings.Valid) ∧
    (step.action = .radio (.enter .linkChangeReq) → step.state.1.settings.Valid) ∧
    (∀ array position size, step.action = .radio (.index array position size) →
      asking before = true → position < size) ∧
    ∀ payload destAddress, step.action = .radio (.sendtoWait payload destAddress) →
      asking before = true → step.state.1.settings.Valid ∧ destAddress = endpointAddress ∧
        payload = MsgType.linkChangeReq.code :: step.state.1.settings.encode := by
  have sound : step.action.Sound (asking before) step.state.1.settings :=
    (Rests.polls.sketch Rests.scans.serviceButtons iterations false start Rests.start).required run
      (Contract.insisting_allows _ _)
  obtain ⟨both, action, answer⟩ := step
  refine ⟨?_, ?_, ?_, ?_⟩
  · rintro rfl
    exact sound
  · rintro rfl
    exact sound
  · rintro array position size rfl
    exact sound
  · rintro payload destAddress rfl
    exact sound

/-- The enter button held down over two iterations of the loop, with the settings
on display as set up. -/
def enterHeld : List BaseStep × Resumption (Base × LoraPoint2Point) Action Action.Answer Unit :=
  let clock := fun position => UInt32.ofNat (1000 * position)
  Bench.run { clock := clock, presses := fun _ pin => pin = 5 } 2

/-- The frame an action hands to the radio, with its destination. -/
def Action.frame? : Action → Option (List UInt8 × UInt8)
  | .radio (.sendtoWait payload destAddress) => some (payload, destAddress)
  | _ => none

theorem Action.eq_sendtoWait {action : Action} {payload : List UInt8} {destAddress : UInt8}
    (found : action.frame? = some (payload, destAddress)) :
    action = .radio (.sendtoWait payload destAddress) := by
  unfold Action.frame? at found
  split at found
  · cases found
    rfl
  · cases found

/-- What the button asks for is sent at this position of the run. -/
theorem enterHeld_runs : Resumption.Runs (sketch 2 start)
    (enterHeld.1.take 53 ++ enterHeld.1.get ⟨53, by decide +kernel⟩ :: enterHeld.1.drop 54)
    enterHeld.2 :=
  Resumption.Runs.around (Bench.run_runs _ _) ⟨53, by decide +kernel⟩

theorem requests_valid_links_enter :
    (enterHeld.1.get ⟨53, by decide +kernel⟩).action =
        .radio (.sendtoWait [3, 0, 2, 0, 2] endpointAddress) ∧
      (enterHeld.1.get ⟨53, by decide +kernel⟩).state.1.settings.Valid := by
  have sent : (enterHeld.1.get ⟨53, by decide +kernel⟩).action =
      .radio (.sendtoWait [3, 0, 2, 0, 2] endpointAddress) :=
    Action.eq_sendtoWait (by decide +kernel)
  exact ⟨sent, ((requests_valid_links enterHeld_runs).2.2.2 _ _ sent (by decide +kernel)).1⟩

end Roam.RangeTest
