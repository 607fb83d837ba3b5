import Roam.Node.Walk
import Roam.RangeTest.Base

/-!
# Invariants along the sketch

The callbacks of the base log what they are told and take indications over; the
rest of the loop polls and calls the object.  For an arbitrary contract and an
arbitrary invariant this module says which closure facts carry the invariant
through the callbacks, the buttons and the rest of the sketch.
-/

namespace Roam.RangeTest

open Roam.Interaction
open Roam.Node

variable {Ghost Record : Type}
variable {inner : Contract LoraPoint2Point Node.Action Node.Action.Answer Ghost}
variable {outer : Contract (Base × LoraPoint2Point) Action Action.Answer Record}

/-! ## Callbacks -/

/-- What the object tells the sketch of its settings. -/
def Base.hear (base : Base) : Node.Action → Base
  | .linkChangeInd settings => { base with settings := settings }
  | _ => base

/-- Actions of the object that the sketch logs. -/
def logged : Node.Action → Bool
  | .txInd _ _ _ => true
  | .rxInd _ => true
  | _ => false

/-- Actions made before a row is printed. -/
def Action.logs : Action → Bool
  | .openDataFile => true
  | .millis => true
  | _ => false

/-- What the object does in keeping with its contract the sketch may do in keeping with
its own, and the two histories stay together.  Logging a message leaves both alone; the
row shows the settings of the sketch. -/
structure Relays (inner : Contract LoraPoint2Point Node.Action Node.Action.Answer Ghost)
    (outer : Contract (Base × LoraPoint2Point) Action Action.Answer Record)
    (follows : Ghost → Record → Base → Prop) : Prop where
  act : ∀ action ghost record base object, follows ghost record base →
    inner.require ghost object action →
      outer.require record (base, object) (.radio action) ∧
        ∀ answer, outer.allow record (base, object) (.radio action) answer →
          inner.allow ghost object action answer ∧
            follows (inner.record ghost object action answer)
              (outer.record record (base, object) (.radio action) answer) (base.hear action)
  log : ∀ action : Action, action.logs = true → ∀ ghost object,
    Keeps (outer.along (·, object)) (follows ghost) (perform action)
  print : ∀ action answer ghost record base object row, inner.require ghost object action →
    follows (inner.record ghost object action answer) record base → logged action = true →
      row.settings = base.settings →
        outer.require record (base, object) (.printRow row) ∧
          follows (inner.record ghost object action answer)
            (outer.record record (base, object) (.printRow row) ()) base
  lastAck : ∀ ghost record base, follows ghost record base →
    follows ghost record { base with lastAckMillis := base.currentMillis }

namespace Relays

variable {follows : Ghost → Record → Base → Prop}

theorem logRow (relays : Relays inner outer follows) {action : Node.Action} (row : UInt32 → Base → Row)
    (shows : ∀ now base, (row now base).settings = base.settings) {answer : action.Answer} {ghost : Ghost}
    (tells : logged action = true) {object : LoraPoint2Point}
    (asked : inner.require ghost object action) :
    Keeps (outer.along (·, object)) (follows (inner.record ghost object action answer))
      (logRow row) := by
  refine Keeps.bind (relays.log .openDataFile rfl _ object) fun opened => ?_
  refine Keeps.ite ?_ (Keeps.pure ())
  refine Keeps.bind (relays.log .millis rfl _ object) fun now => Triple.get_bind fun known => ?_
  rintro record base ⟨related, rfl⟩
  obtain ⟨duty, later⟩ :=
    relays.print action answer ghost record base object _ asked related tells (shows now base)
  exact ⟨duty, fun _ _ => later⟩

/-- The callbacks do their part in every action of the object. -/
theorem handles (relays : Relays inner outer follows) :
    Handles inner outer follows callbacks := by
  intro action ghost record base object related asked
  have acted := relays.act action ghost record base object related asked
  have behind : ∀ {program : SketchM Unit} {answer : action.Answer} {record : Record} {base : Base},
      inner.allow ghost object action answer →
      follows (inner.record ghost object action answer) record base →
      Keeps (outer.along (·, object)) (follows (inner.record ghost object action answer)) program →
        (program base).Meets (outer.along (·, object))
          (fun record base _ => inner.allow ghost object action answer ∧
            follows (inner.record ghost object action answer) record base) record :=
    fun allowed related keeps => (keeps _ _ related).mono fun _ _ _ later => ⟨allowed, later⟩
  cases action with
  | txInd payload destAddr ack =>
      refine ⟨acted.1, fun answer allowed => ?_⟩
      obtain ⟨fits, later⟩ := acted.2 answer allowed
      refine behind fits later ((relays.logRow _ (fun _ _ => rfl) rfl asked).bind fun _ => ?_)
      exact Keeps.ite (Keeps.update (relays.lastAck _)) (Keeps.pure ())
  | rxInd rxMsg =>
      refine ⟨acted.1, fun answer allowed => ?_⟩
      obtain ⟨fits, later⟩ := acted.2 answer allowed
      exact behind fits later (relays.logRow _ (fun _ _ => rfl) rfl asked)
  | _ => exact acted

/-- A call of the object does what the object's code does by itself. -/
theorem call (relays : Relays inner outer follows) {Value : Type}
    {before : Ghost → LoraPoint2Point → Prop} {after : Value → Ghost → LoraPoint2Point → Prop}
    {program : NodeM Value} (triple : Triple inner before program after) :
    Triple outer (fun record both => ∃ ghost, follows ghost record both.1 ∧ before ghost both.2)
      (call program)
      fun value record both => ∃ ghost, follows ghost record both.1 ∧ after value ghost both.2 :=
  relays.handles.triple triple

end Relays

/-! ## The buttons -/

theorem Base.countPresses_settings (base : Base) : base.countPresses.settings = base.settings := by
  unfold Base.countPresses
  simp only [apply_ite Base.settings, ite_self]

theorem Base.countPresses_timeUp (base : Base) : base.countPresses.timeUp = base.timeUp := by
  unfold Base.countPresses
  simp only [apply_ite Base.timeUp, ite_self]

/-- Actions of a scan, apart from a press of the value or the enter button. -/
def Action.scans : Action → Bool
  | .digitalRead _ => true
  | .triggered .settingSelect => true
  | _ => false

variable {keep : Record → Base × LoraPoint2Point → Prop}

/-- The invariant survives changes of the counts. -/
def Counts (keep : Record → Base × LoraPoint2Point → Prop) : Prop :=
  ∀ base changed : Base, changed.settings = base.settings → changed.timeUp = base.timeUp →
    ∀ record object, keep record (base, object) → keep record (changed, object)

theorem Counts.update (counts : Counts keep) (object : LoraPoint2Point) {change : Base → Base}
    (settings : ∀ base, (change base).settings = base.settings)
    (timeUp : ∀ base, (change base).timeUp = base.timeUp) :
    Keeps (outer.along (·, object)) (fun record base => keep record (base, object))
      (modify change) :=
  Keeps.update fun record base => counts base (change base) (settings base) (timeUp base)
    record object

/-- The enter button, for an invariant that holds in between. -/
theorem Counts.processEnter (counts : Counts keep)
    (pressed : ∀ object, Keeps (outer.along (·, object)) (fun record base => keep record (base, object))
      (perform (.triggered .enter)))
    (requested : ∀ settings, Keeps outer keep (call (linkChangeReq endpointAddress settings))) :
    Keeps outer keep processEnter := by
  refine Keeps.get_bind fun _ => Keeps.ite ?_ (Keeps.pure ())
  refine Keeps.bind (Keeps.beside fun object => ?_) fun _ => Keeps.get_bind fun known => ?_
  · exact (pressed object).bind fun _ => counts.update object (fun _ => rfl) fun _ => rfl
  · refine (requested _).bind fun _ => ?_
    exact Keeps.beside fun object => counts.update object (fun _ => rfl) fun _ => rfl

/-- The invariant survives the pins of a scan, changes of the counts, and a press of the
value or the enter button. -/
structure Scans (outer : Contract (Base × LoraPoint2Point) Action Action.Answer Record)
    (keep : Record → Base × LoraPoint2Point → Prop) : Prop where
  ask : ∀ action : Action, action.scans = true → ∀ object,
    Keeps (outer.along (·, object)) (fun record base => keep record (base, object)) (perform action)
  counts : Counts keep
  processValueSelect : Keeps outer keep (Program.beside processValueSelect)
  processEnter : Keeps outer keep processEnter

namespace Scans

variable (object : LoraPoint2Point)

theorem readButton (scans : Scans outer keep) (button : Button) :
    Keeps (outer.along (·, object)) (fun record base => keep record (base, object))
      (readButton button) :=
  (scans.ask (.digitalRead button.pin) rfl object).bind fun _ => Keeps.pure _

theorem readButtons (scans : Scans outer keep) :
    Keeps (outer.along (·, object)) (fun record base => keep record (base, object))
      readButtons := by
  refine Keeps.bind (scans.counts.update object (fun _ => rfl) fun _ => rfl) fun _ => ?_
  refine (scans.readButton object _).bind fun _ => ?_
  refine Keeps.bind (scans.counts.update object (fun _ => rfl) fun _ => rfl) fun _ => ?_
  refine (scans.readButton object _).bind fun _ => ?_
  refine Keeps.bind (scans.counts.update object (fun _ => rfl) fun _ => rfl) fun _ => ?_
  refine (scans.readButton object _).bind fun _ => ?_
  refine Keeps.bind (scans.counts.update object (fun _ => rfl) fun _ => rfl) fun _ => ?_
  exact scans.counts.update object Base.countPresses_settings Base.countPresses_timeUp

theorem processSettingSelect (scans : Scans outer keep) :
    Keeps (outer.along (·, object)) (fun record base => keep record (base, object))
      processSettingSelect := by
  refine Keeps.get_bind fun _ => Keeps.ite ?_ (Keeps.pure ())
  refine (scans.ask (.triggered .settingSelect) rfl object).bind fun _ => ?_
  exact scans.counts.update object (fun _ => rfl) fun _ => rfl

theorem serviceButtons (scans : Scans outer keep) : Keeps outer keep serviceButtons := by
  refine Keeps.get_bind fun _ => Keeps.ite ?_ (Keeps.pure ())
  refine (Keeps.beside fun object => scans.readButtons object).bind fun _ => ?_
  refine (Keeps.beside fun object => scans.processSettingSelect object).bind fun _ => ?_
  exact scans.processValueSelect.bind fun _ => scans.processEnter

end Scans

/-! ## The loop -/

/-- What the sketch polls besides the buttons. -/
def Action.polls : Action → Bool
  | .millis => true
  | .typed => true
  | _ => false

/-- The invariant survives polling, the times kept for the test message, and the calls
of the object, a link change request apart. -/
structure Polls (outer : Contract (Base × LoraPoint2Point) Action Action.Answer Record)
    (keep : Record → Base × LoraPoint2Point → Prop) : Prop where
  poll : ∀ action : Action, action.polls = true → Keeps outer keep (Program.beside (perform action))
  times : ∀ currentMillis prevMillis timeUp record base object, keep record (base, object) →
    keep record ({ base with
      currentMillis := currentMillis, prevMillis := prevMillis, timeUp := timeUp }, object)
  setupRadio : Keeps outer keep (call setupRadio)
  startHeartbeats : Keeps outer keep (call startHeartbeats)
  setTxMessage : Keeps outer keep (call (setTxMessage testMessage 6))
  buildStringFromSerial : ∀ pending, Keeps outer keep (call (buildStringFromSerial pending))
  serviceTx : Keeps outer keep (call (serviceTx endpointAddress))
  serviceRx : Keeps outer keep (call serviceRx)

namespace Polls

theorem readClock (polls : Polls outer keep) : Keeps outer keep (Program.beside readClock) := by
  intro record both kept
  obtain ⟨duty, answered⟩ := polls.poll .millis rfl record both kept
  exact ⟨duty, fun now allowed => polls.times now _ _ _ _ _ (answered now allowed)⟩

theorem prepareTestMessage (polls : Polls outer keep) : Keeps outer keep prepareTestMessage := by
  refine Keeps.get_bind fun _ => Keeps.ite ?_ (Keeps.pure ())
  refine polls.setTxMessage.bind fun _ record both kept => ?_
  exact polls.times _ _ _ record both.1 both.2 kept

theorem sendMessage (polls : Polls outer keep) : Keeps outer keep sendMessage := by
  refine Keeps.bind (polls.poll .typed rfl) fun pending => ?_
  refine (polls.buildStringFromSerial pending).bind fun built => Keeps.get_bind fun _ => ?_
  refine Keeps.ite (polls.serviceTx.bind fun _ record both kept => ?_) (Keeps.pure ())
  exact polls.times _ _ _ record both.1 both.2 kept

theorem serviceRadio (polls : Polls outer keep) : Keeps outer keep serviceRadio := by
  refine Keeps.get_bind fun _ => Keeps.ite ?_ (Keeps.pure ())
  exact polls.prepareTestMessage.bind fun _ => polls.sendMessage.bind fun _ => polls.serviceRx

theorem loops (polls : Polls outer keep) (buttons : Keeps outer keep serviceButtons)
    (iterations : Nat) : Keeps outer keep (loops iterations) := by
  induction iterations with
  | zero => exact Keeps.pure ()
  | succ iterations ih =>
      refine Keeps.bind (polls.readClock.bind fun _ => ?_) fun _ => ih
      exact buttons.bind fun _ => polls.serviceRadio

/-- An invariant that also survives the buttons holds along the whole sketch. -/
theorem sketch (polls : Polls outer keep) (buttons : Keeps outer keep serviceButtons)
    (iterations : Nat) : Keeps outer keep (sketch iterations) := by
  refine polls.setupRadio.bind fun ok => Keeps.ite ?_ (Keeps.pure ())
  exact polls.startHeartbeats.bind fun _ => polls.loops buttons iterations

end Polls

end Roam.RangeTest
