import Roam.RangeTest.Csv
import Roam.RangeTest.Sessions

/-!
# The log is a record

Between two calls of the object the base has written a row for each message it was
told of whose file could be opened; while a row is being written, it is the only
one missing.  Nothing else is written.  So the log shows what happened on the air:
every transmission that is no part of a link change, and every message taken in.
-/

namespace Roam.RangeTest

open Roam.Interaction
open Roam.Node

/-! ## Notes -/

/-- A row without its time and its settings. -/
structure Note where
  srcAddr : UInt8
  destAddr : UInt8
  msgType : UInt8
  flags : Option UInt8
  ack : Bool
  message : List UInt8
  deriving DecidableEq

def Row.note (row : Row) : Note where
  srcAddr := row.srcAddr
  destAddr := row.destAddr
  msgType := row.msgType
  flags := row.flags
  ack := row.ack
  message := row.message

namespace Note

/-- What is to be noted of a transmission of the base. -/
def ofReport : Report → Note
  | (payload, destAddr, ack) =>
    { srcAddr := baseAddress
      destAddr := destAddr
      msgType := payload.getD 0 0
      flags := none
      ack := ack
      message := payload.drop 1 }

/-- What is to be noted of a message. -/
def ofMessage (rxMsg : Message) : Note where
  srcAddr := rxMsg.srcAddr
  destAddr := rxMsg.destAddr
  msgType := rxMsg.buf.get 0
  flags := some rxMsg.flags
  ack := true
  message := rxMsg.bytes.drop 1

/-- The note of a message sent; the others are of messages received. -/
def isSent (note : Note) : Bool := note.flags.isNone

/-- The frame of a message. -/
def frame (note : Note) : List UInt8 := note.msgType :: note.message

end Note

/-- What a callback tells the sketch. -/
def told : NodeStep → Option Note
  | ⟨_, .txInd payload destAddr ack, _⟩ => some (.ofReport (payload, destAddr, ack))
  | ⟨_, .rxInd rxMsg, _⟩ => some (.ofMessage rxMsg)
  | _ => none

/-- The callbacks of one kind are those that tell of its messages. -/
theorem told_sent (steps : List NodeStep) :
    (steps.filterMap told).filter Note.isSent = (steps.filterMap indicated).map .ofReport ∧
      (steps.filterMap told).filter (fun note => !note.isSent) =
        (steps.filterMap heardOf).map .ofMessage := by
  induction steps with
  | nil => exact ⟨rfl, rfl⟩
  | cons step steps ih =>
      obtain ⟨node, action, answer⟩ := step
      cases action with
      | txInd payload destAddr ack =>
          exact ⟨congrArg (Note.ofReport (payload, destAddr, ack) :: ·) ih.1, ih.2⟩
      | rxInd rxMsg => exact ⟨ih.1, congrArg (Note.ofMessage rxMsg :: ·) ih.2⟩
      | _ => exact ih

/-! ## The ledger -/

/-- What has happened on the air, the rows written, and whether the file could not be opened
for one. -/
structure Ledger where
  seen : List NodeStep := []
  rows : List Row := []
  missed : Bool := false

namespace Ledger

def observe (ledger : Ledger) (both : Base × LoraPoint2Point) :
    (action : Action) → action.Answer → Ledger
  | .radio action, answer => { ledger with seen := ledger.seen ++ [⟨both.2, action, answer⟩] }
  | .printRow row, _ => { ledger with rows := ledger.rows ++ [row] }
  | .openDataFile, opened => { ledger with missed := ledger.missed || !opened }
  | _, _ => ledger

def of (trace : List BaseStep) : Ledger :=
  trace.foldl (fun ledger step => ledger.observe step.state step.action step.answer) {}

def notes (ledger : Ledger) : List Note := ledger.rows.map Row.note

/-- The rows are those for what was told in the steps listed, or all that could be
written. -/
structure Records (ledger : Ledger) (steps : List NodeStep) : Prop where
  honest : ledger.notes.Sublist (steps.filterMap told)
  whole : ledger.missed = false → ledger.notes = steps.filterMap told

/-- Nothing is still to be written. -/
def Even (ledger : Ledger) : Prop := ledger.Records ledger.seen

/-- A row is still to be written. -/
def Owes (ledger : Ledger) (note : Note) : Prop :=
  ∃ before step, ledger.seen = before ++ [step] ∧ told step = some note ∧ ledger.Records before

/-- At most one row is still to be written. -/
def Fair (ledger : Ledger) : Prop := ledger.Even ∨ ∃ note, ledger.Owes note

section Tell

variable {ledger : Ledger} {both : Base × LoraPoint2Point} {action : Node.Action}
variable {answer : action.Answer}

/-- What tells nothing leaves nothing to be written. -/
theorem Even.pass (even : ledger.Even) (silent : told ⟨both.2, action, answer⟩ = none) :
    (ledger.observe both (.radio action) answer).Even := by
  let step : NodeStep := ⟨both.2, action, answer⟩
  have same : (ledger.seen ++ [step]).filterMap told = ledger.seen.filterMap told := by
    rw [List.filterMap_append, List.filterMap_cons_none silent]
    exact List.append_nil _
  constructor
  · show ledger.notes.Sublist ((ledger.seen ++ [step]).filterMap told)
    rw [same]
    exact even.honest
  · show ledger.missed = false → ledger.notes = (ledger.seen ++ [step]).filterMap told
    rw [same]
    exact even.whole

theorem Even.tell (even : ledger.Even) {note : Note}
    (tells : told ⟨both.2, action, answer⟩ = some note) :
    (ledger.observe both (.radio action) answer).Owes note :=
  ⟨ledger.seen, _, rfl, tells, even.honest, even.whole⟩

end Tell

theorem Owes.told_eq {ledger : Ledger} {note : Note} {before : List NodeStep} {step : NodeStep}
    (split : ledger.seen = before ++ [step]) (tells : told step = some note) :
    ledger.seen.filterMap told = before.filterMap told ++ [note] := by
  rw [split, List.filterMap_append, List.filterMap_cons_some tells]
  rfl

/-- The row that was owed is written. -/
theorem Owes.print {ledger : Ledger} {row : Row} (owes : ledger.Owes row.note)
    (both : Base × LoraPoint2Point) : (ledger.observe both (.printRow row) ()).Even := by
  obtain ⟨before, step, split, tells, records⟩ := owes
  have all : ledger.seen.filterMap told = before.filterMap told ++ [row.note] :=
    told_eq split tells
  have more : (ledger.rows ++ [row]).map Row.note = ledger.notes ++ [row.note] := List.map_append
  constructor
  · show ((ledger.rows ++ [row]).map Row.note).Sublist (ledger.seen.filterMap told)
    rw [more, all]
    exact records.honest.append_right _
  · intro kept
    show (ledger.rows ++ [row]).map Row.note = ledger.seen.filterMap told
    rw [more, all, records.whole kept]

/-- A file that cannot be opened loses the row. -/
theorem Owes.miss {ledger : Ledger} {note : Note} (owes : ledger.Owes note)
    (both : Base × LoraPoint2Point) : (ledger.observe both .openDataFile false).Even := by
  obtain ⟨before, step, split, tells, records⟩ := owes
  constructor
  · show ledger.notes.Sublist (ledger.seen.filterMap told)
    rw [told_eq split tells]
    exact records.honest.trans (List.sublist_append_left _ _)
  · intro kept
    change (ledger.missed || !false) = false at kept
    rw [Bool.not_false, Bool.or_true] at kept
    cases kept

theorem Owes.opened {ledger : Ledger} {note : Note} (owes : ledger.Owes note)
    (both : Base × LoraPoint2Point) : (ledger.observe both .openDataFile true).Owes note := by
  obtain ⟨before, step, split, tells, honest, whole⟩ := owes
  refine ⟨before, step, split, tells, honest, fun kept => whole ?_⟩
  change (ledger.missed || !true) = false at kept
  rwa [Bool.not_true, Bool.or_false] at kept

/-- The contract of the sketch: it acts only while at most one row is to be written. -/
def bookkeeping : Contract (Base × LoraPoint2Point) Action Action.Answer Ledger :=
  Contract.insisting (fun ledger _ _ => ledger.Fair)
    fun ledger both action answer => ledger.observe both action answer

/-- What the object does on its own account. -/
def free : Contract LoraPoint2Point Node.Action Node.Action.Answer Unit :=
  Contract.watching fun ghost _ _ _ => ghost

section Object

variable (object : LoraPoint2Point)

/-- The row that is owed is written, or lost. -/
theorem logRow (note : Note) {row : UInt32 → Base → Row}
    (writes : ∀ now base, (row now base).note = note) :
    Triple (bookkeeping.along (·, object)) (fun ledger _ => ledger.Owes note)
      (RangeTest.logRow row) fun _ ledger _ => ledger.Even := by
  rintro ledger base owes
  refine ⟨.inr ⟨note, owes⟩, fun opened _ => ?_⟩
  cases opened with
  | false => exact owes.miss (base, object)
  | true =>
      have open_ := owes.opened (base, object)
      refine ⟨.inr ⟨note, open_⟩, fun now _ => ?_⟩
      refine ⟨.inr ⟨note, open_⟩, fun _ _ => ?_⟩
      rw [← writes now base] at open_
      exact open_.print (base, object)

end Object

/-- Every action of the object leaves behind a log that shows all that was told. -/
theorem handles : Handles free bookkeeping (fun _ ledger _ => ledger.Even) callbacks := by
  intro action ghost ledger base object even asked
  cases action with
  | txInd payload destAddr ack =>
      refine ⟨.inl even, fun answer _ => ?_⟩
      have owes : (ledger.observe (base, object) (.radio (.txInd payload destAddr ack)) ()).Owes
          (.ofReport (payload, destAddr, ack)) := even.tell rfl
      have writes : Keeps (bookkeeping.along (·, object)) (fun ledger _ => ledger.Even) (do
          if ack then
            modify fun base => { base with lastAckMillis := base.currentMillis } : SketchM Unit) :=
        Keeps.ite (Keeps.update fun _ _ => id) (Keeps.pure ())
      refine (((logRow object (.ofReport (payload, destAddr, ack)) fun _ _ => rfl).bind fun _ => writes) _
        base owes).mono ?_
      exact fun _ _ _ even => ⟨trivial, even⟩
  | rxInd rxMsg =>
      refine ⟨.inl even, fun answer _ => ?_⟩
      have owes : (ledger.observe (base, object) (.radio (.rxInd rxMsg)) ()).Owes
          (.ofMessage rxMsg) := even.tell rfl
      refine (logRow object (.ofMessage rxMsg) (fun _ _ => rfl) _ base owes).mono ?_
      exact fun _ _ _ even => ⟨trivial, even⟩
  | linkChangeInd settings =>
      exact ⟨.inl even, fun answer _ => ⟨trivial, even.pass rfl⟩⟩
  | _ => exact ⟨.inl even, fun answer _ => ⟨trivial, even.pass rfl⟩⟩

/-- Between the pieces of the sketch nothing is to be written. -/
abbrev Kept (ledger : Ledger) (_ : Base × LoraPoint2Point) : Prop := ledger.Even

theorem call {Value : Type} (program : NodeM Value) :
    Keeps bookkeeping Kept (RangeTest.call program) := by
  have anything : Triple free (fun _ _ => True) program fun _ _ _ => True :=
    fun ghost node _ => Resumption.Meets.undemanding (fun _ _ _ => trivial) ghost (program node)
  refine (handles.triple anything).weaken (fun _ _ even => ⟨(), even, trivial⟩) ?_
  rintro _ _ _ ⟨_, even, _⟩
  exact even

/-- Actions that the ledger does not know of. -/
theorem silent {action : Action} (unknown : ∀ ledger both answer,
    observe ledger both action answer = ledger) (object : LoraPoint2Point) :
    Keeps (bookkeeping.along (·, object)) (fun ledger _ => ledger.Even) (perform action) := by
  intro ledger base even
  refine ⟨.inl even, fun answer _ => ?_⟩
  show (ledger.observe (base, object) action answer).Even
  rw [unknown]
  exact even

theorem polls : Polls bookkeeping Kept where
  poll action polled := by
    cases action
    case millis => exact Keeps.beside fun object => silent (fun _ _ _ => rfl) object
    case typed => exact Keeps.beside fun object => silent (fun _ _ _ => rfl) object
    all_goals cases polled
  times _ _ _ _ _ _ := id
  setupRadio := call _
  startHeartbeats := call _
  setTxMessage := call _
  buildStringFromSerial _ := call _
  serviceTx := call _
  serviceRx := call _

theorem counts : Counts Kept := fun _ _ _ _ _ _ => id

theorem scans : Scans bookkeeping Kept where
  ask action scanned object := by
    cases action
    case digitalRead pin => exact silent (fun _ _ _ => rfl) object
    case triggered button => exact silent (fun _ _ _ => rfl) object
    all_goals cases scanned
  counts := counts
  processValueSelect := by
    refine Keeps.beside fun object => Keeps.get_bind fun _ => Keeps.ite ?_ (Keeps.pure ())
    exact (silent (fun _ _ _ => rfl) object).bind fun _ => Keeps.update fun _ _ => id
  processEnter := counts.processEnter (fun object => silent (fun _ _ _ => rfl) object)
    fun settings => call _

/-- In every run of the sketch at most one row is still to be written. -/
theorem fair_of_runs {iterations : Nat} {trace : List BaseStep}
    {last : Resumption (Base × LoraPoint2Point) Action Action.Answer Unit}
    (run : Resumption.Runs (sketch iterations start) trace last) : (Ledger.of trace).Fair := by
  have even : Ledger.Even {} := ⟨List.Sublist.refl _, fun _ => rfl⟩
  have meets := (polls.sketch scans.serviceButtons iterations {} start even).runs run
    (Contract.insisting_allows _ _)
  cases last with
  | done both value => exact .inl meets
  | ask both action resume => exact meets.1

/-! ## Runs -/

end Ledger

/-- The file could be opened for every row. -/
def AlwaysOpens (trace : List BaseStep) : Prop :=
  ∀ step ∈ trace, Opens step.action step.answer

section Steps

variable {Globals : Type} (trace : List (Step (Globals × LoraPoint2Point) Action Action.Answer))

/-- What the object of a sketch has done. -/
def objectSteps : List NodeStep := trace.filterMap (onAir Globals).sees

/-- The rows that have been written. -/
def rowsOf : List Row := trace.filterMap (·.action.row?)

def sentNotes : List Note := ((rowsOf trace).map Row.note).filter Note.isSent

def receivedNotes : List Note := ((rowsOf trace).map Row.note).filter fun note => !note.isSent

end Steps

namespace Ledger

theorem foldl_observe (trace : List BaseStep) (ledger : Ledger) :
    let later := trace.foldl (fun ledger step => ledger.observe step.state step.action step.answer)
      ledger
    later.seen = ledger.seen ++ objectSteps trace ∧ later.rows = ledger.rows ++ rowsOf trace ∧
      (ledger.missed = false → AlwaysOpens trace → later.missed = false) := by
  induction trace generalizing ledger with
  | nil => exact ⟨(List.append_nil _).symm, (List.append_nil _).symm, fun kept _ => kept⟩
  | cons step trace ih =>
      obtain ⟨both, action, answer⟩ := step
      obtain ⟨seen, rows, missed⟩ := ih (ledger.observe both action answer)
      have later (kept : (ledger.observe both action answer).missed = false)
          (opens : AlwaysOpens (⟨both, action, answer⟩ :: trace)) :=
        missed kept fun step member => opens step (List.mem_cons_of_mem _ member)
      cases action with
      | radio action => exact ⟨seen.trans (List.append_assoc _ [_] _), rows, later⟩
      | printRow row => exact ⟨seen, rows.trans (List.append_assoc _ [_] _), later⟩
      | openDataFile =>
          refine ⟨seen, rows, fun kept opens => later ?_ opens⟩
          have opened : answer = true := opens _ List.mem_cons_self
          show (ledger.missed || !answer) = false
          rw [kept, opened]
          rfl
      | _ => exact ⟨seen, rows, later⟩

/-- What is still to be written is neither a transmission nor a message taken in. -/
theorem Fair.records {ledger : Ledger} (fair : ledger.Fair) :
    ∃ before later, ledger.seen = before ++ later ∧ later.filterMap transmitted = [] ∧
      later.filterMap takenIn = [] ∧ ledger.Records before := by
  rcases fair with even | ⟨note, before, step, split, tells, records⟩
  · exact ⟨ledger.seen, [], (List.append_nil _).symm, rfl, rfl, even⟩
  · refine ⟨before, [step], split, ?_, ?_, records⟩
    · obtain ⟨node, action, answer⟩ := step
      cases action
      case txInd => rfl
      case rxInd => rfl
      all_goals cases tells
    · obtain ⟨node, action, answer⟩ := step
      cases action
      case txInd => rfl
      case rxInd => rfl
      all_goals cases tells

end Ledger

/-- The sketches hand their objects no frames of their own. -/
theorem payloads_of_called {side : Side} {operation : Operation} (called : Called side operation) :
    operation.payloads = [] := by
  cases operation
  case serviceTxSpan => cases side <;> cases called
  all_goals rfl

theorem called_plain (side : Side) {calls : List Operation}
    (called : ∀ operation ∈ calls, Called side operation) :
    ∀ operation ∈ calls, ∀ payload ∈ operation.payloads, Free payload := by
  intro operation member payload sent
  rw [payloads_of_called (called operation member)] at sent
  cases sent

/-- What the rows of a run stand for: what was told in the object's steps, but for the last of
them that is still to be written. -/
theorem rows_of_runs {iterations : Nat} {trace : List BaseStep}
    {last : Resumption (Base × LoraPoint2Point) Action Action.Answer Unit}
    (run : Resumption.Runs (sketch iterations start) trace last) :
    ∃ before later, objectSteps trace = before ++ later ∧ later.filterMap transmitted = [] ∧
      later.filterMap takenIn = [] ∧
      ((rowsOf trace).map Row.note).Sublist (before.filterMap told) ∧
      (AlwaysOpens trace → (rowsOf trace).map Row.note = before.filterMap told) := by
  obtain ⟨seen, rows, missed⟩ := Ledger.foldl_observe trace {}
  obtain ⟨before, later, split, unsent, untaken, honest, whole⟩ :=
    (Ledger.fair_of_runs run).records
  have notes : (Ledger.of trace).notes = (rowsOf trace).map Row.note := congrArg _ rows
  rw [notes] at honest whole
  exact ⟨before, later, seen.symm.trans split, unsent, untaken, honest,
    fun opens => whole (missed rfl opens)⟩

/-- The same of what happened on the air, all of which was told but for the last of each kind. -/
theorem air_of_runs {iterations : Nat} {trace : List BaseStep}
    {last : Resumption (Base × LoraPoint2Point) Action Action.Answer Unit}
    (run : Resumption.Runs (sketch iterations start) trace last) :
    ∃ before : List NodeStep,
      (∃ owed, (objectSteps trace).filterMap transmitted = before.filterMap indicated ++ owed ∧
        owed.length ≤ 1) ∧
      (∃ owed, (objectSteps trace).filterMap takenIn = before.filterMap heardOf ++ owed ∧
        owed.length ≤ 1) ∧
      ((rowsOf trace).map Row.note).Sublist (before.filterMap told) ∧
      (AlwaysOpens trace → (rowsOf trace).map Row.note = before.filterMap told) := by
  obtain ⟨calls, called, node, inner, _⟩ := base_runs_session run
  obtain ⟨before, later, split, unsent, untaken, rows⟩ := rows_of_runs run
  change Resumption.Runs _ (objectSteps trace) node at inner
  rw [split] at inner ⊢
  obtain ⟨middle, early⟩ := inner.front
  have plain := called_plain .client called
  obtain ⟨sent, taken, _⟩ := reports_of_runs (Episodic.session plain).map early
  rw [List.filterMap_append, unsent, List.append_nil, List.filterMap_append, untaken,
    List.append_nil]
  exact ⟨before, sent, taken, rows⟩

/-- Rows are written of nothing but transmissions and messages taken in. -/
theorem notes_of_runs {iterations : Nat} {trace : List BaseStep}
    {last : Resumption (Base × LoraPoint2Point) Action Action.Answer Unit}
    (run : Resumption.Runs (sketch iterations start) trace last) :
    (sentNotes trace).Sublist (((objectSteps trace).filterMap transmitted).map .ofReport) ∧
      (receivedNotes trace).Sublist (((objectSteps trace).filterMap takenIn).map .ofMessage) := by
  obtain ⟨before, ⟨owedSent, sent, _⟩, ⟨owedTaken, taken, _⟩, honest, _⟩ := air_of_runs run
  obtain ⟨toldSent, toldHeard⟩ := told_sent before
  rw [sent, taken, List.map_append, List.map_append, ← toldSent, ← toldHeard]
  constructor
  · exact (honest.filter _).trans (List.sublist_append_left _ _)
  · exact (honest.filter _).trans (List.sublist_append_left _ _)

/-- Wherever a run of the base stops, the log shows nothing but what has happened on the air:
its rows of messages sent are, in order, transmissions that are no part of a link change,
with their outcome, and its rows of messages received are messages taken in.  Where the
file could always be opened, at most the last one of each kind is missing. -/
theorem log_shows_air {iterations : Nat} {trace : List BaseStep}
    {last : Resumption (Base × LoraPoint2Point) Action Action.Answer Unit}
    (run : Resumption.Runs (sketch iterations start) trace last) :
    (sentNotes trace).Sublist (((objectSteps trace).filterMap transmitted).map .ofReport) ∧
    (receivedNotes trace).Sublist (((objectSteps trace).filterMap takenIn).map .ofMessage) ∧
    (AlwaysOpens trace →
      (∃ owed, ((objectSteps trace).filterMap transmitted).map Note.ofReport =
        sentNotes trace ++ owed ∧ owed.length ≤ 1) ∧
      ∃ owed, ((objectSteps trace).filterMap takenIn).map Note.ofMessage =
        receivedNotes trace ++ owed ∧ owed.length ≤ 1) := by
  obtain ⟨ofSent, ofTaken⟩ := notes_of_runs run
  refine ⟨ofSent, ofTaken, fun opens => ?_⟩
  obtain ⟨before, ⟨owedSent, sent, fewSent⟩, ⟨owedTaken, taken, fewTaken⟩, _, whole⟩ :=
    air_of_runs run
  obtain ⟨toldSent, toldHeard⟩ := told_sent before
  unfold sentNotes receivedNotes
  rw [sent, taken, List.map_append, List.map_append, ← toldSent, ← toldHeard, whole opens]
  constructor
  · exact ⟨_, rfl, (List.length_map _).trans_le fewSent⟩
  · exact ⟨_, rfl, (List.length_map _).trans_le fewTaken⟩

/-- One iteration in which the test message is acknowledged. -/
def testMessageLogged : List BaseStep × Resumption (Base × LoraPoint2Point) Action Action.Answer Unit :=
  ({ radio := { clock := fun _ => 6000 }, clock := fun _ => 6000 } : Bench).run 1

theorem log_shows_air_testMessage :
    [Note.ofReport (1 :: testMessage, endpointAddress, true)].Sublist
      (((objectSteps testMessageLogged.1).filterMap transmitted).map .ofReport) := by
  have noted : sentNotes testMessageLogged.1 =
      [Note.ofReport (1 :: testMessage, endpointAddress, true)] := by decide +kernel
  rw [← noted]
  exact (log_shows_air (Bench.run_runs _ _)).1

end Roam.RangeTest
