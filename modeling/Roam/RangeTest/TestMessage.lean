import Mathlib.Data.List.Perm.Basic
import Roam.Node.TypedLines
import Roam.RangeTest.Walk

/-!
# The test message between typed lines

The test message and the typed lines are written to the one outgoing message, and
either of them has it sent.  An iteration of the loop in which the test message is due
keeps them apart if no part of a line waits and none comes in.
-/

namespace Roam.RangeTest

open Roam.Data
open Roam.Interaction
open Roam.Node

/-! ## Iterations -/

/-- What the sketch is given while it polls, and what the object sends then. -/
structure Poll where
  pending : List UInt8 := []
  exchange : Exchange := {}

namespace Poll

def observe (poll : Poll) : (action : Action) → action.Answer → Poll
  | .typed, answer => { poll with pending := poll.pending ++ answer }
  | .radio action, answer => { poll with exchange := poll.exchange.observe action answer }
  | _, _ => poll

/-- The poll of a whole run. -/
def of (trace : List BaseStep) : Poll :=
  trace.foldl (fun poll step => poll.observe step.action step.answer) {}

end Poll

/-- The test message is due. -/
def due (base : Base) : Bool := 5000 < base.currentMillis - base.prevMillis

/-- One iteration of the loop as the outside sees it. -/
structure Iteration extends Poll where
  due : Bool

/-- The part of an iteration before the radio is serviced. -/
def scan : BaseM Unit := do
  Program.beside readClock
  serviceButtons

/-- The loop, iteration after iteration, with the poll of each. -/
inductive Iterations : Base × LoraPoint2Point → List BaseStep → List Iteration →
    Base × LoraPoint2Point → Prop where
  | done (both : Base × LoraPoint2Point) : Iterations both [] [] both
  | served {both polled ready told heard last : Base × LoraPoint2Point}
      {scanning preparing sending receiving rest : List BaseStep} {later : List Iteration}
      (scanned : Resumption.Runs (scan both) scanning (.done polled ()))
      (awake : polled.1.suspendRadio = false)
      (prepared : Resumption.Runs (prepareTestMessage polled) preparing (.done ready ()))
      (sent : Resumption.Runs (sendMessage ready) sending (.done told ()))
      (received : Resumption.Runs (call serviceRx told) receiving (.done heard ()))
      (goesOn : Iterations heard rest later last) :
      Iterations both (scanning ++ (preparing ++ (sending ++ receiving)) ++ rest)
        (⟨Poll.of sending, due polled.1⟩ :: later) last
  | suspended {both polled last : Base × LoraPoint2Point} {scanning rest : List BaseStep}
      {later : List Iteration}
      (scanned : Resumption.Runs (scan both) scanning (.done polled ()))
      (asleep : polled.1.suspendRadio = true)
      (goesOn : Iterations polled rest later last) :
      Iterations both (scanning ++ rest) (⟨{}, false⟩ :: later) last

/-- Every complete run of the loop is made of iterations. -/
theorem exists_iterations {count : Nat} {both last : Base × LoraPoint2Point}
    {trace : List BaseStep} (run : Resumption.Runs (loops count both) trace (.done last ())) :
    ∃ history, Iterations both trace history last ∧ history.length = count := by
  induction count generalizing both trace with
  | zero =>
      cases run
      exact ⟨[], .done _, rfl⟩
  | succ count ih =>
      obtain ⟨once, rest, middle, _, rfl, first, goesOn⟩ := Resumption.Runs.of_bind run
      obtain ⟨later, iterations, length⟩ := ih goesOn
      have split : loop both = (scan both).bind fun polled _ => serviceRadio polled :=
        (Resumption.bind_assoc _ _ _).symm
      rw [split] at first
      obtain ⟨scanning, serving, polled, _, rfl, scanned, served⟩ := Resumption.Runs.of_bind first
      cases mode : polled.1.suspendRadio with
      | true =>
          have skipped : serviceRadio polled = .done polled () := by
            show (if polled.1.suspendRadio = false then _ else pure () : BaseM Unit) polled = _
            rw [if_neg (by rw [mode]; decide)]
            rfl
          rw [skipped] at served
          cases served
          rw [List.append_nil]
          exact ⟨_, .suspended scanned mode iterations, congrArg (· + 1) length⟩
      | false =>
          have passed : serviceRadio polled = (do
              prepareTestMessage
              sendMessage
              call serviceRx : BaseM Unit) polled := by
            show (if polled.1.suspendRadio = false then _ else pure () : BaseM Unit) polled = _
            rw [if_pos mode]
          rw [passed] at served
          obtain ⟨preparing, _, ready, _, rfl, prepared, served⟩ := Resumption.Runs.of_bind served
          obtain ⟨sending, receiving, told, _, rfl, sent, received⟩ :=
            Resumption.Runs.of_bind served
          exact ⟨_, .served scanned mode prepared sent received iterations,
            congrArg (· + 1) length⟩

/-! ## Polls -/

/-- The contract that collects the poll of a run in which certain text is typed. -/
def polling (plain : List UInt8 → Prop) :
    Contract (Base × LoraPoint2Point) Action Action.Answer Poll where
  require _ _ _ := True
  allow poll _ action answer := plain (poll.observe action answer).pending
  record poll _ action answer := poll.observe action answer

variable {plain : List UInt8 → Prop}

theorem pending_observe (poll : Poll) (action : Action) (answer : action.Answer) :
    poll.pending ⊆ (poll.observe action answer).pending := by
  cases action
  case typed => exact List.subset_append_left _ _
  all_goals exact fun _ => id

theorem pending_after (poll : Poll) (trace : List BaseStep) :
    poll.pending ⊆ ((polling plain).after poll trace).pending := by
  induction trace generalizing poll with
  | nil => exact fun _ => id
  | cons step trace ih =>
      exact List.Subset.trans (pending_observe poll step.action step.answer) (ih _)

/-- What is typed over a whole run tells of each poll, unless more text could be better. -/
theorem polling_allows
    (part : ∀ {some all : List UInt8}, some ⊆ all → plain all → plain some) {poll : Poll}
    {trace : List BaseStep} (whole : plain ((polling plain).after poll trace).pending) :
    (polling plain).Allows poll trace := by
  induction trace generalizing poll with
  | nil => trivial
  | cons step trace ih => exact ⟨part (pending_after _ trace) whole, ih whole⟩

/-- How the history of the object's code follows the one of the sketch. -/
def Attends (plain : List UInt8 → Prop) (pending : List UInt8) (timeUp : Bool) (exchange : Exchange)
    (poll : Poll) (base : Base) : Prop :=
  poll = ⟨pending, exchange⟩ ∧ plain pending ∧ base.timeUp = timeUp

theorem Base.hear_timeUp (base : Base) (action : Node.Action) :
    (base.hear action).timeUp = base.timeUp := by
  cases action <;> rfl

theorem relays_polling (pending : List UInt8) (timeUp : Bool) :
    Relays exchanging (polling plain) (Attends plain pending timeUp) where
  act action exchange poll base object follows _ := by
    obtain ⟨rfl, typed, same⟩ := follows
    exact ⟨trivial, fun answer _ => ⟨trivial, rfl, typed, (base.hear_timeUp action).trans same⟩⟩
  log action logs exchange object poll base follows := by
    cases action
    case openDataFile => exact ⟨trivial, fun _ _ => follows⟩
    case millis => exact ⟨trivial, fun _ _ => follows⟩
    all_goals cases logs
  print _ _ _ _ _ _ _ _ follows _ _ := ⟨trivial, follows⟩
  lastAck _ _ _ follows := follows

/-! ## What leaves the outgoing message alone -/

/-- The outgoing message is as given, in text mode. -/
def Still (text : Message) (_ : Exchange) (node : LoraPoint2Point) : Prop :=
  node.txMsg = text ∧ node.serialCommandMode = false

namespace Still

variable {text : Message}

theorem perform (action : Node.Action) : Keeps exchanging (Still text) (Node.perform action) :=
  fun _ _ still => ⟨trivial, fun _ _ => still⟩

theorem ignores : Ignores exchanging (Still text) where
  perform action _ _ := perform action
  state _ _ _ _ typed _ mode still := ⟨typed.trans still.1, mode.trans still.2⟩

theorem reads : ReadsAnywhere exchanging (Still text) := fun _ _ _ => perform _

theorem serviceRx : Keeps exchanging (Still text) serviceRx := by
  refine ignores.indifferent.serviceRx ignores.settles reads ?_ fun _ _ still => still
  refine Keeps.get_bind fun node => ?_
  refine Keeps.bind (perform (.recvfromAckTimeout node.rxMsg.bufLen 200)) fun reception => ?_
  exact Keeps.bind (Keeps.update fun _ _ still => still) fun _ => Keeps.pure _

theorem linkChangeReq (settings : Settings) :
    Keeps exchanging (Still text) (linkChangeReq endpointAddress settings) :=
  ignores.indifferent.linkChangeReq ignores.settles _ (reads.printSettings settings)

end Still

/-- What the radio is to send, and whether it is to send it. -/
structure Waits (timeUp : Bool) (text : Message) (both : Base × LoraPoint2Point) : Prop where
  timeUp : both.1.timeUp = timeUp
  still : both.2.txMsg = text ∧ both.2.serialCommandMode = false

namespace Waits

variable {timeUp : Bool} {text : Message}

/-- The invariant beside a poll. -/
abbrev Keep (plain : List UInt8 → Prop) (timeUp : Bool) (text : Message) (poll : Poll)
    (both : Base × LoraPoint2Point) : Prop :=
  plain poll.pending ∧ Waits timeUp text both

theorem call {Value : Type} {program : NodeM Value}
    (keeps : Keeps exchanging (Still text) program) :
    Keeps (polling plain) (Keep plain timeUp text) (call program) := by
  rintro ⟨pending, exchange⟩ both ⟨typed, same, still⟩
  refine ((relays_polling pending timeUp).call keeps ⟨pending, exchange⟩ both
    ⟨exchange, ⟨rfl, typed, same⟩, still⟩).mono ?_
  rintro _ later _ ⟨exchange, ⟨rfl, typed, same⟩, still⟩
  exact ⟨typed, same, still⟩

theorem perform (action : Action) (object : LoraPoint2Point) :
    Keeps ((polling plain).along (·, object)) (fun poll base => Keep plain timeUp text poll (base, object))
      (perform action) :=
  fun _ _ kept => ⟨trivial, fun _ allowed => ⟨allowed, kept.2.timeUp, kept.2.still⟩⟩

theorem update (object : LoraPoint2Point) {change : Base → Base}
    (same : ∀ base, (change base).timeUp = base.timeUp) :
    Keeps ((polling plain).along (·, object)) (fun poll base => Keep plain timeUp text poll (base, object))
      (modify change) :=
  Keeps.update fun _ base kept => ⟨kept.1, (same base).trans kept.2.timeUp, kept.2.still⟩

theorem counts : Counts (Keep plain timeUp text) :=
  fun _ _ _ same _ _ kept => ⟨kept.1, same.trans kept.2.timeUp, kept.2.still⟩

theorem scans : Scans (polling plain) (Keep plain timeUp text) where
  ask action _ object := perform action object
  counts := counts
  processValueSelect := Keeps.beside fun object =>
    Keeps.get_bind fun _ => Keeps.ite ((perform _ object).bind fun _ =>
      update object fun _ => rfl) (Keeps.pure ())
  processEnter := counts.processEnter (perform _) fun settings => call (Still.linkChangeReq settings)

theorem scan : Keeps (polling plain) (Keep plain timeUp text) scan := by
  refine Keeps.bind (Keeps.beside fun object => ?_) fun _ => scans.serviceButtons
  exact (perform .millis object).bind fun _ => update object fun _ => rfl

theorem serviceRx : Keeps (polling plain) (Keep plain timeUp text) (RangeTest.call serviceRx) :=
  call Still.serviceRx

/-- Complete runs of what leaves the outgoing message alone. -/
theorem of_run {Value : Type} {program : BaseM Value} {both last : Base × LoraPoint2Point}
    {trace : List BaseStep} {value : Value}
    (keeps : Keeps (polling fun _ => True) (Keep (fun _ => True) timeUp text) program)
    (waits : Waits timeUp text both)
    (run : Resumption.Runs (program both) trace (.done last value)) : Waits timeUp text last :=
  ((keeps {} both ⟨trivial, waits⟩).runs run (polling_allows (fun _ => id) trivial)).2

end Waits

/-! ## The two writers -/

/-- The outgoing message with the test message in it. -/
def prepared (txMsg : Message) : Message :=
  { txMsg with buf := txMsg.buf.load (lineMessage testMessage), bufLen := 7 }

theorem prepared_holds (txMsg : Message) : HoldsText (prepared txMsg) testMessage := by
  have length : (lineMessage testMessage).length = 7 := by decide +kernel
  have fits : (lineMessage testMessage).length ≤ maxMessageLen := by decide +kernel
  right
  refine ⟨?_, length.symm⟩
  show (txMsg.buf.load (lineMessage testMessage)).upTo 7 = _
  rw [← length]
  exact Buffer.upTo_load _ fits

theorem prepareTestMessage_ends {text : Message} {polled ready : Base × LoraPoint2Point}
    {trace : List BaseStep} (waits : Waits false text polled)
    (run : Resumption.Runs (prepareTestMessage polled) trace (.done ready ())) :
    Waits (due polled.1) (if due polled.1 then prepared text else text) ready := by
  obtain ⟨timeUp, rfl, mode⟩ := waits
  have split : prepareTestMessage polled = (if 5000 < polled.1.currentMillis - polled.1.prevMillis
      then (do
        let _ ← call (setTxMessage testMessage 6)
        Program.beside do
          modify fun base => { base with prevMillis := base.currentMillis, timeUp := true })
      else pure () : BaseM Unit) polled := rfl
  rw [split] at run
  by_cases late : 5000 < polled.1.currentMillis - polled.1.prevMillis
  · have now : due polled.1 = true := decide_eq_true late
    rw [if_pos late] at run
    have whole : testMessage.take (6 : UInt8).toNat = testMessage := by decide +kernel
    have written : ∀ txMsg : Message, { txMsg with
        buf := txMsg.buf.load (lineMessage (testMessage.take (6 : UInt8).toNat)), bufLen := 7 } =
          prepared txMsg := fun _ => by rw [whole, prepared]
    rw [now, if_pos rfl]
    cases run
    exact ⟨rfl, written _, mode⟩
  · have later : due polled.1 = false := decide_eq_false late
    rw [if_neg late] at run
    rw [later, if_neg Bool.false_ne_true]
    cases run
    exact ⟨timeUp, rfl, mode⟩

/-- A poll only types. -/
theorem buildStringFromSerial_typing {pending : List UInt8} (plain : exclamation ∉ pending)
    (text : Message) :
    Triple exchanging (fun exchange node => exchange = {} ∧ Still text exchange node)
      (buildStringFromSerial pending)
      fun built exchange node => exchange.sent = [] ∧
        built = pollVerdict exchange.unassigned pending ∧
          Still (pending.foldl typeCharacter text) exchange node := by
  rintro _ node ⟨rfl, rfl, mode⟩
  refine ⟨trivial, fun unassigned _ => (typeAll_meets _ node plain mode unassigned).2 ?_⟩
  exact ⟨rfl, rfl, rfl, mode⟩

/-- What a poll has typed. -/
structure Typed (timeUp : Bool) (text : Message) (poll : Poll) (both : Base × LoraPoint2Point) :
    Prop where
  plain : exclamation ∉ poll.pending
  unsent : poll.exchange.sent = []
  waits : Waits timeUp (poll.pending.foldl typeCharacter text) both

theorem call_buildStringFromSerial (timeUp : Bool) (text : Message) (pending : List UInt8) :
    Triple (polling (exclamation ∉ ·))
      (fun poll both => poll = ⟨pending, {}⟩ ∧ exclamation ∉ pending ∧ Waits timeUp text both)
      (call (buildStringFromSerial pending))
      fun built poll both => Typed timeUp text poll both ∧
        built = pollVerdict poll.exchange.unassigned poll.pending := by
  rintro _ both ⟨rfl, plain, same, still⟩
  refine ((relays_polling pending timeUp).call (buildStringFromSerial_typing plain text)
    _ both ⟨{}, ⟨rfl, plain, same⟩, rfl, still⟩).mono ?_
  rintro _ later built ⟨exchange, ⟨rfl, plain, same⟩, unsent, verdict, still⟩
  exact ⟨⟨plain, unsent, same, still⟩, verdict⟩

theorem call_serviceTx {timeUp : Bool} {text : Message} {poll : Poll}
    {both : Base × LoraPoint2Point} (typed : Typed timeUp text poll both) :
    (call (serviceTx endpointAddress) both).Meets (polling (exclamation ∉ ·))
      (fun later told _ => later.pending = poll.pending ∧
        later.exchange.unassigned = poll.exchange.unassigned ∧
          told.2.serialCommandMode = false ∧
            TurnEffect true (poll.pending.foldl typeCharacter text) later.exchange told.2)
      poll := by
  obtain ⟨pending, unassigned, sent⟩ := poll
  obtain ⟨plain, rfl, same, still, mode⟩ := typed
  refine ((relays_polling pending timeUp).call (serviceTx_exchanging ⟨unassigned, []⟩
    (pending.foldl typeCharacter text) endpointAddress) _ both
    ⟨_, ⟨rfl, plain, same⟩, rfl, still, mode⟩).mono ?_
  rintro _ later _ ⟨exchange, ⟨rfl, _⟩, rfl, cleared, mode⟩
  exact ⟨rfl, rfl, mode, rfl, cleared⟩

/-- A poll types, and the radio sends if a line is complete or the time is up. -/
theorem sendMessage_effect (timeUp : Bool) (text : Message) :
    Triple (polling (exclamation ∉ ·)) (fun poll both => poll = {} ∧ Waits timeUp text both)
      sendMessage
      fun _ poll both => Waits false both.2.txMsg both ∧
        TurnEffect (pollVerdict poll.exchange.unassigned poll.pending ≠ 0 ∨ timeUp)
          (poll.pending.foldl typeCharacter text) poll.exchange both.2 := by
  have polled : Triple (polling (exclamation ∉ ·))
      (fun poll both => poll = {} ∧ Waits timeUp text both) (Program.beside (perform .typed))
      fun pending poll both => poll = ⟨pending, {}⟩ ∧ exclamation ∉ pending ∧
        Waits timeUp text both := by
    rintro _ both ⟨rfl, waits⟩
    exact ⟨trivial, fun pending plain => ⟨rfl, plain, waits⟩⟩
  refine polled.bind fun pending => (call_buildStringFromSerial timeUp text pending).bind ?_
  refine fun built => Triple.get_bind fun known => Triple.ite (fun finished => ?_) fun goesOn => ?_
  · rintro poll both ⟨⟨typed, rfl⟩, rfl⟩
    rw [typed.waits.timeUp] at finished
    refine Resumption.Meets.bind_iff.2 ((call_serviceTx typed).mono ?_)
    rintro later told _ ⟨pending, unassigned, mode, effect⟩
    refine ⟨⟨rfl, rfl, mode⟩, ?_⟩
    rw [pending, unassigned, decide_eq_true finished]
    exact effect
  · refine Triple.pure () ?_
    rintro poll both ⟨⟨⟨plain, unsent, waits⟩, rfl⟩, rfl⟩
    obtain ⟨_, early⟩ := not_or.1 goesOn
    rw [waits.timeUp] at goesOn
    refine ⟨⟨by simpa using early, rfl, waits.still.2⟩, ?_⟩
    rw [decide_eq_false goesOn]
    exact ⟨unsent, waits.still.1⟩

/-- A complete run of the polling and sending part of an iteration. -/
theorem sendMessage_ends {timeUp : Bool} {text : Message} {ready told : Base × LoraPoint2Point}
    {trace : List BaseStep} (waits : Waits timeUp text ready)
    (plain : exclamation ∉ (Poll.of trace).pending)
    (run : Resumption.Runs (sendMessage ready) trace (.done told ())) :
    Waits false told.2.txMsg told ∧
      TurnEffect (pollVerdict (Poll.of trace).exchange.unassigned (Poll.of trace).pending ≠ 0 ∨ timeUp)
        ((Poll.of trace).pending.foldl typeCharacter text) (Poll.of trace).exchange told.2 := by
  refine (sendMessage_effect timeUp text {} ready ⟨rfl, waits⟩).runs run (polling_allows ?_ plain)
  exact fun part plain member => plain (part member)

/-! ## Every run -/

/-- The characters typed in some iterations, as one stream. -/
def typed (history : List Iteration) : List UInt8 :=
  history.flatMap fun iteration => iteration.pending

/-- The messages sent in some iterations, without those that are the type byte alone. -/
def sent (history : List Iteration) : List (List UInt8) :=
  proper (history.flatMap fun iteration => iteration.exchange.sent)

/-- How often the test message was due. -/
def ticks (history : List Iteration) : Nat := history.countP fun iteration => iteration.due

/-- At most one character comes in, and the poll that finds none answers zero. -/
def Slow (iteration : Iteration) : Prop :=
  iteration.pending.length ≤ 1 ∧ (iteration.pending = [] → iteration.exchange.unassigned = 0)

/-- While the test message is due, no part of a line waits and none comes in. -/
def Clear (before : List UInt8) (iteration : Iteration) : Prop :=
  iteration.due = true →
    (textFormat.assemble before).unfinished = [] ∧ textFormat.left iteration.pending = []

instance (iteration : Iteration) : Decidable (Slow iteration) :=
  inferInstanceAs (Decidable (_ ∧ (_ → _)))

instance (before : List UInt8) (iteration : Iteration) : Decidable (Clear before iteration) :=
  inferInstanceAs (Decidable (_ → _ ∧ _))

/-- An iteration sends the line that its character completes, or the test message. -/
theorem iteration_sent {before : List UInt8} {iteration : Iteration} {node later : LoraPoint2Point}
    (slow : Slow iteration) (clear : Clear before iteration)
    (fits : textFormat.Fits 127 (before ++ iteration.pending))
    (holds : HoldsText node.txMsg (textFormat.assemble before).unfinished)
    (effect : TurnEffect
      (pollVerdict iteration.exchange.unassigned iteration.pending ≠ 0 ∨ iteration.due)
      (iteration.pending.foldl typeCharacter
        (if iteration.due then prepared node.txMsg else node.txMsg))
      iteration.exchange later) :
    proper iteration.exchange.sent = (textFormat.fresh before iteration.pending).map lineMessage ++
        List.replicate (if iteration.due then 1 else 0) (lineMessage testMessage) ∧
      HoldsText later.txMsg (textFormat.assemble (before ++ iteration.pending)).unfinished := by
  obtain ⟨⟨pending, exchange⟩, now⟩ := iteration
  obtain ⟨single, dry⟩ := slow
  cases now with
  | true =>
      obtain ⟨waiting, nothing⟩ := clear rfl
      have typed : HoldsText (pending.foldl typeCharacter (prepared node.txMsg)) testMessage := by
        have short : (testMessage ++ textFormat.left pending).length ≤ 127 := by
          rw [nothing]
          decide +kernel
        have held := (prepared_holds node.txMsg).foldl_typeCharacter pending short
        rwa [nothing, List.append_nil] at held
      have same : textFormat.feedAll ⟨[], []⟩ pending = ⟨[], []⟩ :=
        LineFormat.feedAll_of_left_nil nothing
      have after := textFormat.assemble_append_eq before pending
      rw [waiting, same] at after
      have none : textFormat.fresh before pending = [] := by
        rw [LineFormat.fresh, waiting, same]
      have sends : TurnEffect true (pending.foldl typeCharacter (prepared node.txMsg)) exchange later := by
        simpa using effect
      obtain ⟨sent, kept⟩ := sends.proper_sent typed
      have some : testMessage ≠ [] := by decide +kernel
      rw [after, none]
      exact ⟨by simpa [some] using sent, kept⟩
  | false =>
      have outcome : TurnOutcome before pending exchange later := by
        cases pending with
        | nil => exact TurnOutcome.of_empty_poll holds (by simpa [pollVerdict] using effect)
        | cons inputChar rest =>
            obtain rfl := List.eq_nil_of_length_eq_zero (Nat.le_zero.1 (Nat.le_of_succ_le_succ single))
            have single : textFormat.Fits 127 (before ++ ([] ++ [inputChar])) := fits
            refine TurnOutcome.of_poll single holds ?_
            simpa [pollVerdict, verdict] using effect
      have separates : Separates before pending exchange.unassigned := by
        cases pending with
        | nil => exact Or.inl (dry rfl)
        | cons inputChar rest =>
            obtain rfl := List.eq_nil_of_length_eq_zero (Nat.le_zero.1 (Nat.le_of_succ_le_succ single))
            rw [Separates, if_neg (List.cons_ne_nil _ _)]
            have few := textFormat.length_fresh_singleton before inputChar
            cases ends : textFormat.ends inputChar <;> simpa [ends] using few
      obtain ⟨sent, kept⟩ := outcome.separate separates
      exact ⟨by simpa using sent, kept⟩

/-- What the iterations bring in, after what was typed before. -/
structure Orderly (before : List UInt8) (history : List Iteration) : Prop where
  plain : exclamation ∉ typed history
  fits : textFormat.Fits 127 (before ++ typed history)
  slow : ∀ iteration ∈ history, Slow iteration
  clear : ∀ count (inside : count < history.length),
    Clear (before ++ typed (history.take count)) history[count]

theorem typed_cons (iteration : Iteration) (history : List Iteration) :
    typed (iteration :: history) = iteration.pending ++ typed history := rfl

theorem Orderly.tail {before : List UInt8} {iteration : Iteration} {history : List Iteration}
    (orderly : Orderly before (iteration :: history)) :
    Orderly (before ++ iteration.pending) history where
  plain member := orderly.plain (List.mem_append_right _ member)
  fits := by
    have fits := orderly.fits
    rwa [typed_cons, ← List.append_assoc] at fits
  slow later member := orderly.slow later (List.mem_cons_of_mem _ member)
  clear count inside := by
    have clear := orderly.clear (count + 1) (Nat.succ_lt_succ inside)
    rwa [List.take_succ_cons, typed_cons, ← List.append_assoc] at clear

theorem sent_cons (iteration : Iteration) (history : List Iteration) :
    sent (iteration :: history) = proper iteration.exchange.sent ++ sent history := by
  rw [sent, List.flatMap_cons, proper, List.filter_append]
  rfl

/-- Iterations that send what they should make a run that does. -/
theorem sent_perm_cons {before : List UInt8} {iteration : Iteration} {history : List Iteration}
    (once : proper iteration.exchange.sent =
      (textFormat.fresh before iteration.pending).map lineMessage ++
        List.replicate (if iteration.due then 1 else 0) (lineMessage testMessage))
    (others : (sent history).Perm
      ((textFormat.fresh (before ++ iteration.pending) (typed history)).map lineMessage ++
        List.replicate (ticks history) (lineMessage testMessage))) :
    (sent (iteration :: history)).Perm
      ((textFormat.fresh before (typed (iteration :: history))).map lineMessage ++
        List.replicate (ticks (iteration :: history)) (lineMessage testMessage)) := by
  rw [sent_cons, once, typed_cons, textFormat.fresh_append, List.map_append, ticks, List.countP_cons,
    List.replicate_add, List.perm_iff_count]
  intro message
  have same := others.count_eq message
  simp only [List.count_append, ticks] at same ⊢
  omega

/-- The loop from any point of the stream on. -/
theorem iterations_sent {both last : Base × LoraPoint2Point} {trace : List BaseStep}
    {history : List Iteration} (run : Iterations both trace history last) {before : List UInt8}
    (waits : Waits false both.2.txMsg both)
    (holds : HoldsText both.2.txMsg (textFormat.assemble before).unfinished)
    (orderly : Orderly before history) :
    (sent history).Perm ((textFormat.fresh before (typed history)).map lineMessage ++
      List.replicate (ticks history) (lineMessage testMessage)) := by
  induction run generalizing before with
  | done both => exact List.Perm.refl _
  | @served both polled ready told heard last scanning preparing sending receiving rest later
      scanned awake prepared sent received goesOn ih =>
      have ready := prepareTestMessage_ends (Waits.of_run Waits.scan waits scanned) prepared
      have plain : exclamation ∉ (Poll.of sending).pending :=
        fun member => orderly.plain (List.mem_append_left _ member)
      obtain ⟨told, effect⟩ := sendMessage_ends ready plain sent
      have fits : textFormat.Fits 127 (before ++ (Poll.of sending).pending) := by
        have fits := orderly.fits
        rw [typed_cons, ← List.append_assoc] at fits
        exact fits.front
      have clear := orderly.clear 0 (Nat.succ_pos _)
      rw [List.take_zero, show typed [] = [] from rfl, List.append_nil] at clear
      obtain ⟨once, kept⟩ :=
        iteration_sent (orderly.slow _ List.mem_cons_self) clear fits holds effect
      have heard := Waits.of_run Waits.serviceRx told received
      have same := heard.still.1
      rw [← same] at kept heard
      exact sent_perm_cons once (ih heard kept orderly.tail)
  | @suspended both polled last scanning rest later scanned asleep goesOn ih =>
      have polled := Waits.of_run Waits.scan waits scanned
      have same := polled.still.1
      rw [← same] at polled holds
      have none : textFormat.fresh before [] = [] := rfl
      refine sent_perm_cons ?_ (ih polled ?_ orderly.tail)
      · rw [none]
        rfl
      · rwa [List.append_nil]

/-! ## Every run of the sketch -/

/-- A run of the sketch whose radio could be set up, with the poll of each iteration. -/
inductive Sketched : List BaseStep → List Iteration → Base × LoraPoint2Point → Prop where
  | run {set ready last : Base × LoraPoint2Point} {setting starting rest : List BaseStep}
      {history : List Iteration}
      (setUp : Resumption.Runs (call setupRadio start) setting (.done set true))
      (started : Resumption.Runs (call startHeartbeats set) starting (.done ready ()))
      (goesOn : Iterations ready rest history last) :
      Sketched (setting ++ (starting ++ rest)) history last

/-- Every complete run of the sketch sets the radio up in vain or is one of these. -/
theorem exists_sketched {count : Nat} {last : Base × LoraPoint2Point} {trace : List BaseStep}
    (run : Resumption.Runs (sketch count start) trace (.done last ())) :
    Resumption.Runs (call setupRadio start) trace (.done last false) ∨
      ∃ history, Sketched trace history last ∧ history.length = count := by
  obtain ⟨setting, rest, set, ok, rfl, setUp, goesOn⟩ := Resumption.Runs.of_bind run
  cases ok with
  | false =>
      left
      cases goesOn
      rwa [List.append_nil]
  | true =>
      right
      obtain ⟨starting, rest, ready, _, rfl, started, goesOn⟩ := Resumption.Runs.of_bind goesOn
      obtain ⟨history, iterations, length⟩ := exists_iterations goesOn
      exact ⟨history, .run setUp started iterations, length⟩

/-- Text is typed slowly, in lines that fit, and the test message becomes due only while
no part of a line waits or comes in: then every message is a completed line or the
test message, and each of them is sent once. -/
theorem test_message_apart {trace : List BaseStep} {history : List Iteration}
    {last : Base × LoraPoint2Point} (run : Sketched trace history last)
    (plain : exclamation ∉ typed history) (fits : textFormat.Fits 127 (typed history))
    (slow : ∀ iteration ∈ history, Slow iteration)
    (clear : ∀ count (inside : count < history.length),
      Clear (typed (history.take count)) history[count]) :
    (sent history).Perm ((textFormat.assemble (typed history)).completed.map lineMessage ++
      List.replicate (ticks history) (lineMessage testMessage)) := by
  obtain ⟨setUp, started, goesOn⟩ := run
  have fresh : Waits false start.2.txMsg start := ⟨rfl, rfl, rfl⟩
  have ignores : Ignores exchanging (Still start.2.txMsg) := Still.ignores
  have set := Waits.of_run (Waits.call (ignores.carries.setupRadio ignores.settles)) fresh setUp
  have ready := Waits.of_run (Waits.call ignores.carries.startHeartbeats) set started
  have same := ready.still.1
  have holds : HoldsText start.2.txMsg (textFormat.assemble []).unfinished := Or.inl ⟨rfl, rfl⟩
  rw [← same] at ready holds
  exact iterations_sent goesOn ready holds ⟨plain, fits, slow, clear⟩

/-! ## Rehearsals -/

namespace Bench

/-- One part of an iteration on a bench of its own. -/
def part (bench : Bench) {Value : Type} (program : BaseM Value) (both : Base × LoraPoint2Point) :
    List BaseStep × Resumption (Base × LoraPoint2Point) Action Action.Answer Value :=
  Resumption.drive bench.answer 0 (program both)

theorem part_runs {bench : Bench} {program : BaseM Unit} {both : Base × LoraPoint2Point}
    (through : (bench.part program both).2.awaits.isNone = true) :
    Resumption.Runs (program both) (bench.part program both).1
      (.done (bench.part program both).2.state ()) := by
  have run : Resumption.Runs (program both) (bench.part program both).1
    (bench.part program both).2 := Resumption.drive_runs _ _ _
  cases ended : (bench.part program both).2 with
  | done last value => rwa [ended] at run
  | ask last action resume =>
      rw [ended] at through
      cases through

/-- One iteration after the other, each part of it on the bench of that iteration. -/
def rounds : List Bench → Base × LoraPoint2Point → Option (List Iteration)
  | [], _ => some []
  | bench :: benches, both =>
      let polled := (bench.part scan both).2
      let ready := (bench.part prepareTestMessage polled.state).2
      let told := (bench.part sendMessage ready.state).2
      let heard := (bench.part (call serviceRx) told.state).2
      if polled.awaits.isNone ∧ polled.state.1.suspendRadio = false ∧ ready.awaits.isNone ∧
          told.awaits.isNone ∧ heard.awaits.isNone then
        (rounds benches heard.state).map
          (⟨Poll.of (bench.part sendMessage ready.state).1, due polled.state.1⟩ :: ·)
      else none

theorem rounds_iterations {benches : List Bench} {both : Base × LoraPoint2Point}
    {history : List Iteration} (found : rounds benches both = some history) :
    ∃ trace last, Iterations both trace history last := by
  induction benches generalizing both history with
  | nil =>
      cases found
      exact ⟨[], both, .done both⟩
  | cons bench benches ih =>
      rw [rounds] at found
      split at found
      · rename_i through
        obtain ⟨polled, awake, ready, told, heard⟩ := through
        obtain ⟨later, rest, rfl⟩ := Option.map_eq_some_iff.1 found
        obtain ⟨trace, last, goesOn⟩ := ih rest
        exact ⟨_, last, .served (part_runs polled) awake (part_runs ready) (part_runs told)
          (part_runs heard) goesOn⟩
      · cases found

/-- The sketch behind its `setup()`. -/
def ready : Base × LoraPoint2Point :=
  (part {} (call startHeartbeats) (part {} (call setupRadio) start).2.state).2.state

/-- The sketch set up, and then one iteration on each bench. -/
def rehearsed (benches : List Bench) : List Iteration := (rounds benches ready).getD []

theorem rehearsed_sketched {benches : List Bench} (through : (rounds benches ready).isSome = true) :
    ∃ trace last, Sketched trace (rehearsed benches) last := by
  have setUp : Resumption.Runs (call setupRadio start) (part {} (call setupRadio) start).1
      (.done (part {} (call setupRadio) start).2.state true) := Resumption.drive_runs _ _ _
  have started : Resumption.Runs (call startHeartbeats (part {} (call setupRadio) start).2.state)
    (part {} (call startHeartbeats) (part {} (call setupRadio) start).2.state).1
    (.done ready ()) := part_runs rfl
  obtain ⟨history, found⟩ := Option.isSome_iff_exists.1 through
  obtain ⟨trace, last, goesOn⟩ := rounds_iterations found
  have same : rehearsed benches = history := by rw [rehearsed, found, Option.getD_some]
  rw [same]
  exact ⟨_, last, .run setUp started goesOn⟩

end Bench

/-- At a given time there is this to read from the port. -/
def Bench.at (now : UInt32) (pending : List UInt8) : Bench :=
  { radio := { clock := fun _ => now }, clock := fun _ => now, typed := fun _ => pending }

/-- The test message becomes due before the line `a` is begun. -/
def tickBefore : List Bench := [.at 6000 [], .at 6100 [97], .at 6200 [lineFeed]]

/-- The test message becomes due while the line `a` waits for its end. -/
def tickWithin : List Bench := [.at 1000 [97], .at 6000 [], .at 6100 [98], .at 6200 [lineFeed]]

theorem test_message_apart_line :
    (sent (Bench.rehearsed tickBefore)).Perm [lineMessage [97], lineMessage testMessage] := by
  have through : (Bench.rounds tickBefore Bench.ready).isSome = true := by decide +kernel
  obtain ⟨trace, last, run⟩ := Bench.rehearsed_sketched through
  have fits : textFormat.Fits 127 (typed (Bench.rehearsed tickBefore)) :=
    textFormat.fits_of_length_le (by decide +kernel)
  exact test_message_apart run (by decide +kernel) fits (by decide +kernel) (by decide +kernel)

/-- The letter in front of the test message is never sent. -/
theorem tick_splits_line :
    ¬ ∀ (trace : List BaseStep) (history : List Iteration) (last : Base × LoraPoint2Point),
      Sketched trace history last → exclamation ∉ typed history →
      textFormat.Fits 127 (typed history) → (∀ iteration ∈ history, Slow iteration) →
        ∃ number, (sent history).Perm
          ((textFormat.assemble (typed history)).completed.map lineMessage ++
            List.replicate number (lineMessage testMessage)) := by
  intro always
  have through : (Bench.rounds tickWithin Bench.ready).isSome = true := by decide +kernel
  obtain ⟨trace, last, run⟩ := Bench.rehearsed_sketched through
  have fits : textFormat.Fits 127 (typed (Bench.rehearsed tickWithin)) :=
    textFormat.fits_of_length_le (by decide +kernel)
  obtain ⟨number, same⟩ := always trace _ last run (by decide +kernel) fits (by decide +kernel)
  have remainder : lineMessage [98] ∈ sent (Bench.rehearsed tickWithin) := by decide +kernel
  rcases List.mem_append.1 (same.subset remainder) with line | test
  · exact absurd line (by decide +kernel)
  · exact absurd (List.eq_of_mem_replicate test) (by decide +kernel)

end Roam.RangeTest
