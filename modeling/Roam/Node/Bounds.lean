import Roam.Node.Walk

/-!
# Array reads on the receive path

A received byte becomes a table index before it is checked, and a length becomes
a loop bound after one was taken from it.  Which received messages are read
inside the arrays depends on what the receive buffer holds once the message is in.
-/

namespace Roam.Node

open Roam.Interaction

namespace Message

/-- Not empty and, as a link change request, naming entries of the three tables. -/
def Readable (message : Message) : Prop :=
  message.bufLen ≠ 0 ∧
    (message.buf.get 0 = MsgType.linkChangeReq.code →
      message.requestedSettings.spreadingFactor < numSpreadingFactors ∧
        message.requestedSettings.signalBandwidth < numSignalBandwidths ∧
        message.requestedSettings.frequencyChannel < numFrequencyChannels)

instance (message : Message) : Decidable message.Readable :=
  inferInstanceAs (Decidable (_ ∧ (_ → _)))

end Message

/-! ## Steps of a run -/

/-- A message the step takes in, if it does, can be read inside the arrays. -/
def TakesReadable : NodeStep → Prop
  | ⟨node, .recvfromAckTimeout _ _, .message payload _ _ _ _⟩ =>
      (node.rxMsg.overwrite payload).Readable
  | _ => True

def AllInRange (trace : List NodeStep) : Prop := ∀ step ∈ trace, step.action.InRange

def AllReadable (trace : List NodeStep) : Prop := ∀ step ∈ trace, TakesReadable step

theorem AllInRange.append_iff {trace : List NodeStep} {step : NodeStep} :
    AllInRange (trace ++ [step]) ↔ AllInRange trace ∧ step.action.InRange := by
  simp only [AllInRange, List.forall_mem_append, List.forall_mem_singleton]

theorem AllReadable.append_iff {trace : List NodeStep} {step : NodeStep} :
    AllReadable (trace ++ [step]) ↔ AllReadable trace ∧ TakesReadable step := by
  simp only [AllReadable, List.forall_mem_append, List.forall_mem_singleton]

theorem takesReadable_of_silent {action : Action} (silent : action.receives = false)
    (node : LoraPoint2Point) (answer : action.Answer) : TakesReadable ⟨node, action, answer⟩ := by
  cases action with
  | recvfromAckTimeout => cases silent
  | _ => trivial

/-- Reads stay in range at every moment, as long as every message is readable. -/
def Bounded (trace : List NodeStep) : Prop := AllReadable trace → AllInRange trace

/-! ## Readable messages -/

/-- So far everything was in range, and `message` is in the receive buffer. -/
def Sound (message : Message) (trace : List NodeStep) (node : LoraPoint2Point) : Prop :=
  AllInRange trace ∧ AllReadable trace ∧ node.rxMsg = message

namespace Sound

variable {message : Message}

theorem overhears : Overhears Bounded (Sound message) where
  perform action silent inside := by
    rintro trace node ⟨inRange, readable, same⟩
    refine ⟨fun _ => inRange, fun answer _ => ?_⟩
    exact ⟨AllInRange.append_iff.2 ⟨inRange, inside⟩,
      AllReadable.append_iff.2 ⟨readable, takesReadable_of_silent silent node answer⟩, same⟩
  state _ _ _ same sound := ⟨sound.1, sound.2.1, same.trans sound.2.2⟩

theorem printSettings {settings : Settings}
    (spreadingFactor : settings.spreadingFactor < numSpreadingFactors)
    (signalBandwidth : settings.signalBandwidth < numSignalBandwidths)
    (frequencyChannel : settings.frequencyChannel < numFrequencyChannels) :
    Keeps (Contract.safety Bounded) (Sound message) (printSettings settings) := by
  have carries := (overhears : Overhears Bounded (Sound message)).ignores.carries
  refine (carries.lookup _ spreadingFactor).bind fun _ => ?_
  refine (carries.lookup _ signalBandwidth).bind fun _ => ?_
  exact (carries.lookup _ frequencyChannel).bind fun _ => Keeps.pure _

/-- A readable link change request looks its settings up inside the tables. -/
theorem dispatch (readable : message.Readable) :
    Keeps (Contract.safety Bounded) (Sound message) (dispatch message) := by
  have indifferent : Indifferent _ (Sound message) := overhears.ignores.indifferent
  refine indifferent.dispatch_of_request fun request => ?_
  obtain ⟨first, second, third⟩ := readable.2 request
  exact indifferent.serviceLinkChangeReq overhears.ignores.settles _
    (printSettings first second third)

/-- Handling a readable message reads in range throughout. -/
theorem handleMessage (readable : message.Readable) :
    Triple (Contract.safety Bounded) (Sound message) handleMessage fun _ trace _ =>
      AllInRange trace ∧ AllReadable trace := by
  have indifferent : Indifferent _ (Sound message) := overhears.ignores.indifferent
  have nonempty : 0 < message.bufLen := UInt8.pos_iff_ne_zero.2 readable.1
  have known : ∀ trace node, Sound message trace node → node.rxMsg = message :=
    fun _ _ sound => sound.2.2
  have reported := report_keeps (indifferent.carries.plain _ rfl)
    (indifferent.carries.plain _ rfl) (indifferent.carries.printBuffer _ nonempty)
  refine Triple.bind (withRxMsg_known known reported) fun _ => ?_
  refine Triple.bind (withRxMsg_known known (dispatch readable)) fun _ => ?_
  refine Triple.bind indifferent.trustRule fun _ => ?_
  exact Triple.update fun trace node sound => ⟨sound.1, sound.2.1⟩

end Sound

/-! ## Unreadable messages -/

/-- The unreadable message `message` has been taken in. -/
def Doomed (message : Message) (trace : List NodeStep) (node : LoraPoint2Point) : Prop :=
  ¬ AllReadable trace ∧ node.rxMsg = message

/-- An unreadable message was taken in, and something was read out of range. -/
def Lost (trace : List NodeStep) (_ : LoraPoint2Point) : Prop :=
  ¬ AllReadable trace ∧ ¬ AllInRange trace

namespace Lost

theorem perform (action : Action) : Keeps (Contract.safety Bounded) Lost (perform action) := by
  rintro trace node ⟨unreadable, outside⟩
  refine ⟨fun readable => absurd readable unreadable, fun answer _ => ?_⟩
  exact ⟨fun readable => unreadable (AllReadable.append_iff.1 readable).1,
    fun inRange => outside (AllInRange.append_iff.1 inRange).1⟩

theorem overhears : Overhears Bounded Lost where
  perform action _ _ := perform action
  state _ _ _ _ := id

theorem reads : ReadsAnywhere (Contract.safety Bounded) Lost :=
  fun _ _ _ => perform _

end Lost

namespace Doomed

variable {message : Message}

theorem perform (action : Action) :
    Keeps (Contract.safety Bounded) (Doomed message) (perform action) := by
  rintro trace node ⟨unreadable, same⟩
  refine ⟨fun readable => absurd readable unreadable, fun answer _ => ?_⟩
  exact ⟨fun readable => unreadable (AllReadable.append_iff.1 readable).1, same⟩

theorem overhears : Overhears Bounded (Doomed message) where
  perform action _ _ := perform action
  state _ _ _ same doomed := ⟨doomed.1, same.trans doomed.2⟩

theorem reads : ReadsAnywhere (Contract.safety Bounded) (Doomed message) :=
  fun _ _ _ => perform _

/-- A read out of range settles the matter. -/
theorem miss {array : ArrayName} {position size : Nat} (outside : ¬ position < size) :
    Triple (Contract.safety Bounded) (Doomed message) (Node.perform (.index array position size))
      fun _ => Lost := by
  rintro trace node ⟨unreadable, same⟩
  refine ⟨fun readable => absurd readable unreadable, fun answer _ => ?_⟩
  exact ⟨fun readable => unreadable (AllReadable.append_iff.1 readable).1,
    fun inRange => outside (AllInRange.append_iff.1 inRange).2⟩

theorem lookup_miss {α : Type} [Inhabited α] {array : ArrayName} {table : List α}
    {position : Nat} (outside : ¬ position < table.length) :
    Triple (Contract.safety Bounded) (Doomed message) (lookup array table position)
      fun _ => Lost :=
  Triple.bind (miss outside) fun _ => Keeps.pure _

/-- One of the three look-ups misses its table. -/
theorem printSettings {settings : Settings}
    (outside : ¬ (settings.spreadingFactor < numSpreadingFactors ∧
      settings.signalBandwidth < numSignalBandwidths ∧
      settings.frequencyChannel < numFrequencyChannels)) :
    Triple (Contract.safety Bounded) (Doomed message) (printSettings settings)
      fun _ => Lost := by
  by_cases first : settings.spreadingFactor < numSpreadingFactors
  · refine Triple.bind (reads.lookup _ _ _) fun _ => ?_
    by_cases second : settings.signalBandwidth < numSignalBandwidths
    · refine Triple.bind (reads.lookup _ _ _) fun _ => ?_
      have third : ¬ settings.frequencyChannel < numFrequencyChannels :=
        fun third => outside ⟨first, second, third⟩
      exact Triple.bind (lookup_miss third) fun _ => Keeps.pure _
    · refine Triple.bind (lookup_miss second) fun _ => ?_
      exact (Lost.reads.lookup _ _ _).bind fun _ => Keeps.pure _
  · refine Triple.bind (lookup_miss first) fun _ => ?_
    exact (Lost.reads.lookup _ _ _).bind fun _ => (Lost.reads.lookup _ _ _).bind fun _ =>
      Keeps.pure _

/-- The link change handler prints the settings before anything checks them. -/
theorem serviceLinkChangeReq (srcAddress : UInt8) {settings : Settings}
    (outside : ¬ (settings.spreadingFactor < numSpreadingFactors ∧
      settings.signalBandwidth < numSignalBandwidths ∧
      settings.frequencyChannel < numFrequencyChannels)) :
    Triple (Contract.safety Bounded) (Doomed message)
      (serviceLinkChangeReq srcAddress settings) fun _ => Lost := by
  have lost := Lost.overhears.ignores.indifferent
  refine serviceLinkChangeReq_triple (perform _) (printSettings outside)
    (Lost.overhears.ignores.settles.setAll settings) ?_ ?_ Lost.overhears.ignores.settles.setAll
    (Lost.perform _)
  · exact lost.carries.plain _ rfl
  · exact fun _ => lost.carries.sendtoWait _ _

/-- An empty message is printed from its absent first byte on. -/
theorem report (empty : message.bufLen = 0) :
    Triple (Contract.safety Bounded) (Doomed message) (report message) fun _ => Lost := by
  have outside : ¬ 0 < message.bufLen.toNat := by
    rw [empty]
    decide
  refine Triple.bind (perform _) fun _ => Triple.bind (perform _) fun _ => ?_
  refine Triple.bind (miss outside) fun _ => ?_
  split <;> exact Emits.printBufferAs (fun _ _ => Lost.reads _ _ _) _

theorem dispatch (request : message.buf.get 0 = MsgType.linkChangeReq.code)
    (outside : ¬ (message.requestedSettings.spreadingFactor < numSpreadingFactors ∧
      message.requestedSettings.signalBandwidth < numSignalBandwidths ∧
      message.requestedSettings.frequencyChannel < numFrequencyChannels)) :
    Triple (Contract.safety Bounded) (Doomed message) (dispatch message) fun _ => Lost := by
  unfold Node.dispatch
  rw [request, MsgType.ofCode?_code]
  exact serviceLinkChangeReq _ outside

/-- An unreadable message is empty or a request that misses a table. -/
theorem handleMessage (unreadable : ¬ message.Readable) :
    Triple (Contract.safety Bounded) (Doomed message) handleMessage fun _ => Lost := by
  have lost := Lost.overhears.ignores.indifferent
  have known : ∀ trace node, Doomed message trace node → node.rxMsg = message :=
    fun _ _ doomed => doomed.2
  have ending : Keeps (Contract.safety Bounded) Lost (do
      trustRule
      modify fun node => { node with rxMsg.bufLen := 128 }) :=
    lost.trustRule.bind fun _ => .update fun _ _ => id
  by_cases empty : message.bufLen = 0
  · refine Triple.bind (withRxMsg_known known (report empty)) fun _ => ?_
    refine Triple.bind (withRxMsg_keeps fun _ => ?_) fun _ => ending
    exact lost.dispatch Lost.overhears.ignores.settles (Lost.reads.printSettings _)
  · have request : message.buf.get 0 = MsgType.linkChangeReq.code := by
      by_contra other
      exact unreadable ⟨empty, fun type => absurd type other⟩
    have outside := fun inside => unreadable ⟨empty, fun _ => inside⟩
    have reported : Keeps (Contract.safety Bounded) (Doomed message) (withRxMsg Node.report) :=
      withRxMsg_keeps fun _ => report_keeps (overhears.ignores.carries.plain _ rfl)
        (overhears.ignores.carries.plain _ rfl) (reads.printBuffer _ _)
    refine Triple.bind reported fun _ => ?_
    refine Triple.bind (withRxMsg_known known (dispatch request outside)) fun _ => ?_
    exact ending

end Doomed

/-! ## One service call -/

/-- The receive call decides between the two. -/
theorem recvfromAckTimeout_bounded (message : Message) :
    Triple (Contract.safety Bounded) (Sound message) recvfromAckTimeout
      fun received trace node =>
        if received then
          node.rxMsg.Readable ∧ Sound node.rxMsg trace node ∨
            ¬ node.rxMsg.Readable ∧ Doomed node.rxMsg trace node
        else AllInRange trace ∧ AllReadable trace := by
  rintro trace node ⟨inRange, readable, -⟩
  refine ⟨fun _ => inRange, fun reception _ => ?_⟩
  have still : AllInRange (trace ++
      [⟨node, .recvfromAckTimeout node.rxMsg.bufLen 200, reception⟩]) :=
    AllInRange.append_iff.2 ⟨inRange, trivial⟩
  cases reception with
  | nothing => exact ⟨still, AllReadable.append_iff.2 ⟨readable, trivial⟩⟩
  | filtered payload => exact ⟨still, AllReadable.append_iff.2 ⟨readable, trivial⟩⟩
  | message payload srcAddr destAddr msgId flags =>
      by_cases taken : (node.rxMsg.overwrite payload).Readable
      · exact .inl ⟨taken, still, AllReadable.append_iff.2 ⟨readable, taken⟩, rfl⟩
      · exact .inr ⟨taken, fun all => taken (AllReadable.append_iff.1 all).2, rfl⟩

theorem serviceRx_bounded (node : LoraPoint2Point) :
    (serviceRx node).Meets (Contract.safety Bounded)
      (fun trace _ _ => AllInRange trace ↔ AllReadable trace) [] := by
  have start : Sound node.rxMsg [] node :=
    ⟨fun _ member => absurd member List.not_mem_nil,
      fun _ member => absurd member List.not_mem_nil, rfl⟩
  have triple : Triple (Contract.safety Bounded) (Sound node.rxMsg) serviceRx
      fun _ trace _ => AllInRange trace ↔ AllReadable trace := by
    refine Triple.bind Sound.overhears.ignores.indifferent.serviceTimers fun _ => ?_
    refine Triple.bind (recvfromAckTimeout_bounded _) fun received => ?_
    cases received with
    | false => exact Triple.pure () fun trace node both => iff_of_true both.1 both.2
    | true =>
        rintro trace node (⟨readable, sound⟩ | ⟨unreadable, doomed⟩)
        · refine (Sound.handleMessage readable trace node sound).mono ?_
          exact fun trace node _ both => iff_of_true both.1 both.2
        · refine (Doomed.handleMessage unreadable trace node doomed).mono ?_
          exact fun trace node _ lost => iff_of_false lost.2 lost.1
  exact triple [] node start

/-- A service call reads inside its arrays exactly if the message it takes in,
if any, is readable.  A call that has not finished is covered by the first part. -/
theorem reads_in_range_iff (node : LoraPoint2Point) (trace : List NodeStep)
    (last : NodeRun Unit) (run : Resumption.Runs (serviceRx node) trace last) :
    ((∀ step ∈ trace, TakesReadable step) → ∀ step ∈ trace, step.action.InRange) ∧
      ∀ final, last = .done final () →
        ((∀ step ∈ trace, step.action.InRange) ↔ ∀ step ∈ trace, TakesReadable step) := by
  have meets := serviceRx_bounded node
  constructor
  · exact meets.always_safe run fun trace node _ both => both.2
  · rintro final rfl
    exact meets.finished run

/-- A fresh node that takes in one message during a service call. -/
def takingIn (payload : List UInt8) : List NodeStep × NodeRun Unit :=
  Resumption.drive (Surroundings.answer { receives := fun _ => .message payload 9 1 0 0 }) 0
    (serviceRx (Surroundings.run {} [] 1).2.state)

theorem takingIn_runs (payload : List UInt8) :
    Resumption.Runs (serviceRx (Surroundings.run {} [] 1).2.state) (takingIn payload).1
      (takingIn payload).2 :=
  Resumption.drive_runs _ _ _

theorem reads_in_range_iff_request :
    ¬ ∀ step ∈ (takingIn [3, 200, 0, 0, 2]).1, TakesReadable step := by
  intro readable
  have inRange := (reads_in_range_iff _ _ _ (takingIn_runs [3, 200, 0, 0, 2])).1 readable
  have lookup : 200 < spreadingFactorTable.length :=
    inRange ((takingIn [3, 200, 0, 0, 2]).1.get ⟨14, by decide⟩) (List.get_mem _ _)
  exact absurd lookup (by decide)

/-- A request for spreading factor 200 is looked up in a table of six. -/
theorem request_read_past_table :
    ¬ ∀ node, Reachable node → ∀ (trace : List NodeStep) (last : NodeRun Unit),
      Resumption.Runs (serviceRx node) trace last → (∀ step ∈ trace, frameFits step) →
        ∀ step ∈ trace, step.action.InRange := by
  intro always
  have reachable : Reachable (Surroundings.run {} [] 1).2.state :=
    ⟨1, [], _, Surroundings.run_runs {} [] 1⟩
  have inRange := always _ reachable _ _ (takingIn_runs [3, 200, 0, 0, 2]) (by decide)
  have lookup : 200 < spreadingFactorTable.length :=
    inRange ((takingIn [3, 200, 0, 0, 2]).1.get ⟨14, by decide⟩) (List.get_mem _ _)
  exact absurd lookup (by decide)

end Roam.Node
