import Roam.Node.Episodes

/-!
# What the user is told

The user of a node is called back for every transmission but those of a link
change, with its outcome, and for every message taken in; for nothing else, never
twice, and in the order in which things happen.  At any moment at most one
transmission and one message wait to be told.
-/

namespace Roam.Node

open Roam.Interaction

/-! ## Reports -/

/-- The frame is a part of a link change. -/
def ChangesLink (payload : List UInt8) : Prop :=
  payload.head? = some MsgType.linkChangeReq.code ∨ payload.head? = some MsgType.linkChangeRsp.code

instance (payload : List UInt8) : Decidable (ChangesLink payload) :=
  inferInstanceAs (Decidable (_ ∨ _))

/-- A transmission as the user hears of it: the frame, where it went, and whether
it was acknowledged. -/
abbrev Report : Type := List UInt8 × UInt8 × Bool

/-- The transmission made at a step, if the user is to hear of it. -/
def transmitted : NodeStep → Option Report
  | ⟨_, .sendtoWait payload destAddress, acknowleged⟩ =>
      if ChangesLink payload then none
      else some (payload, destAddress, acknowleged && destAddress ≠ broadcastAddress)
  | _ => none

/-- The transmission the user hears of at a step. -/
def indicated : NodeStep → Option Report
  | ⟨_, .txInd payload destAddr ack, _⟩ => some (payload, destAddr, ack)
  | _ => none

/-- The message taken in at a step, as it lies in the receive buffer. -/
def takenIn : NodeStep → Option Message
  | ⟨node, .recvfromAckTimeout _ _, .message payload srcAddr destAddr msgId flags⟩ =>
      some (node.rxMsg.afterReception (.message payload srcAddr destAddr msgId flags))
  | _ => none

/-- The message the user hears of at a step. -/
def heardOf : NodeStep → Option Message
  | ⟨_, .rxInd rxMsg, _⟩ => some rxMsg
  | _ => none

namespace Sign

def transmission : Sign → Option Report
  | .sent _ payload destAddress acknowleged =>
      if ChangesLink payload then none
      else some (payload, destAddress, acknowleged && destAddress ≠ broadcastAddress)
  | _ => none

def indication : Sign → Option Report
  | .txInd payload destAddr ack => some (payload, destAddr, ack)
  | _ => none

def reception : Sign → Option Message
  | .took message => some message
  | _ => none

def notice : Sign → Option Message
  | .rxInd rxMsg => some rxMsg
  | _ => none

end Sign

/-- What is read off the signs of each step is read off the signs of the run. -/
theorem filterMap_signs {Read : Type} {ofSign : Sign → Option Read} {ofStep : NodeStep → Option Read}
    (agree : ∀ step, (signOf step).filterMap ofSign = (ofStep step).toList)
    (trace : List NodeStep) :
    (trace.flatMap signOf).filterMap ofSign = trace.filterMap ofStep := by
  induction trace with
  | nil => rfl
  | cons step trace ih =>
      rw [List.flatMap_cons, List.filterMap_append, agree, ih, List.filterMap_cons]
      cases ofStep step <;> rfl

theorem signOf_transmission (step : NodeStep) :
    (signOf step).filterMap Sign.transmission = (transmitted step).toList := by
  obtain ⟨node, action, answer⟩ := step
  cases action with
  | sendtoWait payload destAddress =>
      show List.filterMap _ [_] = _
      rw [List.filterMap_cons, transmitted, Sign.transmission]
      split <;> split <;> simp_all
  | millis =>
      show List.filterMap _ (if _ then _ else _) = []
      split <;> rfl
  | recvfromAckTimeout capacity timeout => cases (answer : Reception) <;> rfl
  | _ => rfl

theorem signOf_reports (step : NodeStep) :
    (signOf step).filterMap Sign.indication = (indicated step).toList ∧
      (signOf step).filterMap Sign.reception = (takenIn step).toList ∧
        (signOf step).filterMap Sign.notice = (heardOf step).toList := by
  obtain ⟨node, action, answer⟩ := step
  cases action with
  | millis =>
      unfold signOf
      dsimp only
      split <;> exact ⟨rfl, rfl, rfl⟩
  | recvfromAckTimeout capacity timeout =>
      cases (answer : Reception) <;> exact ⟨rfl, rfl, rfl⟩
  | _ => exact ⟨rfl, rfl, rfl⟩

/-! ## An episode at a time -/

/-- What the signs tell of is what has happened, up to one thing still to be told. -/
def Tells {Read : Type} (happened told : Sign → Option Read) (history : List Sign) : Prop :=
  ∃ owed, history.filterMap happened = history.filterMap told ++ owed ∧ owed.length ≤ 1

theorem Tells.of_eq {Read : Type} {happened told : Sign → Option Read} {history : List Sign}
    (same : history.filterMap happened = history.filterMap told) :
    Tells happened told history :=
  ⟨[], by rw [same, List.append_nil], Nat.zero_le 1⟩

/-- Nothing is told of the beginning of something of which there is one thing to tell. -/
theorem Tells.of_early {Read : Type} {happened told : Sign → Option Read}
    {early history : List Sign} (within : early <+: history)
    (one : (history.filterMap happened).length ≤ 1) (silent : history.filterMap told = []) :
    Tells happened told early := by
  have untold : early.filterMap told = [] :=
    List.prefix_nil.1 (silent ▸ within.filterMap told)
  refine ⟨early.filterMap happened, by rw [untold, List.nil_append], ?_⟩
  exact Nat.le_trans (within.filterMap happened).length_le one

theorem Tells.behind {Read : Type} {happened told : Sign → Option Read}
    {early history : List Sign} (tells : Tells happened told history)
    (even : early.filterMap happened = early.filterMap told) :
    Tells happened told (early ++ history) := by
  obtain ⟨owed, same, short⟩ := tells
  refine ⟨owed, ?_, short⟩
  rw [List.filterMap_append, List.filterMap_append, same, even, List.append_assoc]

/-- What begins a sequence of two parts is the beginning of the first, or it reaches
into the second. -/
theorem Tells.of_append {Read : Type} {happened told : Sign → Option Read}
    {first second part : List Sign} (within : part <+: first ++ second)
    (early : ∀ start, start <+: first → Tells happened told start)
    (even : first.filterMap happened = first.filterMap told)
    (late : ∀ start, start <+: second → Tells happened told start) :
    Tells happened told part := by
  rcases List.prefix_or_prefix_of_prefix within (List.prefix_append _ _) with inside | behind
  · exact early part inside
  · obtain ⟨rest, rfl⟩ := behind
    exact (late rest ((List.prefix_append_right_inj first).1 within)).behind even

/-- There is nothing to tell. -/
theorem Tells.of_silent {Read : Type} {happened told : Sign → Option Read}
    {history : List Sign} (calm : history.filterMap happened = [])
    (silent : history.filterMap told = []) (start : List Sign) (within : start <+: history) :
    Tells happened told start :=
  .of_early within (by rw [calm]; exact Nat.zero_le 1) silent

namespace Transmission

variable {transmission : Transmission}

theorem told (quiet : ¬ ChangesLink transmission.payload) :
    transmission.signs.filterMap Sign.transmission =
      transmission.signs.filterMap Sign.indication := by
  unfold signs
  split <;>
    simp [Sign.transmission, Sign.indication, quiet, ack, List.filterMap_cons]

/-- Before the user is told, the transmission is all there is to tell. -/
theorem tells (quiet : ¬ ChangesLink transmission.payload) {part : List Sign}
    (within : part <+: transmission.signs) :
    Tells Sign.transmission Sign.indication part := by
  rw [← Episodic.begun_append] at within
  rcases List.prefix_concat_iff.1 within with rfl | early
  · exact .of_eq (told quiet)
  · refine .of_early early ?_ ?_
    · unfold Episodic.begun
      split <;> simp [Sign.transmission, quiet, List.filterMap_cons]
    · unfold Episodic.begun
      split <;> rfl

end Transmission

namespace Episode

variable {address : UInt8}

/-- A frame of the application or a heartbeat does not change the link. -/
theorem quiet_of_free {payload : List UInt8} (free : Free payload) : ¬ ChangesLink payload := by
  obtain ⟨byte, first, other⟩ := free
  rintro (request | response)
  · exact other (.inl (Option.some.inj (first.symm.trans request)))
  · exact other (.inr (.inl (Option.some.inj (first.symm.trans response))))

theorem broadcast_quiet (settings : Settings) (acknowleged : Bool) (snr : Int) :
    ¬ ChangesLink (broadcast address settings acknowleged snr).payload := by
  rintro (same | same) <;> exact absurd (Option.some.inj same) (by decide)

theorem response_quiet (srcAddr : UInt8) (settings : Settings) (acknowleged : Bool) (snr : Int) :
    ¬ ChangesLink (response address srcAddr settings acknowleged snr).payload := by
  rintro (same | same) <;> exact absurd (Option.some.inj same) (by decide)

/-- Behind a complete episode the user knows of its transmission. -/
theorem transmission_even (episode : Episode address) :
    episode.signs.filterMap Sign.transmission = episode.signs.filterMap Sign.indication := by
  cases episode with
  | data transmission free => exact Transmission.told (quiet_of_free free)
  | heartbeat settings acknowleged snr =>
      exact Transmission.told (broadcast_quiet settings acknowleged snr)
  | linkChangeReq current requested destAddress acknowleged => rfl
  | notice message snr undemanding => rfl
  | linkChangeRsp message snr request current acknowleged => rfl
  | heartbeatRsp message snr request settings acknowleged rspSnr =>
      exact Transmission.told (response_quiet message.srcAddr settings acknowleged rspSnr)

/-- In the middle of an episode at most its transmission is still to be told. -/
theorem transmission_told (episode : Episode address) {part : List Sign} (within : part <+: episode.signs) :
    Tells Sign.transmission Sign.indication part := by
  cases episode with
  | data transmission free => exact Transmission.tells (quiet_of_free free) within
  | heartbeat settings acknowleged snr =>
      have split : part <+: [.heartbeatDue] ++ (broadcast address settings acknowleged snr).signs :=
        within
      refine Tells.of_append split (Tells.of_silent rfl rfl) rfl fun start inside => ?_
      exact Transmission.tells (broadcast_quiet settings acknowleged snr) inside
  | linkChangeReq current requested destAddress acknowleged =>
      exact Tells.of_silent rfl rfl part within
  | notice message snr undemanding => exact Tells.of_silent rfl rfl part within
  | linkChangeRsp message snr request current acknowleged =>
      exact Tells.of_silent rfl rfl part within
  | heartbeatRsp message snr request settings acknowleged rspSnr =>
      refine Tells.of_append within (Tells.of_silent rfl rfl) rfl fun start inside => ?_
      exact Transmission.tells (response_quiet message.srcAddr settings acknowleged rspSnr) inside

/-- A transmission has nothing to do with what is taken in. -/
theorem unreceived (transmission : Transmission) :
    transmission.signs.filterMap Sign.reception = [] ∧
      transmission.signs.filterMap Sign.notice = [] := by
  unfold Transmission.signs
  constructor <;> split <;> rfl

theorem taking_told (message : Message) (snr : Int) {part : List Sign}
    (within : part <+: taking message snr) : Tells Sign.reception Sign.notice part := by
  unfold taking at within
  rcases List.prefix_cons_iff.1 within with rfl | ⟨second, rfl, behind⟩
  · exact .of_eq rfl
  rcases List.prefix_cons_iff.1 behind with rfl | ⟨third, rfl, last⟩
  · exact .of_early List.prefix_rfl (Nat.le_refl 1) rfl
  rcases List.prefix_cons_iff.1 last with rfl | ⟨rest, rfl, nothing⟩
  · exact .of_eq rfl
  · cases List.prefix_nil.1 nothing
    exact .of_eq rfl

/-- Behind a complete episode the user knows of its message. -/
theorem reception_even (episode : Episode address) :
    episode.signs.filterMap Sign.reception = episode.signs.filterMap Sign.notice := by
  have sends (transmission : Transmission) : transmission.signs.filterMap Sign.reception =
      transmission.signs.filterMap Sign.notice := by
    rw [(unreceived transmission).1, (unreceived transmission).2]
  cases episode with
  | data transmission free => exact sends transmission
  | heartbeat settings acknowleged snr => exact sends _
  | linkChangeReq current requested destAddress acknowleged => rfl
  | notice message snr undemanding => rfl
  | linkChangeRsp message snr request current acknowleged => rfl
  | heartbeatRsp message snr request settings acknowleged rspSnr =>
      exact congrArg (message :: ·) (sends _)

/-- In the middle of an episode at most its message is still to be told. -/
theorem reception_told (episode : Episode address) {part : List Sign} (within : part <+: episode.signs) :
    Tells Sign.reception Sign.notice part := by
  have sends (transmission : Transmission) {start : List Sign}
      (inside : start <+: transmission.signs) : Tells Sign.reception Sign.notice start :=
    Tells.of_silent (unreceived transmission).1 (unreceived transmission).2 start inside
  cases episode with
  | data transmission free => exact sends transmission within
  | heartbeat settings acknowleged snr =>
      have split : part <+: [.heartbeatDue] ++ (broadcast address settings acknowleged snr).signs :=
        within
      exact Tells.of_append split (Tells.of_silent rfl rfl) rfl fun _ => sends _
  | linkChangeReq current requested destAddress acknowleged =>
      exact Tells.of_silent rfl rfl part within
  | notice message snr undemanding => exact taking_told message snr within
  | linkChangeRsp message snr request current acknowleged =>
      exact Tells.of_append within (fun _ => taking_told message snr) rfl (Tells.of_silent rfl rfl)
  | heartbeatRsp message snr request settings acknowleged rspSnr =>
      exact Tells.of_append within (fun _ => taking_told message snr) rfl fun _ => sends _

end Episode

/-! ## Whole runs -/

/-- What holds of every episode, cut or complete, holds of a run. -/
theorem Tells.of_opens {address : UInt8} {Read : Type} {happened told : Sign → Option Read}
    (even : ∀ episode : Episode address, episode.signs.filterMap happened = episode.signs.filterMap told)
    (cut : ∀ (episode : Episode address) part, part <+: episode.signs → Tells happened told part)
    {history : List Sign} (opens : (episodic address).Opens history) :
    Tells happened told history := by
  obtain ⟨complete, part, rfl, early⟩ := opens.split
  have whole : ((episodic address).shown complete).filterMap happened =
      ((episodic address).shown complete).filterMap told := by
    unfold Phases.shown
    rw [List.filterMap_flatMap, List.filterMap_flatMap]
    exact congrArg complete.flatMap (funext even)
  refine Tells.behind ?_ whole
  rcases early with rfl | ⟨episode, within⟩
  · exact .of_eq rfl
  · exact cut episode part within

/-- What a program that proceeds in episodes has told its user, wherever a run stops. -/
theorem reports_of_runs {address : UInt8} {Value : Type} {program : NodeM Value}
    (keeps : Keeps (episodic address).contract (Episodic.Rests address) program)
    {trace : List NodeStep} {last : NodeRun Value}
    (run : Resumption.Runs (program (LoraPoint2Point.initial address)) trace last) :
    (∃ owed, trace.filterMap transmitted = trace.filterMap indicated ++ owed ∧
      owed.length ≤ 1) ∧
    (∃ owed, trace.filterMap takenIn = trace.filterMap heardOf ++ owed ∧ owed.length ≤ 1) ∧
    ∀ node value, last = .done node value →
      trace.filterMap transmitted = trace.filterMap indicated ∧
        trace.filterMap takenIn = trace.filterMap heardOf := by
  obtain ⟨opens, whole⟩ := Phases.runs keeps Episodic.Bears.initial run
  have transmissions := filterMap_signs signOf_transmission trace
  have indications := filterMap_signs (fun step => (signOf_reports step).1) trace
  have receptions := filterMap_signs (fun step => (signOf_reports step).2.1) trace
  have notices := filterMap_signs (fun step => (signOf_reports step).2.2) trace
  rw [← transmissions, ← indications, ← receptions, ← notices]
  refine ⟨?_, ?_, fun node value finished => ?_⟩
  · exact Tells.of_opens Episode.transmission_even (fun episode _ => episode.transmission_told) opens
  · exact Tells.of_opens Episode.reception_even (fun episode _ => episode.reception_told) opens
  · obtain ⟨episodes, seen, _⟩ := whole node value finished
    change trace.flatMap signOf = episodes.flatMap Episode.signs at seen
    rw [seen]
    constructor
    · rw [List.filterMap_flatMap, List.filterMap_flatMap]
      exact congrArg episodes.flatMap (funext Episode.transmission_even)
    · rw [List.filterMap_flatMap, List.filterMap_flatMap]
      exact congrArg episodes.flatMap (funext Episode.reception_even)

/-- As long as the application sends no frames that look like parts of the protocol, `txInd`
tells the user of every transmission but those of a link change, and `rxInd` of every message
taken in, of each once, in their order and with their outcome: at any moment at most one of
each is still to be told, and none between two calls. -/
theorem user_hears_everything (thisAddress : UInt8) (operations : List Operation)
    (plain : ∀ operation ∈ operations, ∀ payload ∈ operation.payloads, Free payload)
    {trace : List NodeStep} {last : NodeRun Bool}
    (run : Resumption.Runs (session operations (LoraPoint2Point.initial thisAddress)) trace last) :
    (∃ owed, trace.filterMap transmitted = trace.filterMap indicated ++ owed ∧
      owed.length ≤ 1) ∧
    (∃ owed, trace.filterMap takenIn = trace.filterMap heardOf ++ owed ∧ owed.length ≤ 1) ∧
    ∀ node ok, last = .done node ok →
      trace.filterMap transmitted = trace.filterMap indicated ∧
        trace.filterMap takenIn = trace.filterMap heardOf :=
  reports_of_runs (Episodic.session plain) run

/-- The user hears of the message and of the response to the heartbeat. -/
theorem user_hears_everything_answering :
    ∃ owed, (heartbeatArrives.run sendThenReceive 1).1.filterMap transmitted =
      (heartbeatArrives.run sendThenReceive 1).1.filterMap indicated ++ owed ∧ owed.length ≤ 1 :=
  (user_hears_everything 1 _ sendThenReceive_plain (Surroundings.run_runs _ _ _)).1

end Roam.Node
