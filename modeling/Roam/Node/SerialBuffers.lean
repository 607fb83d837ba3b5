import Roam.Node.TypedLines
import Roam.Node.Walk

/-!
# The two serial buffers

A command stops growing when its buffer is full; a text does not.  Typed text
stays inside its buffer exactly as long as no more than 127 of its characters
come between two transmissions.
-/

namespace Roam.Node

open Roam.Interaction

/-! ## What is fed in -/

/-- A character from the serial port, or the call that sends the text. -/
inductive SerialInput where
  | typed (inputChar : UInt8)
  | serviceTx (destAddress : UInt8)
  deriving DecidableEq, Repr

def SerialInput.run : SerialInput → NodeM Unit
  | .typed inputChar => discard (buildStringFromSerialInner inputChar)
  | .serviceTx destAddress => Node.serviceTx destAddress

theorem SerialInput.typed_run (inputChar : UInt8) (node : LoraPoint2Point) :
    (SerialInput.typed inputChar).run node =
      (buildStringFromSerialInner inputChar node).bind fun later _ => .done later () := rfl

/-- In command mode, and behind a `'!'`, every character belongs to the command. -/
theorem buildStringFromSerialInner_command {inputChar : UInt8} {node : LoraPoint2Point}
    (command : node.serialCommandMode = true ∨ inputChar = exclamation) :
    buildStringFromSerialInner inputChar node =
      (commandCharacter inputChar { node with serialCommandMode := true }).bind
        fun later _ => .done later 0 := by
  by_cases opens : inputChar = exclamation
  · simp [buildStringFromSerialInner, whenever, opens]
  · have mode : node.serialCommandMode = true := command.resolve_right opens
    have same : { node with serialCommandMode := true } = node := by rw [← mode]
    rw [same]
    simp [buildStringFromSerialInner, whenever, opens, mode]

/-- The listed inputs, one after the other. -/
def feed (inputs : List SerialInput) : NodeM Unit := inputs.forM SerialInput.run

theorem feed_append (first second : List SerialInput) :
    feed (first ++ second) = feed first >>= fun _ => feed second :=
  List.forM_append

/-- What a reader of the input alone knows of the typist. -/
structure Typist where
  commandMode : Bool := false
  /-- Characters left in the text since it was last sent. -/
  text : Nat := 0
  deriving DecidableEq, Repr

def Typist.on (typist : Typist) : SerialInput → Typist
  | .typed inputChar =>
      if typist.commandMode ∨ inputChar = exclamation then
        { typist with commandMode := inputChar ≠ lineFeed }
      else { typist with text := typist.text + (textFormat.left [inputChar]).length }
  | .serviceTx _ => { typist with text := 0 }

/-- The text never grows beyond 127 characters. -/
def Roomy : Typist → List SerialInput → Prop
  | _, [] => True
  | typist, input :: inputs => (typist.on input).text ≤ 127 ∧ Roomy (typist.on input) inputs

instance decidableRoomy : ∀ typist inputs, Decidable (Roomy typist inputs)
  | _, [] => isTrue trivial
  | typist, input :: inputs =>
      have := decidableRoomy (typist.on input) inputs
      inferInstanceAs (Decidable (_ ∧ _))

/-! ## What is to be kept inside -/

/-- Writing a byte to one of the two buffers is the access that is offered all of
its 128 cells. -/
def Action.WritesInside : Action → Prop
  | .index .txMsgBuf position size => size = maxMessageLen → position < maxMessageLen
  | .index .serialCmdBuf position size => size = maxMessageLen → position < maxMessageLen
  | _ => True

/-- The lengths of the two messages are no longer than their buffers. -/
def HoldsLengths (node : LoraPoint2Point) : Prop :=
  node.txMsg.bufLen.toNat ≤ maxMessageLen ∧ node.serialCmd.bufLen.toNat ≤ maxMessageLen

/-- Wherever it is stopped, the program has written inside the two buffers. -/
def StaysInside {Value : Type} (current : NodeRun Value) : Prop :=
  ∀ trace last, Resumption.Runs current trace last →
    (∀ step ∈ trace, step.action.WritesInside ∧ HoldsLengths step.state) ∧
      (∀ action ∈ last.awaits, action.WritesInside) ∧ HoldsLengths last.state

/-- The driver call that can fail. -/
def Action.Succeeds : (action : Action) → action.Answer → Prop
  | .rf95SetFrequency _, ok => ok = true
  | _, _ => True

/-- Everything is written inside.  Where the drivers succeed, the program also never
halts. -/
def inside (driversSucceed : Prop) : Contract LoraPoint2Point Action Action.Answer Unit where
  require _ node action :=
    action.WritesInside ∧ HoldsLengths node ∧ (driversSucceed → action ≠ .halt)
  allow _ _ action answer := driversSucceed → action.Succeeds answer
  record _ _ _ _ := ()

theorem inside_allows (trace : List NodeStep) : (inside False).Allows () trace := by
  induction trace with
  | nil => trivial
  | cons step trace ih => exact ⟨nofun, ih⟩

/-- A program that keeps the contract whatever the drivers answer stays inside. -/
theorem staysInside_of_meets {Value : Type} {good : Unit → LoraPoint2Point → Value → Prop}
    {current : NodeRun Value} (meets : current.Meets (inside False) good ())
    (ended : ∀ node value, good () node value → HoldsLengths node) : StaysInside current := by
  intro trace last run
  have free := inside_allows trace
  have reached := meets.runs run free
  refine ⟨?_, ?_⟩
  · intro step member
    obtain ⟨before, later, rfl⟩ := List.append_of_mem member
    have required := meets.required run free
    exact ⟨required.1, required.2.1⟩
  · cases last with
    | done node value => exact ⟨nofun, ended node value reached⟩
    | ask node action resume =>
        refine ⟨?_, reached.1.2.1⟩
        rintro _ ⟨⟩
        exact reached.1.1

/-! ## The invariant -/

/-- The outgoing message holds the text behind its type byte, or nothing yet. -/
def HasTyped (text : Nat) (txMsg : Message) : Prop :=
  txMsg.bufLen.toNat = 0 ∧ text = 0 ∨ txMsg.bufLen.toNat = text + 1

/-- The node has taken in what the typist has typed. -/
def Fills (typist : Typist) (_ : Unit) (node : LoraPoint2Point) : Prop :=
  node.serialCommandMode = typist.commandMode ∧ HasTyped typist.text node.txMsg ∧
    typist.text ≤ 127 ∧ node.serialCmd.bufLen.toNat ≤ maxMessageLen

namespace Fills

variable {driversSucceed : Prop} {typist : Typist}

theorem holdsLengths {node : LoraPoint2Point} (fills : Fills typist () node) :
    HoldsLengths node := by
  obtain ⟨_, typed, few, command⟩ := fills
  have limit : maxMessageLen = 128 := rfl
  refine ⟨?_, command⟩
  rcases typed with ⟨empty, _⟩ | length <;> omega

/-- An action that writes inside and does not halt. -/
theorem perform {action : Action} (writes : action.WritesInside) (running : action ≠ .halt) :
    Keeps (inside driversSucceed) (Fills typist) (perform action) := by
  intro _ node fills
  refine ⟨⟨writes, fills.holdsLengths, fun _ => running⟩, fun _ _ => fills⟩

theorem index (array : ArrayName) {position size : Nat} (inRange : position < size) :
    Keeps (inside driversSucceed) (Fills typist) (Node.perform (.index array position size)) := by
  apply perform
  · cases array <;> first | trivial | exact fun whole => whole ▸ inRange
  · nofun

theorem carries : Carries (inside driversSucceed) (Fills typist) where
  plain action plain := by
    apply perform
    · cases action <;> trivial
    · rintro rfl
      cases plain
  index array _ _ inRange := index array inRange
  sendtoWait _ _ := perform trivial nofun
  statistics _ _ _ := id
  ackSnr _ _ _ := id
  heartbeatTimer _ _ _ := id

theorem settles : Settles (inside driversSucceed) (Fills typist) := by
  have tunable : Tunable (inside driversSucceed) (Fills typist) := {
    index := carries.index
    tunes := by
      intro action tunes
      apply perform
      · cases action <;> trivial
      · rintro rfl
        cases tunes
    setFrequency := by
      intro tenthMegahertz _ node fills
      refine ⟨⟨trivial, fills.holdsLengths, nofun⟩, fun ok allowed => ⟨fills, ?_⟩⟩
      rintro rfl
      exact ⟨trivial, fills.holdsLengths, fun succeed => absurd (allowed succeed) nofun⟩
    reset := fun _ _ => id }
  exact tunable.toAdjusts.settles fun _ _ _ _ => id

/-! ## Command mode -/

/-- A command grows only while there is room for it. -/
theorem pushSerialCmd {inputChar : UInt8} :
    Triple (inside driversSucceed)
      (fun _ node => Fills typist () node ∧ node.serialCmd.bufLen.toNat < maxMessageLen)
      (pushSerialCmd inputChar) fun _ => Fills typist := by
  rintro _ node ⟨fills, room⟩
  refine ⟨⟨fun _ => room, fills.holdsLengths, nofun⟩, fun _ _ => ?_⟩
  obtain ⟨mode, typed, few, _⟩ := fills
  obtain ⟨_, longer⟩ := Message.push_of_room inputChar room
  exact ⟨mode, typed, few, longer ▸ room⟩

theorem commandCharacter (typist : Typist) (inputChar : UInt8) :
    Triple (inside driversSucceed) (Fills { typist with commandMode := true })
      (commandCharacter inputChar) fun _ =>
        Fills { typist with commandMode := inputChar ≠ lineFeed } := by
  have grown : Triple (inside driversSucceed) (Fills { typist with commandMode := true })
      (get >>= fun node => whenever (inputChar ≠ lineFeed ∧ inputChar ≠ carriageReturn ∧
        inputChar ≠ exclamation ∧ node.serialCmd.bufLen.toNat < maxMessageLen)
          (Node.pushSerialCmd inputChar))
      fun _ => Fills { typist with commandMode := true } := by
    refine Triple.get_bind fun known => Triple.ite (fun grows => ?_) fun _ => ?_
    · apply pushSerialCmd.pre
      rintro _ node ⟨fills, rfl⟩
      exact ⟨fills, (of_decide_eq_true grows).2.2.2⟩
    · exact Triple.pure () fun _ _ => And.left
  apply Triple.bind grown
  intro _
  apply Triple.ite
  · intro ends
    have run : Keeps (inside driversSucceed) (Fills { typist with commandMode := true })
        runSerialCmd := Types.runSerialCmd settles
    refine Triple.bind run fun _ => Triple.update ?_
    rintro _ node ⟨_, typed, few, _⟩
    refine ⟨?_, typed, few, Nat.zero_le _⟩
    exact (decide_eq_false (not_not.2 (of_decide_eq_true ends))).symm
  · intro goes
    have same : decide (inputChar ≠ lineFeed) = true :=
      decide_eq_true fun ends => goes (decide_eq_true ends)
    rw [same]
    exact Keeps.pure ()

/-! ## Text mode -/

/-- The outgoing message holds its type byte and the text. -/
def Opened (typist : Typist) (_ : Unit) (node : LoraPoint2Point) : Prop :=
  Fills typist () node ∧ node.txMsg.bufLen.toNat = typist.text + 1

theorem opens (known : LoraPoint2Point) :
    Triple (inside driversSucceed) (fun _ node => Fills typist () node ∧ node = known)
      (whenever (known.txMsg.bufLen = 0) (pushTxMsg MsgType.dataReq.code))
      fun _ => Opened typist := by
  refine Triple.ite (fun fresh => ?_) fun started => ?_
  · rintro _ node ⟨fills, rfl⟩
    have empty : node.txMsg.bufLen = 0 := of_decide_eq_true fresh
    have room : node.txMsg.bufLen.toNat < maxMessageLen := by
      rw [empty]
      decide
    refine ⟨⟨fun _ => room, fills.holdsLengths, nofun⟩, fun _ _ => ?_⟩
    obtain ⟨mode, typed, few, command⟩ := fills
    obtain ⟨_, longer⟩ := Message.push_of_room MsgType.dataReq.code room
    have nothing : typist.text = 0 := by
      rcases typed with ⟨_, none⟩ | length
      · exact none
      · rw [empty] at length
        cases length
    have length : (node.txMsg.push MsgType.dataReq.code).bufLen.toNat = typist.text + 1 := by
      rw [longer, empty, nothing]
      rfl
    exact ⟨⟨mode, Or.inr length, few, command⟩, length⟩
  · rintro _ node ⟨fills, rfl⟩
    have length : node.txMsg.bufLen.toNat = typist.text + 1 := by
      rcases fills.2.1 with ⟨empty, _⟩ | length
      · exact absurd (decide_eq_true (UInt8.toNat_inj.1 empty)) started
      · exact length
    exact ⟨fills, length⟩

/-- One more character of text, if there is room for it. -/
theorem pushTxMsg (byte : UInt8) (few : typist.text + 1 ≤ 127) :
    Triple (inside driversSucceed) (Opened typist) (pushTxMsg byte) fun _ =>
      Fills { typist with text := typist.text + 1 } := by
  rintro _ node ⟨fills, length⟩
  have room : node.txMsg.bufLen.toNat < maxMessageLen := by
    have limit : maxMessageLen = 128 := rfl
    omega
  refine ⟨⟨fun _ => room, fills.holdsLengths, nofun⟩, fun _ _ => ?_⟩
  obtain ⟨_, longer⟩ := Message.push_of_room byte room
  exact ⟨fills.1, Or.inr (by rw [longer, length]), few, fills.2.2.2⟩

theorem textByte {inputChar : UInt8} (goesOn : textFormat.ends inputChar = false)
    (few : typist.text + (textFormat.left [inputChar]).length ≤ 127) :
    Triple (inside driversSucceed) (Opened typist) (textByte inputChar) fun _ =>
      Fills { typist with text := typist.text + (textFormat.left [inputChar]).length } := by
  have kept : textFormat.left [inputChar] = (textFormat.keep inputChar).toList := by
    simp [Data.LineFormat.left, goesOn]
  rw [kept] at few ⊢
  unfold Node.textByte
  revert few
  unfold textFormat
  dsimp only
  split
  · exact pushTxMsg _
  · split
    · exact fun _ => Triple.pure () fun _ _ => And.left
    · split
      · exact pushTxMsg _
      · exact pushTxMsg _

theorem textCharacter {inputChar : UInt8}
    (few : typist.text + (textFormat.left [inputChar]).length ≤ 127) :
    Triple (inside driversSucceed) (Fills typist) (textCharacter inputChar) fun _ =>
      Fills { typist with text := typist.text + (textFormat.left [inputChar]).length } := by
  refine Triple.get_bind fun known => (opens known).bind fun _ => ?_
  refine Triple.ite (fun ends => ?_) fun goesOn => ?_
  · have nothing : textFormat.left [inputChar] = [] := by
      have ended : textFormat.ends inputChar = true := decide_eq_true ends
      simp [Data.LineFormat.left, ended]
    rw [nothing]
    exact Triple.pure 1 fun _ _ => And.left
  · exact (textByte (decide_eq_false goesOn) few).bind fun _ => Keeps.pure 0

/-! ## Every input -/

/-- The node takes one input in as the typist meant it. -/
theorem input {input : SerialInput} (few : (typist.on input).text ≤ 127) :
    Triple (inside driversSucceed) (Fills typist) input.run fun _ => Fills (typist.on input) := by
  cases input with
  | serviceTx destAddress =>
      refine Triple.get_bind fun known => Triple.pre ?_ fun _ _ => And.left
      have sent : Keeps (inside driversSucceed) (Fills typist) (serviceTxSpan destAddress
          ⟨.txMsgBuf, known.txMsg.buf.cells⟩ known.txMsg.bufLen true) :=
        carries.toEmits.serviceTxSpan _ _ _ _ fun _ => trivial
      refine Triple.bind sent fun _ => Triple.update ?_
      rintro _ node ⟨mode, _, _, command⟩
      exact ⟨mode, Or.inl ⟨rfl, rfl⟩, Nat.zero_le _, command⟩
  | typed inputChar =>
      rintro _ node fills
      by_cases command : typist.commandMode = true ∨ inputChar = exclamation
      · have opened : node.serialCommandMode = true ∨ inputChar = exclamation :=
          command.imp_left fills.1.trans
        have start : Fills { typist with commandMode := true } ()
            { node with serialCommandMode := true } := ⟨rfl, fills.2⟩
        rw [Typist.on, if_pos command]
        refine Resumption.Meets.bind_iff.2 ?_
        rw [buildStringFromSerialInner_command opened]
        exact Resumption.Meets.bind_iff.2 (commandCharacter typist inputChar () _ start)
      · rw [Typist.on, if_neg command] at few ⊢
        obtain ⟨text, ordinary⟩ := not_or.1 command
        have mode : node.serialCommandMode = false :=
          fills.1.trans (Bool.eq_false_iff.2 text)
        refine Resumption.Meets.bind_iff.2 ?_
        rw [buildStringFromSerialInner_eq node ordinary mode]
        exact textCharacter few () node fills

theorem feed {inputs : List SerialInput} (roomy : Roomy typist inputs) :
    Triple (inside driversSucceed) (Fills typist) (feed inputs) fun _ _ => HoldsLengths := by
  induction inputs generalizing typist with
  | nil => exact fun _ _ fills => fills.holdsLengths
  | cons input inputs ih => exact (Fills.input roomy.1).bind fun _ => ih roomy.2

/-- The byte that a character of text leaves is written at the end of the message. -/
theorem textByte_eq {inputChar byte : UInt8} (keeps : textFormat.keep inputChar = some byte) :
    Node.textByte inputChar = Node.pushTxMsg byte := by
  unfold Node.textByte
  unfold textFormat at keeps
  dsimp only at keeps
  split at keeps
  · rw [if_pos ‹_›, Option.some.inj keeps]
  · rw [if_neg ‹_›]
    split at keeps
    · cases keeps
    · rw [if_neg ‹_›]
      split at keeps
      · rw [if_pos ‹_›, Option.some.inj keeps]
      · rw [if_neg ‹_›, Option.some.inj keeps]

/-- A text of 127 characters fills its buffer, and one more goes past the end. -/
theorem overflows {inputChar : UInt8} {node : LoraPoint2Point} (fills : Fills typist () node)
    (few : ¬ (typist.on (.typed inputChar)).text ≤ 127) :
    ((SerialInput.typed inputChar).run node).awaits =
      some (.index .txMsgBuf 128 maxMessageLen) := by
  obtain ⟨mode, typed, room, _⟩ := fills
  by_cases command : typist.commandMode = true ∨ inputChar = exclamation
  · rw [Typist.on, if_pos command] at few
    exact absurd room few
  rw [Typist.on, if_neg command] at few
  obtain ⟨reading, ordinary⟩ := not_or.1 command
  have text : node.serialCommandMode = false := mode.trans (Bool.eq_false_iff.2 reading)
  have goesOn : textFormat.ends inputChar = false := by
    by_contra ends
    have nothing : textFormat.left [inputChar] = [] := by
      simp [Data.LineFormat.left, Bool.not_eq_false _ ▸ ends]
    rw [nothing] at few
    exact few room
  have kept : textFormat.left [inputChar] = (textFormat.keep inputChar).toList := by
    simp [Data.LineFormat.left, goesOn]
  rw [kept] at few
  obtain ⟨byte, keeps⟩ : ∃ byte, textFormat.keep inputChar = some byte := by
    apply Option.ne_none_iff_exists'.1
    intro nothing
    rw [nothing] at few
    exact few room
  have many : ¬ typist.text + 1 ≤ 127 := by
    rw [keeps] at few
    exact few
  have full : node.txMsg.bufLen.toNat = 128 := by
    rcases typed with ⟨_, nothing⟩ | length <;> omega
  have started : node.txMsg.bufLen ≠ 0 := by
    intro empty
    rw [empty] at full
    cases full
  have open_ : ¬ (inputChar = lineFeed ∨ inputChar = carriageReturn) :=
    of_decide_eq_false goesOn
  have typing : buildStringFromSerialInner inputChar node =
      (Node.pushTxMsg byte >>= fun _ => pure 0) node := by
    rw [buildStringFromSerialInner_eq node ordinary text, ← textByte_eq keeps]
    simp [Node.textCharacter, whenever, started, open_]
  show ((buildStringFromSerialInner inputChar node).bind _ : NodeRun Unit).awaits = _
  rw [typing, ← full]
  rfl

/-- Surroundings whose drivers succeed always have an answer. -/
theorem inside_live (action : Action) (running : action ≠ .halt) :
    ∃ answer : action.Answer, action.Succeeds answer := by
  cases action with
  | halt => exact absurd rfl running
  | millis => exact ⟨(0 : UInt32), trivial⟩
  | rf95SetFrequency tenthMegahertz => exact ⟨true, rfl⟩
  | rf95Init => exact ⟨true, trivial⟩
  | rhReliableDatagramInit => exact ⟨true, trivial⟩
  | rf95LastSNR => exact ⟨(0 : Int), trivial⟩
  | sendtoWait payload destAddress => exact ⟨true, trivial⟩
  | recvfromAckTimeout capacity timeout => exact ⟨Reception.nothing, trivial⟩
  | uninitialised => exact ⟨(0 : UInt8), trivial⟩
  | _ => exact ⟨(), trivial⟩

end Fills

/-! ## Exactly the inputs that fit -/

/-- Whatever runs after a part that has finished stays inside as well. -/
theorem StaysInside.rest {first : NodeRun Unit} {next : LoraPoint2Point → Unit → NodeRun Unit}
    {trace : List NodeStep} {node : LoraPoint2Point} (stays : StaysInside (first.bind next))
    (run : Resumption.Runs first trace (.done node ())) : StaysInside (next node ()) := by
  intro later last rest
  obtain ⟨steps, pending⟩ := stays _ _ (run.bind rest)
  exact ⟨fun step member => steps step (List.mem_append_right trace member), pending⟩

theorem StaysInside.first {first : NodeRun Unit} {next : LoraPoint2Point → Unit → NodeRun Unit}
    {action : Action} (stays : StaysInside (first.bind next))
    (asks : first.awaits = some action) : action.WritesInside := by
  cases first with
  | done node value => cases asks
  | ask node asked resume =>
      obtain ⟨_, writes, _⟩ := stays [] _ (.refl _)
      exact writes action asks

/-- Any input that is taken in can be followed to its end. -/
theorem exists_run_of_input {typist : Typist} {input : SerialInput} {node : LoraPoint2Point}
    (fills : Fills typist () node) (few : (typist.on input).text ≤ 127) :
    ∃ trace later, Resumption.Runs (input.run node) trace (.done later ()) ∧
      Fills (typist.on input) () later := by
  have meets : Resumption.Meets (inside True) _ _ _ := Fills.input few () node fills
  obtain ⟨trace, later, value, run, _, reached⟩ := Resumption.Meets.exists_run (by
    rintro _ node action ⟨_, _, running⟩
    obtain ⟨answer, succeeds⟩ := Fills.inside_live action (running trivial)
    exact ⟨answer, fun _ => succeeds⟩) meets
  exact ⟨trace, later, run, reached⟩

theorem roomy_of_staysInside {typist : Typist} {inputs : List SerialInput}
    {node : LoraPoint2Point} (fills : Fills typist () node) (stays : StaysInside (feed inputs node)) :
    Roomy typist inputs := by
  induction inputs generalizing typist node with
  | nil => trivial
  | cons input inputs ih =>
      have parts : StaysInside ((input.run node).bind fun later _ => feed inputs later) := stays
      have few : (typist.on input).text ≤ 127 := by
        by_contra many
        cases input with
        | serviceTx destAddress => exact many (Nat.zero_le 127)
        | typed inputChar =>
            exact absurd (parts.first (fills.overflows many) rfl) (by decide)
      obtain ⟨trace, later, run, reached⟩ := exists_run_of_input fills few
      exact ⟨few, ih reached (parts.rest run)⟩

/-- Whatever is typed and sent from the start on, and whatever the surroundings
answer: all writes are inside the two serial buffers and the lengths are at most
theirs exactly if the text never grows beyond 127 characters. -/
theorem serial_writes_inside_iff (thisAddress : UInt8) (inputs : List SerialInput) :
    StaysInside (feed inputs (LoraPoint2Point.initial thisAddress)) ↔ Roomy {} inputs := by
  have start : Fills {} () (LoraPoint2Point.initial thisAddress) :=
    ⟨rfl, Or.inl ⟨rfl, rfl⟩, Nat.zero_le _, Nat.zero_le _⟩
  constructor
  · exact roomy_of_staysInside start
  · intro roomy
    exact staysInside_of_meets (Fills.feed roomy () _ start) fun _ _ => id

/-- A text of 128 characters, never sent, is written past the end of its buffer. -/
theorem long_text_overflows :
    ¬ ∀ (thisAddress : UInt8) (inputs : List SerialInput),
      StaysInside (feed inputs (LoraPoint2Point.initial thisAddress)) := by
  intro always
  have roomy := roomy_of_staysInside
    (⟨rfl, Or.inl ⟨rfl, rfl⟩, Nat.zero_le _, Nat.zero_le _⟩ : Fills {} () _)
    (always 1 (List.replicate 128 (.typed 97)))
  exact absurd roomy (by decide +kernel)

end Roam.Node
