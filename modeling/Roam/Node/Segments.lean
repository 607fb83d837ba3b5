import Roam.Node.Commands

/-!
# Commands between text

The two sub-languages of the serial input share one function and its control
characters.  Fed with any characters, a node treats the text as if the commands were
not there, and calls the setters as if the text were not there.
-/

namespace Roam.Node

open Roam.Data Roam.Interaction

/-! ## Segments -/

/-- The character stands in a command. -/
def inCommand (mode : Bool) (inputChar : UInt8) : Bool := mode || inputChar = exclamation

/-- The mode behind the character. -/
def nextMode (mode : Bool) (inputChar : UInt8) : Bool :=
  inCommand mode inputChar && inputChar ≠ lineFeed

/-- The characters that stand in commands, or those that do not. -/
def segments {α : Type} (character : α → UInt8) (commands : Bool) : Bool → List α → List α
  | _, [] => []
  | mode, item :: rest =>
      if inCommand mode (character item) = commands then
        item :: segments character commands (nextMode mode (character item)) rest
      else segments character commands (nextMode mode (character item)) rest

section Heads

variable {α : Type} {character : α → UInt8} {commands mode : Bool} {item : α}

theorem segments_keep (rest : List α) (wanted : inCommand mode (character item) = commands) :
    segments character commands mode (item :: rest) =
      item :: segments character commands (nextMode mode (character item)) rest := if_pos wanted

theorem segments_drop (rest : List α) (wanted : inCommand mode (character item) ≠ commands) :
    segments character commands mode (item :: rest) =
      segments character commands (nextMode mode (character item)) rest := if_neg wanted

end Heads

theorem segments_map {α : Type} (character : α → UInt8) (commands mode : Bool) (items : List α) :
    segments id commands mode (items.map character) =
      (segments character commands mode items).map character := by
  induction items generalizing mode with
  | nil => rfl
  | cons item rest ih =>
      simp only [List.map_cons, segments, id, ih]
      split <;> rfl

/-! ## Setter calls -/

/-- The call that the switch on the command letter makes. -/
def commandCall? (serialCmd : Message) : Option SetterCall :=
  if 2 ≤ serialCmd.bufLen then
    if serialCmd.buf.get 0 = 'S'.toUInt8 then
      some (.setSpreadingFactor (enumOfInt (digitOf (serialCmd.buf.get 1))))
    else if serialCmd.buf.get 0 = 'B'.toUInt8 then
      some (.setBandwidth (enumOfInt (digitOf (serialCmd.buf.get 1))))
    else if serialCmd.buf.get 0 = 'C'.toUInt8 then
      some (.setFrequencyChannel (enumOfInt (commandValue serialCmd)))
    else if serialCmd.buf.get 0 = 'P'.toUInt8 then
      some (.setTxPower (commandValue serialCmd).toInt8)
    else none
  else none

/-- The switch makes this call and does nothing else. -/
theorem runSerialCmd_calls (node : LoraPoint2Point) :
    runSerialCmd node = (match commandCall? node.serialCmd with
      | some call => call.run node
      | none => .done node ()) := by
  simp only [runSerialCmd, commandCall?, Program.bind_apply, Program.get_apply,
    Resumption.bind_done]
  split_ifs <;> rfl

/-- The setter call made for a character. -/
def setterCall? (node : LoraPoint2Point) (inputChar : UInt8) : Option SetterCall :=
  if node.serialCommandMode = true ∧ inputChar = lineFeed then commandCall? node.serialCmd else none

/-- The second node differs in the buffers of the serial input only. -/
def Buffered (node other : LoraPoint2Point) : Prop :=
  ∃ txMsg serialCmd mode,
    other = { node with txMsg := txMsg, serialCmd := serialCmd, serialCommandMode := mode }

/-- The contract of code that only looks into arrays, as no setter does that takes its value. -/
def indexing : Contract LoraPoint2Point Action Action.Answer Unit :=
  Contract.insisting (fun _ _ action => ∃ array index bound, action = .index array index bound)
    fun _ _ _ _ => ()

/-- What the program does with the character: it makes the call, and the command is over, or
it makes none and only works on the buffers of the serial input. -/
def Makes (node : LoraPoint2Point) (inputChar : UInt8) : Option SetterCall → Prop
  | some call => buildStringFromSerialInner inputChar node =
      (call.run node).bind fun later _ =>
        .done { later with serialCmd.bufLen := 0, serialCommandMode := false } 0
  | none => (buildStringFromSerialInner inputChar node).Meets indexing
      (fun _ later _ => Buffered node later) ()

section Calls

variable {node : LoraPoint2Point} {inputChar : UInt8}

theorem buffered_types : Types fun (_ : Unit) => Buffered node where
  txMsg message _ other := by
    rintro ⟨_, serialCmd, mode, rfl⟩
    exact ⟨message, serialCmd, mode, rfl⟩
  serialCmd message mode _ other := by
    rintro ⟨txMsg, _, _, rfl⟩
    exact ⟨txMsg, message, mode, rfl⟩

theorem buffered_reads : ReadsAnywhere indexing fun _ => Buffered node :=
  fun _ _ _ _ _ buffered => ⟨⟨_, _, _, rfl⟩, fun _ _ => buffered⟩

/-- A line feed behind a command runs it, and the command is over. -/
theorem buildStringFromSerialInner_ends (mode : node.serialCommandMode = true) :
    buildStringFromSerialInner lineFeed node = (runSerialCmd node).bind fun later _ =>
      .done { later with serialCmd.bufLen := 0, serialCommandMode := false } 0 := by
  have same : { node with serialCommandMode := true } = node := by rw [← mode]
  rw [buildStringFromSerialInner_command (.inl mode), same]
  simp [commandCharacter, whenever, Resumption.bind_assoc]

/-- Any other character of a command makes no call. -/
theorem commandCharacter_buffered (goesOn : inputChar ≠ lineFeed) :
    Keeps indexing (fun _ => Buffered node) (commandCharacter inputChar) := by
  have skipped : ∀ program : NodeM Unit, whenever (inputChar = lineFeed) program = pure () :=
    fun program => if_neg fun same => goesOn (of_decide_eq_true same)
  unfold commandCharacter
  rw [skipped]
  refine .get_bind fun _ => (whenever_keeps ?_).bind fun _ => .pure ()
  refine .get_bind fun _ => (buffered_reads _ _ _).bind fun _ => ?_
  exact .update fun ghost other => buffered_types.serialCmd _ _ ghost other

/-- The calls named are those of the program. -/
theorem setterCall?_makes (node : LoraPoint2Point) (inputChar : UInt8) :
    Makes node inputChar (setterCall? node inputChar) := by
  have start : Buffered node node := ⟨_, _, _, rfl⟩
  by_cases ends : node.serialCommandMode = true ∧ inputChar = lineFeed
  · obtain ⟨mode, rfl⟩ := ends
    have program := buildStringFromSerialInner_ends mode
    rw [runSerialCmd_calls] at program
    rw [setterCall?, if_pos ⟨mode, rfl⟩]
    cases called : commandCall? node.serialCmd with
    | some call =>
        rw [called] at program
        exact program
    | none =>
        rw [called] at program
        show (buildStringFromSerialInner lineFeed node).Meets indexing _ ()
        rw [program]
        exact ⟨_, _, _, rfl⟩
  · rw [setterCall?, if_neg ends]
    show (buildStringFromSerialInner inputChar node).Meets indexing _ ()
    cases command : inCommand node.serialCommandMode inputChar with
    | true =>
        have opened : node.serialCommandMode = true ∨ inputChar = exclamation := by
          simpa [inCommand] using command
        have goesOn : inputChar ≠ lineFeed := by
          rintro rfl
          exact ends ⟨opened.resolve_right nofun, rfl⟩
        rw [buildStringFromSerialInner_command opened]
        refine Resumption.Meets.bind_iff.2 ?_
        exact commandCharacter_buffered goesOn () _ (buffered_types.serialCmd _ _ () node start)
    | false =>
        obtain ⟨text, ordinary⟩ : node.serialCommandMode = false ∧ inputChar ≠ exclamation := by
          simpa [inCommand] using command
        rw [buildStringFromSerialInner_eq node ordinary text]
        exact buffered_types.textCharacter buffered_reads inputChar () node start

end Calls

/-! ## One character -/

/-- What a character of a command does to the command buffer. -/
def readCommand (serialCmd : Message) (inputChar : UInt8) : Message :=
  if inputChar = lineFeed then { serialCmd with bufLen := 0 }
  else if inputChar ≠ carriageReturn ∧ inputChar ≠ exclamation ∧
      serialCmd.bufLen.toNat < maxMessageLen then
    serialCmd.push inputChar
  else serialCmd

/-- The part of the node that the serial input works on. -/
structure Serving (txMsg serialCmd : Message) (mode : Bool) (node : LoraPoint2Point) : Prop where
  txMsg : node.txMsg = txMsg
  serialCmd : node.serialCmd = serialCmd
  mode : node.serialCommandMode = mode

/-- The setters leave the serial input alone. -/
theorem serving_ignores (txMsg serialCmd : Message) (mode : Bool) :
    Ignores exchanging (fun _ => Serving txMsg serialCmd mode) where
  perform _ _ _ := fun _ _ serving => ⟨trivial, fun _ _ => serving⟩
  state _ _ _ _ typed read same serving :=
    ⟨typed.trans serving.txMsg, read.trans serving.serialCmd, same.trans serving.mode⟩

theorem commandCharacter_serving (txMsg serialCmd : Message) (inputChar : UInt8) :
    Triple exchanging (fun _ => Serving txMsg serialCmd true) (commandCharacter inputChar)
      fun _ _ => Serving txMsg (readCommand serialCmd inputChar) (inputChar ≠ lineFeed) := by
  rintro exchange node ⟨rfl, rfl, mode⟩
  by_cases ends : inputChar = lineFeed
  · have step : commandCharacter inputChar node = (runSerialCmd node).bind fun later _ =>
        .done { later with serialCmd.bufLen := 0, serialCommandMode := false } () := by
      simp [commandCharacter, whenever, ends]
    have run : Keeps exchanging (fun _ => Serving node.txMsg node.serialCmd true) runSerialCmd :=
      Types.runSerialCmd (serving_ignores _ _ _).settles
    rw [step]
    refine Resumption.Meets.bind_iff.2 ((run exchange node ⟨rfl, rfl, mode⟩).mono ?_)
    rintro _ later _ ⟨typed, read, _⟩
    refine ⟨typed, ?_, by simp [ends]⟩
    rw [readCommand, if_pos ends, ← read]
  · have open_ : decide (inputChar ≠ lineFeed) = true := decide_eq_true ends
    by_cases grows : inputChar ≠ carriageReturn ∧ inputChar ≠ exclamation ∧
        node.serialCmd.bufLen.toNat < maxMessageLen
    · have step : commandCharacter inputChar node =
          .ask node (.index .serialCmdBuf node.serialCmd.bufLen.toNat maxMessageLen) fun _ =>
            .done { node with serialCmd := node.serialCmd.push inputChar } () := by
        simp [commandCharacter, pushSerialCmd, whenever, ends, grows]
      rw [step, open_, readCommand, if_neg ends, if_pos grows]
      exact ⟨trivial, fun _ _ => ⟨rfl, rfl, mode⟩⟩
    · have step : commandCharacter inputChar node = .done node () := by
        simp only [commandCharacter, whenever]
        simp [ends, grows]
      rw [step, open_, readCommand, if_neg ends, if_neg grows]
      exact ⟨rfl, rfl, mode⟩

/-- What a character does and what is returned for it. -/
structure Answered (node : LoraPoint2Point) (inputChar : UInt8) (later : LoraPoint2Point)
    (retval : UInt8) : Prop where
  mode : later.serialCommandMode = nextMode node.serialCommandMode inputChar
  txMsg : later.txMsg = if inCommand node.serialCommandMode inputChar then node.txMsg
    else typeCharacter node.txMsg inputChar
  serialCmd : later.serialCmd = if inCommand node.serialCommandMode inputChar then
    readCommand node.serialCmd inputChar else node.serialCmd
  retval : retval = if inCommand node.serialCommandMode inputChar then 0 else verdict inputChar

theorem buildStringFromSerialInner_answers (node : LoraPoint2Point) (inputChar : UInt8)
    (exchange : Exchange) :
    (buildStringFromSerialInner inputChar node).Meets exchanging
      (fun _ later retval => Answered node inputChar later retval) exchange := by
  cases command : inCommand node.serialCommandMode inputChar with
  | true =>
      have opened : node.serialCommandMode = true ∨ inputChar = exclamation := by
        simpa [inCommand] using command
      rw [buildStringFromSerialInner_command opened]
      have read := commandCharacter_serving node.txMsg node.serialCmd inputChar exchange
        { node with serialCommandMode := true } ⟨rfl, rfl, rfl⟩
      refine Resumption.Meets.bind_iff.2 (read.mono ?_)
      rintro _ later _ ⟨typed, read, mode⟩
      refine ⟨?_, ?_, ?_, ?_⟩
      · rw [mode, nextMode, command, Bool.true_and]
      · rw [typed, if_pos command]
      · rw [read, if_pos command]
      · rw [if_pos command]
  | false =>
      obtain ⟨text, ordinary⟩ : node.serialCommandMode = false ∧ inputChar ≠ exclamation := by
        simpa [inCommand] using command
      rw [buildStringFromSerialInner_eq node ordinary text, textCharacter_meets]
      refine ⟨?_, ?_, ?_, ?_⟩
      · rw [nextMode, command, Bool.false_and]
        exact text
      · rw [command]
        rfl
      · rw [command]
        rfl
      · rw [command]
        rfl

theorem answered_of_run {node later : LoraPoint2Point} {inputChar retval : UInt8}
    {trace : List NodeStep}
    (run : Resumption.Runs (buildStringFromSerialInner inputChar node) trace (.done later retval)) :
    Answered node inputChar later retval :=
  (buildStringFromSerialInner_answers node inputChar {}).runs run (Contract.watching_allows _ _)

/-! ## Feeding -/

/-- A character fed to a node, with the setter call that the program makes and the value that
it returns. -/
structure Fed where
  node : LoraPoint2Point
  inputChar : UInt8
  call : Option SetterCall
  retval : UInt8
  makes : Makes node inputChar call

/-- The record of one character. -/
def Fed.of (node : LoraPoint2Point) (inputChar retval : UInt8) : Fed :=
  ⟨node, inputChar, setterCall? node inputChar, retval, setterCall?_makes node inputChar⟩

@[simp]
theorem Fed.of_inputChar (node : LoraPoint2Point) (inputChar retval : UInt8) :
    (Fed.of node inputChar retval).inputChar = inputChar := rfl

@[simp]
theorem Fed.of_call (node : LoraPoint2Point) (inputChar retval : UInt8) :
    (Fed.of node inputChar retval).call = setterCall? node inputChar := rfl

/-- The characters of a feed. -/
def characters (fed : List Fed) : List UInt8 := fed.map Fed.inputChar

/-- One character after the other. -/
inductive Feeding : LoraPoint2Point → List NodeStep → List Fed → LoraPoint2Point → Prop where
  | done (node : LoraPoint2Point) : Feeding node [] [] node
  | next {node middle last : LoraPoint2Point} {inputChar retval : UInt8}
      {trace rest : List NodeStep} {later : List Fed}
      (run : Resumption.Runs (buildStringFromSerialInner inputChar node) trace
        (.done middle retval))
      (goesOn : Feeding middle rest later last) :
      Feeding node (trace ++ rest) (Fed.of node inputChar retval :: later) last

/-- Two feeds of which one has certain segments of the other only: if each of these
characters does the same to both and the others leave the relation alone, then the
relation is there in the end, and the same is observed. -/
theorem Feeding.project {Observation : Type} {commands : Bool}
    {related : LoraPoint2Point → LoraPoint2Point → Prop} (observe : Fed → Observation)
    (moves : ∀ {node other middle middle' : LoraPoint2Point} {inputChar retval retval' : UInt8},
      related node other → inCommand node.serialCommandMode inputChar = commands →
        Answered node inputChar middle retval → Answered other inputChar middle' retval' →
          related middle middle' ∧
            observe (Fed.of node inputChar retval) = observe (Fed.of other inputChar retval'))
    (stays : ∀ {node other middle : LoraPoint2Point} {inputChar retval : UInt8},
      related node other → inCommand node.serialCommandMode inputChar ≠ commands →
        Answered node inputChar middle retval → related middle other)
    {node last other otherLast : LoraPoint2Point} {trace otherTrace : List NodeStep}
    {fed part : List Fed} (run : Feeding node trace fed last)
    (selected : Feeding other otherTrace part otherLast) (start : related node other)
    (selects : characters part = characters
      (segments Fed.inputChar commands node.serialCommandMode fed)) :
    related last otherLast ∧ part.map observe =
      (segments Fed.inputChar commands node.serialCommandMode fed).map observe := by
  induction run generalizing other otherTrace part with
  | done node =>
      cases selected with
      | done => exact ⟨start, rfl⟩
      | next => cases selects
  | @next node middle last inputChar retval trace rest later run goesOn ih =>
      have answered := answered_of_run run
      have mode := answered.mode
      by_cases wanted : inCommand node.serialCommandMode inputChar = commands
      · rw [segments_keep later wanted, Fed.of_inputChar] at selects ⊢
        cases selected with
        | done => cases selects
        | @next _ _ _ again _ _ _ _ once others =>
            obtain ⟨same, selects⟩ := List.cons.inj selects
            obtain rfl : again = inputChar := same
            obtain ⟨kept, seen⟩ := moves start wanted answered (answered_of_run once)
            rw [← mode] at selects ⊢
            obtain ⟨ended, observed⟩ := ih others kept selects
            refine ⟨ended, ?_⟩
            rw [List.map_cons, List.map_cons, observed, seen]
      · rw [segments_drop later wanted, Fed.of_inputChar, ← mode] at selects ⊢
        exact ih selected (stays start wanted answered) selects

/-- Characters outside commands make no calls. -/
theorem Feeding.calls {node last : LoraPoint2Point} {trace : List NodeStep} {fed : List Fed}
    (run : Feeding node trace fed last) :
    (segments Fed.inputChar true node.serialCommandMode fed).filterMap Fed.call =
      fed.filterMap Fed.call := by
  induction run with
  | done node => rfl
  | @next node middle last inputChar retval trace rest later run goesOn ih =>
      rw [(answered_of_run run).mode] at ih
      by_cases inside : inCommand node.serialCommandMode inputChar = true
      · rw [segments_keep later inside, Fed.of_inputChar, List.filterMap_cons, List.filterMap_cons,
          ih]
      · rw [segments_drop later inside, Fed.of_inputChar]
        have text : node.serialCommandMode = false := by
          cases mode : node.serialCommandMode with
          | false => rfl
          | true => exact absurd (by rw [mode]; rfl) inside
        have silent : setterCall? node inputChar = none := if_neg (by rw [text]; simp)
        rw [ih, List.filterMap_cons, Fed.of_call, silent]

/-- The contract that insists on an empty command buffer outside command mode. -/
def tidy : Contract LoraPoint2Point Action Action.Answer Bool :=
  Contract.insisting (fun accepted node _ => EmptyOutside accepted node)
    fun accepted _ _ _ => accepted

theorem serial_tidy : Serial tidy :=
  fun _ empty _ accepted node kept => ⟨empty accepted node kept, fun _ _ => kept⟩

theorem Feeding.emptyOutside {node last : LoraPoint2Point} {trace : List NodeStep}
    {fed : List Fed} (run : Feeding node trace fed last) (start : EmptyOutside false node) :
    (∀ step ∈ trace, EmptyOutside false step.state) ∧ EmptyOutside false last := by
  induction run with
  | done node => exact ⟨fun step member => absurd member List.not_mem_nil, start⟩
  | @next node middle last inputChar retval trace rest later run goesOn ih =>
      have meets := serial_tidy.buildStringFromSerialInner inputChar false node start
      obtain ⟨others, ended⟩ := ih (meets.runs run (Contract.insisting_allows false trace))
      refine ⟨fun step member => ?_, ended⟩
      rcases List.mem_append.1 member with here | there
      · obtain ⟨before, after, rfl⟩ := List.append_of_mem here
        exact meets.required run (Contract.insisting_allows false _)
      · exact others step there

/-! ## Every feed -/

/-- The second node has the text of the first, outside command mode. -/
structure SameText (node other : LoraPoint2Point) : Prop where
  txMsg : other.txMsg = node.txMsg
  mode : other.serialCommandMode = false

theorem SameText.moves {node other middle middle' : LoraPoint2Point}
    {inputChar retval retval' : UInt8} (same : SameText node other) (text : inCommand node.serialCommandMode inputChar = false)
    (once : Answered node inputChar middle retval)
    (again : Answered other inputChar middle' retval') :
    SameText middle middle' ∧ retval = retval' := by
  obtain ⟨_, ordinary⟩ := Bool.or_eq_false_iff.1 text
  have alone : inCommand other.serialCommandMode inputChar = false := by
    rw [same.mode]
    exact ordinary
  have typed := once.txMsg
  have retyped := again.txMsg
  have returned := once.retval
  have rereturned := again.retval
  have mode := again.mode
  rw [text] at typed returned
  rw [alone] at retyped rereturned
  rw [nextMode, alone] at mode
  refine ⟨⟨?_, mode⟩, returned.trans rereturned.symm⟩
  rw [typed, retyped, same.txMsg]

theorem SameText.stays {node other middle : LoraPoint2Point} {inputChar retval : UInt8}
    (same : SameText node other) (command : inCommand node.serialCommandMode inputChar ≠ false)
    (once : Answered node inputChar middle retval) : SameText middle other := by
  have typed := once.txMsg
  rw [if_pos (Bool.eq_true_of_not_eq_false command)] at typed
  exact ⟨same.txMsg.trans typed.symm, same.mode⟩

/-- The second node has the command of the first. -/
structure SameCommand (node other : LoraPoint2Point) : Prop where
  serialCmd : other.serialCmd = node.serialCmd
  mode : other.serialCommandMode = node.serialCommandMode

theorem SameCommand.moves {node other middle middle' : LoraPoint2Point}
    {inputChar retval retval' : UInt8} (same : SameCommand node other)
    (command : inCommand node.serialCommandMode inputChar = true)
    (once : Answered node inputChar middle retval)
    (again : Answered other inputChar middle' retval') :
    SameCommand middle middle' ∧ setterCall? node inputChar = setterCall? other inputChar := by
  have read := once.serialCmd
  have reread := again.serialCmd
  have mode := again.mode
  rw [same.mode] at reread mode
  rw [if_pos command] at read reread
  refine ⟨⟨?_, mode.trans once.mode.symm⟩, ?_⟩
  · rw [read, reread, same.serialCmd]
  · rw [setterCall?, setterCall?, same.mode, same.serialCmd]

theorem SameCommand.stays {node other middle : LoraPoint2Point} {inputChar retval : UInt8}
    (same : SameCommand node other) (text : inCommand node.serialCommandMode inputChar ≠ true)
    (once : Answered node inputChar middle retval) : SameCommand middle other := by
  obtain ⟨outside, _⟩ := Bool.or_eq_false_iff.1 (Bool.eq_false_of_not_eq_true text)
  have read := once.serialCmd
  have mode := once.mode
  rw [if_neg text] at read
  rw [nextMode, Bool.eq_false_of_not_eq_true text, Bool.false_and] at mode
  exact ⟨same.serialCmd.trans read.symm, (same.mode.trans outside).trans mode.symm⟩

/-- Fed to a node in any reachable state outside command mode, the text leaves the same
message and the same return values as without the commands, the commands make the same
setter calls as without the text, and outside command mode the command buffer is empty.  The
record of a character carries that the program makes the call it names. -/
theorem commands_and_text_apart {node last textLast commandLast : LoraPoint2Point}
    {trace textTrace commandTrace : List NodeStep} {fed text commands : List Fed}
    (reachable : Reachable node) (mode : node.serialCommandMode = false)
    (run : Feeding node trace fed last)
    (textRun : Feeding node textTrace text textLast)
    (textual : characters text = segments id false false (characters fed))
    (commandRun : Feeding node commandTrace commands commandLast)
    (commanding : characters commands = segments id true false (characters fed)) :
    textLast.txMsg = last.txMsg ∧
      text.map Fed.retval = (segments Fed.inputChar false false fed).map Fed.retval ∧
      commands.filterMap Fed.call = fed.filterMap Fed.call ∧
      (∀ step ∈ trace, step.state.serialCommandMode = false → step.state.serialCmd.bufLen = 0) ∧
      (last.serialCommandMode = false → last.serialCmd.bufLen = 0) := by
  have selects (commands : Bool) : segments id commands false (characters fed) =
      characters (segments Fed.inputChar commands node.serialCommandMode fed) := by
    rw [mode]
    exact segments_map Fed.inputChar commands false fed
  rw [selects] at textual commanding
  have sameText : SameText node node := ⟨rfl, mode⟩
  have sameCommand : SameCommand node node := ⟨rfl, rfl⟩
  obtain ⟨typed, returned⟩ :=
    run.project Fed.retval SameText.moves SameText.stays textRun sameText textual
  obtain ⟨_, called⟩ :=
    run.project Fed.call SameCommand.moves SameCommand.stays commandRun sameCommand commanding
  have calls := run.calls
  obtain ⟨exposed, ended⟩ := run.emptyOutside reachable.emptyOutside
  have each (fed : List Fed) : fed.filterMap Fed.call = (fed.map Fed.call).filterMap id := by
    rw [List.filterMap_map]
    rfl
  rw [mode] at returned
  refine ⟨typed.txMsg, returned, ?_, exposed, ended⟩
  rw [← calls, each, each, called]

/-- A feed in the default surroundings. -/
def feedOn : List UInt8 → LoraPoint2Point → Option (List Fed × LoraPoint2Point)
  | [], node => some ([], node)
  | inputChar :: rest, node =>
      match (Resumption.drive (Surroundings.answer {}) 0
        (buildStringFromSerialInner inputChar node)).2 with
      | .done middle retval => (feedOn rest middle).map fun later =>
          (Fed.of node inputChar retval :: later.1, later.2)
      | .ask _ _ _ => none

theorem feedOn_feeding {typed : List UInt8} {node last : LoraPoint2Point} {fed : List Fed}
    (found : feedOn typed node = some (fed, last)) :
    ∃ trace, Feeding node trace fed last ∧ characters fed = typed := by
  induction typed generalizing node fed with
  | nil =>
      cases found
      exact ⟨[], .done _, rfl⟩
  | cons inputChar rest ih =>
      have run : Resumption.Runs (buildStringFromSerialInner inputChar node) _ _ :=
        Resumption.drive_runs (Surroundings.answer {}) 0 _
      unfold feedOn at found
      split at found
      · rename_i middle retval ended
        rw [ended] at run
        obtain ⟨⟨later, final⟩, others, same⟩ := Option.map_eq_some_iff.1 found
        cases same
        obtain ⟨trace, goesOn, typed⟩ := ih others
        exact ⟨_, .next run goesOn, congrArg (inputChar :: ·) typed⟩
      · cases found

/-- A feed of a node just set up. -/
def fedOn (typed : List UInt8) : List Fed × LoraPoint2Point :=
  (feedOn typed (Surroundings.run {} [] 1).2.state).getD ([], LoraPoint2Point.initial 1)

theorem fedOn_feeding (typed : List UInt8)
    (through : (feedOn typed (Surroundings.run {} [] 1).2.state).isSome = true) :
    ∃ trace, Feeding (Surroundings.run {} [] 1).2.state trace (fedOn typed).1 (fedOn typed).2 ∧
      characters (fedOn typed).1 = typed := by
  obtain ⟨⟨fed, last⟩, found⟩ := Option.isSome_iff_exists.1 through
  have same : fedOn typed = (fed, last) := by rw [fedOn, found, Option.getD_some]
  rw [same]
  exact feedOn_feeding found

/-- The command `!C12` between the letters of a line. -/
theorem commands_and_text_apart_within_line :
    (fedOn [97, 98, lineFeed]).2.txMsg =
        (fedOn [97, exclamation, 67, 49, 50, lineFeed, 98, lineFeed]).2.txMsg ∧
      (fedOn [97, exclamation, 67, 49, 50, lineFeed, 98, lineFeed]).1.filterMap Fed.call =
        [.setFrequencyChannel 12] := by
  obtain ⟨_, run, typed⟩ :=
    fedOn_feeding [97, exclamation, 67, 49, 50, lineFeed, 98, lineFeed] (by decide +kernel)
  obtain ⟨_, textRun, text⟩ := fedOn_feeding [97, 98, lineFeed] (by decide +kernel)
  obtain ⟨_, commandRun, command⟩ :=
    fedOn_feeding [exclamation, 67, 49, 50, lineFeed] (by decide +kernel)
  have apart := commands_and_text_apart ⟨1, [], _, Surroundings.run_runs {} [] 1⟩ rfl run textRun
    (by rw [text, typed]; decide) commandRun (by rw [command, typed]; decide)
  refine ⟨apart.1, apart.2.2.1.symm.trans ?_⟩
  decide +kernel

end Roam.Node
