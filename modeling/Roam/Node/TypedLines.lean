import Roam.Data.Lines
import Roam.Node.Session

/-!
# Typed lines

The application polls the serial port and transmits when a poll reports a
finished line.  A poll consumes everything that is waiting and reports on its
last character only, so what is transmitted depends on where the polls cut the
stream.
-/

namespace Roam.Node

open Roam.Data Roam.Interaction

/-! ## The loop -/

/-- One turn of the application's loop. -/
def pollAndSend (destAddress : UInt8) (pending : List UInt8) : NodeM Unit := do
  if (← buildStringFromSerial pending) ≠ 0 then
    serviceTx destAddress

/-- What a turn got for its unassigned local, and what it handed to `sendtoWait`. -/
structure Exchange where
  unassigned : UInt8 := 0
  sent : List (List UInt8) := []

namespace Exchange

def observe (exchange : Exchange) : (action : Action) → action.Answer → Exchange
  | .uninitialised, answer => { exchange with unassigned := answer }
  | .sendtoWait payload _, _ => { exchange with sent := exchange.sent ++ [payload] }
  | _, _ => exchange

/-- The exchange of a whole run. -/
def of (trace : List NodeStep) : Exchange :=
  trace.foldl (fun exchange step => exchange.observe step.action step.answer) {}

end Exchange

/-- One turn of the loop as the outside sees it. -/
structure Turn where
  pending : List UInt8
  exchange : Exchange

/-- The loop, turn after turn. -/
inductive Turns (destAddress : UInt8) :
    LoraPoint2Point → List Turn → LoraPoint2Point → Prop where
  | done (node : LoraPoint2Point) : Turns destAddress node [] node
  | turn {node middle last : LoraPoint2Point} {pending : List UInt8} {trace : List NodeStep}
      {rest : List Turn}
      (run : Resumption.Runs (pollAndSend destAddress pending node) trace (.done middle ()))
      (later : Turns destAddress middle rest last) :
      Turns destAddress node (⟨pending, Exchange.of trace⟩ :: rest) last

/-- The characters of some turns, as one stream. -/
def stream (turns : List Turn) : List UInt8 := turns.flatMap Turn.pending

/-- Messages without those that are the type byte alone. -/
def proper (sent : List (List UInt8)) : List (List UInt8) :=
  sent.filter (· ≠ [MsgType.dataReq.code])

/-- The proper messages of some turns. -/
def messages (turns : List Turn) : List (List UInt8) :=
  proper (turns.flatMap fun turn => turn.exchange.sent)

/-! ## The lines -/

/-- How the text mode reads characters. -/
def textFormat : LineFormat UInt8 UInt8 where
  ends symbol := symbol = lineFeed ∨ symbol = carriageReturn
  keep symbol :=
    if symbol = hash then some escape
    else if symbol = asterisk ∨ symbol = space then none
    else if symbol = ampersand then some carriageReturn
    else some symbol

/-- The message a line is sent as. -/
def lineMessage (line : List UInt8) : List UInt8 := MsgType.dataReq.code :: line

/-- A poll that keeps lines apart: it ends at most one non-empty line, and only
with its last character; with nothing waiting, its unassigned local is zero or
there is nothing to send. -/
def Separates (before pending : List UInt8) (unassigned : UInt8) : Prop :=
  if pending = [] then unassigned = 0 ∨ (textFormat.assemble before).unfinished = []
  else (textFormat.fresh before pending).length ≤
    if pending.getLast?.any textFormat.ends then 1 else 0

instance (before pending : List UInt8) (unassigned : UInt8) :
    Decidable (Separates before pending unassigned) :=
  if empty : pending = [] then
    decidable_of_iff (unassigned = 0 ∨ (textFormat.assemble before).unfinished = [])
      (by rw [Separates, if_pos empty])
  else
    decidable_of_iff ((textFormat.fresh before pending).length ≤
      if pending.getLast?.any textFormat.ends then 1 else 0) (by rw [Separates, if_neg empty])

/-! ## Characters into the buffer -/

/-- What one character of text does to the outgoing message. -/
def typeCharacter (txMsg : Message) (inputChar : UInt8) : Message :=
  let opened := if txMsg.bufLen = 0 then txMsg.push MsgType.dataReq.code else txMsg
  if textFormat.ends inputChar then opened
  else (textFormat.keep inputChar).elim opened opened.push

/-- The verdict on one character. -/
def verdict (inputChar : UInt8) : UInt8 :=
  if textFormat.ends inputChar then 1 else 0

/-- The contract that collects the exchange. -/
abbrev exchanging : Contract LoraPoint2Point Action Action.Answer Exchange :=
  Contract.watching fun exchange _ action answer => exchange.observe action answer

section Typing

variable (exchange : Exchange) (node : LoraPoint2Point)

theorem pushTxMsg_meets {good : Exchange → LoraPoint2Point → Unit → Prop} (byte : UInt8) :
    (pushTxMsg byte node).Meets exchanging good exchange ↔
      good exchange { node with txMsg := node.txMsg.push byte } () := by
  simp [pushTxMsg, Exchange.observe]

theorem textByte_meets {good : Exchange → LoraPoint2Point → Unit → Prop} (inputChar : UInt8) :
    (textByte inputChar node).Meets exchanging good exchange ↔
      good exchange
        { node with txMsg := (textFormat.keep inputChar).elim node.txMsg node.txMsg.push } () := by
  unfold textByte textFormat
  dsimp only
  split
  · exact pushTxMsg_meets exchange node _
  · split
    · exact Iff.rfl
    · split
      · exact pushTxMsg_meets exchange node _
      · exact pushTxMsg_meets exchange node _

theorem textCharacter_meets {good : Exchange → LoraPoint2Point → UInt8 → Prop}
    (inputChar : UInt8) :
    (textCharacter inputChar node).Meets exchanging good exchange ↔
      good exchange { node with txMsg := typeCharacter node.txMsg inputChar }
        (verdict inputChar) := by
  have ending : ∀ node : LoraPoint2Point,
      ((if inputChar = lineFeed ∨ inputChar = carriageReturn then pure 1
        else do textByte inputChar; pure 0 : NodeM UInt8) node).Meets exchanging good exchange ↔
      good exchange { node with txMsg := if textFormat.ends inputChar then node.txMsg
        else (textFormat.keep inputChar).elim node.txMsg node.txMsg.push } (verdict inputChar) := by
    intro node
    by_cases ends : inputChar = lineFeed ∨ inputChar = carriageReturn
    · have ended : textFormat.ends inputChar = true := decide_eq_true ends
      simp [ends, ended, verdict]
    · have open_ : textFormat.ends inputChar = false := decide_eq_false ends
      simp [ends, open_, verdict, Resumption.Meets.bind_iff, textByte_meets]
  by_cases fresh : node.txMsg.bufLen = 0
  · have opened := ending { node with txMsg := node.txMsg.push MsgType.dataReq.code }
    simp only [typeCharacter, fresh, ↓reduceIte]
    rw [← opened]
    simp [textCharacter, whenever, fresh, Resumption.Meets.bind_iff, pushTxMsg_meets]
  · have opened := ending node
    simp only [typeCharacter, fresh, ↓reduceIte]
    rw [← opened]
    simp [textCharacter, whenever, fresh]

/-- Outside command mode every ordinary character is text. -/
theorem buildStringFromSerialInner_eq {inputChar : UInt8} (ordinary : inputChar ≠ exclamation)
    (text : node.serialCommandMode = false) :
    buildStringFromSerialInner inputChar node = textCharacter inputChar node := by
  simp [buildStringFromSerialInner, whenever, ordinary, text]

/-- Text is typed character by character, and only the last verdict survives. -/
theorem typeAll_meets {good : Exchange → LoraPoint2Point → UInt8 → Prop} {pending : List UInt8}
    (plain : exclamation ∉ pending) (text : node.serialCommandMode = false) (retval : UInt8) :
    ((pending.foldlM (fun _ inputChar => buildStringFromSerialInner inputChar) retval :
      NodeM UInt8) node).Meets exchanging good exchange ↔
      good exchange { node with txMsg := pending.foldl typeCharacter node.txMsg }
        (pending.foldl (fun _ inputChar => verdict inputChar) retval) := by
  induction pending generalizing node retval with
  | nil => exact Iff.rfl
  | cons inputChar rest ih =>
      obtain ⟨ordinary, plain⟩ := not_or.1 (mt List.mem_cons.2 plain)
      rw [List.foldlM_cons, Program.bind_apply, Resumption.Meets.bind_iff,
        buildStringFromSerialInner_eq node (Ne.symm ordinary) text, textCharacter_meets]
      exact ih { node with txMsg := typeCharacter node.txMsg inputChar } plain text
        (verdict inputChar)

end Typing

/-! ## The buffer between polls -/

/-- The outgoing message holds these bytes behind its type byte, or nothing yet. -/
def HoldsText (txMsg : Message) (content : List UInt8) : Prop :=
  txMsg.bufLen = 0 ∧ content = [] ∨
    txMsg.bytes = lineMessage content ∧ txMsg.bufLen.toNat = content.length + 1

theorem Message.push_of_room {message : Message} (byte : UInt8)
    (room : message.bufLen.toNat < maxMessageLen) :
    (message.push byte).bytes = message.bytes ++ [byte] ∧
      (message.push byte).bufLen.toNat = message.bufLen.toNat + 1 := by
  have small : message.bufLen.toNat < 128 := room
  have length : (message.bufLen + 1).toNat = message.bufLen.toNat + 1 := by
    rw [UInt8.toNat_add]
    have one : (1 : UInt8).toNat = 1 := rfl
    omega
  refine ⟨?_, length⟩
  show (message.buf.set message.bufLen.toNat byte).upTo (message.bufLen + 1).toNat = _
  rw [length, Buffer.upTo_set _ _ room]
  rfl

namespace HoldsText

variable {txMsg : Message} {content : List UInt8}

theorem push (byte : UInt8) (bytes : txMsg.bytes = lineMessage content)
    (length : txMsg.bufLen.toNat = content.length + 1) (fits : content.length + 1 ≤ 127) :
    (txMsg.push byte).bytes = lineMessage (content ++ [byte]) ∧
      (txMsg.push byte).bufLen.toNat = (content ++ [byte]).length + 1 := by
  have room : txMsg.bufLen.toNat < maxMessageLen := by
    have limit : maxMessageLen = 128 := rfl
    omega
  obtain ⟨pushed, longer⟩ := Message.push_of_room byte room
  rw [pushed, longer, bytes, length, List.length_append]
  exact ⟨rfl, rfl⟩

/-- Any character opens the message. -/
theorem opened (holds : HoldsText txMsg content) :
    let opened := if txMsg.bufLen = 0 then txMsg.push MsgType.dataReq.code else txMsg
    opened.bytes = lineMessage content ∧ opened.bufLen.toNat = content.length + 1 := by
  rcases holds with ⟨fresh, rfl⟩ | ⟨bytes, length⟩
  · have room : txMsg.bufLen.toNat < maxMessageLen := by
      rw [fresh]
      decide
    obtain ⟨pushed, longer⟩ := Message.push_of_room MsgType.dataReq.code room
    have nothing : txMsg.bytes = [] := by
      rw [Message.bytes, fresh]
      rfl
    simp only [fresh, ↓reduceIte]
    rw [pushed, longer, nothing, fresh]
    exact ⟨rfl, rfl⟩
  · have started : txMsg.bufLen ≠ 0 := by
      intro fresh
      rw [fresh] at length
      cases length
    simp only [started, ↓reduceIte]
    exact ⟨bytes, length⟩

/-- One character leaves in the message what it leaves in its line. -/
theorem typeCharacter (holds : HoldsText txMsg content) (inputChar : UInt8)
    (fits : (content ++ textFormat.left [inputChar]).length ≤ 127) :
    HoldsText (typeCharacter txMsg inputChar) (content ++ textFormat.left [inputChar]) := by
  obtain ⟨bytes, length⟩ := holds.opened
  right
  unfold Node.typeCharacter
  revert bytes length
  generalize (if txMsg.bufLen = 0 then txMsg.push MsgType.dataReq.code else txMsg) = opened
  intro bytes length
  cases ends : textFormat.ends inputChar with
  | true =>
      simp only [LineFormat.left, List.flatMap_cons, List.flatMap_nil, ends, ↓reduceIte,
        List.append_nil]
      exact ⟨bytes, length⟩
  | false =>
      cases kept : textFormat.keep inputChar with
      | none =>
          simp only [LineFormat.left, List.flatMap_cons, List.flatMap_nil, ends, kept,
            Bool.false_eq_true, ↓reduceIte, Option.toList_none, List.append_nil]
          exact ⟨bytes, length⟩
      | some byte =>
          simp only [LineFormat.left, List.flatMap_cons, List.flatMap_nil, ends, kept,
            Bool.false_eq_true, ↓reduceIte, Option.toList_some, List.append_nil,
            List.length_append, List.length_singleton] at fits ⊢
          have grown := push byte bytes length fits
          rw [List.length_append, List.length_singleton] at grown
          exact grown

/-- A poll runs all its lines together. -/
theorem foldl_typeCharacter (holds : HoldsText txMsg content) (pending : List UInt8)
    (fits : (content ++ textFormat.left pending).length ≤ 127) :
    HoldsText (pending.foldl Node.typeCharacter txMsg) (content ++ textFormat.left pending) := by
  induction pending generalizing txMsg content with
  | nil => simpa [LineFormat.left] using holds
  | cons inputChar rest ih =>
      have split : textFormat.left (inputChar :: rest) =
          textFormat.left [inputChar] ++ textFormat.left rest := by
        simp [LineFormat.left]
      rw [split, ← List.append_assoc] at fits ⊢
      have part : (content ++ textFormat.left [inputChar]).length ≤ 127 := by
        rw [List.length_append] at fits
        omega
      exact ih (holds.typeCharacter inputChar part) fits

end HoldsText

/-! ## One turn -/

/-- What a poll answers. -/
def pollVerdict (unassigned : UInt8) (pending : List UInt8) : UInt8 :=
  pending.foldl (fun _ inputChar => verdict inputChar) unassigned

/-- What `serviceTx` sends for this message. -/
def transmission (txMsg : Message) : List (List UInt8) :=
  if 0 < txMsg.bufLen then [txMsg.bytes] else []

/-- Printing and counting leave the exchange and the text alone. -/
def Quiet (exchange : Exchange) (text : Message) (now : Exchange) (node : LoraPoint2Point) : Prop :=
  now = exchange ∧ node.txMsg = text ∧ node.serialCommandMode = false

theorem Quiet.perform {exchange : Exchange} {text : Message} {action : Action}
    (silent : ∀ exchange : Exchange, ∀ answer, exchange.observe action answer = exchange) :
    Keeps exchanging (Quiet exchange text) (perform action) := by
  rintro _ node ⟨rfl, same, mode⟩
  refine ⟨trivial, fun answer _ => ?_⟩
  rw [Contract.watching_record, silent]
  exact ⟨rfl, same, mode⟩

theorem sendAndCount_exchanging (exchange : Exchange) (text : Message) (payload : List UInt8)
    (destAddress : UInt8) :
    Triple exchanging (Quiet exchange text) (sendAndCount payload destAddress)
      fun _ => Quiet { exchange with sent := exchange.sent ++ [payload] } text := by
  have sent : Triple exchanging (Quiet exchange text) (sendtoWait payload destAddress)
      fun _ => Quiet { exchange with sent := exchange.sent ++ [payload] } text := by
    rintro _ node ⟨rfl, same, mode⟩
    exact ⟨trivial, fun _ _ => ⟨rfl, same, mode⟩⟩
  refine Triple.bind sent fun acknowleged => Keeps.ite (Keeps.ite ?_ (Keeps.pure _)) ?_
  · refine Keeps.bind (Quiet.perform fun _ _ => rfl) fun snr => ?_
    refine Keeps.bind (Keeps.update fun _ _ => id) fun _ => ?_
    exact Keeps.bind (Keeps.update fun _ _ => id) fun _ => Keeps.pure _
  · exact Keeps.bind (Keeps.update fun _ _ => id) fun _ => Keeps.pure _

theorem serviceTx_exchanging (exchange : Exchange) (text : Message) (destAddress : UInt8) :
    Triple exchanging (Quiet exchange text) (serviceTx destAddress)
      fun _ => Quiet { exchange with sent := exchange.sent ++ transmission text }
        { text with bufLen := 0 } := by
  rintro _ node ⟨rfl, rfl, mode⟩
  rename_i exchange
  have cleared : ∀ exchange', Triple exchanging (Quiet exchange' node.txMsg)
      (modify fun node => { node with txMsg.bufLen := 0 })
      fun _ => Quiet exchange' { node.txMsg with bufLen := 0 } := by
    intro exchange'
    refine Triple.update ?_
    rintro _ later ⟨same, text, mode⟩
    exact ⟨same, by rw [text], mode⟩
  have span : Triple exchanging (Quiet exchange node.txMsg)
      (serviceTxSpan destAddress ⟨.txMsgBuf, node.txMsg.buf.cells⟩ node.txMsg.bufLen true)
      fun _ => Quiet { exchange with sent := exchange.sent ++ transmission node.txMsg }
        node.txMsg := by
    refine Triple.ite (fun some => ?_) fun none => Triple.pure () ?_
    · refine Triple.bind (Keeps.forM (fun _ => Keeps.bind (Quiet.perform fun _ _ => rfl)
        fun _ => Keeps.ite (Quiet.perform fun _ _ => rfl) (Keeps.pure _)) _) fun _ => ?_
      refine Triple.bind (Quiet.perform fun _ _ => rfl) fun _ => ?_
      have payload : transmission node.txMsg =
          [node.txMsg.buf.cells.take node.txMsg.bufLen.toNat] := if_pos some
      rw [payload]
      exact Triple.bind (sendAndCount_exchanging _ _ _ _) fun _ => Quiet.perform fun _ _ => rfl
    · rintro _ later ⟨rfl, same, mode⟩
      rw [transmission, if_neg none, List.append_nil]
      exact ⟨rfl, same, mode⟩
  exact Triple.bind span (fun _ => cleared _) exchange node ⟨rfl, rfl, mode⟩

/-- What one turn does, from a node in text mode. -/
theorem pollAndSend_ends (destAddress : UInt8) {node middle : LoraPoint2Point}
    {pending : List UInt8} {trace : List NodeStep} (plain : exclamation ∉ pending)
    (text : node.serialCommandMode = false)
    (run : Resumption.Runs (pollAndSend destAddress pending node) trace (.done middle ())) :
    middle.serialCommandMode = false ∧
      let typed := pending.foldl typeCharacter node.txMsg
      if pollVerdict (Exchange.of trace).unassigned pending = 0 then
        (Exchange.of trace).sent = [] ∧ middle.txMsg = typed
      else (Exchange.of trace).sent = transmission typed ∧
        middle.txMsg = { typed with bufLen := 0 } := by
  have meets : (pollAndSend destAddress pending node).Meets exchanging
      (fun exchange later _ => later.serialCommandMode = false ∧
        let typed := pending.foldl typeCharacter node.txMsg
        if pollVerdict exchange.unassigned pending = 0 then
          exchange.sent = [] ∧ later.txMsg = typed
        else exchange.sent = transmission typed ∧
          later.txMsg = { typed with bufLen := 0 }) {} := by
    refine Resumption.Meets.bind_iff.2 ⟨trivial, fun unassigned _ => ?_⟩
    refine (typeAll_meets _ node plain text unassigned).2 ?_
    by_cases finished : pollVerdict unassigned pending = 0
    · have skipped : ¬ pollVerdict unassigned pending ≠ 0 := not_not.2 finished
      show ((if pollVerdict unassigned pending ≠ 0 then serviceTx destAddress
        else pure () : NodeM Unit) _).Meets exchanging _ _
      rw [if_neg skipped]
      refine ⟨text, ?_⟩
      show if pollVerdict unassigned pending = 0 then _ else _
      rw [if_pos finished]
      exact ⟨rfl, rfl⟩
    · show ((if pollVerdict unassigned pending ≠ 0 then serviceTx destAddress
        else pure () : NodeM Unit) _).Meets exchanging _ _
      rw [if_pos finished]
      have sent := serviceTx_exchanging { unassigned := unassigned }
        (pending.foldl typeCharacter node.txMsg) destAddress { unassigned := unassigned }
        { node with txMsg := pending.foldl typeCharacter node.txMsg } ⟨rfl, rfl, text⟩
      refine sent.mono ?_
      rintro _ later _ ⟨rfl, same, mode⟩
      refine ⟨mode, ?_⟩
      show if pollVerdict unassigned pending = 0 then _ else _
      rw [if_neg finished]
      exact ⟨rfl, same⟩
  exact meets.runs run (Contract.watching_allows _ _)

/-! ## Turns and lines -/

theorem stream_cons (turn : Turn) (turns : List Turn) :
    stream (turn :: turns) = turn.pending ++ stream turns := rfl

/-- The verdict of a poll that found something is that of its last character. -/
theorem pollVerdict_append_singleton (front : List UInt8) (last unassigned : UInt8) :
    pollVerdict unassigned (front ++ [last]) = verdict last := by
  simp [pollVerdict]

theorem proper_transmission {txMsg : Message} {content : List UInt8}
    (holds : HoldsText txMsg content) :
    proper (transmission txMsg) = if content = [] then [] else [lineMessage content] := by
  unfold transmission proper
  rcases holds with ⟨fresh, rfl⟩ | ⟨bytes, length⟩
  · simp [fresh]
  · have some : 0 < txMsg.bufLen := by
      rw [UInt8.lt_iff_toNat_lt, length]
      exact Nat.succ_pos _
    rw [if_pos some, bytes]
    cases content with
    | nil => rfl
    | cons byte rest => simp [lineMessage]

/-- How a turn's messages compare with the lines its poll completed. -/
structure TurnOutcome (before pending : List UInt8) (exchange : Exchange)
    (middle : LoraPoint2Point) : Prop where
  separate : Separates before pending exchange.unassigned →
    proper exchange.sent = (textFormat.fresh before pending).map lineMessage ∧
      HoldsText middle.txMsg (textFormat.assemble (before ++ pending)).unfinished
  merged : ¬ Separates before pending exchange.unassigned →
    proper exchange.sent ≠ (textFormat.fresh before pending).map lineMessage

/-- What a turn leaves, given the verdict and what was typed. -/
def TurnEffect (finished : Bool) (typed : Message) (exchange : Exchange)
    (middle : LoraPoint2Point) : Prop :=
  if finished then exchange.sent = transmission typed ∧ middle.txMsg = { typed with bufLen := 0 }
  else exchange.sent = [] ∧ middle.txMsg = typed

theorem TurnEffect.proper_sent {finished : Bool} {typed : Message} {exchange : Exchange}
    {middle : LoraPoint2Point} {content : List UInt8}
    (effect : TurnEffect finished typed exchange middle) (holds : HoldsText typed content) :
    proper exchange.sent = (if finished ∧ content ≠ [] then [lineMessage content] else []) ∧
      HoldsText middle.txMsg (if finished then [] else content) := by
  cases finished with
  | true =>
      obtain ⟨sent, cleared⟩ := effect
      rw [sent, cleared, proper_transmission holds]
      refine ⟨by by_cases empty : content = [] <;> simp [empty], .inl ⟨rfl, rfl⟩⟩
  | false =>
      obtain ⟨sent, kept⟩ := effect
      rw [sent, kept]
      exact ⟨rfl, holds⟩

theorem TurnEffect.length_sent {finished : Bool} {typed : Message} {exchange : Exchange}
    {middle : LoraPoint2Point} (effect : TurnEffect finished typed exchange middle) :
    (proper exchange.sent).length ≤ if finished then 1 else 0 := by
  cases finished with
  | true =>
      obtain ⟨sent, _⟩ := effect
      rw [sent]
      refine (List.length_filter_le _ _).trans ?_
      unfold transmission
      split
      · exact Nat.le_refl 1
      · exact Nat.zero_le 1
  | false =>
      obtain ⟨sent, _⟩ := effect
      rw [sent]
      exact Nat.le_refl 0

namespace TurnOutcome

variable {before : List UInt8} {exchange : Exchange} {node middle : LoraPoint2Point}

/-- With nothing waiting, only a non-zero local can send, and it sends an
unfinished line. -/
theorem of_empty_poll
    (holds : HoldsText node.txMsg (textFormat.assemble before).unfinished)
    (effect : TurnEffect (exchange.unassigned ≠ 0) node.txMsg exchange middle) :
    TurnOutcome before [] exchange middle := by
  obtain ⟨sent, kept⟩ := effect.proper_sent holds
  have nothing : (textFormat.fresh before []).map lineMessage = [] := rfl
  have condition : Separates before [] exchange.unassigned ↔
      exchange.unassigned = 0 ∨ (textFormat.assemble before).unfinished = [] := by
    rw [Separates, if_pos rfl]
  constructor
  · intro separates
    rw [nothing, sent, List.append_nil]
    rcases condition.1 separates with zero | empty
    · simp only [zero, ne_eq, not_true_eq_false, decide_false, Bool.false_eq_true, false_and,
        ↓reduceIte] at kept ⊢
      exact ⟨trivial, kept⟩
    · rw [empty] at kept ⊢
      rw [ite_self] at kept
      exact ⟨by simp, kept⟩
  · intro merged
    rw [condition, not_or] at merged
    rw [nothing, sent, if_pos ⟨by simpa using merged.1, merged.2⟩]
    exact List.cons_ne_nil _ _

theorem of_poll {front : List UInt8} {last : UInt8}
    (fits : textFormat.Fits 127 (before ++ (front ++ [last])))
    (holds : HoldsText node.txMsg (textFormat.assemble before).unfinished)
    (effect : TurnEffect (textFormat.ends last)
      ((front ++ [last]).foldl typeCharacter node.txMsg) exchange middle) :
    TurnOutcome before (front ++ [last]) exchange middle := by
  have condition : Separates before (front ++ [last]) exchange.unassigned ↔
      (textFormat.fresh before (front ++ [last])).length ≤
        if textFormat.ends last then 1 else 0 := by
    rw [Separates, if_neg (by simp)]
    simp
  have typed : ∀ line : List UInt8, line.length ≤ 127 →
      line = (textFormat.assemble before).unfinished ++ textFormat.left (front ++ [last]) →
      HoldsText ((front ++ [last]).foldl typeCharacter node.txMsg) line := by
    rintro line short rfl
    exact holds.foldl_typeCharacter _ short
  have closed : textFormat.ends last = true →
      (textFormat.assemble (before ++ (front ++ [last]))).unfinished = [] := by
    intro ends
    rw [← List.append_assoc]
    exact textFormat.unfinished_append_of_ends _ ends
  have after := textFormat.assemble_append_eq before (front ++ [last])
  constructor
  · intro separates
    have few := condition.1 separates
    cases lines : textFormat.fresh before (front ++ [last]) with
    | nil =>
        have unfinished : (textFormat.assemble (before ++ (front ++ [last]))).unfinished =
            (textFormat.assemble before).unfinished ++ textFormat.left (front ++ [last]) := by
          rw [after]
          exact LineFormat.unfinished_of_completed_nil lines
        have short := fits _ (List.prefix_refl _)
        obtain ⟨sent, kept⟩ := effect.proper_sent (typed _ short unfinished)
        cases ends : textFormat.ends last with
        | true =>
            rw [ends, closed ends] at sent kept
            rw [closed ends]
            exact ⟨sent, kept⟩
        | false =>
            rw [ends] at sent kept
            exact ⟨sent, kept⟩
    | cons line rest =>
        rw [lines] at few
        have ends : textFormat.ends last = true := by
          by_contra open_
          rw [if_neg open_] at few
          exact Nat.not_succ_le_zero _ few
        rw [if_pos ends] at few
        have single : rest = [] := by
          rw [← List.length_eq_zero_iff]
          rw [List.length_cons] at few
          omega
        subst single
        have whole := closed ends
        rw [after] at whole
        have content := LineFormat.completed_of_unfinished_nil lines whole
        have member : line ∈ (textFormat.feedAll
            ⟨[], (textFormat.assemble before).unfinished⟩ (front ++ [last])).completed := by
          rw [show (textFormat.feedAll _ _).completed = [line] from lines]
          exact List.mem_singleton_self line
        rcases LineFormat.exists_prefix_of_mem_completed member with
          old | ⟨nonempty, inner, shorter, grown⟩
        · exact absurd old List.not_mem_nil
        · have short : line.length ≤ 127 := by
            have bound := fits (before ++ inner)
              ((List.prefix_append_right_inj before).2 shorter)
            rw [textFormat.assemble_append_eq before inner] at bound
            rw [← grown]
            exact bound
          obtain ⟨sent, kept⟩ := effect.proper_sent (typed line short content)
          rw [ends] at sent kept
          rw [closed ends, sent, if_pos ⟨rfl, nonempty⟩]
          exact ⟨rfl, kept⟩
  · intro merged same
    rw [condition, not_le] at merged
    have count := effect.length_sent
    rw [same, List.length_map] at count
    omega

/-- The outcome of any turn of a node in text mode. -/
theorem of_run {destAddress : UInt8} {pending : List UInt8} {trace : List NodeStep}
    (text : node.serialCommandMode = false) (plain : exclamation ∉ pending)
    (fits : textFormat.Fits 127 (before ++ pending))
    (holds : HoldsText node.txMsg (textFormat.assemble before).unfinished)
    (run : Resumption.Runs (pollAndSend destAddress pending node) trace (.done middle ())) :
    middle.serialCommandMode = false ∧ TurnOutcome before pending (Exchange.of trace) middle := by
  obtain ⟨mode, effect⟩ := pollAndSend_ends destAddress plain text run
  refine ⟨mode, ?_⟩
  rcases List.eq_nil_or_concat pending with rfl | ⟨front, last, rfl⟩
  · refine of_empty_poll holds ?_
    by_cases zero : (Exchange.of trace).unassigned = 0
    · simpa [TurnEffect, zero, pollVerdict] using effect
    · simpa [TurnEffect, zero, pollVerdict] using effect
  · simp only [List.concat_eq_append] at *
    refine of_poll fits holds ?_
    rw [pollVerdict_append_singleton] at effect
    cases ends : textFormat.ends last with
    | true => simpa [TurnEffect, verdict, ends] using effect
    | false => simpa [TurnEffect, verdict, ends] using effect

end TurnOutcome

/-! ## Every run of the loop -/

theorem messages_take_succ (turn : Turn) (rest : List Turn) (count : Nat) :
    messages ((turn :: rest).take (count + 1)) =
      proper turn.exchange.sent ++ messages (rest.take count) := by
  rw [List.take_succ_cons, messages]
  simp [proper, messages]

/-- The loop from any point of the stream on. -/
theorem turns_iff {destAddress : UInt8} {node last : LoraPoint2Point} {turns : List Turn}
    (run : Turns destAddress node turns last) {before : List UInt8}
    (text : node.serialCommandMode = false) (plain : exclamation ∉ stream turns)
    (fits : textFormat.Fits 127 (before ++ stream turns))
    (holds : HoldsText node.txMsg (textFormat.assemble before).unfinished) :
    (∀ count, messages (turns.take count) =
      (textFormat.fresh before (stream (turns.take count))).map lineMessage) ↔
    ∀ count turn, turns[count]? = some turn →
      Separates (before ++ stream (turns.take count)) turn.pending turn.exchange.unassigned := by
  induction run generalizing before with
  | done node =>
      refine iff_of_true (fun count => ?_) fun count turn found => ?_
      · rw [List.take_nil]
        rfl
      · cases found
  | @turn node middle last pending trace rest first later ih =>
      rw [stream_cons] at plain fits
      rw [List.mem_append, not_or] at plain
      rw [← List.append_assoc] at fits
      have short : textFormat.Fits 127 (before ++ pending) := fun front shorter =>
        fits front (shorter.trans (List.prefix_append _ _))
      obtain ⟨mode, outcome⟩ := TurnOutcome.of_run text plain.1 short holds first
      constructor
      · intro sent
        have separates : Separates before pending (Exchange.of trace).unassigned := by
          by_contra merged
          refine outcome.merged merged ?_
          have one := sent 1
          rw [messages_take_succ, List.take_zero, List.take_succ_cons, List.take_zero] at one
          simpa [messages, proper, stream] using one
        obtain ⟨same, kept⟩ := outcome.separate separates
        have others := (ih mode plain.2 fits kept).1 fun count => by
          have more := sent (count + 1)
          rw [messages_take_succ, List.take_succ_cons, stream_cons, textFormat.fresh_append,
            List.map_append, same] at more
          exact List.append_cancel_left more
        intro count turn found
        cases count with
        | zero =>
            rw [List.getElem?_cons_zero, Option.some.injEq] at found
            subst found
            rw [List.take_zero]
            simpa [stream] using separates
        | succ count =>
            rw [List.getElem?_cons_succ] at found
            rw [List.take_succ_cons, stream_cons, ← List.append_assoc]
            exact others count turn found
      · intro separate
        have separates : Separates before pending (Exchange.of trace).unassigned := by
          have first := separate 0 _ rfl
          rw [List.take_zero] at first
          simpa [stream] using first
        obtain ⟨same, kept⟩ := outcome.separate separates
        have others := (ih mode plain.2 fits kept).2 fun count turn found => by
          have more := separate (count + 1) turn found
          rw [List.take_succ_cons, stream_cons, ← List.append_assoc] at more
          exact more
        intro count
        cases count with
        | zero =>
            rw [List.take_zero]
            rfl
        | succ count =>
            rw [messages_take_succ, List.take_succ_cons, stream_cons, textFormat.fresh_append,
              List.map_append, same, others count]

/-- After every turn the messages sent so far are the non-empty lines typed so
far, one message for each, exactly if every poll keeps lines apart. -/
theorem typed_lines_iff (destAddress : UInt8) {node last : LoraPoint2Point} {turns : List Turn}
    (empty : node.txMsg.bufLen = 0) (text : node.serialCommandMode = false)
    (run : Turns destAddress node turns last) (plain : exclamation ∉ stream turns)
    (fits : textFormat.Fits 127 (stream turns)) :
    (∀ count, messages (turns.take count) =
      (textFormat.assemble (stream (turns.take count))).completed.map lineMessage) ↔
    ∀ count turn, turns[count]? = some turn →
      Separates (stream (turns.take count)) turn.pending turn.exchange.unassigned := by
  have holds : HoldsText node.txMsg (textFormat.assemble []).unfinished := .inl ⟨empty, rfl⟩
  have fits : textFormat.Fits 127 ([] ++ stream turns) := fits
  exact turns_iff run text plain fits holds

/-- The turns of the loop for the listed polls, with a zero in the unassigned local. -/
def turnsOn : List (List UInt8) → LoraPoint2Point → Option (List Turn × LoraPoint2Point)
  | [], node => some ([], node)
  | pending :: rest, node =>
      let turn := Resumption.drive (Surroundings.answer {}) 0 (pollAndSend 2 pending node)
      match turn.2 with
      | .done middle () => (turnsOn rest middle).map fun later =>
          (⟨pending, Exchange.of turn.1⟩ :: later.1, later.2)
      | .ask _ _ _ => none

theorem turnsOn_turns {polls : List (List UInt8)} {node last : LoraPoint2Point}
    {turns : List Turn} (found : turnsOn polls node = some (turns, last)) :
    Turns 2 node turns last := by
  induction polls generalizing node turns with
  | nil =>
      cases found
      exact .done _
  | cons pending rest ih =>
      have run : Resumption.Runs (pollAndSend 2 pending node) _ _ :=
        Resumption.drive_runs (Surroundings.answer {}) 0 _
      simp only [turnsOn] at found
      split at found
      · rename_i middle ended
        rw [ended] at run
        obtain ⟨⟨later, final⟩, others, same⟩ := Option.map_eq_some_iff.1 found
        cases same
        exact .turn run (ih others)
      · cases found

/-- Two lines over four polls: one at once, and one in pieces with nothing between them. -/
def twoLines : List (List UInt8) := [[97, space, 98, lineFeed], [99], [], [100, lineFeed]]

/-- The four turns. -/
def twoLinesTyped : List Turn × LoraPoint2Point :=
  (turnsOn twoLines (LoraPoint2Point.initial 1)).getD ([], LoraPoint2Point.initial 1)

theorem typed_lines_iff_two_lines :
    messages (twoLinesTyped.1.take 3) = [[1, 97, 98]] ∧
      messages twoLinesTyped.1 = [[1, 97, 98], [1, 99, 100]] := by
  have finished : (turnsOn twoLines (LoraPoint2Point.initial 1)).isSome = true := by
    decide +kernel
  have turns : Turns 2 (LoraPoint2Point.initial 1) twoLinesTyped.1 twoLinesTyped.2 := by
    obtain ⟨⟨turns, last⟩, found⟩ := Option.isSome_iff_exists.1 finished
    have same : twoLinesTyped = (turns, last) := by rw [twoLinesTyped, found, Option.getD_some]
    rw [same]
    exact turnsOn_turns found
  have four : twoLinesTyped.1.length = 4 := by decide +kernel
  have apart : ∀ count < 4, ∀ turn ∈ twoLinesTyped.1[count]?,
      Separates (stream (twoLinesTyped.1.take count)) turn.pending turn.exchange.unassigned := by
    decide +kernel
  have lines := (typed_lines_iff 2 rfl rfl turns (by decide +kernel)
    (textFormat.fits_of_length_le (by decide +kernel))).2 fun count turn found => by
      refine apart count ?_ turn found
      rw [← four]
      exact (List.getElem?_eq_some_iff.1 found).1
  have whole : twoLinesTyped.1.take 4 = twoLinesTyped.1 := List.take_of_length_le four.le
  constructor
  · exact (lines 3).trans (by decide +kernel)
  · rw [← whole]
    exact (lines 4).trans (by decide +kernel)

/-- One turn of a fresh node's loop, with a zero in the unassigned local. -/
def firstTurn (pending : List UInt8) : List NodeStep × NodeRun Unit :=
  Resumption.drive (Surroundings.answer {}) 0
    (pollAndSend 2 pending (LoraPoint2Point.initial 1))

/-- Two lines that arrive in one poll are sent as one message. -/
theorem two_lines_sent_as_one :
    ¬ ∀ (destAddress : UInt8) (node last : LoraPoint2Point) (turns : List Turn),
      node.txMsg.bufLen = 0 → node.serialCommandMode = false →
      Turns destAddress node turns last → exclamation ∉ stream turns →
      textFormat.Fits 127 (stream turns) →
        messages turns = (textFormat.assemble (stream turns)).completed.map lineMessage := by
  intro always
  have turns : Turns 2 (LoraPoint2Point.initial 1)
      [⟨_, Exchange.of (firstTurn [97, lineFeed, 98, lineFeed]).1⟩]
      (firstTurn [97, lineFeed, 98, lineFeed]).2.state :=
    .turn (Resumption.drive_runs _ _ _) (.done _)
  have apart := always 2 _ _ _ rfl rfl turns (by decide)
    (textFormat.fits_of_length_le (by decide))
  exact absurd apart (by decide)

end Roam.Node
