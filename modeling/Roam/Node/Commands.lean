import Roam.Node.SerialBuffers

/-!
# Typed commands

A command is a letter and a number.  The parser looks at the letter and at one or
two bytes behind it, takes each byte as if it were a digit, and hands the number
to a setter.  `grammar` says which commands are meant.
-/

namespace Roam.Node

open Roam.Data Roam.Interaction

/-! ## The grammar -/

/-- A setting and the value it is given, by number. -/
inductive Command where
  | spreadingFactor (value : Nat)
  | bandwidth (value : Nat)
  | frequencyChannel (value : Nat)
  | txPower (value : Nat)
  deriving DecidableEq, Repr

namespace Command

def InRange : Command → Prop
  | .spreadingFactor value => value ≤ 5
  | .bandwidth value => value ≤ 2
  | .frequencyChannel value => value ≤ 15
  | .txPower value => minTxPower.toInt ≤ value ∧ (value : Int) ≤ maxTxPower.toInt

instance : DecidablePred InRange
  | .spreadingFactor value => inferInstanceAs (Decidable (value ≤ 5))
  | .bandwidth value => inferInstanceAs (Decidable (value ≤ 2))
  | .frequencyChannel value => inferInstanceAs (Decidable (value ≤ 15))
  | .txPower _ => inferInstanceAs (Decidable (_ ∧ _))

/-- The settings with the one named replaced. -/
def apply (settings : Settings) : Command → Settings
  | .spreadingFactor value => { settings with spreadingFactor := value }
  | .bandwidth value => { settings with signalBandwidth := value }
  | .frequencyChannel value => { settings with frequencyChannel := value }
  | .txPower value => { settings with txPower := Int8.ofNat value }

end Command

def digit? (byte : UInt8) : Option Nat :=
  if 48 ≤ byte.toNat ∧ byte.toNat ≤ 57 then some (byte.toNat - 48) else none

/-- One decimal digit. -/
def oneDigit? : List UInt8 → Option Nat
  | [ones] => digit? ones
  | _ => none

/-- One or two decimal digits. -/
def decimal? : List UInt8 → Option Nat
  | [ones] => digit? ones
  | [tens, ones] => (digit? tens).bind fun tens => (digit? ones).map (10 * tens + ·)
  | _ => none

/-- A letter and a number, whatever its value. -/
def written : List UInt8 → Option Command
  | [] => none
  | letter :: digits =>
      if letter = 'S'.toUInt8 then (oneDigit? digits).map .spreadingFactor
      else if letter = 'B'.toUInt8 then (oneDigit? digits).map .bandwidth
      else if letter = 'C'.toUInt8 then (decimal? digits).map .frequencyChannel
      else if letter = 'P'.toUInt8 then (decimal? digits).map .txPower
      else none

/-- The commands that are meant: a letter and a number the setting can take. -/
def grammar (word : List UInt8) : Option Command :=
  (written word).filter (decide ·.InRange)

/-! ## What the parser makes of a command -/

/-- A call of one of the four setters. -/
inductive SetterCall where
  | setSpreadingFactor (value : EnumValue)
  | setBandwidth (value : EnumValue)
  | setFrequencyChannel (value : EnumValue)
  | setTxPower (value : Int8)
  deriving DecidableEq, Repr

namespace SetterCall

def run : SetterCall → NodeM Unit
  | .setSpreadingFactor value => Node.setSpreadingFactor value
  | .setBandwidth value => Node.setBandwidth value
  | .setFrequencyChannel value => Node.setFrequencyChannel value
  | .setTxPower value => Node.setTxPower value

/-- The setter takes the value. -/
def Accepted : SetterCall → Prop
  | .setSpreadingFactor value => value < numSpreadingFactors
  | .setBandwidth value => value < numSignalBandwidths
  | .setFrequencyChannel value => value < numFrequencyChannels
  | .setTxPower value => minTxPower ≤ value ∧ value ≤ maxTxPower

instance : DecidablePred Accepted
  | .setSpreadingFactor value => inferInstanceAs (Decidable (value < numSpreadingFactors))
  | .setBandwidth value => inferInstanceAs (Decidable (value < numSignalBandwidths))
  | .setFrequencyChannel value => inferInstanceAs (Decidable (value < numFrequencyChannels))
  | .setTxPower _ => inferInstanceAs (Decidable (_ ∧ _))

/-- The node after the call. -/
def outcome (call : SetterCall) (node : LoraPoint2Point) : LoraPoint2Point :=
  match call with
  | .setSpreadingFactor value => node.withSpreadingFactor value
  | .setBandwidth value => node.withBandwidth value
  | .setFrequencyChannel value => node.withFrequencyChannel value
  | .setTxPower value => node.withTxPower value

theorem outcome_of_refused {call : SetterCall} (refused : ¬ call.Accepted)
    (node : LoraPoint2Point) : call.outcome node = node := by
  cases call with
  | setSpreadingFactor value => exact if_pos (Nat.le_of_not_lt refused)
  | setBandwidth value => exact if_pos (Nat.le_of_not_lt refused)
  | setFrequencyChannel value => exact if_pos (Nat.le_of_not_lt refused)
  | setTxPower value =>
      apply if_pos
      rcases not_and_or.1 refused with low | high
      · exact Or.inr (Int8.not_le.1 low)
      · exact Or.inl (Int8.not_le.1 high)

end SetterCall

/-- The number taken from the bytes behind the letter, digits or not. -/
def uncheckedNumber (first : UInt8) : List UInt8 → Int
  | [] => digitOf first
  | second :: _ => digitOf first * 10 + digitOf second

/-- The call a command stands for. -/
def Command.call : Command → SetterCall
  | .spreadingFactor value => .setSpreadingFactor value
  | .bandwidth value => .setBandwidth value
  | .frequencyChannel value => .setFrequencyChannel value
  | .txPower value => .setTxPower (Int8.ofNat value)

/-- A command in range is accepted and sets what it names. -/
theorem Command.call_accepted {command : Command} (inRange : command.InRange) :
    command.call.Accepted := by
  cases command with
  | spreadingFactor value => exact Nat.lt_succ_of_le inRange
  | bandwidth value => exact Nat.lt_succ_of_le inRange
  | frequencyChannel value => exact Nat.lt_succ_of_le inRange
  | txPower value =>
      obtain ⟨low, high⟩ := inRange
      have small : value < 2 ^ 7 := by
        have limit : maxTxPower.toInt = 20 := rfl
        omega
      have same : (Int8.ofNat value).toInt = value := Int8.toInt_ofNat_of_lt small
      exact ⟨Int8.le_iff_toInt_le.2 (same ▸ low), Int8.le_iff_toInt_le.2 (same ▸ high)⟩

theorem SetterCall.outcome_of_accepted {command : Command} (accepted : command.call.Accepted)
    (node : LoraPoint2Point) :
    (command.call.outcome node).current = command.apply node.current := by
  cases command with
  | spreadingFactor value =>
      show (node.withSpreadingFactor value).current = _
      rw [LoraPoint2Point.withSpreadingFactor, if_neg (Nat.not_le_of_lt accepted)]
      rfl
  | bandwidth value =>
      show (node.withBandwidth value).current = _
      rw [LoraPoint2Point.withBandwidth, if_neg (Nat.not_le_of_lt accepted)]
      rfl
  | frequencyChannel value =>
      show (node.withFrequencyChannel value).current = _
      rw [LoraPoint2Point.withFrequencyChannel, if_neg (Nat.not_le_of_lt accepted)]
      rfl
  | txPower value =>
      show (node.withTxPower (Int8.ofNat value)).current = _
      rw [LoraPoint2Point.withTxPower,
        if_neg (not_or.2 ⟨Int8.not_lt.2 accepted.2, Int8.not_lt.2 accepted.1⟩)]
      rfl

/-- The call made for the characters of a command: two bytes at least, no check of
the bytes behind the letter, and no look at what follows them. -/
def uncheckedCall : List UInt8 → Option SetterCall
  | letter :: first :: rest =>
      if letter = 'S'.toUInt8 then some (.setSpreadingFactor (enumOfInt (digitOf first)))
      else if letter = 'B'.toUInt8 then some (.setBandwidth (enumOfInt (digitOf first)))
      else if letter = 'C'.toUInt8 then
        some (.setFrequencyChannel (enumOfInt (uncheckedNumber first rest)))
      else if letter = 'P'.toUInt8 then some (.setTxPower (uncheckedNumber first rest).toInt8)
      else none
  | _ => none

/-! ## The parser and the grammar -/

/-- The value of a digit is the difference the parser computes. -/
theorem digitOf_of_digit {byte : UInt8} {value : Nat} (digit : digit? byte = some value) :
    digitOf byte = value ∧ value ≤ 9 := by
  unfold digit? at digit
  split at digit
  · obtain rfl := Option.some.inj digit
    unfold digitOf
    omega
  · cases digit

/-- One or two digits are read as the number they write. -/
theorem value_of_decimal {first : UInt8} {rest : List UInt8} {value : Nat}
    (decimal : decimal? (first :: rest) = some value) :
    uncheckedNumber first rest = value ∧ value ≤ 99 := by
  cases rest with
  | nil =>
      obtain ⟨same, small⟩ := digitOf_of_digit decimal
      exact ⟨same, Nat.le_trans small (by decide)⟩
  | cons second rest =>
      cases rest with
      | nil =>
          obtain ⟨tens, isTens, mapped⟩ := Option.bind_eq_some_iff.1 decimal
          obtain ⟨ones, isOnes, rfl⟩ := Option.map_eq_some_iff.1 mapped
          obtain ⟨sameTens, smallTens⟩ := digitOf_of_digit isTens
          obtain ⟨sameOnes, smallOnes⟩ := digitOf_of_digit isOnes
          rw [uncheckedNumber, sameTens, sameOnes]
          omega
      | cons third rest => cases decimal

theorem enumOfInt_natCast {value : Nat} (small : value ≤ 99) : enumOfInt value = value := by
  show ((value : Int) % 256).toNat = value
  omega

/-- A command in range that is written as the grammar says makes its call. -/
theorem uncheckedCall_of_grammar {word : List UInt8} {command : Command}
    (meant : grammar word = some command) : uncheckedCall word = some command.call := by
  obtain ⟨isWritten, _⟩ := Option.filter_eq_some_iff.1 meant
  rcases word with _ | ⟨letter, _ | ⟨first, rest⟩⟩
  · cases isWritten
  · simp [written, oneDigit?, decimal?] at isWritten
  have oneByte {value : Nat} (isDigit : oneDigit? (first :: rest) = some value) :
      enumOfInt (digitOf first) = value := by
    rcases rest with _ | _
    · obtain ⟨same, small⟩ := digitOf_of_digit isDigit
      rw [same, enumOfInt_natCast (by omega)]
    · cases isDigit
  unfold written at isWritten
  unfold uncheckedCall
  dsimp only at isWritten ⊢
  split_ifs at isWritten ⊢
  · obtain ⟨value, isDigit, rfl⟩ := Option.map_eq_some_iff.1 isWritten
    rw [oneByte isDigit]
    rfl
  · obtain ⟨value, isDigit, rfl⟩ := Option.map_eq_some_iff.1 isWritten
    rw [oneByte isDigit]
    rfl
  · obtain ⟨value, isDecimal, rfl⟩ := Option.map_eq_some_iff.1 isWritten
    obtain ⟨same, small⟩ := value_of_decimal isDecimal
    rw [same, enumOfInt_natCast small]
    rfl
  · obtain ⟨value, isDecimal, rfl⟩ := Option.map_eq_some_iff.1 isWritten
    rw [(value_of_decimal isDecimal).1]
    rfl

/-! ## The command buffer -/

/-- The command buffer holds the characters of a command, as far as they fit. -/
def HoldsCommand (serialCmd : Message) (word : List UInt8) : Prop :=
  serialCmd.bytes = word.take maxMessageLen ∧
    serialCmd.bufLen.toNat = min word.length maxMessageLen

namespace HoldsCommand

variable {serialCmd : Message} {word : List UInt8}

theorem push (holds : HoldsCommand serialCmd word) (inputChar : UInt8) :
    HoldsCommand
      (if serialCmd.bufLen.toNat < maxMessageLen then serialCmd.push inputChar else serialCmd)
      (word ++ [inputChar]) := by
  obtain ⟨bytes, length⟩ := holds
  split
  · rename_i room
    obtain ⟨pushed, longer⟩ := Message.push_of_room inputChar room
    have short : word.length < maxMessageLen := by omega
    constructor
    · rw [pushed, bytes, List.take_of_length_le (by omega), List.take_of_length_le]
      rw [List.length_append, List.length_singleton]
      omega
    · rw [longer, length, List.length_append, List.length_singleton]
      omega
  · have full : maxMessageLen ≤ word.length := by omega
    constructor
    · rw [bytes, List.take_append_of_le_length full]
    · rw [length, List.length_append]
      omega

/-- The first cells hold the first characters. -/
theorem get (holds : HoldsCommand serialCmd word) {position : Nat} {byte : UInt8}
    (found : word[position]? = some byte) (small : position < maxMessageLen) :
    serialCmd.buf.get position = byte := by
  obtain ⟨bytes, length⟩ := holds
  have inside : position < word.length := (List.getElem?_eq_some_iff.1 found).1
  have cell : serialCmd.buf.cells[position]? = some byte := by
    have both := congrArg (·[position]?) bytes
    simp only [Message.bytes, Buffer.upTo] at both
    rw [List.getElem?_take_of_lt (by omega), List.getElem?_take_of_lt small, found] at both
    exact both
  unfold Buffer.get
  rw [List.getD_eq_getElem?_getD, cell, Option.getD_some]

theorem isShort_iff (holds : HoldsCommand serialCmd word) :
    serialCmd.bufLen = 2 ↔ word.length = 2 := by
  have length := holds.2
  have limit : maxMessageLen = 128 := rfl
  rw [← UInt8.toNat_inj, length]
  show min word.length maxMessageLen = 2 ↔ _
  omega

end HoldsCommand

/-- The switch makes the call of the characters typed. -/
theorem runSerialCmd_eq {node : LoraPoint2Point} {word : List UInt8}
    (holds : HoldsCommand node.serialCmd word) :
    runSerialCmd node = (match uncheckedCall word with
      | some call => call.run node
      | none => .done node ()) := by
  have long : 2 ≤ node.serialCmd.bufLen ↔ 2 ≤ word.length := by
    have length := holds.2
    have limit : maxMessageLen = 128 := rfl
    rw [UInt8.le_iff_toNat_le, length]
    show 2 ≤ min word.length maxMessageLen ↔ _
    omega
  rcases word with _ | ⟨letter, _ | ⟨first, rest⟩⟩
  · have short : ¬ 2 ≤ node.serialCmd.bufLen := mt long.1 (by decide)
    simp [runSerialCmd, short, uncheckedCall]
  · have short : ¬ 2 ≤ node.serialCmd.bufLen := mt long.1 (by simp)
    simp [runSerialCmd, short, uncheckedCall]
  have enough : 2 ≤ node.serialCmd.bufLen := long.2 (by simp)
  have zeroth : node.serialCmd.buf.get 0 = letter := holds.get rfl (by decide)
  have one : node.serialCmd.buf.get 1 = first := holds.get rfl (by decide)
  have number : commandValue node.serialCmd = uncheckedNumber first rest := by
    unfold commandValue
    rcases rest with _ | ⟨second, more⟩
    · rw [if_pos (holds.isShort_iff.2 rfl), one]
      rfl
    · have two : node.serialCmd.buf.get 2 = second := holds.get rfl (by decide)
      rw [if_neg (mt holds.isShort_iff.1 (by simp)), one, two]
      rfl
  simp only [runSerialCmd, Program.bind_apply, Program.get_apply, Resumption.bind_done, enough,
    ↓reduceIte, zeroth, one, number, uncheckedCall]
  split_ifs <;> rfl

/-! ## Feeding a command -/

/-- The mark an accepted value leaves in a run: every setter idles the radio before
it stores one. -/
def Action.accepts : Action → Bool
  | .rf95SetModeIdle => true
  | _ => false

/-- A setter has accepted a value somewhere in the run. -/
def setterAccepts (trace : List NodeStep) : Bool := trace.any (·.action.accepts)

/-- The contract that notices accepted values. -/
abbrev noticing : Contract LoraPoint2Point Action Action.Answer Bool :=
  Contract.watching fun accepted _ action _ => accepted || action.accepts

theorem noticing_after (accepted : Bool) (trace : List NodeStep) :
    noticing.after accepted trace = (accepted || setterAccepts trace) := by
  induction trace generalizing accepted with
  | nil => exact (Bool.or_false accepted).symm
  | cons step trace ih =>
      rw [Contract.after_cons, ih]
      show ((accepted || step.action.accepts) || setterAccepts trace) =
        (accepted || (step.action.accepts || setterAccepts trace))
      rw [Bool.or_assoc]

/-- The characters of a command behind the `'!'`. -/
def commandWord (typed : List UInt8) : List UInt8 :=
  typed.filter fun inputChar => inputChar ≠ carriageReturn ∧ inputChar ≠ exclamation

/-- A `'!'`, characters and a line feed. -/
def typedCommand (typed : List UInt8) : List SerialInput :=
  (exclamation :: (typed ++ [lineFeed])).map SerialInput.typed

section Feeding

variable {accepted : Bool} {node : LoraPoint2Point}

/-- Storing a value is noticed. -/
theorem storeSetting_noticed (store : LoraPoint2Point → LoraPoint2Point) :
    (storeSetting store node).Meets noticing
      (fun accepted later _ => accepted = true ∧ later = store node.resetPacketErrorFraction)
      accepted := by
  refine ⟨trivial, fun _ _ => ⟨trivial, fun _ _ => ⟨?_, rfl⟩⟩⟩
  show ((accepted || true) || false) = true
  rw [Bool.or_false, Bool.or_true]

theorem SetterCall.run_of_refused {call : SetterCall} (refused : ¬ call.Accepted) :
    call.run node = .done node () := by
  cases call with
  | setSpreadingFactor value => exact congrFun (if_pos (Nat.le_of_not_lt refused)) node
  | setBandwidth value => exact congrFun (if_pos (Nat.le_of_not_lt refused)) node
  | setFrequencyChannel value => exact congrFun (if_pos (Nat.le_of_not_lt refused)) node
  | setTxPower value =>
      have outside : maxTxPower < value ∨ value < minTxPower := by
        rcases not_and_or.1 refused with low | high
        · exact Or.inr (Int8.not_le.1 low)
        · exact Or.inl (Int8.not_le.1 high)
      exact congrFun (if_pos outside) node

/-- A setter that takes the value is noticed, and leaves its outcome. -/
theorem SetterCall.run_noticed {call : SetterCall} (takes : call.Accepted) :
    (call.run node).Meets noticing
      (fun accepted later _ => accepted = true ∧ later = call.outcome node) accepted := by
  cases call with
  | setSpreadingFactor value =>
      have inside : ¬ numSpreadingFactors ≤ value := Nat.not_le_of_lt takes
      show (Node.setSpreadingFactor value node).Meets noticing
        (fun accepted later _ => accepted = true ∧ later = node.withSpreadingFactor value) accepted
      rw [Node.setSpreadingFactor, LoraPoint2Point.withSpreadingFactor, if_neg inside,
        if_neg inside]
      exact ⟨trivial, fun _ _ => ⟨trivial, fun _ _ => storeSetting_noticed _⟩⟩
  | setBandwidth value =>
      have inside : ¬ numSignalBandwidths ≤ value := Nat.not_le_of_lt takes
      show (Node.setBandwidth value node).Meets noticing
        (fun accepted later _ => accepted = true ∧ later = node.withBandwidth value) accepted
      rw [Node.setBandwidth, LoraPoint2Point.withBandwidth, if_neg inside, if_neg inside]
      exact ⟨trivial, fun _ _ => ⟨trivial, fun _ _ => storeSetting_noticed _⟩⟩
  | setFrequencyChannel value =>
      have inside : ¬ numFrequencyChannels ≤ value := Nat.not_le_of_lt takes
      show (Node.setFrequencyChannel value node).Meets noticing
        (fun accepted later _ => accepted = true ∧ later = node.withFrequencyChannel value) accepted
      rw [Node.setFrequencyChannel, LoraPoint2Point.withFrequencyChannel, if_neg inside,
        if_neg inside]
      refine ⟨trivial, fun _ _ => ⟨trivial, fun ok _ => ?_⟩⟩
      cases ok with
      | true => exact storeSetting_noticed _
      | false =>
          refine ⟨trivial, ?_⟩
          rintro ⟨⟩
  | setTxPower value =>
      have inside : ¬ (maxTxPower < value ∨ value < minTxPower) :=
        not_or.2 ⟨Int8.not_lt.2 takes.2, Int8.not_lt.2 takes.1⟩
      show (Node.setTxPower value node).Meets noticing
        (fun accepted later _ => accepted = true ∧ later = node.withTxPower value) accepted
      rw [Node.setTxPower, LoraPoint2Point.withTxPower, if_neg inside, if_neg inside]
      exact ⟨trivial, fun _ _ => storeSetting_noticed _⟩

/-- One character of a command, other than the line feed. -/
theorem commandByte_noticed {inputChar : UInt8} (goesOn : inputChar ≠ lineFeed)
    (mode : node.serialCommandMode = true) {word : List UInt8}
    (holds : HoldsCommand node.serialCmd word) :
    ((SerialInput.typed inputChar).run node).Meets noticing
      (fun seen later _ => seen = accepted ∧ ∃ serialCmd,
        later = { node with serialCmd := serialCmd } ∧
          HoldsCommand serialCmd (word ++ commandWord [inputChar])) accepted := by
  have same : { node with serialCommandMode := true } = node := by rw [← mode]
  rw [SerialInput.typed_run, buildStringFromSerialInner_command (Or.inl mode), same]
  by_cases keeps : inputChar ≠ carriageReturn ∧ inputChar ≠ exclamation
  · have kept : commandWord [inputChar] = [inputChar] := by simp [commandWord, keeps]
    have grown := holds.push inputChar
    rw [kept]
    by_cases room : node.serialCmd.bufLen.toNat < maxMessageLen
    · rw [if_pos room] at grown
      have step : commandCharacter inputChar node =
          .ask node (.index .serialCmdBuf node.serialCmd.bufLen.toNat maxMessageLen) fun _ =>
            .done { node with serialCmd := node.serialCmd.push inputChar } () := by
        simp [commandCharacter, pushSerialCmd, whenever, goesOn, keeps, room]
      rw [step]
      exact ⟨trivial, fun _ _ => ⟨Bool.or_false accepted, _, rfl, grown⟩⟩
    · rw [if_neg room] at grown
      have step : commandCharacter inputChar node = .done node () := by
        simp [commandCharacter, whenever, goesOn, room]
      rw [step]
      exact ⟨rfl, node.serialCmd, rfl, grown⟩
  · have skipped : commandWord [inputChar] = [] := by simp [commandWord, keeps]
    have step : commandCharacter inputChar node = .done node () := by
      rcases Classical.or_iff_not_imp_left.2 fun other => not_not.1 (not_and.1 keeps other) with
        returns | opens
      · subst returns
        simp [commandCharacter, whenever, goesOn]
      · subst opens
        simp [commandCharacter, whenever, goesOn]
    rw [step, skipped, List.append_nil]
    exact ⟨rfl, node.serialCmd, rfl, holds⟩

theorem commandBytes_noticed {typed : List UInt8} (goesOn : lineFeed ∉ typed)
    (mode : node.serialCommandMode = true) {word : List UInt8}
    (holds : HoldsCommand node.serialCmd word) :
    (feed (typed.map SerialInput.typed) node).Meets noticing
      (fun seen later _ => seen = accepted ∧ ∃ serialCmd,
        later = { node with serialCmd := serialCmd } ∧
          HoldsCommand serialCmd (word ++ commandWord typed)) accepted := by
  induction typed generalizing node word with
  | nil =>
      refine ⟨rfl, node.serialCmd, rfl, ?_⟩
      rw [commandWord, List.filter_nil, List.append_nil]
      exact holds
  | cons inputChar typed ih =>
      obtain ⟨first, others⟩ := not_or.1 (mt List.mem_cons.2 goesOn)
      refine Resumption.Meets.bind_iff.2 ?_
      refine (commandByte_noticed (Ne.symm first) mode holds).mono ?_
      rintro _ _ _ ⟨rfl, serialCmd, rfl, grown⟩
      have split : word ++ commandWord (inputChar :: typed) =
          (word ++ commandWord [inputChar]) ++ commandWord typed := by
        rw [List.append_assoc, commandWord, commandWord, commandWord, ← List.filter_append]
        rfl
      rw [split]
      let later : LoraPoint2Point := { node with serialCmd := serialCmd }
      have reading : later.serialCommandMode = true := mode
      have holding : HoldsCommand later.serialCmd (word ++ commandWord [inputChar]) := grown
      exact ih others reading holding

/-- Only the command buffer and the serial mode differ. -/
def SameLink (later node : LoraPoint2Point) : Prop :=
  later.current = node.current ∧ later.previous = node.previous ∧
    later.packetErrorFraction = node.packetErrorFraction ∧
      later.packetCount = node.packetCount ∧ later.packetErrorCount = node.packetErrorCount

/-- A setter does not look at the command buffer or the serial mode. -/
theorem SetterCall.outcome_frame (call : SetterCall) (node : LoraPoint2Point) (mode : Bool)
    (serialCmd : Message) :
    SameLink (call.outcome { node with serialCommandMode := mode, serialCmd := serialCmd })
      (call.outcome node) := by
  by_cases takes : call.Accepted
  · cases call with
    | setSpreadingFactor value =>
        simp only [outcome, LoraPoint2Point.withSpreadingFactor, if_neg (Nat.not_le_of_lt takes)]
        exact ⟨rfl, rfl, rfl, rfl, rfl⟩
    | setBandwidth value =>
        simp only [outcome, LoraPoint2Point.withBandwidth, if_neg (Nat.not_le_of_lt takes)]
        exact ⟨rfl, rfl, rfl, rfl, rfl⟩
    | setFrequencyChannel value =>
        simp only [outcome, LoraPoint2Point.withFrequencyChannel,
          if_neg (Nat.not_le_of_lt takes)]
        exact ⟨rfl, rfl, rfl, rfl, rfl⟩
    | setTxPower value =>
        simp only [outcome, LoraPoint2Point.withTxPower,
          if_neg (not_or.2 ⟨Int8.not_lt.2 takes.2, Int8.not_lt.2 takes.1⟩)]
        exact ⟨rfl, rfl, rfl, rfl, rfl⟩
  · rw [outcome_of_refused takes, outcome_of_refused takes]
    exact ⟨rfl, rfl, rfl, rfl, rfl⟩

theorem SameLink.trans {last later first : LoraPoint2Point} (late : SameLink last later)
    (early : SameLink later first) : SameLink last first := by
  obtain ⟨current, previous, fraction, count, errors⟩ := late
  exact ⟨current.trans early.1, previous.trans early.2.1, fraction.trans early.2.2.1,
    count.trans early.2.2.2.1, errors.trans early.2.2.2.2⟩

/-- What a finished command has done: the call made for its characters, if its
value was accepted, and nothing otherwise. -/
def Carried (word : List UInt8) (node : LoraPoint2Point) (accepted : Bool)
    (later : LoraPoint2Point) : Prop :=
  match uncheckedCall word with
  | some call => accepted = decide call.Accepted ∧ SameLink later (call.outcome node)
  | none => accepted = false ∧ SameLink later node

/-- The line feed carries the command out. -/
theorem lineFeed_noticed (mode : node.serialCommandMode = true) {word : List UInt8}
    (holds : HoldsCommand node.serialCmd word) :
    ((SerialInput.typed lineFeed).run node).Meets noticing
      (fun accepted later _ => Carried word node accepted later) false := by
  have same : { node with serialCommandMode := true } = node := by rw [← mode]
  have step : commandCharacter lineFeed node = (runSerialCmd node).bind fun later _ =>
      .done { later with serialCmd.bufLen := 0, serialCommandMode := false } () := by
    simp [commandCharacter, whenever]
  rw [SerialInput.typed_run, buildStringFromSerialInner_command (Or.inl mode), same, step,
    runSerialCmd_eq holds]
  simp only [Resumption.bind_assoc]
  refine Resumption.Meets.bind_iff.2 ?_
  unfold Carried
  cases uncheckedCall word with
  | none => exact ⟨rfl, rfl, rfl, rfl, rfl, rfl⟩
  | some call =>
      by_cases takes : call.Accepted
      · refine (call.run_noticed takes).mono ?_
        rintro _ _ _ ⟨rfl, rfl⟩
        exact ⟨(decide_eq_true takes).symm, rfl, rfl, rfl, rfl, rfl⟩
      · dsimp only
        rw [SetterCall.run_of_refused takes, SetterCall.outcome_of_refused takes]
        exact ⟨(decide_eq_false takes).symm, rfl, rfl, rfl, rfl, rfl⟩

/-- A whole command, from an empty buffer on. -/
theorem typedCommand_noticed (empty : node.serialCmd.bufLen = 0) {typed : List UInt8}
    (goesOn : lineFeed ∉ typed) :
    (feed (typedCommand typed) node).Meets noticing
      (fun accepted later _ => Carried (commandWord typed) node accepted later) false := by
  have holds : HoldsCommand node.serialCmd [] := by
    constructor
    · rw [Message.bytes, empty]
      rfl
    · rw [empty]
      rfl
  have opened : (SerialInput.typed exclamation).run node =
      .done { node with serialCommandMode := true } () := by
    have step : commandCharacter exclamation { node with serialCommandMode := true } =
        .done { node with serialCommandMode := true } () := by
      have other : exclamation ≠ lineFeed := by decide
      simp [commandCharacter, whenever, other]
    rw [SerialInput.typed_run, buildStringFromSerialInner_command (Or.inr rfl), step]
    rfl
  let reading : LoraPoint2Point := { node with serialCommandMode := true }
  have whole : feed (typedCommand typed) node =
      (feed (typed.map SerialInput.typed) reading).bind
        fun later _ => (SerialInput.typed lineFeed).run later := by
    have last : feed [SerialInput.typed lineFeed] = (SerialInput.typed lineFeed).run := by
      funext later
      exact Resumption.bind_done_value _
    have parts : feed ((typed ++ [lineFeed]).map SerialInput.typed) =
        feed (typed.map SerialInput.typed) >>= fun _ => feed [SerialInput.typed lineFeed] := by
      rw [List.map_append]
      exact feed_append _ _
    calc feed (typedCommand typed) node
        = ((SerialInput.typed exclamation).run node).bind fun later _ =>
            feed ((typed ++ [lineFeed]).map SerialInput.typed) later := rfl
      _ = feed ((typed ++ [lineFeed]).map SerialInput.typed) reading := by rw [opened]; rfl
      _ = _ := by rw [parts, last]; rfl
  rw [whole]
  have started : HoldsCommand reading.serialCmd [] := holds
  refine Resumption.Meets.bind_iff.2 ((commandBytes_noticed goesOn rfl started).mono ?_)
  rintro _ _ _ ⟨rfl, serialCmd, rfl, grown⟩
  rw [List.nil_append] at grown
  let later : LoraPoint2Point := { reading with serialCmd := serialCmd }
  have holding : HoldsCommand later.serialCmd (commandWord typed) := grown
  refine (lineFeed_noticed rfl holding).mono ?_
  intro accepted last _ carried
  unfold Carried at carried ⊢
  cases made : uncheckedCall (commandWord typed) with
  | none =>
      rw [made] at carried
      exact carried
  | some call =>
      rw [made] at carried
      have frame : SameLink (call.outcome later) (call.outcome node) :=
        call.outcome_frame node true serialCmd
      exact ⟨carried.1, carried.2.trans frame⟩

end Feeding

/-! ## Between two commands -/

/-- An invariant of the command buffer and the serial mode alone. -/
def Serially (holds : Message → Bool → Prop) (_ : Bool) (node : LoraPoint2Point) : Prop :=
  holds node.serialCmd node.serialCommandMode

/-- Outside command mode the command buffer is empty. -/
abbrev EmptyOutside : Bool → LoraPoint2Point → Prop :=
  Serially fun serialCmd mode => mode = false → serialCmd.bufLen = 0

section Emptied

variable {contract : Contract LoraPoint2Point Action Action.Answer Bool}

/-- No action disturbs what is known of the command buffer and the serial mode, if the
buffer is known to be empty outside command mode. -/
def Serial (contract : Contract LoraPoint2Point Action Action.Answer Bool) : Prop :=
  ∀ holds : Message → Bool → Prop,
    (∀ ghost node, Serially holds ghost node → EmptyOutside ghost node) →
      ∀ action, Keeps contract (Serially holds) (perform action)

namespace Serial

theorem ignores (serial : Serial contract) {holds : Message → Bool → Prop}
    (empty : ∀ ghost node, Serially holds ghost node → EmptyOutside ghost node) :
    Ignores contract (Serially holds) where
  perform action _ _ := serial holds empty action
  state _ node later _ _ same mode kept := by
    show holds later.serialCmd later.serialCommandMode
    rw [same, mode]
    exact kept

theorem empties (serial : Serial contract) : Ignores contract EmptyOutside :=
  serial.ignores fun _ _ => id

theorem drafts {holds : Message → Bool → Prop} : Drafts (Serially holds) where
  txMsg _ _ _ := id

/-- A character of a command either leaves the command open or empties its buffer. -/
theorem commandCharacter (serial : Serial contract) (inputChar : UInt8) :
    Triple contract (Serially fun _ mode => mode = true) (commandCharacter inputChar)
      fun _ => EmptyOutside := by
  have reading : ∀ ghost node, Serially (fun _ mode => mode = true) ghost node →
      EmptyOutside ghost node := fun _ _ open_ closed => absurd (open_.symm.trans closed) nofun
  have ignores := serial.ignores reading
  refine Triple.get_bind fun _ => Triple.pre ?_ fun _ _ => And.left
  have grown : Keeps contract (Serially fun _ mode => mode = true) (pushSerialCmd inputChar) :=
    Keeps.get_bind fun _ => (serial _ reading _).bind fun _ => Keeps.update fun _ _ => id
  refine Triple.bind (whenever_keeps grown) fun _ => Triple.ite (fun _ => ?_) fun _ => ?_
  · have run : Keeps contract (Serially fun _ mode => mode = true) runSerialCmd :=
      Types.runSerialCmd ignores.settles
    exact Triple.bind run fun _ => Triple.update fun _ _ _ _ => rfl
  · exact Triple.pure () reading

theorem buildStringFromSerialInner (serial : Serial contract) (inputChar : UInt8) :
    Keeps contract EmptyOutside (buildStringFromSerialInner inputChar) := by
  have opened : Keeps contract EmptyOutside
      (whenever (inputChar = exclamation)
        (modify fun node => { node with serialCommandMode := true })) :=
    whenever_keeps (Keeps.update fun _ _ _ closed => nomatch closed)
  refine Keeps.bind opened fun _ => Triple.get_bind fun known => Triple.ite (fun command => ?_) ?_
  · have reading : Triple contract
        (fun ghost node => EmptyOutside ghost node ∧ node = known)
        (Node.commandCharacter inputChar) fun _ => EmptyOutside := by
      apply (serial.commandCharacter inputChar).pre
      rintro _ node ⟨_, rfl⟩
      exact command
    exact reading.bind fun _ => Keeps.pure 0
  · intro _
    apply Triple.pre _ fun _ _ => And.left
    exact (drafts.texts serial.empties.carries.toEmits
      fun _ _ _ => serial _ (fun _ _ => id) _).textCharacter inputChar

theorem buildStringFromSerial (serial : Serial contract) (pending : List UInt8) :
    Keeps contract EmptyOutside (buildStringFromSerial pending) := by
  refine (serial _ (fun _ _ => id) _).bind fun unassigned => ?_
  exact Keeps.foldlM (fun _ inputChar => serial.buildStringFromSerialInner inputChar) _ _

end Serial

end Emptied

theorem serial_noticing : Serial noticing :=
  fun _ _ _ _ _ kept => ⟨trivial, fun _ _ => kept⟩

/-- In every reachable state outside command mode the command buffer is empty. -/
theorem Reachable.emptyOutside {node : LoraPoint2Point} (reachable : Reachable node)
    (text : node.serialCommandMode = false) : node.serialCmd.bufLen = 0 := by
  obtain ⟨thisAddress, operations, trace, run⟩ := reachable
  have empties : Ignores noticing EmptyOutside := serial_noticing.empties
  have reads : ReadsAnywhere noticing EmptyOutside :=
    fun _ _ _ => serial_noticing _ (fun _ _ => id) _
  have reception : Keeps noticing EmptyOutside recvfromAckTimeout :=
    fun _ _ kept => ⟨trivial, fun _ _ => kept⟩
  have endures : Endures noticing EmptyOutside := {
    carries := empties.carries.toTransmits
    settles := empties.settles
    texts := Serial.drafts.texts empties.carries.toEmits reads
    buildStringFromSerial := serial_noticing.buildStringFromSerial
    serviceTimers := empties.indifferent.serviceTimers
    serviceRx := empties.indifferent.serviceRx empties.settles reads reception fun _ _ => id
    linkChangeReq := fun destAddress settings =>
      empties.indifferent.linkChangeReq empties.settles destAddress (reads.printSettings settings) }
  have start : EmptyOutside false (LoraPoint2Point.initial thisAddress) := fun _ => rfl
  have meets := endures.session operations false _ start
  exact meets.runs run (Contract.watching_allows _ trace) text

/-! ## Exactly the commands that are read as meant -/

/-- A command is carried out as the grammar says: its setting takes its value, or,
if it is none, no setter accepts anything and settings and statistics stay. -/
def Obeys (word : List UInt8) (node later : LoraPoint2Point) (accepted : Bool) : Prop :=
  match grammar word with
  | some command => accepted = true ∧ later.current = command.apply node.current
  | none => accepted = false ∧ SameLink later node

/-- If the characters are no command, the number taken from them is none a setter
accepts. -/
def ReadAsMeant (word : List UInt8) : Prop :=
  grammar word = none → ∀ call ∈ uncheckedCall word, ¬ call.Accepted

instance (word : List UInt8) : Decidable (ReadAsMeant word) :=
  inferInstanceAs (Decidable (_ → _))

theorem obeys_iff_of_carried {word : List UInt8} {node later : LoraPoint2Point}
    {accepted : Bool} (carried : Carried word node accepted later) :
    Obeys word node later accepted ↔ ReadAsMeant word := by
  unfold Obeys ReadAsMeant
  cases meant : grammar word with
  | some command =>
      have takes : command.call.Accepted :=
        Command.call_accepted (of_decide_eq_true (Option.filter_eq_some_iff.1 meant).2)
      unfold Carried at carried
      rw [uncheckedCall_of_grammar meant] at carried
      obtain ⟨noticed, same⟩ := carried
      have set := same.1.trans (SetterCall.outcome_of_accepted takes node)
      exact iff_of_true ⟨noticed.trans (decide_eq_true takes), set⟩ nofun
  | none =>
      unfold Carried at carried
      cases made : uncheckedCall word with
      | none =>
          rw [made] at carried
          exact iff_of_true carried nofun
      | some call =>
          rw [made] at carried
          obtain ⟨noticed, same⟩ := carried
          constructor
          · rintro ⟨unnoticed, _⟩ _ _ ⟨⟩
            exact of_decide_eq_false (noticed.symm.trans unnoticed)
          · intro refuses
            have refused := refuses rfl call rfl
            rw [SetterCall.outcome_of_refused refused] at same
            exact ⟨noticed.trans (decide_eq_false refused), same⟩

/-- Fed to a node in any reachable state outside command mode, a typed command is
carried out as the grammar says exactly if it is a command or the number taken from
it, without a check of its bytes, is out of range. -/
theorem command_obeyed_iff (node : LoraPoint2Point) (typed : List UInt8)
    (trace : List NodeStep) (later : LoraPoint2Point) (reachable : Reachable node)
    (text : node.serialCommandMode = false) (goesOn : lineFeed ∉ typed)
    (run : Resumption.Runs (feed (typedCommand typed) node) trace (.done later ())) :
    Obeys (commandWord typed) node later (setterAccepts trace) ↔
      ReadAsMeant (commandWord typed) := by
  have meets := typedCommand_noticed (reachable.emptyOutside text) goesOn
  have carried := meets.runs run (Contract.watching_allows _ trace)
  rw [noticing_after, Bool.false_or] at carried
  exact obeys_iff_of_carried carried

/-- A node just set up, and a command typed to it. -/
def typing (typed : List UInt8) : LoraPoint2Point × (List NodeStep × NodeRun Unit) :=
  let node := (Surroundings.run {} [] 1).2.state
  (node, Resumption.drive ({} : Surroundings).answer 0 (feed (typedCommand typed) node))

theorem typing_reachable (typed : List UInt8) : Reachable (typing typed).1 :=
  ⟨1, [], _, Surroundings.run_runs {} [] 1⟩

/-- `S3` sets the fourth spreading factor. -/
theorem command_obeyed_iff_spreadingFactor :
    Obeys [83, 51] (typing [83, 51]).1 (typing [83, 51]).2.2.state
      (setterAccepts (typing [83, 51]).2.1) :=
  (command_obeyed_iff (typing [83, 51]).1 [83, 51] (typing [83, 51]).2.1 _
    (typing_reachable [83, 51]) (by decide) (by decide) (Resumption.drive_runs _ _ _)).2 (by decide)

/-- `S3x` sets it as well. -/
theorem trailing_character_ignored :
    ¬ ∀ (node : LoraPoint2Point) (typed : List UInt8) (trace : List NodeStep)
      (later : LoraPoint2Point),
      Reachable node → node.serialCommandMode = false → lineFeed ∉ typed →
      Resumption.Runs (feed (typedCommand typed) node) trace (.done later ()) →
        Obeys (commandWord typed) node later (setterAccepts trace) := by
  intro always
  have obeys := always (typing [83, 51, 120]).1 [83, 51, 120] (typing [83, 51, 120]).2.1 _
    (typing_reachable _) (by decide) (by decide) (Resumption.drive_runs _ _ _)
  exact absurd obeys.1 (by decide)

end Roam.Node
