import Mathlib.Data.Nat.Digits.Lemmas
import Roam.Data.Separated
import Roam.RangeTest.Log

/-!
# Rows as bytes

A row is written as eleven columns with commas in between and a line end behind.
Ten of the columns are numbers or empty.  The eleventh is the payload as it is, so
that a payload with a comma or a line end in it cannot be read back.
-/

namespace Roam.RangeTest

open Roam.Data
open Roam.Interaction
open Roam.Node

/-! ## Numbers -/

/-- A digit of `printNumber`. -/
def digit (value : Nat) : UInt8 := UInt8.ofNat (if value < 10 then value + 48 else value + 55)

/-- `print(value, base)` of an unsigned number. -/
def printNumber (base value : Nat) : List UInt8 :=
  if value = 0 then [48] else ((Nat.digits base value).reverse).map digit

/-- `print(value)` of a signed number. -/
def printInt (value : Int) : List UInt8 :=
  (if value < 0 then [45] else []) ++ printNumber 10 value.natAbs

/-! ## Rows -/

/-- `','`. -/
def comma : UInt8 := 44

/-- `println()`. -/
def lineEnd : List UInt8 := [13, 10]

def dataFileHeader : String :=
  "Timestamp,Source Address,Destination Address,Message ID,Message Flags,Acknowleged,Message," ++
    "spreadingFactor,signalBandwidth,frequencyChannel,txPower"

/-- The names of the columns. -/
def columnNames : List (List UInt8) := dataFileHeader.toUTF8.toList.splitOn comma

/-- Where the payload stands. -/
def messageColumn : Nat := columnNames.idxOf "Message".toUTF8.toList

namespace Row

/-- What is printed between the commas.  Addresses are hexadecimal. -/
def columns (row : Row) : List (List UInt8) :=
  [printNumber 10 row.timestamp.toNat, printNumber 16 row.srcAddr.toNat,
    printNumber 16 row.destAddr.toNat, printNumber 10 row.msgType.toNat,
    (row.flags.map fun flags => printNumber 10 flags.toNat).getD [],
    printNumber 10 row.ack.toNat, row.message,
    printNumber 10 row.settings.spreadingFactor, printNumber 10 row.settings.signalBandwidth,
    printNumber 10 row.settings.frequencyChannel, printInt row.settings.txPower.toInt]

/-- The bytes a row is written as. -/
def print (row : Row) : List UInt8 := [comma].intercalate row.columns ++ lineEnd

end Row

/-- The bytes are a single line with a column for each name, and the payload stands
in its own. -/
def ReadsBack (written message : List UInt8) : Prop :=
  ∃ line, written = line ++ lineEnd ∧ (∀ byte ∈ line, byte ∉ lineEnd) ∧
    (line.splitOn comma).length = columnNames.length ∧
    (line.splitOn comma)[messageColumn]? = some message

/-- No byte is a comma or a line end. -/
def Plain (bytes : List UInt8) : Prop := ∀ byte ∈ bytes, byte ≠ comma ∧ byte ∉ lineEnd

instance : DecidablePred Plain := fun bytes =>
  List.decidableBAll (fun byte => byte ≠ comma ∧ byte ∉ lineEnd) bytes

theorem columnNames_length : columnNames.length = 11 := by decide +kernel

theorem messageColumn_eq : messageColumn = 6 := by decide +kernel

/-! ## Numbers are plain -/

theorem digit_plain : ∀ value < 16, digit value ≠ comma ∧ digit value ∉ lineEnd := by decide

theorem printNumber_plain {base : Nat} (least : 2 ≤ base) (most : base ≤ 16) (value : Nat) :
    Plain (printNumber base value) := by
  unfold printNumber
  split
  · decide
  · intro byte member
    obtain ⟨value, digits, rfl⟩ := List.mem_map.1 member
    have small := Nat.digits_lt_base least (List.mem_reverse.1 digits)
    exact digit_plain value (small.trans_le most)

theorem printInt_plain (value : Int) : Plain (printInt value) := by
  have sign : Plain (if value < 0 then [45] else []) := by split <;> decide
  exact List.forall_mem_append.2 ⟨sign, printNumber_plain (by decide) (by decide) _⟩

namespace Row

/-- The columns next to the payload are numbers or empty. -/
theorem columns_plain (row : Row) (plain : Plain row.message) :
    ∀ column ∈ row.columns, Plain column := by
  have decimal : ∀ value, Plain (printNumber 10 value) :=
    printNumber_plain (by decide) (by decide)
  have hexadecimal : ∀ value, Plain (printNumber 16 value) :=
    printNumber_plain (by decide) (by decide)
  have flags : Plain ((row.flags.map fun flags => printNumber 10 flags.toNat).getD []) := by
    cases row.flags with
    | none => exact nofun
    | some flags => exact decimal _
  simp only [columns, List.forall_mem_cons]
  exact ⟨decimal _, hexadecimal _, hexadecimal _, decimal _, flags, decimal _, plain, decimal _,
    decimal _, decimal _, printInt_plain _, nofun⟩

theorem message_mem (row : Row) : row.message ∈ row.columns := by simp [columns]

theorem columns_ne_nil (row : Row) : row.columns ≠ [] := List.cons_ne_nil _ _

/-- The line ends in a row without its own end are those of its columns. -/
theorem ends_mem_iff (row : Row) {byte : UInt8} (ends : byte ∈ lineEnd) :
    byte ∈ [comma].intercalate row.columns ↔ ∃ column ∈ row.columns, byte ∈ column := by
  refine mem_intercalate_iff comma ?_ row.columns
  rintro rfl
  exact absurd ends (by decide)

end Row

/-- A row can be read back exactly if its payload is free of commas and line ends. -/
theorem Row.readsBack_iff (row : Row) : ReadsBack row.print row.message ↔ Plain row.message := by
  have eleven : row.columns.length = columnNames.length := columnNames_length.symm
  constructor
  · rintro ⟨line, same, single, columns, _⟩ byte member
    obtain rfl := List.append_cancel_right same
    refine ⟨?_, fun ends => ?_⟩
    · rintro rfl
      rw [← eleven, length_splitOn_intercalate_iff comma row.columns_ne_nil] at columns
      exact columns _ row.message_mem member
    · exact single byte ((row.ends_mem_iff ends).2 ⟨_, row.message_mem, member⟩) ends
  · intro plain
    have clean := row.columns_plain plain
    have fields : ([comma].intercalate row.columns).splitOn comma = row.columns := by
      refine List.splitOn_intercalate comma (fun column member inside => ?_) row.columns_ne_nil
      exact (clean column member comma inside).1 rfl
    refine ⟨_, rfl, fun byte member ends => ?_, ?_, ?_⟩
    · obtain ⟨column, listed, inside⟩ := (row.ends_mem_iff ends).1 member
      exact (clean column listed byte inside).2 ends
    · rw [fields, eleven]
    · rw [fields, messageColumn_eq]
      rfl

/-- In a message of the link change dialogue two channels and two powers are line ends. -/
theorem encode_plain_iff {settings : Settings} (valid : settings.Valid) :
    Plain settings.encode ↔
      (settings.frequencyChannel ≠ 10 ∧ settings.frequencyChannel ≠ 13) ∧
        settings.txPower ≠ 10 ∧ settings.txPower ≠ 13 := by
  obtain ⟨spreadingFactor, signalBandwidth, frequencyChannel, txPower⟩ := valid
  have low : ∀ value < 10, UInt8.ofNat value ≠ comma ∧ UInt8.ofNat value ∉ lineEnd := by decide
  have channel : ∀ value < 16,
      (UInt8.ofNat value ≠ comma ∧ UInt8.ofNat value ∉ lineEnd) ↔ value ≠ 10 ∧ value ≠ 13 := by
    decide
  have power : ∀ txPower : Int8, minTxPower ≤ txPower ∧ txPower ≤ maxTxPower →
      ((txPower.toUInt8 ≠ comma ∧ txPower.toUInt8 ∉ lineEnd) ↔ txPower ≠ 10 ∧ txPower ≠ 13) :=
    forall_power (by decide +kernel)
  rw [Plain, Settings.encode, List.forall_mem_cons, List.forall_mem_cons, List.forall_mem_cons,
    List.forall_mem_singleton, channel _ frequencyChannel, power _ txPower]
  have first := low _ (spreadingFactor.trans (by decide))
  have second := low _ (signalBandwidth.trans (by decide))
  exact ⟨fun plain => plain.2.2, fun clean => ⟨first, second, clean⟩⟩

/-! ## The callbacks -/

/-- The bytes of the message an action logs. -/
def payload? : Node.Action → Option (List UInt8)
  | .txInd payload _ _ => some payload
  | .rxInd rxMsg => some rxMsg.bytes
  | _ => none

/-- What an action adds to the data file. -/
def Action.written : Action → List UInt8
  | .printRow row => row.print
  | _ => []

/-- The data file can be opened. -/
def Opens : (action : Action) → action.Answer → Prop
  | .openDataFile, opened => opened = true
  | _, _ => True

/-- The contract that collects what is written to a card that can be opened. -/
def writing : Contract Base Action Action.Answer (List UInt8) where
  require _ _ _ := True
  allow _ _ := Opens
  record bytes _ action _ := bytes ++ action.written

/-- What a run adds to the data file. -/
def written (trace : List (Step Base Action Action.Answer)) : List UInt8 :=
  trace.flatMap fun step => step.action.written

theorem writing_after (bytes : List UInt8) (trace : List (Step Base Action Action.Answer)) :
    writing.after bytes trace = bytes ++ written trace := by
  induction trace generalizing bytes with
  | nil => exact (List.append_nil bytes).symm
  | cons step trace ih =>
      rw [Contract.after_cons, ih]
      exact List.append_assoc bytes step.action.written (written trace)

theorem writing_allows_iff (bytes : List UInt8) (trace : List (Step Base Action Action.Answer)) :
    writing.Allows bytes trace ↔ ∀ step ∈ trace, Opens step.action step.answer :=
  writing.allows_iff (fun _ _ _ _ => Iff.rfl) bytes trace

/-- A single row is written. -/
theorem logRow_writes {row : UInt32 → Base → Row} (message : List UInt8)
    (shows : ∀ now base, (row now base).message = message) (base : Base) :
    (logRow row base).Meets writing
      (fun bytes _ _ => ∃ shown : Row, shown.message = message ∧ bytes = shown.print) [] := by
  refine ⟨trivial, ?_⟩
  rintro _ rfl
  exact ⟨trivial, fun now _ => ⟨trivial, fun _ _ => ⟨row now base, shows now base, rfl⟩⟩⟩

/-- The row of a logged message shows its bytes behind the first. -/
theorem callbacks_write {action : Node.Action} {payload : List UInt8}
    (message : payload? action = some payload) (base : Base) :
    (callbacks action base).Meets writing
      (fun bytes _ _ => ∃ row : Row, row.message = payload.drop 1 ∧ bytes = row.print) [] := by
  cases action
  case txInd payload destAddr ack =>
    cases message
    refine ⟨trivial, fun _ _ => ?_⟩
    show (txInd payload destAddr ack base).Meets writing _ []
    refine Resumption.Meets.bind_iff.2 ((logRow_writes (payload.drop 1) ?_ base).mono ?_)
    · exact fun _ _ => rfl
    · intro bytes _ _ found
      cases ack <;> exact found
  case rxInd rxMsg =>
    cases message
    refine ⟨trivial, fun _ _ => ?_⟩
    show (rxInd rxMsg base).Meets writing _ []
    refine logRow_writes (rxMsg.bytes.drop 1) ?_ base
    exact fun _ _ => rfl
  all_goals cases message

/-- Whatever message the object has for the sketch, what the sketch writes of it can be
read back exactly if none of its bytes behind the first is a comma or a line end. -/
theorem log_readsBack_iff {action : Node.Action} {payload : List UInt8} {base last : Base}
    {trace : List (Step Base Action Action.Answer)} {answer : action.Answer}
    (message : payload? action = some payload)
    (run : Resumption.Runs (callbacks action base) trace (.done last answer))
    (opened : ∀ step ∈ trace, Opens step.action step.answer) :
    ReadsBack (written trace) (payload.drop 1) ↔ Plain (payload.drop 1) := by
  have ended := (callbacks_write message base).runs run ((writing_allows_iff [] trace).2 opened)
  rw [writing_after, List.nil_append] at ended
  obtain ⟨row, shows, same⟩ := ended
  rw [same, ← shows]
  exact row.readsBack_iff

/-- A base with a card in it logs a message sent. -/
def sentTrace (payload : List UInt8) : List (Step Base Action Action.Answer) :=
  (Resumption.drive (Bench.answer {}) 0 (callbacks (.txInd payload endpointAddress false) {})).1

theorem sentTrace_opened (payload : List UInt8) :
    ∀ step ∈ sentTrace payload, Opens step.action step.answer :=
  (writing_allows_iff [] _).1 ⟨trivial, rfl, trivial, trivial, trivial⟩

theorem sentTrace_runs (payload : List UInt8) :
    Resumption.Runs (callbacks (.txInd payload endpointAddress false) {}) (sentTrace payload)
      (.done {} ()) :=
  Resumption.drive_runs (Bench.answer {}) 0 _

/-- The test message is read back. -/
theorem log_readsBack_iff_test :
    ReadsBack (written (sentTrace (1 :: testMessage))) testMessage := by
  have sent : payload? (.txInd (1 :: testMessage) endpointAddress false) =
    some (1 :: testMessage) := rfl
  exact (log_readsBack_iff sent (sentTrace_runs _) (sentTrace_opened _)).2 (by decide +kernel)

/-- A typed comma is taken for the end of a column. -/
theorem comma_breaks_row :
    ¬ ∀ (action : Node.Action) (payload : List UInt8) (base last : Base)
      (trace : List (Step Base Action Action.Answer)) (answer : action.Answer),
      payload? action = some payload →
        Resumption.Runs (callbacks action base) trace (.done last answer) →
        (∀ step ∈ trace, Opens step.action step.answer) →
          ReadsBack (written trace) (payload.drop 1) := by
  intro always
  obtain ⟨line, same, single, columns, _⟩ :=
    always _ _ _ _ _ _ rfl (sentTrace_runs [1, 97, 44, 98]) (sentTrace_opened _)
  obtain rfl : line = (written (sentTrace [1, 97, 44, 98])).dropLast.dropLast := by
    rw [same]
    simp [lineEnd]
  exact absurd columns (by decide +kernel)

end Roam.RangeTest
