import Roam.Data.Lines
import Roam.Data.Numerals
import Roam.RangeTest.Records

/-!
# The card

The data file outlives the sketch: every start opens it again and writes the names of
the columns, and the rows follow.  The file of any number of starts is read back line
by line, each line into the names or a row with all its columns.
-/

namespace Roam.RangeTest

open Roam.Data
open Roam.Interaction
open Roam.Node

/-! ## Columns -/

/-- The value of a digit of `printNumber`. -/
def digitValue (byte : UInt8) : Option Nat :=
  if 48 ≤ byte ∧ byte < 58 then some (byte.toNat - 48)
  else if 65 ≤ byte ∧ byte < 71 then some (byte.toNat - 55)
  else none

theorem digitValue_digit : ∀ value < 16, digitValue (digit value) = some value := by decide

def decimal : Numerals UInt8 where
  base := 10
  least := by decide
  symbol := digit
  value byte := (digitValue byte).filter (· < 10)
  value_symbol value small := by
    rw [digitValue_digit value (small.trans (by decide)), Option.filter_some, if_pos (decide_eq_true small)]

def hexadecimal : Numerals UInt8 where
  base := 16
  least := by decide
  symbol := digit
  value := digitValue
  value_symbol := digitValue_digit

def readByte (numerals : Numerals UInt8) (text : List UInt8) : Option UInt8 :=
  (numerals.read text).bind fun value =>
    if value < 256 then some (UInt8.ofNat value) else none

def readWord (text : List UInt8) : Option UInt32 :=
  (decimal.read text).bind fun value =>
    if value < 4294967296 then some (UInt32.ofNat value) else none

def readBool (text : List UInt8) : Option Bool :=
  (decimal.read text).bind fun value =>
    if value = 0 then some false else if value = 1 then some true else none

/-- The flags of a message sent are left out. -/
def readFlags (text : List UInt8) : Option (Option UInt8) :=
  if text = [] then some none else (readByte decimal text).map some

def readInt : List UInt8 → Option Int
  | [] => none
  | first :: rest =>
      if first = 45 then (decimal.read rest).map fun value : Nat => -(value : Int)
      else (decimal.read (first :: rest)).map Int.ofNat

theorem read_decimal (value : Nat) : decimal.read (printNumber 10 value) = some value :=
  decimal.read_print value

theorem read_hexadecimal (value : Nat) : hexadecimal.read (printNumber 16 value) = some value :=
  hexadecimal.read_print value

theorem readByte_decimal (byte : UInt8) :
    readByte decimal (printNumber 10 byte.toNat) = some byte := by
  rw [readByte, read_decimal, Option.bind_some, if_pos byte.toNat_lt, UInt8.ofNat_toNat]

theorem readByte_hexadecimal (byte : UInt8) :
    readByte hexadecimal (printNumber 16 byte.toNat) = some byte := by
  rw [readByte, read_hexadecimal, Option.bind_some, if_pos byte.toNat_lt, UInt8.ofNat_toNat]

theorem readWord_print (word : UInt32) : readWord (printNumber 10 word.toNat) = some word := by
  rw [readWord, read_decimal, Option.bind_some, if_pos word.toNat_lt, UInt32.ofNat_toNat]

theorem readBool_print (value : Bool) : readBool (printNumber 10 value.toNat) = some value := by
  rw [readBool, read_decimal]
  cases value <;> rfl

theorem readFlags_print (flags : Option UInt8) :
    readFlags ((flags.map fun flags => printNumber 10 flags.toNat).getD []) = some flags := by
  cases flags with
  | none => rfl
  | some flags =>
      have shown : printNumber 10 flags.toNat ≠ [] := decimal.print_ne_nil flags.toNat
      show readFlags (printNumber 10 flags.toNat) = some (some flags)
      rw [readFlags, if_neg shown, readByte_decimal]
      rfl

/-- No digit is a sign. -/
theorem digit_ne_sign : ∀ value < 16, digit value ≠ 45 := by decide

theorem readInt_print (value : Int) : readInt (printInt value) = some value := by
  unfold printInt
  split
  · rename_i negative
    rw [List.singleton_append, readInt, if_pos rfl, read_decimal, Option.map_some,
      Int.ofNat_natAbs_of_nonpos (Int.le_of_lt negative), Int.neg_neg]
  · rename_i positive
    obtain ⟨first, rest, shown⟩ := List.exists_cons_of_ne_nil (decimal.print_ne_nil value.natAbs)
    change printNumber 10 value.natAbs = first :: rest at shown
    have unsigned : first ≠ 45 := by
      have member : first ∈ printNumber 10 value.natAbs := shown ▸ List.mem_cons_self
      unfold printNumber at member
      split at member
      · rw [List.mem_singleton.1 member]
        decide
      · obtain ⟨digits, inside, rfl⟩ := List.mem_map.1 member
        have small := Nat.digits_lt_base (by decide) (List.mem_reverse.1 inside)
        exact digit_ne_sign digits (small.trans (by decide))
    rw [List.nil_append, shown, readInt, if_neg unsigned, ← shown, read_decimal, Option.map_some]
    exact congrArg some (Int.natAbs_of_nonneg (Int.not_lt.1 positive))

/-! ## Rows -/

namespace Row

/-- A row from its columns. -/
def ofColumns : List (List UInt8) → Option Row
  | [timestamp, srcAddr, destAddr, msgType, flags, ack, message, spreadingFactor, signalBandwidth,
      frequencyChannel, txPower] => do
      let timestamp ← readWord timestamp
      let srcAddr ← readByte hexadecimal srcAddr
      let destAddr ← readByte hexadecimal destAddr
      let msgType ← readByte decimal msgType
      let flags ← readFlags flags
      let ack ← readBool ack
      let spreadingFactor ← decimal.read spreadingFactor
      let signalBandwidth ← decimal.read signalBandwidth
      let frequencyChannel ← decimal.read frequencyChannel
      let txPower ← readInt txPower
      if -128 ≤ txPower ∧ txPower < 128 then
        some {
          timestamp, srcAddr, destAddr, msgType, flags, ack, message
          settings :=
            ⟨spreadingFactor, signalBandwidth, frequencyChannel, Int8.ofInt txPower⟩ }
      else none
  | _ => none

def read (line : List UInt8) : Option Row := ofColumns (line.splitOn comma)

theorem ofColumns_columns (row : Row) : ofColumns row.columns = some row := by
  obtain ⟨timestamp, srcAddr, destAddr, msgType, flags, ack, message, settings⟩ := row
  obtain ⟨spreadingFactor, signalBandwidth, frequencyChannel, txPower⟩ := settings
  have low := txPower.le_toInt
  have high := txPower.toInt_lt
  simp only [columns, ofColumns, readWord_print, readByte_hexadecimal, readByte_decimal,
    readFlags_print, readBool_print, read_decimal, readInt_print, Option.bind_eq_bind,
    Option.bind_some]
  rw [if_pos ⟨low, high⟩, Int8.ofInt_toInt]

/-- Columns that are read as a row show its payload in their midst. -/
theorem message_of_ofColumns {fields : List (List UInt8)} {row : Row}
    (found : ofColumns fields = some row) : row.message ∈ fields := by
  unfold ofColumns at found
  split at found
  · simp only [Option.bind_eq_bind, Option.bind_eq_some_iff] at found
    obtain ⟨_, _, _, _, _, _, _, _, _, _, _, _, _, _, _, _, _, _, _, _, made⟩ := found
    split at made
    · cases made
      simp
    · cases made
  · cases found

/-- The row of a plain payload is read back. -/
theorem read_of_plain {row : Row} (plain : Plain row.message) :
    read ([comma].intercalate row.columns) = some row := by
  have fields : ([comma].intercalate row.columns).splitOn comma = row.columns := by
    refine List.splitOn_intercalate comma (fun column member inside => ?_) row.columns_ne_nil
    exact (row.columns_plain plain column member comma inside).1 rfl
  rw [read, fields]
  exact row.ofColumns_columns

/-- Whatever line a row is read from, its payload is plain. -/
theorem plain_of_read {line : List UInt8} {row : Row} (single : ∀ byte ∈ line, byte ∉ lineEnd)
    (found : read line = some row) : Plain row.message := by
  have whole : [comma].intercalate (line.splitOn comma) = line := List.intercalate_splitOn comma
  have member := message_of_ofColumns found
  have clean : ∀ field ∈ line.splitOn comma, comma ∉ field := by
    refine (length_splitOn_intercalate_iff comma ?_).1 (by rw [whole])
    exact List.ne_nil_of_mem member
  intro byte inside
  have other : byte ≠ comma := fun same => clean _ member (same ▸ inside)
  refine ⟨other, single byte ?_⟩
  rw [← whole]
  exact (mem_intercalate_iff comma other _).2 ⟨_, member, inside⟩

end Row

/-! ## The data file -/

/-- A line of the data file. -/
inductive Entry where
  | names
  | row (row : Row)
  deriving DecidableEq

/-- The names of the columns as a line. -/
def namesLine : List UInt8 := dataFileHeader.toUTF8.toList

namespace Entry

def text : Entry → List UInt8
  | .names => namesLine
  | .row logged => [comma].intercalate logged.columns

/-- `println` of a line of the data file. -/
def print (entry : Entry) : List UInt8 := entry.text ++ lineEnd

def read (line : List UInt8) : Option Entry :=
  if line = namesLine then some .names else (Row.read line).map .row

/-- An entry that can be read back. -/
def Clean : Entry → Prop
  | .names => True
  | .row logged => Plain logged.message

end Entry

/-- Lines end with a carriage return and a line feed. -/
def cardLines : LineFormat UInt8 UInt8 where
  ends byte := byte ∈ lineEnd
  keep := some

/-- The entries of a data file, if it is nothing but whole lines of them. -/
def readCard (bytes : List UInt8) : Option (List Entry) :=
  let lines := cardLines.assemble bytes
  if lines.unfinished = [] then lines.completed.mapM Entry.read else none

/-- A start of the base: whether the data file could be opened then, and what was done
up to the next start. -/
structure Boot where
  opened : Bool
  trace : List BaseStep

/-- What a start adds to the data file. -/
def Boot.entries (boot : Boot) : List Entry :=
  (if boot.opened then [.names] else []) ++ (rowsOf boot.trace).map .row

/-- The data file after some starts. -/
def card (boots : List Boot) : List UInt8 :=
  boots.flatMap fun boot => boot.entries.flatMap Entry.print

theorem assemble_line {line : List UInt8} (nonempty : line ≠ [])
    (single : ∀ byte ∈ line, byte ∉ lineEnd) : cardLines.assemble (line ++ lineEnd) = ⟨[line], []⟩ := by
  have goes : ∀ byte ∈ line, cardLines.ends byte = false :=
    fun byte member => decide_eq_false (single byte member)
  have begun := cardLines.feedAll_of_goes goes {}
  rw [LineFormat.assemble_append, LineFormat.assemble, begun]
  have kept : line.filterMap cardLines.keep = line := List.filterMap_some
  show cardLines.feed (cardLines.feed ⟨[], [] ++ line.filterMap cardLines.keep⟩ 13) 10 = _
  rw [kept, List.nil_append]
  have ended : cardLines.feed ⟨[], line⟩ 13 = ⟨[line], []⟩ := by
    simp [LineFormat.feed, cardLines, lineEnd, nonempty]
  rw [ended]
  rfl

namespace Entry

theorem namesLine_single : ∀ byte ∈ namesLine, byte ∉ lineEnd := by decide +kernel

theorem assemble_print {entry : Entry} (clean : entry.Clean) :
    cardLines.assemble entry.print = ⟨[entry.text], []⟩ := by
  cases entry with
  | names => exact assemble_line (by decide +kernel) namesLine_single
  | row logged =>
      refine assemble_line ?_ fun byte member ends => ?_
      · show [comma].intercalate (_ :: _ :: _) ≠ []
        rw [List.intercalate_cons_cons]
        simp
      · obtain ⟨column, listed, inside⟩ := (logged.ends_mem_iff ends).1 member
        exact (logged.columns_plain clean column listed byte inside).2 ends

theorem read_text {entry : Entry} (clean : entry.Clean) : read entry.text = some entry := by
  cases entry with
  | names => exact if_pos rfl
  | row logged =>
      have found : Row.read ([comma].intercalate logged.columns) = some logged :=
        Row.read_of_plain clean
      have other : [comma].intercalate logged.columns ≠ namesLine := by
        intro same
        rw [same] at found
        exact absurd (found.symm.trans (by decide +kernel : Row.read namesLine = none)) nofun
      show (if [comma].intercalate logged.columns = namesLine then _ else _) = _
      rw [if_neg other]
      exact congrArg (Option.map Entry.row) found

end Entry

theorem mapM_text {entries : List Entry} (clean : ∀ entry ∈ entries, entry.Clean) :
    (entries.map Entry.text).mapM Entry.read = some entries := by
  induction entries with
  | nil => rfl
  | cons entry entries ih =>
      obtain ⟨first, later⟩ := List.forall_mem_cons.1 clean
      rw [List.map_cons, List.mapM_cons, Entry.read_text first, ih later]
      rfl

theorem exists_line_of_mapM {lines : List (List UInt8)} {entries : List Entry}
    (found : lines.mapM Entry.read = some entries) :
    ∀ entry ∈ entries, ∃ line ∈ lines, Entry.read line = some entry := by
  induction lines generalizing entries with
  | nil =>
      cases found
      exact nofun
  | cons line lines ih =>
      rw [List.mapM_cons] at found
      obtain ⟨entry, here, found⟩ := Option.bind_eq_some_iff.1 found
      obtain ⟨others, further, made⟩ := Option.bind_eq_some_iff.1 found
      cases made
      refine List.forall_mem_cons.2 ⟨⟨line, List.mem_cons_self, here⟩, fun other member => ?_⟩
      obtain ⟨later, within, read⟩ := ih further other member
      exact ⟨later, List.mem_cons_of_mem _ within, read⟩

/-- Clean entries are read back, each from its line. -/
theorem readCard_print {entries : List Entry} (clean : ∀ entry ∈ entries, entry.Clean) :
    readCard (entries.flatMap Entry.print) = some entries := by
  have lines : cardLines.assemble (entries.flatMap Entry.print) = ⟨entries.map Entry.text, []⟩ := by
    induction entries with
    | nil => rfl
    | cons entry entries ih =>
        obtain ⟨first, later⟩ := List.forall_mem_cons.1 clean
        have whole := Entry.assemble_print first
        rw [List.flatMap_cons, LineFormat.assemble_append_of_closed (by rw [whole]), whole, ih later]
        rfl
  rw [readCard, lines]
  exact mapM_text clean

/-- A line that was ended holds no line end. -/
theorem single_of_mem_completed {bytes line : List UInt8}
    (member : line ∈ (cardLines.assemble bytes).completed) : ∀ byte ∈ line, byte ∉ lineEnd := by
  rcases LineFormat.exists_prefix_of_mem_completed member with old | ⟨_, front, _, same⟩
  · exact absurd old List.not_mem_nil
  · intro byte inside
    rw [← same] at inside
    obtain ⟨symbol, goes, kept⟩ := LineFormat.mem_unfinished inside
    cases kept
    exact of_decide_eq_false goes

/-- Whatever is read from a data file is clean. -/
theorem clean_of_readCard {bytes : List UInt8} {entries : List Entry}
    (found : readCard bytes = some entries) : ∀ entry ∈ entries, entry.Clean := by
  intro entry member
  unfold readCard at found
  dsimp only at found
  split at found
  · obtain ⟨line, ended, read⟩ := exists_line_of_mapM found entry member
    unfold Entry.read at read
    split at read
    · cases read
      exact trivial
    · obtain ⟨logged, shown, rfl⟩ := Option.map_eq_some_iff.1 read
      exact Row.plain_of_read (single_of_mem_completed ended) shown
  · cases found

/-! ## Starts -/

/-- The rows between the names of the columns, without those in front of the first names. -/
def tables : List Entry → List (List Row)
  | [] => []
  | .names :: entries => leading entries :: tables entries
  | .row _ :: entries => tables entries
where
  leading : List Entry → List Row
  | .row row :: entries => row :: leading entries
  | _ => []

/-- A table goes on up to the next names. -/
theorem leading_rows (rows : List Row) (entries : List Entry) :
    tables.leading (rows.map .row ++ entries) = rows ++ tables.leading entries := by
  induction rows with
  | nil => rfl
  | cons row rows ih => exact congrArg (row :: ·) ih

theorem tables_rows (rows : List Row) (entries : List Entry) :
    tables (rows.map .row ++ entries) = tables entries := by
  induction rows with
  | nil => rfl
  | cons row rows ih => exact ih

/-- Where every start has written the names, each has a table of its own. -/
theorem tables_boots {boots : List Boot} (opened : ∀ boot ∈ boots, boot.opened = true) :
    tables.leading (boots.flatMap Boot.entries) = [] ∧
      tables (boots.flatMap Boot.entries) = boots.map fun boot => rowsOf boot.trace := by
  induction boots with
  | nil => exact ⟨rfl, rfl⟩
  | cons boot boots ih =>
      obtain ⟨first, later⟩ := List.forall_mem_cons.1 opened
      obtain ⟨nothing, others⟩ := ih later
      have entries : boot.entries = .names :: (rowsOf boot.trace).map .row := by
        rw [Boot.entries, first]
        rfl
      rw [List.flatMap_cons, entries]
      refine ⟨rfl, ?_⟩
      show tables.leading (_ ++ _) :: tables (_ ++ _) = _
      rw [leading_rows, tables_rows, nothing, others, List.append_nil]
      rfl

/-- The data file of any number of starts is read back, line by line and column by column,
exactly if no payload in it holds a comma or a line end; and where every start could write
the names of the columns, its rows are told apart from those of the others. -/
theorem card_reads_back_iff (boots : List Boot) :
    (readCard (card boots) = some (boots.flatMap Boot.entries) ↔
      ∀ boot ∈ boots, ∀ row ∈ rowsOf boot.trace, Plain row.message) ∧
    ((∀ boot ∈ boots, boot.opened = true) →
      tables (boots.flatMap Boot.entries) = boots.map fun boot => rowsOf boot.trace) := by
  have whole : card boots = (boots.flatMap Boot.entries).flatMap Entry.print :=
    List.flatMap_assoc.symm
  have clean : (∀ entry ∈ boots.flatMap Boot.entries, entry.Clean) ↔
      ∀ boot ∈ boots, ∀ row ∈ rowsOf boot.trace, Plain row.message := by
    rw [List.forall_mem_flatMap]
    refine forall₂_congr fun boot _ => ?_
    unfold Boot.entries
    rw [List.forall_mem_append, List.forall_mem_map]
    refine and_iff_right ?_
    split
    · exact List.forall_mem_singleton.2 trivial
    · exact nofun
  refine ⟨?_, fun opened => (tables_boots opened).2⟩
  rw [whole, ← clean]
  exact ⟨clean_of_readCard, readCard_print⟩

/-- The log of a start in which the test message is acknowledged, and of one in which the card
is out when the names are to be written. -/
example : readCard (card [⟨true, testMessageLogged.1⟩, ⟨false, testMessageLogged.1⟩]) =
    some (.names :: ((rowsOf testMessageLogged.1 ++ rowsOf testMessageLogged.1).map .row)) := by
  decide +kernel

end Roam.RangeTest
