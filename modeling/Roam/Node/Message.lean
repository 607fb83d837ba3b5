import Mathlib.Data.UInt
import Roam.Data.Buffer

/-!
# Messages, settings and tables

The message layout, the link settings and the constant tables of the protocol.
Values of the three setting enumerations arrive from the air and from the serial
port by unchecked casts, so a setting is held as the unsigned number it is in
the source and `Valid` says when it names a table entry.
-/

namespace Roam.Node

open Roam.Data

/-! ## Constants -/

/-- `RH_RF95_MAX_MESSAGE_LEN`. -/
def maxMessageLen : Nat := 128

/-- `RH_BROADCAST_ADDRESS`. -/
def broadcastAddress : UInt8 := 255

def minTxPower : Int8 := 2

def maxTxPower : Int8 := 20

def linkChangeTimeoutMillis : UInt32 := 3000

def heartbeatTimeoutMillis : UInt32 := 7000

def successfulPacketsBeforeLinkIsTrusted : UInt32 := 3

/-! ## Message types -/

/-- `msgType_t`, without its count. -/
inductive MsgType where
  | undefined
  | dataReq
  | dataRsp
  | linkChangeReq
  | linkChangeRsp
  | wakeRequest
  | sleepRequest
  | heartbeatReq
  | heartbeatRsp
  deriving DecidableEq, Repr

namespace MsgType

/-- The byte that stands first in a message of this type. -/
def code : MsgType → UInt8
  | .undefined => 0
  | .dataReq => 1
  | .dataRsp => 2
  | .linkChangeReq => 3
  | .linkChangeRsp => 4
  | .wakeRequest => 5
  | .sleepRequest => 6
  | .heartbeatReq => 7
  | .heartbeatRsp => 8

/-- The type named by a first byte, if it names one. -/
def ofCode? (byte : UInt8) : Option MsgType :=
  [undefined, dataReq, dataRsp, linkChangeReq, linkChangeRsp, wakeRequest,
    sleepRequest, heartbeatReq, heartbeatRsp].find? fun type => type.code = byte

theorem ofCode?_code (type : MsgType) : ofCode? type.code = some type := by
  cases type <;> decide

theorem ofCode?_eq_some_iff {byte : UInt8} {type : MsgType} :
    ofCode? byte = some type ↔ byte = type.code := by
  constructor
  · intro found
    have holds := List.find?_some found
    exact (of_decide_eq_true holds).symm
  · rintro rfl
    exact ofCode?_code type

end MsgType

/-! ## Link settings -/

/-- `spreadingFactor_t`, `signalBandwidth_t` and `frequencyChannel_t` as the
unsigned numbers they are in memory. -/
abbrev EnumValue := Nat

def numSpreadingFactors : EnumValue := 6

def numSignalBandwidths : EnumValue := 3

def numFrequencyChannels : EnumValue := 16

/-- Cast of an `int` to one of the three enumerations: one unsigned byte, the
size the short enumerations of the target have. -/
def enumOfInt (value : Int) : EnumValue := (value % 256).toNat

/-- The four settings of a link. -/
structure Settings where
  spreadingFactor : EnumValue
  signalBandwidth : EnumValue
  frequencyChannel : EnumValue
  txPower : Int8
  deriving DecidableEq, Repr

namespace Settings

/-- `RFM95_DFLT_*`: SF 7, 500 kHz, uplink channel 0, 2 dBm. -/
def default : Settings := ⟨0, 2, 0, 2⟩

/-- What two radios must share to hear each other. -/
structure Tuning where
  spreadingFactor : EnumValue
  signalBandwidth : EnumValue
  frequencyChannel : EnumValue
  deriving DecidableEq, Repr

def tuning (settings : Settings) : Tuning :=
  ⟨settings.spreadingFactor, settings.signalBandwidth, settings.frequencyChannel⟩

def Valid (settings : Settings) : Prop :=
  settings.spreadingFactor < numSpreadingFactors ∧
    settings.signalBandwidth < numSignalBandwidths ∧
    settings.frequencyChannel < numFrequencyChannels ∧
    minTxPower ≤ settings.txPower ∧ settings.txPower ≤ maxTxPower

instance (settings : Settings) : Decidable settings.Valid :=
  inferInstanceAs (Decidable (_ ∧ _ ∧ _ ∧ _ ∧ _))

theorem default_valid : default.Valid := by decide

/-- A power that is not refused is in range. -/
theorem power_inside {txPower : Int8} (inside : ¬ (maxTxPower < txPower ∨ txPower < minTxPower)) :
    minTxPower ≤ txPower ∧ txPower ≤ maxTxPower :=
  ⟨Int8.not_lt.1 fun low => inside (.inr low), Int8.not_lt.1 fun high => inside (.inl high)⟩

namespace Valid

variable {settings : Settings} (valid : settings.Valid)
include valid

theorem changeSpreadingFactor {value : EnumValue} (inside : value < numSpreadingFactors) :
    { settings with spreadingFactor := value }.Valid :=
  ⟨inside, valid.2⟩

theorem changeBandwidth {value : EnumValue} (inside : value < numSignalBandwidths) :
    { settings with signalBandwidth := value }.Valid :=
  ⟨valid.1, inside, valid.2.2⟩

theorem changeFrequencyChannel {value : EnumValue} (inside : value < numFrequencyChannels) :
    { settings with frequencyChannel := value }.Valid :=
  ⟨valid.1, valid.2.1, inside, valid.2.2.2⟩

theorem changeTxPower {value : Int8} (inside : minTxPower ≤ value ∧ value ≤ maxTxPower) :
    { settings with txPower := value }.Valid :=
  ⟨valid.1, valid.2.1, valid.2.2.1, inside⟩

end Valid

end Settings

/-! ## Tables -/

def spreadingFactorTable : List UInt8 := [7, 8, 9, 10, 11, 12]

def signalBandwidthTable : List UInt32 := [125000, 250000, 500000]

/-- Channel frequencies in tenths of a megahertz. -/
def frequencyChannelTable : List UInt16 :=
  [9030, 9046, 9062, 9078, 9094, 9110, 9126, 9142,
    9233, 9239, 9245, 9251, 9257, 9263, 9269, 9275]

/-- Each table has one entry for every value of its enumeration. -/
theorem tables_complete :
    spreadingFactorTable.length = numSpreadingFactors ∧
      signalBandwidthTable.length = numSignalBandwidths ∧
      frequencyChannelTable.length = numFrequencyChannels := ⟨rfl, rfl, rfl⟩

/-! ## Message buffers -/

/-- `message_t`. -/
structure Message where
  srcAddr : UInt8 := 0
  destAddr : UInt8 := 0
  msgId : UInt8 := 0
  flags : UInt8 := 0
  bufLen : UInt8 := 0
  buf : Buffer UInt8 maxMessageLen := Buffer.filled maxMessageLen 0
  deriving DecidableEq

namespace Message

/-- The bytes a call handed `buf` and `bufLen` can see. -/
def bytes (message : Message) : List UInt8 :=
  message.buf.upTo message.bufLen.toNat

/-- Append one byte at `bufLen`. -/
def push (message : Message) (byte : UInt8) : Message :=
  { message with
    buf := message.buf.set message.bufLen.toNat byte
    bufLen := message.bufLen + 1 }

end Message

end Roam.Node
