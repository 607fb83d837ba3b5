import Roam.Node.Protocol

/-!
# Serial input

One function consumes every character.  Between `'!'` and the next line feed the
characters are a command; all others build the outgoing text message.
-/

namespace Roam.Node

/-! ## Characters with a meaning -/

def lineFeed : UInt8 := 10

def carriageReturn : UInt8 := 13

def escape : UInt8 := 27

def space : UInt8 := 32

def exclamation : UInt8 := 33

def hash : UInt8 := 35

def ampersand : UInt8 := 38

def asterisk : UInt8 := 42

/-- `byte - '0'`, computed as an `int`. -/
def digitOf (byte : UInt8) : Int := (byte.toNat : Int) - 48

/-! ## Command mode -/

/-- Append one character to the command buffer. -/
def pushSerialCmd (byte : UInt8) : NodeM Unit := do
  perform (.index .serialCmdBuf (← get).serialCmd.bufLen.toNat maxMessageLen)
  modify fun node => { node with serialCmd := node.serialCmd.push byte }

/-- The value written by one or two decimal characters after the letter. -/
def commandValue (serialCmd : Message) : Int :=
  if serialCmd.bufLen = 2 then
    digitOf (serialCmd.buf.get 1)
  else
    digitOf (serialCmd.buf.get 1) * 10 + digitOf (serialCmd.buf.get 2)

/-- The switch on the command letter. -/
def runSerialCmd : NodeM Unit := do
  let serialCmd := (← get).serialCmd
  if 2 ≤ serialCmd.bufLen then
    if serialCmd.buf.get 0 = 'S'.toUInt8 then
      setSpreadingFactor (enumOfInt (digitOf (serialCmd.buf.get 1)))
    else if serialCmd.buf.get 0 = 'B'.toUInt8 then
      setBandwidth (enumOfInt (digitOf (serialCmd.buf.get 1)))
    else if serialCmd.buf.get 0 = 'C'.toUInt8 then
      setFrequencyChannel (enumOfInt (commandValue serialCmd))
    else if serialCmd.buf.get 0 = 'P'.toUInt8 then
      setTxPower (commandValue serialCmd).toInt8

def commandCharacter (inputChar : UInt8) : NodeM Unit := do
  whenever (inputChar ≠ lineFeed ∧ inputChar ≠ carriageReturn ∧ inputChar ≠ exclamation ∧
      (← get).serialCmd.bufLen.toNat < maxMessageLen)
    (pushSerialCmd inputChar)
  whenever (inputChar = lineFeed) do
    runSerialCmd
    modify fun node => { node with serialCmd.bufLen := 0, serialCommandMode := false }

/-! ## Text mode -/

/-- Append one byte to the outgoing message. -/
def pushTxMsg (byte : UInt8) : NodeM Unit := do
  perform (.index .txMsgBuf (← get).txMsg.bufLen.toNat maxMessageLen)
  modify fun node => { node with txMsg := node.txMsg.push byte }

/-- The switch on a character that does not end a line. -/
def textByte (inputChar : UInt8) : NodeM Unit :=
  if inputChar = hash then
    pushTxMsg escape
  else if inputChar = asterisk ∨ inputChar = space then
    pure ()
  else if inputChar = ampersand then
    pushTxMsg carriageReturn
  else
    pushTxMsg inputChar

def textCharacter (inputChar : UInt8) : NodeM UInt8 := do
  whenever ((← get).txMsg.bufLen = 0) (pushTxMsg MsgType.dataReq.code)
  if inputChar = lineFeed ∨ inputChar = carriageReturn then
    return 1
  else
    textByte inputChar
    return 0

/-! ## Entry points -/

def buildStringFromSerialInner (inputChar : UInt8) : NodeM UInt8 := do
  whenever (inputChar = exclamation)
    (modify fun node => { node with serialCommandMode := true })
  if (← get).serialCommandMode then
    commandCharacter inputChar
    return 0
  else
    textCharacter inputChar

/-- One poll of a port that holds the characters `pending` until it runs dry.
With nothing pending the returned local is never assigned. -/
def buildStringFromSerial (pending : List UInt8) : NodeM UInt8 := do
  let unassigned ← perform .uninitialised
  pending.foldlM (fun _ inputChar => buildStringFromSerialInner inputChar) unassigned

def setTxMessage (txMsgContents : List UInt8) (numChars : UInt8) : NodeM UInt8 := do
  modify fun node => { node with
    txMsg.buf := node.txMsg.buf.load
      (MsgType.dataReq.code :: txMsgContents.take numChars.toNat)
    txMsg.bufLen := numChars + 1 }
  return numChars

end Roam.Node
