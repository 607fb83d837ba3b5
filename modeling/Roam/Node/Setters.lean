import Roam.Node.Object

/-!
# Packet statistics and the four setters

The setters share their ending: idle mode, cleared statistics, the old value
kept as the previous one, and an indication to the user.  They differ in the
range test, the table and the driver call; only the frequency driver can fail,
and then the node halts.
-/

namespace Roam.Node

open Roam.Interaction

namespace LoraPoint2Point

/-- The statistics are computed over exact rationals instead of `float`. -/
def updatePacketErrorFraction (node : LoraPoint2Point) (packetSuccess : Bool) :
    LoraPoint2Point :=
  let packetCount := node.packetCount + 1
  let packetErrorCount := node.packetErrorCount + if packetSuccess then 0 else 1
  let failure : ℚ := if packetSuccess then 0 else 1
  { node with
    packetCount := packetCount
    packetErrorCount := packetErrorCount
    packetErrorFraction := node.packetErrorFraction +
      (failure - node.packetErrorFraction) /
        (min packetCount node.packetErrorMovingAvgPeriod.toUInt32).toNat }

def resetPacketErrorFraction (node : LoraPoint2Point) : LoraPoint2Point :=
  { node with packetErrorFraction := 0, packetCount := 0, packetErrorCount := 0 }

def getPacketErrorFraction (node : LoraPoint2Point) : ℚ := node.packetErrorFraction

def getLastAckSNR (node : LoraPoint2Point) : Int := node.ackSnr

/-- Packets counted as successful since the statistics were last cleared. -/
def successes (node : LoraPoint2Point) : UInt32 :=
  node.packetCount - node.packetErrorCount

theorem successes_reset (node : LoraPoint2Point) :
    node.resetPacketErrorFraction.successes = 0 := by
  simp only [resetPacketErrorFraction, successes, UInt32.sub_self]

/-- A failed packet is counted twice and drops out of the difference. -/
theorem successes_update (node : LoraPoint2Point) (packetSuccess : Bool) :
    (node.updatePacketErrorFraction packetSuccess).successes =
      node.successes + if packetSuccess then 1 else 0 := by
  cases packetSuccess <;> simp only [updatePacketErrorFraction, successes] <;> grind

theorem successes_update_true (node : LoraPoint2Point) :
    (node.updatePacketErrorFraction true).successes = node.successes + 1 :=
  node.successes_update true

theorem successes_update_false (node : LoraPoint2Point) :
    (node.updatePacketErrorFraction false).successes = node.successes :=
  (node.successes_update false).trans (UInt32.add_zero _)

/-- Another success raises the difference by one at most; it wraps. -/
theorem toNat_successes_update_true (node : LoraPoint2Point) :
    (node.updatePacketErrorFraction true).successes.toNat ≤ node.successes.toNat + 1 := by
  rw [node.successes_update_true, UInt32.toNat_add]
  exact Nat.mod_le _ _

end LoraPoint2Point

/-! ## Calls with an answer -/

def millis : NodeM UInt32 := perform .millis

def lastSNR : NodeM Int := perform .rf95LastSNR

def setFrequency (tenthMegahertz : UInt16) : NodeM Bool :=
  perform (.rf95SetFrequency tenthMegahertz)

def sendtoWait (payload : List UInt8) (destAddress : UInt8) : NodeM Bool :=
  perform (.sendtoWait payload destAddress)

/-- `while (1);` -/
def haltForever : NodeM Unit := do
  let never ← perform .halt
  nomatch never

/-! ## Setters -/

/-- The common ending of the setters. -/
def storeSetting (store : LoraPoint2Point → LoraPoint2Point) : NodeM Unit := do
  perform .rf95SetModeIdle
  modify LoraPoint2Point.resetPacketErrorFraction
  modify store
  perform (.linkChangeInd (← get).current)

namespace LoraPoint2Point

def storeSpreadingFactor (spreadingFactor : EnumValue) (node : LoraPoint2Point) :
    LoraPoint2Point :=
  { node with
    previous.spreadingFactor := node.current.spreadingFactor
    current.spreadingFactor := spreadingFactor }

def storeBandwidth (bandwidth : EnumValue) (node : LoraPoint2Point) : LoraPoint2Point :=
  { node with
    previous.signalBandwidth := node.current.signalBandwidth
    current.signalBandwidth := bandwidth }

def storeFrequencyChannel (frequencyChannel : EnumValue) (node : LoraPoint2Point) :
    LoraPoint2Point :=
  { node with
    previous.frequencyChannel := node.current.frequencyChannel
    current.frequencyChannel := frequencyChannel }

def storeTxPower (txPower : Int8) (node : LoraPoint2Point) : LoraPoint2Point :=
  { node with
    previous.txPower := node.current.txPower
    current.txPower := txPower }

end LoraPoint2Point

def setSpreadingFactor (spreadingFactor : EnumValue) : NodeM Unit := do
  if numSpreadingFactors ≤ spreadingFactor then
    return
  let spreadingFactorToSet ←
    lookup .spreadingFactorTable spreadingFactorTable spreadingFactor
  perform (.rf95SetSpreadingFactor spreadingFactorToSet)
  storeSetting (LoraPoint2Point.storeSpreadingFactor spreadingFactor)

def setBandwidth (bandwidth : EnumValue) : NodeM Unit := do
  if numSignalBandwidths ≤ bandwidth then
    return
  let bandwidthToSet ← lookup .signalBandwidthTable signalBandwidthTable bandwidth
  perform (.rf95SetSignalBandwidth bandwidthToSet)
  storeSetting (LoraPoint2Point.storeBandwidth bandwidth)

def setFrequencyChannel (frequencyChannel : EnumValue) : NodeM Unit := do
  if numFrequencyChannels ≤ frequencyChannel then
    return
  let frequencyToSet ←
    lookup .frequencyChannelTable frequencyChannelTable frequencyChannel
  if !(← setFrequency frequencyToSet) then
    haltForever
  else
    storeSetting (LoraPoint2Point.storeFrequencyChannel frequencyChannel)

def setTxPower (txPower : Int8) : NodeM Unit := do
  if maxTxPower < txPower ∨ txPower < minTxPower then
    return
  perform (.rf95SetTxPower txPower false)
  storeSetting (LoraPoint2Point.storeTxPower txPower)

/-- The four setters in the order every link change uses them. -/
def setAll (settings : Settings) : NodeM Unit := do
  setSpreadingFactor settings.spreadingFactor
  setBandwidth settings.signalBandwidth
  setTxPower settings.txPower
  setFrequencyChannel settings.frequencyChannel

/-! ## What the setters leave behind -/

namespace LoraPoint2Point

/-- The state after `setSpreadingFactor`, accepted or refused. -/
def withSpreadingFactor (spreadingFactor : EnumValue) (node : LoraPoint2Point) :
    LoraPoint2Point :=
  if numSpreadingFactors ≤ spreadingFactor then node
  else node.resetPacketErrorFraction.storeSpreadingFactor spreadingFactor

def withBandwidth (bandwidth : EnumValue) (node : LoraPoint2Point) : LoraPoint2Point :=
  if numSignalBandwidths ≤ bandwidth then node
  else node.resetPacketErrorFraction.storeBandwidth bandwidth

def withFrequencyChannel (frequencyChannel : EnumValue) (node : LoraPoint2Point) :
    LoraPoint2Point :=
  if numFrequencyChannels ≤ frequencyChannel then node
  else node.resetPacketErrorFraction.storeFrequencyChannel frequencyChannel

def withTxPower (txPower : Int8) (node : LoraPoint2Point) : LoraPoint2Point :=
  if maxTxPower < txPower ∨ txPower < minTxPower then node
  else node.resetPacketErrorFraction.storeTxPower txPower

def withSettings (settings : Settings) (node : LoraPoint2Point) : LoraPoint2Point :=
  (((node.withSpreadingFactor settings.spreadingFactor).withBandwidth
    settings.signalBandwidth).withTxPower settings.txPower).withFrequencyChannel
      settings.frequencyChannel

end LoraPoint2Point

section Effects

variable (node : LoraPoint2Point)

theorem storeSetting_ends (store : LoraPoint2Point → LoraPoint2Point) :
    (storeSetting store node).Ends fun later _ =>
      later = store node.resetPacketErrorFraction := by
  simp [storeSetting]

theorem setSpreadingFactor_ends (spreadingFactor : EnumValue) :
    (setSpreadingFactor spreadingFactor node).Ends fun later _ =>
      later = node.withSpreadingFactor spreadingFactor := by
  unfold setSpreadingFactor LoraPoint2Point.withSpreadingFactor
  split
  · rfl
  · simpa [lookup] using storeSetting_ends node _

theorem setBandwidth_ends (bandwidth : EnumValue) :
    (setBandwidth bandwidth node).Ends fun later _ =>
      later = node.withBandwidth bandwidth := by
  unfold setBandwidth LoraPoint2Point.withBandwidth
  split
  · rfl
  · simpa [lookup] using storeSetting_ends node _

theorem setTxPower_ends (txPower : Int8) :
    (setTxPower txPower node).Ends fun later _ => later = node.withTxPower txPower := by
  unfold setTxPower LoraPoint2Point.withTxPower
  split
  · rfl
  · simpa using storeSetting_ends node _

theorem setFrequencyChannel_ends (frequencyChannel : EnumValue) :
    (setFrequencyChannel frequencyChannel node).Ends fun later _ =>
      later = node.withFrequencyChannel frequencyChannel := by
  unfold setFrequencyChannel LoraPoint2Point.withFrequencyChannel
  split
  · rfl
  · simpa [lookup, setFrequency, haltForever] using storeSetting_ends node _

theorem setAll_ends (settings : Settings) :
    (setAll settings node).Ends fun later _ => later = node.withSettings settings := by
  refine Resumption.Ends.bind_iff.2 ((setSpreadingFactor_ends node _).mono ?_)
  rintro _ _ rfl
  refine Resumption.Ends.bind_iff.2 ((setBandwidth_ends _ _).mono ?_)
  rintro _ _ rfl
  refine Resumption.Ends.bind_iff.2 ((setTxPower_ends _ _).mono ?_)
  rintro _ _ rfl
  exact setFrequencyChannel_ends _ _

end Effects

namespace LoraPoint2Point

variable (node : LoraPoint2Point) {settings : Settings}

/-- Valid settings are all accepted. -/
theorem withSettings_of_valid (valid : settings.Valid) :
    node.withSettings settings =
      { node.resetPacketErrorFraction with current := settings, previous := node.current } := by
  obtain ⟨spreadingFactor, signalBandwidth, frequencyChannel, low, high⟩ := valid
  have power : ¬ (maxTxPower < settings.txPower ∨ settings.txPower < minTxPower) := by
    rintro (above | below)
    · exact Int8.not_lt.2 high above
    · exact Int8.not_lt.2 low below
  simp only [withSettings, withSpreadingFactor, withBandwidth, withTxPower, withFrequencyChannel,
    if_neg (Nat.not_le.2 spreadingFactor), if_neg (Nat.not_le.2 signalBandwidth),
    if_neg (Nat.not_le.2 frequencyChannel), if_neg power, storeSpreadingFactor, storeBandwidth,
    storeTxPower, storeFrequencyChannel, resetPacketErrorFraction]

end LoraPoint2Point

end Roam.Node
