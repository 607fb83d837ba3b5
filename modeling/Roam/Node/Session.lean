import Roam.Node.Serial

/-!
# Sessions

What an application can do with one node: set the radio up and then call the
public members in any order, with any arguments.  A session is such a list of
calls; the answers of the surroundings are left open, so the runs of sessions
are all runs of one node.
-/

namespace Roam.Node

open Roam.Interaction

/-- One call of a public member that can change the object. -/
inductive Operation where
  | setSpreadingFactor (spreadingFactor : EnumValue)
  | setBandwidth (bandwidth : EnumValue)
  | setFrequencyChannel (frequencyChannel : EnumValue)
  | setTxPower (txPower : Int8)
  | setTxMessage (txMsgContents : List UInt8) (numChars : UInt8)
  | buildStringFromSerial (pending : List UInt8)
  | startHeartbeats
  | stopHeartbeats
  | serviceTx (destAddress : UInt8)
  | serviceTxSpan (destAddress : UInt8) (buf : List UInt8) (bufLen : UInt8) (ascii : Bool)
  | serviceRx
  | linkChangeReq (destAddress : UInt8) (settings : Settings)
  | serviceTimers
  deriving DecidableEq, Repr

namespace Operation

/-- The code behind a call, with its return value dropped. -/
def run : Operation → NodeM Unit
  | .setSpreadingFactor spreadingFactor => Node.setSpreadingFactor spreadingFactor
  | .setBandwidth bandwidth => Node.setBandwidth bandwidth
  | .setFrequencyChannel frequencyChannel => Node.setFrequencyChannel frequencyChannel
  | .setTxPower txPower => Node.setTxPower txPower
  | .setTxMessage txMsgContents numChars =>
      discard (Node.setTxMessage txMsgContents numChars)
  | .buildStringFromSerial pending => discard (Node.buildStringFromSerial pending)
  | .startHeartbeats => Node.startHeartbeats
  | .stopHeartbeats => Node.stopHeartbeats
  | .serviceTx destAddress => Node.serviceTx destAddress
  | .serviceTxSpan destAddress buf bufLen ascii =>
      Node.serviceTxSpan destAddress ⟨.argument, buf⟩ bufLen ascii
  | .serviceRx => Node.serviceRx
  | .linkChangeReq destAddress settings => Node.linkChangeReq destAddress settings
  | .serviceTimers => Node.serviceTimers

/-- Calls with which the application itself changes the link.  Typed characters
are a command inside command mode, and a `'!'` opens it. -/
def changesLink (serialCommandMode : Bool) : Operation → Bool
  | .setSpreadingFactor _ => true
  | .setBandwidth _ => true
  | .setFrequencyChannel _ => true
  | .setTxPower _ => true
  | .buildStringFromSerial pending => serialCommandMode || pending.contains exclamation
  | .linkChangeReq _ _ => true
  | _ => false

/-- The frame a call transmits from its own arguments, if it does. -/
def payloads : Operation → List (List UInt8)
  | .serviceTxSpan _ buf bufLen _ => if 0 < bufLen then [buf.take bufLen.toNat] else []
  | _ => []

end Operation

/-- The object as constructed. -/
def LoraPoint2Point.initial (thisAddress : UInt8) : LoraPoint2Point :=
  { thisAddress := thisAddress }

/-- The listed calls, one after the other. -/
def operate (operations : List Operation) : NodeM Unit :=
  operations.forM Operation.run

/-- Set the radio up and, if that succeeds, make the listed calls. -/
def session (operations : List Operation) : NodeM Bool := do
  if ← setupRadio then
    operate operations
    return true
  else
    return false

/-- States in which a node can be between two calls after a successful setup. -/
def Reachable (node : LoraPoint2Point) : Prop :=
  ∃ thisAddress operations trace,
    Resumption.Runs (session operations (LoraPoint2Point.initial thisAddress)) trace
      (.done node true)

/-! ## Surroundings given by functions -/

/-- Surroundings in which the radio comes up and every driver call succeeds.
Clock, acknowledgements and receptions depend on the position in the run. -/
structure Surroundings where
  clock : Nat → UInt32 := fun _ => 0
  acknowledges : Nat → Bool := fun _ => true
  receives : Nat → Reception := fun _ => .nothing
  unassigned : UInt8 := 0

namespace Surroundings

/-- The answer to the action at a position.  The endless loop gets none. -/
def answer (surroundings : Surroundings) (position : Nat) :
    (action : Action) → Option action.Answer
  | .millis => some (surroundings.clock position)
  | .rf95Init => some true
  | .rhReliableDatagramInit => some true
  | .rf95SetFrequency _ => some true
  | .rf95LastSNR => some 0
  | .sendtoWait _ _ => some (surroundings.acknowledges position)
  | .recvfromAckTimeout _ _ => some (surroundings.receives position)
  | .uninitialised => some surroundings.unassigned
  | .halt => none
  | .enter _ => some ()
  | .leave _ => some ()
  | .index _ _ _ => some ()
  | .delay _ => some ()
  | .digitalWrite _ _ => some ()
  | .rf95SetSpreadingFactor _ => some ()
  | .rf95SetSignalBandwidth _ => some ()
  | .rf95SetTxPower _ _ => some ()
  | .rf95SetModeIdle => some ()
  | .rf95WaitCAD => some ()
  | .txInd _ _ _ => some ()
  | .rxInd _ => some ()
  | .linkChangeInd _ => some ()

/-- The run of a session in given surroundings. -/
def run (surroundings : Surroundings) (operations : List Operation) (thisAddress : UInt8) :
    List NodeStep × NodeRun Bool :=
  Resumption.drive surroundings.answer 0
    (session operations (LoraPoint2Point.initial thisAddress))

theorem run_runs (surroundings : Surroundings) (operations : List Operation)
    (thisAddress : UInt8) :
    Resumption.Runs (session operations (LoraPoint2Point.initial thisAddress))
      (surroundings.run operations thisAddress).1 (surroundings.run operations thisAddress).2 :=
  Resumption.drive_runs _ _ _

end Surroundings

end Roam.Node
