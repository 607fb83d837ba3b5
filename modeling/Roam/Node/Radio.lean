import Roam.Interaction.Pair
import Roam.Node.Session

/-!
# Two nodes on the air

The radio between two nodes that are alone on the air.  A frame is taken in at
most once, and only while both nodes have the same tuning.  A transmission may
fail although its frame was taken in; it succeeds only if it was, or if it is a
broadcast, which nobody acknowledges.
-/

namespace Roam.Node

open Roam.Interaction

/-- For each side the frame of its pending transmission, once the other side has
taken it in. -/
abbrev Air : Type := Both (Option (List UInt8))

/-- Two nodes in execution. -/
abbrev Nodes : Type := Pair LoraPoint2Point Action Action.Answer Unit Air

/-- A step of one of the nodes. -/
abbrev NodeEvent : Type := Event LoraPoint2Point Action Action.Answer

/-- The message is the frame of the pending transmission, and not taken in yet. -/
def carried (heard : Option (List UInt8)) (node : LoraPoint2Point) (payload : List UInt8)
    (srcAddr destAddr : UInt8) : Option (LoraPoint2Point × Action) → Bool
  | some (sender, .sendtoWait sent destAddress) =>
      heard = none ∧ sent = payload ∧ sender.current.tuning = node.current.tuning ∧
        srcAddr = sender.thisAddress ∧ destAddr = destAddress ∧
          (destAddr = node.thisAddress ∨ destAddr = broadcastAddress)
  | _ => false

namespace Air

def admits (air : Air) (side : Side) (node : LoraPoint2Point) :
    (action : Action) → action.Answer → Option (LoraPoint2Point × Action) → Bool
  | .sendtoWait payload destAddress, acknowleged, _ =>
      acknowleged = true → destAddress = broadcastAddress ∨ air.of side = some payload
  | .recvfromAckTimeout _ _, .filtered payload, _ => payload ≠ []
  | .recvfromAckTimeout _ _, .message payload srcAddr destAddr _ _, waiting =>
      carried (air.of side.peer) node payload srcAddr destAddr waiting
  | _, _, _ => true

/-- A transmission is over with the next step of its sender. -/
def after (air : Air) (side : Side) : (action : Action) → action.Answer → Air
  | .recvfromAckTimeout _ _, .message payload _ _ _ _ =>
      (air.put side none).put side.peer (some payload)
  | _, _ => air.put side none

end Air

def radio : Medium LoraPoint2Point Action Action.Answer Air where
  admits air side node action answer waiting := air.admits side node action answer waiting
  after := Air.after

instance (air : Air) (side : Side) (node : LoraPoint2Point) (action : Action)
    (answer : action.Answer) (waiting : Option (LoraPoint2Point × Action)) :
    Decidable (radio.admits air side node action answer waiting) :=
  inferInstanceAs (Decidable (_ = true))

/-! ## Weather -/

/-- Clock and losses of a run in which every frame that can be taken in is taken in. -/
structure Weather where
  clock : Nat → UInt32 := fun _ => 0
  /-- The acknowledgement awaited at this position is lost. -/
  loses : Nat → Bool := fun _ => false

namespace Weather

/-- The answer to an action of one side at a position. -/
def answer (weather : Weather) (position : Nat) (air : Air) (side : Side)
    (node : LoraPoint2Point) (action : Action) (waiting : Option (LoraPoint2Point × Action)) :
    Option action.Answer :=
  match action with
  | .recvfromAckTimeout _ _ =>
      match waiting with
      | some (sender, .sendtoWait payload destAddress) =>
          if carried (air.of side.peer) node payload sender.thisAddress destAddress waiting then
            some (.message payload sender.thisAddress destAddress 0 0)
          else some .nothing
      | _ => some .nothing
  | .sendtoWait payload destAddress =>
      some (!weather.loses position &&
        (destAddress = broadcastAddress ∨ air.of side = some payload : Bool))
  | action => ({ clock := weather.clock } : Surroundings).answer position action

/-- The run in which the two nodes move in the listed order. -/
def run (weather : Weather) (order : List Side) (nodes : Nodes) : List NodeEvent × Nodes :=
  Pair.play radio weather.answer 0 order nodes

theorem run_runs (weather : Weather) (order : List Side) (nodes : Nodes) :
    Pair.Runs radio nodes (weather.run order nodes).1 (weather.run order nodes).2 :=
  Pair.play_runs _ _ _ _

end Weather

/-- Two nodes with a list of calls each, and nothing in the air. -/
def Nodes.start (clientNode serverNode : LoraPoint2Point)
    (clientCalls serverCalls : List Operation) : Nodes where
  parties := ⟨operate clientCalls clientNode, operate serverCalls serverNode⟩
  air := ⟨none, none⟩

end Roam.Node
