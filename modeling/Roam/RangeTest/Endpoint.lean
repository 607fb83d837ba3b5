import Roam.Interaction.Refinement
import Roam.Node.Responses
import Roam.RangeTest.Base

/-!
# The range test endpoint

`LoRaRangeTest_Endpoint` sends to the base what is typed at its USB port, and lets
its `loraPoint2Point` object answer what it receives.  Its callbacks are empty.
The two sketches together are two programs on the air, each with code of its own
besides that of its object.
-/

namespace Roam.RangeTest

open Roam.Interaction
open Roam.Node

/-- The global of the endpoint that its loop assigns. -/
structure Endpoint where
  currentMillis : UInt32 := 0
  deriving DecidableEq

namespace Endpoint

abbrev EndpointM (Value : Type) : Type :=
  Program (Endpoint × LoraPoint2Point) Action Action.Answer Value

/-- The callbacks of the endpoint do nothing. -/
def callbacks (action : Node.Action) : Program Endpoint Action Action.Answer action.Answer :=
  Program.ask (Action.radio action)

def call {Value : Type} (program : NodeM Value) : EndpointM Value :=
  program.hosted callbacks

def readClock : Program Endpoint Action Action.Answer Unit := do
  let now ← Program.ask Action.millis
  modify fun endpoint => { endpoint with currentMillis := now }

def loop : EndpointM Unit := do
  Program.beside readClock
  let pending ← Program.beside (Program.ask Action.typed)
  if (← call (buildStringFromSerial pending)) ≠ 0 then
    call (serviceTx baseAddress)
  call serviceRx

/-- `loop()` called a number of times. -/
def loops : Nat → EndpointM Unit
  | 0 => pure ()
  | iterations + 1 => do
      loop
      loops iterations

/-- `setup()` and then the main loop.  The endpoint goes on whether or not its radio
could be set up. -/
def sketch (iterations : Nat) : EndpointM Unit := do
  let _ ← call setupRadio
  loops iterations

/-- The globals and the object as constructed. -/
def start : Endpoint × LoraPoint2Point := ({}, LoraPoint2Point.initial endpointAddress)

end Endpoint

/-! ## Two sketches on the air -/

/-- The actions of the object are all that is seen of a sketch. -/
def onAir (Globals : Type) : View (Globals × LoraPoint2Point) Action Action.Answer
    LoraPoint2Point Node.Action Node.Action.Answer where
  part := Prod.snd
  sees
    | ⟨both, .radio action, answer⟩ => some ⟨both.2, action, answer⟩
    | _ => none
  waits both
    | .radio action => some (both.2, action)
    | _ => none
  agree := by
    rintro ⟨both, action, answer⟩
    cases action <;> rfl

/-- The state of one of the two sketches. -/
abbrev Sketch : Type := (Base ⊕ Endpoint) × LoraPoint2Point

/-- The two sketches in execution. -/
abbrev Sketches : Type := Pair Sketch Action Action.Answer Unit Air

abbrev SketchEvent : Type := Event Sketch Action Action.Answer

/-- The radio between the sketches is that between their objects. -/
def field : Medium Sketch Action Action.Answer Air where
  admits air side sketch action answer waiting :=
    match action, answer with
    | .radio action, answer => radio.admits air side sketch.2 action answer
        (waiting.bind fun waiting => (onAir _).waits waiting.1 waiting.2)
    | _, _ => True
  after air side action answer :=
    match action, answer with
    | .radio action, answer => air.after side action answer
    | _, _ => air

instance (air : Air) (side : Side) (sketch : Sketch) (action : Action) (answer : action.Answer)
    (waiting : Option (Sketch × Action)) :
    Decidable (field.admits air side sketch action answer waiting) :=
  match action, answer with
  | .radio action, answer => inferInstanceAs (Decidable (radio.admits air side sketch.2 action answer
      (waiting.bind fun waiting => (onAir _).waits waiting.1 waiting.2)))
  | .millis, _ => .isTrue trivial
  | .digitalRead _, _ => .isTrue trivial
  | .typed, _ => .isTrue trivial
  | .openDataFile, _ => .isTrue trivial
  | .printRow _, _ => .isTrue trivial
  | .triggered _, _ => .isTrue trivial

/-- The base as one of the two sketches. -/
def asBase (both : Base × LoraPoint2Point) : Sketch := (.inl both.1, both.2)

def asEndpoint (both : Endpoint × LoraPoint2Point) : Sketch := (.inr both.1, both.2)

/-- The base is the client and the endpoint the server; both are switched on. -/
def Sketches.start (iterations : Both Nat) : Sketches where
  parties :=
    ⟨(sketch iterations.client RangeTest.start).embed asBase,
      (Endpoint.sketch iterations.server Endpoint.start).embed asEndpoint⟩
  air := ⟨none, none⟩

end Roam.RangeTest
