import Mathlib.Data.UInt

/-!
# The software timer

`SimpleTimer` follows the class `simpleTimer`.  The class holds a reference to
its owner's `currentMillis`; here the owner passes that reading to the
operations that look at it.  Millisecond arithmetic is the 32-bit arithmetic of
the source, so a difference survives the wrap of `millis()`.
-/

namespace Roam.Node

/-- Members of `simpleTimer`; `timerCallback` says whether a callback is attached. -/
structure SimpleTimer where
  timerCallback : Bool := false
  timeoutMillis : UInt32 := 0xFFFFFFFF
  referenceMillis : UInt32 := 0
  repeating : Bool := false
  started : Bool := false
  done : Bool := false
  deriving DecidableEq, Repr

namespace SimpleTimer

def pause (timer : SimpleTimer) : SimpleTimer :=
  { timer with started := false }

def start (timer : SimpleTimer) : SimpleTimer :=
  { timer with started := true }

def setTimeout (timer : SimpleTimer) (timeoutMillis : UInt32) : SimpleTimer :=
  { timer with timeoutMillis := timeoutMillis }

def reset (timer : SimpleTimer) (currentMillis : UInt32) : SimpleTimer :=
  { timer with referenceMillis := currentMillis }

def clearDone (timer : SimpleTimer) : SimpleTimer :=
  { timer with done := false }

def isRunning (timer : SimpleTimer) : Bool := timer.started

def isDone (timer : SimpleTimer) : Bool := timer.done

/-- The test made by `update`: running, and more than the timeout since the reference. -/
def Expired (timer : SimpleTimer) (currentMillis : UInt32) : Prop :=
  timer.started = true ∧ timer.timeoutMillis < currentMillis - timer.referenceMillis

instance (timer : SimpleTimer) (currentMillis : UInt32) :
    Decidable (timer.Expired currentMillis) :=
  inferInstanceAs (Decidable (_ ∧ _))

/-- The body of `update`: what becomes of the timer, and whether the callback is called. -/
def updateCalling (timer : SimpleTimer) (currentMillis : UInt32) : SimpleTimer × Bool :=
  if timer.started then
    if timer.timeoutMillis < currentMillis - timer.referenceMillis then
      let fired := { timer with done := true }.reset currentMillis
      (if timer.repeating then fired else fired.pause, timer.timerCallback)
    else (timer, false)
  else (timer.reset currentMillis, false)

def update (timer : SimpleTimer) (currentMillis : UInt32) : SimpleTimer :=
  (timer.updateCalling currentMillis).1

/-- Whether this update calls the attached callback. -/
def callsBack (timer : SimpleTimer) (currentMillis : UInt32) : Bool :=
  (timer.updateCalling currentMillis).2

/-- An expired one-shot timer stops, raises its flag and takes a new reference. -/
theorem update_of_expired {timer : SimpleTimer} {currentMillis : UInt32}
    (oneShot : timer.repeating = false) (expired : timer.Expired currentMillis) :
    timer.update currentMillis =
      { timer with referenceMillis := currentMillis, started := false, done := true } := by
  simp [update, updateCalling, expired.1, expired.2, oneShot, reset, pause]

/-- A running timer that has not expired is left alone. -/
theorem update_of_running {timer : SimpleTimer} {currentMillis : UInt32}
    (running : timer.started = true) (pending : ¬ timer.Expired currentMillis) :
    timer.update currentMillis = timer := by
  have early : ¬ timer.timeoutMillis < currentMillis - timer.referenceMillis :=
    fun late => pending ⟨running, late⟩
  simp only [update, updateCalling, running, early, ↓reduceIte]

/-- A stopped timer only moves its reference. -/
theorem update_of_stopped {timer : SimpleTimer} {currentMillis : UInt32}
    (stopped : timer.started = false) :
    timer.update currentMillis = { timer with referenceMillis := currentMillis } := by
  simp [update, updateCalling, stopped, reset]

/-- An update raises the flag exactly when the timer has expired. -/
theorem update_done_iff {timer : SimpleTimer} {currentMillis : UInt32}
    (clear : timer.done = false) :
    (timer.update currentMillis).done = true ↔ timer.Expired currentMillis := by
  constructor
  · intro raised
    by_contra pending
    cases running : timer.started with
    | true =>
        rw [update_of_running running pending, clear] at raised
        cases raised
    | false =>
        rw [update_of_stopped running] at raised
        exact absurd (clear.symm.trans raised) nofun
  · intro expired
    cases repeats : timer.repeating <;>
      simp [update, updateCalling, expired.1, expired.2, repeats, reset, pause]

/-- An update of an expired timer calls the callback that is attached, and no other does. -/
theorem callsBack_iff {timer : SimpleTimer} {currentMillis : UInt32} :
    timer.callsBack currentMillis = true ↔
      timer.timerCallback = true ∧ timer.Expired currentMillis := by
  unfold callsBack updateCalling Expired
  cases running : timer.started with
  | false => simp
  | true =>
      by_cases late : timer.timeoutMillis < currentMillis - timer.referenceMillis
      · simp [late]
      · simp [late]

end SimpleTimer

end Roam.Node
