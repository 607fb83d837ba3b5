import Mathlib.Order.Lattice.Nat
import Roam.Node.SimpleTimer

/-!
# The timer over true time

`millis()` wraps every 49 days, a timer compares a 32-bit difference with its
timeout.  `TrueTimer` is the timer meant by the class: it runs on unbounded time
and measures from the last event that counts as a new beginning.  As long as
updates come often enough, the two never disagree.
-/

namespace Roam.Node

/-! ## Histories of a timer -/

/-- One call of a public member that changes a timer. -/
inductive TimerCall where
  | start
  | pause
  | reset
  | setTimeout (timeoutMillis : UInt32)
  | clearDone
  | update
  deriving DecidableEq, Repr

/-- A call, with the true time that its owner's `currentMillis` stands for. -/
structure TimerEvent where
  call : TimerCall
  time : Nat
  deriving DecidableEq, Repr

/-- What `currentMillis` holds at a true time. -/
def shown (time : Nat) : UInt32 := UInt32.ofNat time

namespace TimerEvent

/-- The time of the last update, once this event has happened. -/
def updated (event : TimerEvent) (earlier : Nat) : Nat :=
  if event.call = .update then event.time else earlier

/-- The timeout this event sets, if it sets one. -/
def timeout? (event : TimerEvent) : Option UInt32 :=
  match event.call with
  | .setTimeout timeoutMillis => some timeoutMillis
  | _ => none

end TimerEvent

/-- The largest timeout a timer is ever given, at its construction or later. -/
def longestTimeout (timeoutMillis : UInt32) (events : List TimerEvent) : Nat :=
  (events.filterMap TimerEvent.timeout?).foldr (fun timeout longest => max timeout.toNat longest)
    timeoutMillis.toNat

/-- True time never decreases, and updates are less than 2^32 minus the longest
timeout apart. -/
def Spaced (longest : Nat) : Nat → Nat → List TimerEvent → Prop
  | _, _, [] => True
  | updated, now, event :: events =>
      now ≤ event.time ∧
        (event.call = .update → event.time < updated + (2 ^ 32 - longest)) ∧
          Spaced longest (event.updated updated) event.time events

instance decidableSpaced (longest : Nat) :
    ∀ updated now events, Decidable (Spaced longest updated now events)
  | _, _, [] => isTrue trivial
  | updated, _, event :: events =>
      have := decidableSpaced longest (event.updated updated) event.time events
      inferInstanceAs (Decidable (_ ∧ _ ∧ _))

namespace SimpleTimer

/-- A timer as its constructor leaves it. -/
def constructed (timerCallback repeating : Bool) (timeoutMillis : UInt32) : SimpleTimer :=
  { timerCallback := timerCallback, timeoutMillis := timeoutMillis, repeating := repeating }

def on (timer : SimpleTimer) (event : TimerEvent) : SimpleTimer :=
  match event.call with
  | .start => timer.start
  | .pause => timer.pause
  | .reset => timer.reset (shown event.time)
  | .setTimeout timeoutMillis => timer.setTimeout timeoutMillis
  | .clearDone => timer.clearDone
  | .update => timer.update (shown event.time)

def after (timer : SimpleTimer) (events : List TimerEvent) : SimpleTimer :=
  events.foldl on timer

/-- An update only ever raises the flag. -/
theorem update_done_or (timer : SimpleTimer) (currentMillis : UInt32) :
    (timer.update currentMillis).done = true ↔
      timer.done = true ∨ timer.Expired currentMillis := by
  cases raised : timer.done with
  | false =>
      rw [update_done_iff raised]
      exact (or_iff_right nofun).symm
  | true =>
      refine iff_of_true ?_ (Or.inl rfl)
      by_cases expired : timer.Expired currentMillis
      · cases repeats : timer.repeating <;>
          simp [update, updateCalling, expired.1, expired.2, repeats, reset, pause]
      · cases running : timer.started with
        | true => rw [update_of_running running expired, raised]
        | false =>
            rw [update_of_stopped running]
            exact raised

end SimpleTimer

/-! ## The timer that is meant -/

/-- A timer that measures true time.  Its reference is the last of construction,
reset, firing and an update while stopped. -/
structure TrueTimer where
  timeoutMillis : Nat
  reference : Nat := 0
  repeating : Bool
  started : Bool := false
  done : Bool := false
  deriving DecidableEq, Repr

namespace TrueTimer

def constructed (repeating : Bool) (timeoutMillis : UInt32) : TrueTimer :=
  { timeoutMillis := timeoutMillis.toNat, repeating := repeating }

/-- Running, and more than the timeout in force since the reference. -/
def Expired (timer : TrueTimer) (time : Nat) : Prop :=
  timer.started = true ∧ timer.timeoutMillis < time - timer.reference

instance (timer : TrueTimer) (time : Nat) : Decidable (timer.Expired time) :=
  inferInstanceAs (Decidable (_ ∧ _))

/-- An update fires an expired timer and drags the reference of a stopped one along. -/
def update (timer : TrueTimer) (time : Nat) : TrueTimer :=
  if timer.Expired time then
    { timer with reference := time, done := true, started := timer.repeating }
  else if timer.started then timer
  else { timer with reference := time }

def on (timer : TrueTimer) (event : TimerEvent) : TrueTimer :=
  match event.call with
  | .start => { timer with started := true }
  | .pause => { timer with started := false }
  | .reset => { timer with reference := event.time }
  | .setTimeout timeoutMillis => { timer with timeoutMillis := timeoutMillis.toNat }
  | .clearDone => { timer with done := false }
  | .update => timer.update event.time

def after (timer : TrueTimer) (events : List TimerEvent) : TrueTimer :=
  events.foldl on timer

/-- No event moves the reference back. -/
theorem reference_on {timer : TrueTimer} {event : TimerEvent}
    (past : timer.reference ≤ event.time) : timer.reference ≤ (timer.on event).reference := by
  unfold on
  split
  · exact Nat.le_refl _
  · exact Nat.le_refl _
  · exact past
  · exact Nat.le_refl _
  · exact Nat.le_refl _
  · unfold update
    split
    · exact past
    · split
      · exact Nat.le_refl _
      · exact past

end TrueTimer

/-! ## Differences of the wrapped clock -/

/-- A difference of two readings is the true difference as long as that is below 2^32. -/
theorem shown_sub {earlier later : Nat} (order : earlier ≤ later)
    (near : later < earlier + 2 ^ 32) :
    (shown later - shown earlier).toNat = later - earlier := by
  unfold shown
  rw [UInt32.toNat_sub, UInt32.toNat_ofNat', UInt32.toNat_ofNat']
  omega

/-! ## Simulation -/

/-- The timer shows what the true timer holds.  The last fields are what the spacing
of the updates comes to: the last update is no more than the longest timeout behind
the reference. -/
structure Follows (longest updated now : Nat) (timer : SimpleTimer) (watch : TrueTimer) :
    Prop where
  timeout : timer.timeoutMillis.toNat = watch.timeoutMillis
  reference : timer.referenceMillis = shown watch.reference
  repeating : timer.repeating = watch.repeating
  started : timer.started = watch.started
  done : timer.done = watch.done
  bounded : watch.timeoutMillis ≤ longest
  past : watch.reference ≤ now
  served : updated ≤ now
  recent : updated ≤ watch.reference + longest

namespace Follows

variable {longest updated now time : Nat} {timer : SimpleTimer} {watch : TrueTimer}

/-- Both timers expire at the same update. -/
theorem expired_iff (follows : Follows longest updated now timer watch) (forward : now ≤ time)
    (soon : time < updated + (2 ^ 32 - longest)) :
    timer.Expired (shown time) ↔ watch.Expired time := by
  have order : watch.reference ≤ time := Nat.le_trans follows.past forward
  have near : time < watch.reference + 2 ^ 32 := by
    have served := follows.served
    have recent := follows.recent
    omega
  unfold SimpleTimer.Expired TrueTimer.Expired
  rw [follows.started, UInt32.lt_iff_toNat_lt, follows.timeout, follows.reference,
    shown_sub order near]

theorem update (follows : Follows longest updated now timer watch) (forward : now ≤ time)
    (soon : time < updated + (2 ^ 32 - longest)) :
    Follows longest time time (timer.update (shown time)) (watch.update time) := by
  have agree := follows.expired_iff forward soon
  unfold TrueTimer.update
  split
  · rename_i expired
    obtain ⟨running, late⟩ := agree.2 expired
    have fired : timer.update (shown time) =
        { timer with
          referenceMillis := shown time
          done := true
          started := timer.repeating } := by
      cases repeats : timer.repeating <;>
        simp [SimpleTimer.update, SimpleTimer.updateCalling, running, late, repeats,
          SimpleTimer.reset, SimpleTimer.pause]
    rw [fired]
    exact {
      timeout := follows.timeout
      reference := rfl
      repeating := follows.repeating
      started := follows.repeating
      done := rfl
      bounded := follows.bounded
      past := Nat.le_refl time
      served := Nat.le_refl time
      recent := Nat.le_add_right time longest }
  · rename_i pending
    split
    · rename_i running
      rw [SimpleTimer.update_of_running (follows.started.trans running) (mt agree.1 pending)]
      have early : time - watch.reference ≤ watch.timeoutMillis :=
        Nat.le_of_not_lt fun late => pending ⟨running, late⟩
      have bounded := follows.bounded
      have past := Nat.le_trans follows.past forward
      have recent : time ≤ watch.reference + longest := by omega
      exact { follows with past := past, served := Nat.le_refl time, recent := recent }
    · rename_i stopped
      rw [SimpleTimer.update_of_stopped (follows.started.trans (Bool.eq_false_iff.2 stopped))]
      exact {
        follows with
        reference := rfl
        past := Nat.le_refl time
        served := Nat.le_refl time
        recent := Nat.le_add_right time longest }

/-- One event keeps the timer in step with the true timer. -/
theorem on {event : TimerEvent} (follows : Follows longest updated now timer watch)
    (forward : now ≤ event.time)
    (soon : event.call = .update → event.time < updated + (2 ^ 32 - longest))
    (bounded : ∀ timeoutMillis ∈ event.timeout?, timeoutMillis.toNat ≤ longest) :
    Follows longest (event.updated updated) event.time (timer.on event) (watch.on event) := by
  obtain ⟨call, time⟩ := event
  have past : watch.reference ≤ time := Nat.le_trans follows.past forward
  have served : updated ≤ time := Nat.le_trans follows.served forward
  cases call with
  | start => exact { follows with started := rfl, past := past, served := served }
  | pause => exact { follows with started := rfl, past := past, served := served }
  | reset =>
      have recent : updated ≤ time + longest := Nat.le_add_right_of_le served
      exact {
        follows with
        reference := rfl
        past := Nat.le_refl time
        served := served
        recent := recent }
  | setTimeout timeoutMillis =>
      exact {
        follows with
        timeout := rfl
        bounded := bounded timeoutMillis rfl
        past := past
        served := served }
  | clearDone => exact { follows with done := rfl, past := past, served := served }
  | update => exact follows.update forward (soon rfl)

/-- The timer stays in step over a whole history, and the reference never moves back. -/
theorem after {events rest : List TimerEvent} (follows : Follows longest updated now timer watch)
    (bounded : ∀ timeoutMillis ∈ events.filterMap TimerEvent.timeout?,
      timeoutMillis.toNat ≤ longest)
    (spaced : Spaced longest updated now (events ++ rest)) :
    ∃ updated now, Follows longest updated now (timer.after events) (watch.after events) ∧
      watch.reference ≤ (watch.after events).reference ∧ Spaced longest updated now rest := by
  induction events generalizing updated now timer watch with
  | nil => exact ⟨updated, now, follows, Nat.le_refl _, spaced⟩
  | cons event events ih =>
      obtain ⟨forward, soon, spaced⟩ := spaced
      have first : ∀ timeoutMillis ∈ event.timeout?, timeoutMillis.toNat ≤ longest := by
        intro timeoutMillis set
        exact bounded timeoutMillis (List.mem_filterMap.2 ⟨event, List.mem_cons_self, set⟩)
      have others : ∀ timeoutMillis ∈ events.filterMap TimerEvent.timeout?,
          timeoutMillis.toNat ≤ longest := by
        intro timeoutMillis member
        obtain ⟨later, member, set⟩ := List.mem_filterMap.1 member
        exact bounded timeoutMillis
          (List.mem_filterMap.2 ⟨later, List.mem_cons_of_mem event member, set⟩)
      have step := follows.on forward soon first
      obtain ⟨updated, now, reached, onwards, spaced⟩ := ih step others spaced
      have moved := TrueTimer.reference_on (Nat.le_trans follows.past forward)
      exact ⟨updated, now, reached, Nat.le_trans moved onwards, spaced⟩

end Follows

/-! ## Every run -/

theorem le_longestTimeout (timeoutMillis : UInt32) (events : List TimerEvent) :
    timeoutMillis.toNat ≤ longestTimeout timeoutMillis events ∧
      ∀ timeout ∈ events.filterMap TimerEvent.timeout?,
        timeout.toNat ≤ longestTimeout timeoutMillis events := by
  unfold longestTimeout
  induction events.filterMap TimerEvent.timeout? with
  | nil => exact ⟨Nat.le_refl _, nofun⟩
  | cons first others ih =>
      obtain ⟨start, rest⟩ := ih
      constructor
      · exact le_max_of_le_right start
      · intro timeout member
        cases List.mem_cons.1 member with
        | inl same => exact le_max_of_le_left (same ▸ Nat.le_refl _)
        | inr member => exact le_max_of_le_right (rest timeout member)

theorem SimpleTimer.update_timerCallback (timer : SimpleTimer) (currentMillis : UInt32) :
    (timer.update currentMillis).timerCallback = timer.timerCallback := by
  unfold update updateCalling
  split_ifs <;> rfl

theorem SimpleTimer.on_timerCallback (timer : SimpleTimer) (event : TimerEvent) :
    (timer.on event).timerCallback = timer.timerCallback := by
  obtain ⟨call, time⟩ := event
  cases call with
  | update => exact timer.update_timerCallback (shown time)
  | _ => rfl

theorem SimpleTimer.after_timerCallback (timer : SimpleTimer) (events : List TimerEvent) :
    (timer.after events).timerCallback = timer.timerCallback := by
  induction events generalizing timer with
  | nil => rfl
  | cons event events ih => exact (ih (timer.on event)).trans (timer.on_timerCallback event)

section Runs

variable (timerCallback repeating : Bool) {timeoutMillis : UInt32}
variable {before after : List TimerEvent} {time : Nat}

/-- Wherever an update stands in a well spaced history, the timer is in step. -/
theorem follows_constructed
    (spaced : Spaced (longestTimeout timeoutMillis (before ++ after)) 0 0 (before ++ after)) :
    ∃ updated now,
      Follows (longestTimeout timeoutMillis (before ++ after)) updated now
        ((SimpleTimer.constructed timerCallback repeating timeoutMillis).after before)
        ((TrueTimer.constructed repeating timeoutMillis).after before) ∧
      Spaced (longestTimeout timeoutMillis (before ++ after)) updated now after := by
  obtain ⟨own, set⟩ := le_longestTimeout timeoutMillis (before ++ after)
  have start : Follows (longestTimeout timeoutMillis (before ++ after)) 0 0
      (SimpleTimer.constructed timerCallback repeating timeoutMillis)
      (TrueTimer.constructed repeating timeoutMillis) := {
    timeout := rfl
    reference := rfl
    repeating := rfl
    started := rfl
    done := rfl
    bounded := own
    past := Nat.le_refl 0
    served := Nat.le_refl 0
    recent := Nat.zero_le _ }
  have bounded : ∀ timeout ∈ before.filterMap TimerEvent.timeout?,
      timeout.toNat ≤ longestTimeout timeoutMillis (before ++ after) := by
    intro timeout member
    apply set timeout
    rw [List.filterMap_append]
    exact List.mem_append_left _ member
  obtain ⟨updated, now, follows, _, spaced⟩ := start.after bounded spaced
  exact ⟨updated, now, follows, spaced⟩

/-- Two firings are more than the timeout in force at the second one apart. -/
theorem firings_apart {middle : List TimerEvent} {last : Nat}
    (spaced : Spaced (longestTimeout timeoutMillis
        (before ++ ⟨.update, last⟩ :: (middle ++ ⟨.update, time⟩ :: after))) 0 0
      (before ++ ⟨.update, last⟩ :: (middle ++ ⟨.update, time⟩ :: after)))
    (fired : ((SimpleTimer.constructed timerCallback repeating timeoutMillis).after
      before).Expired (shown last))
    (again : ((SimpleTimer.constructed timerCallback repeating timeoutMillis).after
      (before ++ ⟨.update, last⟩ :: middle)).Expired (shown time)) :
    ((SimpleTimer.constructed timerCallback repeating timeoutMillis).after
      (before ++ ⟨.update, last⟩ :: middle)).timeoutMillis.toNat < time - last := by
  obtain ⟨updated, now, follows, forward, soon, rest⟩ :=
    follows_constructed timerCallback repeating spaced
  have expired := (follows.expired_iff forward (soon rfl)).1 fired
  have step := follows.update forward (soon rfl)
  have moved : ((TrueTimer.constructed repeating timeoutMillis).after before |>.update
      last).reference = last := by
    rw [TrueTimer.update, if_pos expired]
  have set := (le_longestTimeout timeoutMillis
    (before ++ ⟨.update, last⟩ :: (middle ++ ⟨.update, time⟩ :: after))).2
  have bounded : ∀ timeout ∈ middle.filterMap TimerEvent.timeout?, timeout.toNat ≤
      longestTimeout timeoutMillis
        (before ++ ⟨.update, last⟩ :: (middle ++ ⟨.update, time⟩ :: after)) := by
    intro timeout member
    obtain ⟨event, member, sets⟩ := List.mem_filterMap.1 member
    apply set timeout
    refine List.mem_filterMap.2 ⟨event, List.mem_append_right _ ?_, sets⟩
    exact List.mem_cons_of_mem _ (List.mem_append_left _ member)
  obtain ⟨updated, now, reached, onwards, forward, soon, _⟩ := step.after bounded rest
  rw [moved] at onwards
  have timer : (SimpleTimer.constructed timerCallback repeating timeoutMillis).after
      (before ++ ⟨.update, last⟩ :: middle) =
        (((SimpleTimer.constructed timerCallback repeating timeoutMillis).after before).update
          (shown last)).after middle :=
    List.foldl_append
  rw [timer] at again ⊢
  obtain ⟨_, late⟩ := (reached.expired_iff forward (soon rfl)).1 again
  rw [reached.timeout]
  exact Nat.lt_of_lt_of_le late (Nat.sub_le_sub_left onwards time)

end Runs

/-- However the calls on a timer are ordered, as long as time runs forward and the
updates are less than 2^32 minus the longest timeout apart, an update raises the
flag and calls back exactly if the timer runs and more than the timeout in force
has passed since the reference, in true time; and firings are more than that
timeout apart. -/
theorem fires_in_true_time (timerCallback repeating : Bool) (timeoutMillis : UInt32)
    (before after : List TimerEvent) (time : Nat)
    (spaced : Spaced (longestTimeout timeoutMillis (before ++ ⟨.update, time⟩ :: after)) 0 0
      (before ++ ⟨.update, time⟩ :: after)) :
    let timer := (SimpleTimer.constructed timerCallback repeating timeoutMillis).after before
    let reference := ((TrueTimer.constructed repeating timeoutMillis).after before).reference
    let fires := timer.started = true ∧ timer.timeoutMillis.toNat < time - reference
    ((timer.update (shown time)).done = true ↔ timer.done = true ∨ fires) ∧
      (timer.callsBack (shown time) = true ↔ timerCallback = true ∧ fires) ∧
        (timer.Expired (shown time) ↔ fires) ∧
          ∀ earlier middle last, before = earlier ++ ⟨.update, last⟩ :: middle →
            ((SimpleTimer.constructed timerCallback repeating timeoutMillis).after
              earlier).Expired (shown last) →
              fires → timer.timeoutMillis.toNat < time - last := by
  intro timer reference fires
  obtain ⟨updated, now, follows, forward, soon, _⟩ :=
    follows_constructed timerCallback repeating spaced
  have agree : timer.Expired (shown time) ↔ fires := by
    have same := follows.expired_iff forward (soon rfl)
    rw [TrueTimer.Expired, ← follows.started, ← follows.timeout] at same
    exact same
  refine ⟨?_, ?_, agree, ?_⟩
  · rw [← agree]
    exact timer.update_done_or (shown time)
  · have callback : timer.timerCallback = timerCallback :=
      SimpleTimer.after_timerCallback _ before
    rw [SimpleTimer.callsBack_iff, agree, callback]
  · rintro earlier middle last rfl fired again
    have assoc : (earlier ++ ⟨.update, last⟩ :: middle) ++ ⟨.update, time⟩ :: after =
        earlier ++ ⟨.update, last⟩ :: (middle ++ ⟨.update, time⟩ :: after) := by
      rw [List.append_assoc, List.cons_append]
    rw [assoc] at spaced
    exact firings_apart timerCallback repeating spaced fired (agree.2 again)

/-- A repeating timer fires again four seconds later, although the clock has wrapped. -/
theorem fires_in_true_time_across_wrap :
    ((SimpleTimer.constructed true true 3000).after
      [⟨.start, 0⟩, ⟨.update, 4294964000⟩]).callsBack (shown 4294968000) = true := by
  have spaced : Spaced (longestTimeout 3000
      ([⟨.start, 0⟩, ⟨.update, 4294964000⟩] ++ ⟨.update, 4294968000⟩ :: [])) 0 0
      ([⟨.start, 0⟩, ⟨.update, 4294964000⟩] ++ ⟨.update, 4294968000⟩ :: []) := by
    decide
  have fires := fires_in_true_time true true 3000 _ _ _ spaced
  exact fires.2.1.2 ⟨rfl, rfl, by decide⟩

end Roam.Node
