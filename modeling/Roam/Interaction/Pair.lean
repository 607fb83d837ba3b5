import Roam.Interaction.Contract

/-!
# Two programs over one medium

Two programs run side by side and take turns in any order.  A medium between
them decides which answers an action may get; it sees what the other party waits
for and keeps a record of its own.  A run lists the steps of both parties in the
order in which they happened.
-/

namespace Roam.Interaction

/-! ## Two sides -/

inductive Side where
  | client
  | server
  deriving DecidableEq, Repr

namespace Side

def peer : Side → Side
  | .client => .server
  | .server => .client

@[simp]
theorem peer_client : Side.client.peer = .server := rfl

@[simp]
theorem peer_server : Side.server.peer = .client := rfl

@[simp]
theorem peer_peer (side : Side) : side.peer.peer = side := by
  cases side <;> rfl

theorem eq_or_eq_peer (side other : Side) : other = side ∨ other = side.peer := by
  cases side <;> cases other <;> simp

end Side

/-- One value for each side. -/
structure Both (α : Type) where
  client : α
  server : α

namespace Both

variable {α : Type}

def of (both : Both α) : Side → α
  | .client => both.client
  | .server => both.server

def put (both : Both α) (side : Side) (value : α) : Both α :=
  match side with
  | .client => { both with client := value }
  | .server => { both with server := value }

@[simp]
theorem of_client (both : Both α) : both.of .client = both.client := rfl

@[simp]
theorem of_server (both : Both α) : both.of .server = both.server := rfl

@[simp]
theorem of_put_self (both : Both α) (side : Side) (value : α) :
    (both.put side value).of side = value := by
  cases side <;> rfl

@[simp]
theorem of_put_peer (both : Both α) (side : Side) (value : α) :
    (both.put side value).of side.peer = both.of side.peer := by
  cases side <;> rfl

@[simp]
theorem of_put_peer_self (both : Both α) (side : Side) (value : α) :
    (both.put side.peer value).of side = both.of side := by
  cases side <;> rfl

@[simp]
theorem put_client (both : Both α) (value : α) :
    both.put .client value = ⟨value, both.server⟩ := rfl

@[simp]
theorem put_server (both : Both α) (value : α) :
    both.put .server value = ⟨both.client, value⟩ := rfl

theorem put_eq (both : Both α) {side : Side} {value : α} (same : both.of side = value) :
    both.put side value = both := by
  subst same
  cases side <;> rfl

end Both

variable {State Action : Type} {Answer : Action → Type} {Value Air Ghost : Type}

/-- The state a suspended resumption exposes and the action it waits for. -/
def Resumption.pending : Resumption State Action Answer Value → Option (State × Action)
  | .done _ _ => none
  | .ask state action _ => some (state, action)

/-- What lies between two parties. -/
structure Medium (State Action : Type) (Answer : Action → Type) (Air : Type) where
  /-- Which answers an action of one side may get while the other side waits. -/
  admits : Air → Side → State → (action : Action) → Answer action → Option (State × Action) → Prop
  /-- What the answer leaves behind. -/
  after : Air → Side → (action : Action) → Answer action → Air

/-- Two programs in execution, and what is between them. -/
structure Pair (State Action : Type) (Answer : Action → Type) (Value Air : Type) where
  parties : Both (Resumption State Action Answer Value)
  air : Air

/-- A step of one of the parties. -/
abbrev Event (State Action : Type) (Answer : Action → Type) : Type :=
  Side × Step State Action Answer

namespace Pair

/-- The steps of one side, in their order. -/
def steps (side : Side) (trace : List (Event State Action Answer)) :
    List (Step State Action Answer) :=
  trace.filterMap fun event => if event.1 = side then some event.2 else none

@[simp]
theorem steps_nil (side : Side) :
    steps side ([] : List (Event State Action Answer)) = [] := rfl

@[simp]
theorem steps_cons_self (side : Side) (step : Step State Action Answer)
    (trace : List (Event State Action Answer)) :
    steps side ((side, step) :: trace) = step :: steps side trace := by
  simp [steps]

@[simp]
theorem steps_cons_peer (side : Side) (step : Step State Action Answer)
    (trace : List (Event State Action Answer)) :
    steps side.peer ((side, step) :: trace) = steps side.peer trace := by
  cases side <;> simp [steps]

theorem mem_steps {side : Side} {step : Step State Action Answer}
    {trace : List (Event State Action Answer)} :
    step ∈ steps side trace ↔ (side, step) ∈ trace := by
  simp [steps]

/-- The given side goes on with the rest of its program. -/
def answered (medium : Medium State Action Answer Air)
    (pair : Pair State Action Answer Value Air) (side : Side) (action : Action)
    (answer : Answer action) (rest : Resumption State Action Answer Value) :
    Pair State Action Answer Value Air where
  parties := pair.parties.put side rest
  air := medium.after pair.air side action answer

/-- Finite runs of both parties, in any interleaving the medium admits. -/
inductive Runs (medium : Medium State Action Answer Air) :
    Pair State Action Answer Value Air → List (Event State Action Answer) →
      Pair State Action Answer Value Air → Prop where
  | refl (pair : Pair State Action Answer Value Air) : Runs medium pair [] pair
  | step {pair last : Pair State Action Answer Value Air} (side : Side) {state : State}
      {action : Action} {resume : Answer action → Resumption State Action Answer Value}
      {trace : List (Event State Action Answer)}
      (asks : pair.parties.of side = .ask state action resume) (answer : Answer action)
      (admitted : medium.admits pair.air side state action answer
        (pair.parties.of side.peer).pending)
      (rest : Runs medium (pair.answered medium side action answer (resume answer)) trace last) :
      Runs medium pair ((side, ⟨state, action, answer⟩) :: trace) last

variable {medium : Medium State Action Answer Air}
variable {first last : Pair State Action Answer Value Air}
variable {trace : List (Event State Action Answer)}

/-- Each side makes a run of its own program. -/
theorem Runs.project (run : Runs medium first trace last) (side : Side) :
    Resumption.Runs (first.parties.of side) (steps side trace) (last.parties.of side) := by
  induction run with
  | refl pair => exact .refl _
  | @step pair last mover state action resume trace asks answer admitted rest ih =>
      rcases Side.eq_or_eq_peer mover side with rfl | rfl
      · rw [asks, steps_cons_self]
        apply Resumption.Runs.step answer
        rwa [answered, Both.of_put_self] at ih
      · rw [steps_cons_peer]
        rwa [answered, Both.of_put_peer] at ih

/-! ## Assume and guarantee -/

section Kept

variable {contract : Side → Contract State Action Answer Ghost}

/-- The histories of both sides after the listed steps. -/
def after (contract : Side → Contract State Action Answer Ghost) (ghosts : Both Ghost)
    (trace : List (Event State Action Answer)) : Both Ghost :=
  trace.foldl (fun ghosts event => ghosts.put event.1
    ((contract event.1).record (ghosts.of event.1) event.2.state event.2.action event.2.answer))
    ghosts

@[simp]
theorem after_nil (ghosts : Both Ghost) : after contract ghosts [] = ghosts := rfl

@[simp]
theorem after_cons (ghosts : Both Ghost) (event : Event State Action Answer)
    (trace : List (Event State Action Answer)) :
    after contract ghosts (event :: trace) =
      after contract (ghosts.put event.1 ((contract event.1).record (ghosts.of event.1)
        event.2.state event.2.action event.2.answer)) trace := rfl

/-- The history of a side is the one its own steps make. -/
theorem of_after (ghosts : Both Ghost) (trace : List (Event State Action Answer)) (side : Side) :
    (after contract ghosts trace).of side =
      (contract side).after (ghosts.of side) (steps side trace) := by
  induction trace generalizing ghosts with
  | nil => rfl
  | cons event trace ih =>
      obtain ⟨mover, step⟩ := event
      rw [after_cons, ih]
      rcases Side.eq_or_eq_peer mover side with rfl | rfl
      · rw [Both.of_put_self, steps_cons_self, Contract.after_cons]
      · rw [Both.of_put_peer, steps_cons_peer]

/-- Both sides are in keeping with their contracts, and an invariant holds of the whole. -/
def Kept (contract : Side → Contract State Action Answer Ghost)
    (good : Side → Ghost → State → Value → Prop)
    (inv : Pair State Action Answer Value Air → Both Ghost → Prop)
    (pair : Pair State Action Answer Value Air) (ghosts : Both Ghost) : Prop :=
  (∀ side, (pair.parties.of side).Meets (contract side) (good side) (ghosts.of side)) ∧
    inv pair ghosts

/-- If the invariant and the promises of both sides let every fitting answer of
the medium pass, and the invariant goes on behind it, then all of it lasts. -/
theorem Runs.kept {good : Side → Ghost → State → Value → Prop}
    {inv : Pair State Action Answer Value Air → Both Ghost → Prop}
    {fits : Both Ghost → Side → Step State Action Answer → Prop} {ghosts : Both Ghost}
    (goesOn : ∀ pair ghosts side state action resume answer,
      Kept contract good inv pair ghosts → pair.parties.of side = .ask state action resume →
      medium.admits pair.air side state action answer (pair.parties.of side.peer).pending →
      fits ghosts side ⟨state, action, answer⟩ →
        (contract side).allow (ghosts.of side) state action answer ∧
          inv (pair.answered medium side action answer (resume answer))
            (ghosts.put side ((contract side).record (ghosts.of side) state action answer)))
    (run : Runs medium first trace last) (kept : Kept contract good inv first ghosts)
    (fitting : ∀ before event later, trace = before ++ event :: later →
      fits (after contract ghosts before) event.1 event.2) :
    Kept contract good inv last (after contract ghosts trace) := by
  induction run generalizing ghosts with
  | refl pair => exact kept
  | @step pair last mover state action resume trace asks answer admitted rest ih =>
      have now := fitting [] _ trace rfl
      obtain ⟨allowed, goes⟩ := goesOn pair ghosts mover state action resume answer kept asks
        admitted now
      refine ih ⟨fun side => ?_, goes⟩ fun before event later split => ?_
      · have meets := kept.1 side
        rcases Side.eq_or_eq_peer mover side with rfl | rfl
        · rw [asks] at meets
          rw [answered, Both.of_put_self, Both.of_put_self]
          exact meets.2 answer allowed
        · rw [answered, Both.of_put_peer, Both.of_put_peer]
          exact meets
      · exact fitting (_ :: before) event later (congrArg _ split)

end Kept

/-! ## Runs from a schedule -/

section Play

variable [∀ air side state action answer waiting,
  Decidable (medium.admits air side state action answer waiting)]

/-- Let the sides move in the listed order, as long as the answer chosen for a
position is one the medium admits. -/
def play (medium : Medium State Action Answer Air)
    [∀ air side state action answer waiting,
      Decidable (medium.admits air side state action answer waiting)]
    (choose : Nat → Air → Side → State → (action : Action) → Option (State × Action) →
      Option (Answer action)) :
    Nat → List Side → Pair State Action Answer Value Air →
      List (Event State Action Answer) × Pair State Action Answer Value Air
  | _, [], pair => ([], pair)
  | position, side :: order, pair =>
      match pair.parties.of side with
      | .done _ _ => ([], pair)
      | .ask state action resume =>
          let waiting := (pair.parties.of side.peer).pending
          match choose position pair.air side state action waiting with
          | none => ([], pair)
          | some answer =>
              if medium.admits pair.air side state action answer waiting then
                let rest := play medium choose (position + 1) order
                  (pair.answered medium side action answer (resume answer))
                ((side, ⟨state, action, answer⟩) :: rest.1, rest.2)
              else ([], pair)

/-- Playing a schedule produces a run. -/
theorem play_runs (choose : Nat → Air → Side → State → (action : Action) →
    Option (State × Action) → Option (Answer action)) (position : Nat) (order : List Side)
    (pair : Pair State Action Answer Value Air) :
    Runs medium pair (play medium choose position order pair).1
      (play medium choose position order pair).2 := by
  induction order generalizing position pair with
  | nil => exact .refl _
  | cons side order ih =>
      unfold play
      cases asks : pair.parties.of side with
      | done => exact .refl _
      | ask state action resume =>
          simp only
          cases choose position pair.air side state action (pair.parties.of side.peer).pending with
          | none => exact .refl _
          | some answer =>
              simp only
              split
              · rename_i admitted
                exact .step side asks answer admitted (ih _ _)
              · exact .refl _

end Play

end Pair

end Roam.Interaction
