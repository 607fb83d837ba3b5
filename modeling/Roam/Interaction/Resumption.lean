import Mathlib.Logic.Basic

/-!
# Resumptions

A program that acts on its surroundings is a tree.  At every action it exposes
the state it holds, names the action, and continues with whatever answer comes
back.  A run is a path through the tree; the list of steps along that path is
the only record of what the program did.
-/

namespace Roam.Interaction

variable {State Action : Type} {Answer : Action → Type} {Value Result : Type}

/-- A program in execution: finished, or suspended at one action. -/
inductive Resumption (State Action : Type) (Answer : Action → Type)
    (Value : Type) : Type where
  | done (state : State) (value : Value)
  | ask (state : State) (action : Action)
      (resume : Answer action → Resumption State Action Answer Value)

/-- One answered action, with the state the program held when it asked. -/
structure Step (State Action : Type) (Answer : Action → Type) where
  state : State
  action : Action
  answer : Answer action

namespace Resumption

/-- The state exposed at a suspension point or at the end. -/
def state : Resumption State Action Answer Value → State
  | .done state _ => state
  | .ask state _ _ => state

/-- The action a suspended resumption waits for. -/
def awaits : Resumption State Action Answer Value → Option Action
  | .done _ _ => none
  | .ask _ action _ => some action

theorem eq_done_of_awaits {current : Resumption State Action Answer Value}
    (ended : current.awaits.isNone = true) : ∃ value, current = .done current.state value := by
  cases current with
  | done state value => exact ⟨value, rfl⟩
  | ask state action resume => cases ended

/-- Continue a finished resumption with a second program. -/
def bind (first : Resumption State Action Answer Value)
    (next : State → Value → Resumption State Action Answer Result) :
    Resumption State Action Answer Result :=
  match first with
  | .done state value => next state value
  | .ask state action resume =>
      .ask state action fun answer => (resume answer).bind next

@[simp]
theorem bind_done (state : State) (value : Value)
    (next : State → Value → Resumption State Action Answer Result) :
    (done state value : Resumption State Action Answer Value).bind next =
      next state value := rfl

@[simp]
theorem bind_ask (state : State) (action : Action)
    (resume : Answer action → Resumption State Action Answer Value)
    (next : State → Value → Resumption State Action Answer Result) :
    (ask state action resume).bind next =
      .ask state action fun answer => (resume answer).bind next := rfl

@[simp]
theorem bind_done_value (first : Resumption State Action Answer Value) :
    first.bind .done = first := by
  induction first with
  | done => rfl
  | ask state action resume ih => simp only [bind, ih]

theorem bind_assoc {Third : Type} (first : Resumption State Action Answer Value)
    (second : State → Value → Resumption State Action Answer Result)
    (third : State → Result → Resumption State Action Answer Third) :
    (first.bind second).bind third =
      first.bind fun state value => (second state value).bind third := by
  induction first with
  | done => rfl
  | ask state action resume ih => simp only [bind, ih]

/-- Finite executions, listed from the first step on. -/
inductive Runs : Resumption State Action Answer Value →
    List (Step State Action Answer) → Resumption State Action Answer Value → Prop where
  | refl (current : Resumption State Action Answer Value) : Runs current [] current
  | step {state : State} {action : Action}
      {resume : Answer action → Resumption State Action Answer Value}
      {trace : List (Step State Action Answer)}
      {last : Resumption State Action Answer Value}
      (answer : Answer action) (rest : Runs (resume answer) trace last) :
      Runs (.ask state action resume) (⟨state, action, answer⟩ :: trace) last

namespace Runs

/-- A run of a sequence that has passed its first program consists of a
complete run of the first program and a run of the second. -/
theorem bind {first : Resumption State Action Answer Value}
    {next : State → Value → Resumption State Action Answer Result}
    {before after : List (Step State Action Answer)} {state : State} {value : Value}
    {last : Resumption State Action Answer Result}
    (early : Runs first before (.done state value))
    (late : Runs (next state value) after last) :
    Runs (first.bind next) (before ++ after) last := by
  generalize ended : Resumption.done state value = final at early
  induction early with
  | refl =>
      subst ended
      exact late
  | step answer rest ih => exact .step answer (ih ended)

/-- A run goes on with a run from where it stopped. -/
theorem append {first middle last : Resumption State Action Answer Value}
    {before after : List (Step State Action Answer)} (early : Runs first before middle)
    (late : Runs middle after last) : Runs first (before ++ after) last := by
  induction early with
  | refl => exact late
  | step answer rest ih => exact .step answer (ih late)

/-- A run that waits for an answer goes on with any. -/
theorem snoc {first : Resumption State Action Answer Value}
    {trace : List (Step State Action Answer)} {state : State} {action : Action}
    {resume : Answer action → Resumption State Action Answer Value}
    (run : Runs first trace (.ask state action resume)) (answer : Answer action) :
    Runs first (trace ++ [⟨state, action, answer⟩]) (resume answer) := by
  generalize waits : Resumption.ask state action resume = last at run
  induction run with
  | refl =>
      subst waits
      exact .step answer (.refl _)
  | step given rest ih => exact .step given (ih waits)

/-- A run with one of its steps picked out. -/
theorem around {first last : Resumption State Action Answer Value}
    {trace : List (Step State Action Answer)} (run : Runs first trace last)
    (position : Fin trace.length) :
    Runs first (trace.take position ++ trace.get position :: trace.drop (position + 1)) last := by
  rw [List.get_eq_getElem, List.getElem_cons_drop, List.take_append_drop]
  exact run

/-- A complete run of a sequence passes its first program. -/
theorem of_bind {first : Resumption State Action Answer Value}
    {next : State → Value → Resumption State Action Answer Result}
    {trace : List (Step State Action Answer)} {state : State} {result : Result}
    (run : Runs (first.bind next) trace (.done state result)) :
    ∃ before after middle value, trace = before ++ after ∧
      Runs first before (.done middle value) ∧
        Runs (next middle value) after (.done state result) := by
  induction first generalizing trace with
  | done middle value => exact ⟨[], trace, middle, value, rfl, .refl _, run⟩
  | ask current action resume ih =>
      cases run with
      | step answer rest =>
          obtain ⟨before, after, middle, value, rfl, early, late⟩ := ih answer rest
          exact ⟨_ :: before, after, middle, value, rfl, .step answer early, late⟩

end Runs

/-- Follow the tree with answers chosen by position, as long as they are given. -/
def drive (answers : Nat → (action : Action) → Option (Answer action)) :
    Nat → Resumption State Action Answer Value →
      List (Step State Action Answer) × Resumption State Action Answer Value
  | _, .done state value => ([], .done state value)
  | position, .ask state action resume =>
      match answers position action with
      | none => ([], .ask state action resume)
      | some answer =>
          let rest := drive answers (position + 1) (resume answer)
          (⟨state, action, answer⟩ :: rest.1, rest.2)

/-- Driving a resumption produces one of its runs. -/
theorem drive_runs (answers : Nat → (action : Action) → Option (Answer action))
    (position : Nat) (current : Resumption State Action Answer Value) :
    Runs current (drive answers position current).1 (drive answers position current).2 := by
  induction current generalizing position with
  | done => exact .refl _
  | ask state action resume ih =>
      simp only [drive]
      cases answers position action with
      | none => exact .refl _
      | some answer => exact .step answer (ih answer (position + 1))

/-- Follow the tree to its end with answers chosen by position. -/
def play (respond : Nat → (action : Action) → Answer action) :
    Nat → Resumption State Action Answer Value →
      List (Step State Action Answer) × State × Value
  | _, .done state value => ([], state, value)
  | position, .ask state action resume =>
      let answer := respond position action
      let rest := play respond (position + 1) (resume answer)
      (⟨state, action, answer⟩ :: rest.1, rest.2)

/-- Playing a resumption produces one of its finished runs. -/
theorem play_runs (respond : Nat → (action : Action) → Answer action) (position : Nat)
    (current : Resumption State Action Answer Value) :
    Runs current (play respond position current).1
      (.done (play respond position current).2.1 (play respond position current).2.2) := by
  induction current generalizing position with
  | done => exact .refl _
  | ask state action resume ih => exact .step _ (ih _ (position + 1))

end Resumption

/-- A program turns the state it starts in into a resumption. -/
def Program (State Action : Type) (Answer : Action → Type) (Value : Type) : Type :=
  State → Resumption State Action Answer Value

namespace Program

instance : Monad (Program State Action Answer) where
  pure value := fun state => .done state value
  bind first next := fun state =>
    (first state).bind fun state value => next value state

instance : MonadStateOf State (Program State Action Answer) where
  get := fun state => .done state state
  set state := fun _ => .done state ⟨⟩
  modifyGet change := fun state => .done (change state).2 (change state).1

/-- Perform one action and return its answer. -/
def ask (action : Action) : Program State Action Answer (Answer action) :=
  fun state => .ask state action fun answer => .done state answer

@[simp]
theorem pure_apply (value : Value) (state : State) :
    (pure value : Program State Action Answer Value) state = .done state value := rfl

@[simp]
theorem bind_apply (first : Program State Action Answer Value)
    (next : Value → Program State Action Answer Result) (state : State) :
    (first >>= next) state =
      (first state).bind fun state value => next value state := rfl

@[simp]
theorem map_apply (function : Value → Result)
    (program : Program State Action Answer Value) (state : State) :
    (function <$> program) state =
      (program state).bind fun state value => .done state (function value) := rfl

@[simp]
theorem get_apply (state : State) :
    (get : Program State Action Answer State) state = .done state state := rfl

@[simp]
theorem modify_apply (change : State → State) (state : State) :
    (modify change : Program State Action Answer PUnit) state =
      .done (change state) ⟨⟩ := rfl

@[simp]
theorem ask_apply (action : Action) (state : State) :
    (ask action : Program State Action Answer (Answer action)) state =
      .ask state action fun answer => .done state answer := rfl

@[simp]
theorem ite_apply (condition : Prop) [Decidable condition]
    (yes no : Program State Action Answer Value) (state : State) :
    (if condition then yes else no) state =
      if condition then yes state else no state := by
  split <;> rfl

instance : LawfulMonad (Program State Action Answer) :=
  LawfulMonad.mk' _
    (fun program => funext fun state => Resumption.bind_done_value (program state))
    (fun _ _ => rfl)
    (fun first _ _ => funext fun state => Resumption.bind_assoc (first state) _ _)

end Program

end Roam.Interaction
