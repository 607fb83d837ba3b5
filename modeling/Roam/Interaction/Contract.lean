import Roam.Interaction.Resumption

/-!
# Contracts and triples

A contract watches a run.  It carries a ghost that is updated at every answered
action, states what the program must guarantee before it acts, and states which
answers the surroundings may give.  A triple says that a program started in a
good state keeps its side of the contract and, when it finishes, ends in a good
state.  Triples compose along the program text; `Meets.runs` turns the result
into a statement about every run.
-/

namespace Roam.Interaction

variable {State Action : Type} {Answer : Action → Type} {Ghost : Type}
variable {Value Result : Type}

/-- Duties of the program and of its surroundings, with the history they need. -/
structure Contract (State Action : Type) (Answer : Action → Type) (Ghost : Type) where
  /-- What must hold when the program asks. -/
  require : Ghost → State → Action → Prop
  /-- Which answers may be given. -/
  allow : Ghost → State → (action : Action) → Answer action → Prop
  /-- What the history becomes. -/
  record : Ghost → State → (action : Action) → Answer action → Ghost

namespace Contract

/-- The history after the listed steps. -/
def after (contract : Contract State Action Answer Ghost) (ghost : Ghost)
    (trace : List (Step State Action Answer)) : Ghost :=
  trace.foldl (fun current step =>
    contract.record current step.state step.action step.answer) ghost

@[simp]
theorem after_nil (contract : Contract State Action Answer Ghost) (ghost : Ghost) :
    contract.after ghost [] = ghost := rfl

@[simp]
theorem after_cons (contract : Contract State Action Answer Ghost) (ghost : Ghost)
    (step : Step State Action Answer) (trace : List (Step State Action Answer)) :
    contract.after ghost (step :: trace) =
      contract.after (contract.record ghost step.state step.action step.answer) trace := rfl

theorem after_append (contract : Contract State Action Answer Ghost) (ghost : Ghost)
    (first second : List (Step State Action Answer)) :
    contract.after ghost (first ++ second) =
      contract.after (contract.after ghost first) second :=
  List.foldl_append

/-- Every answer along the trace is one the surroundings may give. -/
def Allows (contract : Contract State Action Answer Ghost) :
    Ghost → List (Step State Action Answer) → Prop
  | _, [] => True
  | ghost, step :: trace =>
      contract.allow ghost step.state step.action step.answer ∧
        contract.Allows (contract.record ghost step.state step.action step.answer) trace

theorem allows_append (contract : Contract State Action Answer Ghost) (ghost : Ghost)
    (first second : List (Step State Action Answer)) :
    contract.Allows ghost (first ++ second) ↔
      contract.Allows ghost first ∧ contract.Allows (contract.after ghost first) second := by
  induction first generalizing ghost with
  | nil => exact (and_iff_right trivial).symm
  | cons step first ih =>
      rw [List.cons_append, Allows, Allows, ih, and_assoc]
      rfl

/-- Where the permitted answers do not depend on the history, a run is permitted
step by step. -/
theorem allows_iff (contract : Contract State Action Answer Ghost)
    {fits : State → (action : Action) → Answer action → Prop}
    (memoryless : ∀ ghost state action answer,
      contract.allow ghost state action answer ↔ fits state action answer)
    (ghost : Ghost) (trace : List (Step State Action Answer)) :
    contract.Allows ghost trace ↔ ∀ step ∈ trace, fits step.state step.action step.answer := by
  induction trace generalizing ghost with
  | nil => exact iff_of_true trivial fun _ member => absurd member List.not_mem_nil
  | cons step trace ih =>
      rw [Allows, memoryless, ih, List.forall_mem_cons]

/-- A contract without duties, kept for its history. -/
def watching (record : Ghost → State → (action : Action) → Answer action → Ghost) :
    Contract State Action Answer Ghost where
  require _ _ _ := True
  allow _ _ _ _ := True
  record := record

section Watching

variable {record : Ghost → State → (action : Action) → Answer action → Ghost}

@[simp]
theorem watching_require (ghost : Ghost) (state : State) (action : Action) :
    (watching record).require ghost state action := trivial

@[simp]
theorem watching_allow (ghost : Ghost) (state : State) (action : Action)
    (answer : Answer action) : (watching record).allow ghost state action answer := trivial

@[simp]
theorem watching_record (ghost : Ghost) (state : State) (action : Action)
    (answer : Answer action) :
    (watching record).record ghost state action answer = record ghost state action answer := rfl

theorem watching_allows (ghost : Ghost) (trace : List (Step State Action Answer)) :
    (watching record).Allows ghost trace := by
  induction trace generalizing ghost with
  | nil => trivial
  | cons step trace ih => exact ⟨trivial, ih _⟩

end Watching

/-- A contract with duties but with every answer permitted. -/
def insisting (require : Ghost → State → Action → Prop)
    (record : Ghost → State → (action : Action) → Answer action → Ghost) :
    Contract State Action Answer Ghost where
  require := require
  allow _ _ _ _ := True
  record := record

theorem insisting_allows {require : Ghost → State → Action → Prop}
    {record : Ghost → State → (action : Action) → Answer action → Ghost} (ghost : Ghost)
    (trace : List (Step State Action Answer)) :
    (insisting require record).Allows ghost trace := by
  induction trace generalizing ghost with
  | nil => trivial
  | cons step trace ih => exact ⟨trivial, ih _⟩

/-- The contract whose history is the run itself, and whose duty is to act only
while the run so far is safe. -/
def safety (safe : List (Step State Action Answer) → Prop) :
    Contract State Action Answer (List (Step State Action Answer)) where
  require trace _ _ := safe trace
  allow _ _ _ _ := True
  record trace state action answer := trace ++ [⟨state, action, answer⟩]

section Safety

variable {safe : List (Step State Action Answer) → Prop}

theorem safety_after (ghost trace : List (Step State Action Answer)) :
    (safety safe).after ghost trace = ghost ++ trace := by
  induction trace generalizing ghost with
  | nil => rw [List.append_nil, after_nil]
  | cons step trace ih =>
      rw [after_cons, ih]
      exact List.append_assoc ghost [step] trace

theorem safety_allows (ghost trace : List (Step State Action Answer)) :
    (safety safe).Allows ghost trace := by
  induction trace generalizing ghost with
  | nil => trivial
  | cons step trace ih => exact ⟨trivial, ih _⟩

end Safety

end Contract

namespace Resumption

/-- The resumption keeps the contract and finishes only in good states. -/
def Meets (contract : Contract State Action Answer Ghost)
    (good : Ghost → State → Value → Prop) :
    Ghost → Resumption State Action Answer Value → Prop
  | ghost, .done state value => good ghost state value
  | ghost, .ask state action resume =>
      contract.require ghost state action ∧
        ∀ answer, contract.allow ghost state action answer →
          (resume answer).Meets contract good
            (contract.record ghost state action answer)

namespace Meets

variable {contract : Contract State Action Answer Ghost}
variable {good : Ghost → State → Value → Prop}

@[simp]
theorem done_iff {ghost : Ghost} {state : State} {value : Value} :
    (Resumption.done state value : Resumption State Action Answer Value).Meets
      contract good ghost ↔ good ghost state value := Iff.rfl

@[simp]
theorem ask_iff {ghost : Ghost} {state : State} {action : Action}
    {resume : Answer action → Resumption State Action Answer Value} :
    (Resumption.ask state action resume).Meets contract good ghost ↔
      contract.require ghost state action ∧
        ∀ answer, contract.allow ghost state action answer →
          (resume answer).Meets contract good
            (contract.record ghost state action answer) := Iff.rfl

theorem mono {better : Ghost → State → Value → Prop} {ghost : Ghost}
    {current : Resumption State Action Answer Value}
    (meets : current.Meets contract good ghost)
    (weaker : ∀ ghost state value, good ghost state value → better ghost state value) :
    current.Meets contract better ghost := by
  induction current generalizing ghost with
  | done state value => exact weaker _ _ _ meets
  | ask state action resume ih =>
      exact ⟨meets.1, fun answer allowed => ih answer (meets.2 answer allowed)⟩

theorem bind_iff {next : State → Value → Resumption State Action Answer Result}
    {last : Ghost → State → Result → Prop} {ghost : Ghost}
    {first : Resumption State Action Answer Value} :
    (first.bind next).Meets contract last ghost ↔
      first.Meets contract
        (fun ghost state value => (next state value).Meets contract last ghost) ghost := by
  induction first generalizing ghost with
  | done => exact Iff.rfl
  | ask state action resume ih =>
      simp only [Resumption.bind, Meets, ih]

/-- A contract without duties is kept by everything. -/
theorem undemanding (free : ∀ ghost state action, contract.require ghost state action)
    (ghost : Ghost) (current : Resumption State Action Answer Value) :
    current.Meets contract (fun _ _ _ => True) ghost := by
  induction current generalizing ghost with
  | done state value => trivial
  | ask state action resume ih => exact ⟨free _ _ _, fun answer _ => ih answer _⟩

/-- One more step of a run that keeps the contract. -/
theorem runs {ghost : Ghost} {first last : Resumption State Action Answer Value}
    {trace : List (Step State Action Answer)}
    (meets : first.Meets contract good ghost) (run : Runs first trace last)
    (allowed : contract.Allows ghost trace) :
    last.Meets contract good (contract.after ghost trace) := by
  induction run generalizing ghost with
  | refl => exact meets
  | step answer rest ih => exact ih (meets.2 answer allowed.1) allowed.2

/-- Whatever was asked along a run was asked in keeping with the contract. -/
theorem required {first last : Resumption State Action Answer Value} {ghost : Ghost}
    {before later : List (Step State Action Answer)} {step : Step State Action Answer}
    (meets : first.Meets contract good ghost) (run : Runs first (before ++ step :: later) last)
    (allowed : contract.Allows ghost (before ++ step :: later)) :
    contract.require (contract.after ghost before) step.state step.action := by
  induction before generalizing first ghost with
  | nil =>
      cases run
      exact meets.1
  | cons earlier before ih =>
      cases run with
      | step answer rest => exact ih (meets.2 answer allowed.1) rest allowed.2

section Safety

variable {safe : List (Step State Action Answer) → Prop}
variable {good : List (Step State Action Answer) → State → Value → Prop}
variable {first last : Resumption State Action Answer Value}
variable {trace : List (Step State Action Answer)}

/-- A finished run ends in a good state. -/
theorem finished {state : State} {value : Value}
    (meets : first.Meets (Contract.safety safe) good [])
    (run : Runs first trace (.done state value)) : good trace state value := by
  have reached := meets.runs run (Contract.safety_allows [] trace)
  rw [Contract.safety_after, List.nil_append] at reached
  exact reached

/-- Every run is safe, wherever it stops. -/
theorem always_safe (meets : first.Meets (Contract.safety safe) good [])
    (run : Runs first trace last)
    (ended : ∀ trace state value, good trace state value → safe trace) : safe trace := by
  have reached := meets.runs run (Contract.safety_allows [] trace)
  rw [Contract.safety_after, List.nil_append] at reached
  cases last with
  | done state value => exact ended _ _ _ reached
  | ask state action resume => exact reached.1

end Safety

end Meets

/-- Where the surroundings always have an answer, a run to the end exists. -/
theorem Meets.exists_run {contract : Contract State Action Answer Ghost}
    {good : Ghost → State → Value → Prop}
    (live : ∀ ghost state action, contract.require ghost state action →
      ∃ answer, contract.allow ghost state action answer)
    {ghost : Ghost} {current : Resumption State Action Answer Value}
    (meets : current.Meets contract good ghost) :
    ∃ trace state value, Runs current trace (.done state value) ∧
      contract.Allows ghost trace ∧ good (contract.after ghost trace) state value := by
  induction current generalizing ghost with
  | done state value => exact ⟨[], state, value, .refl _, trivial, meets⟩
  | ask state action resume ih =>
      obtain ⟨answer, allowed⟩ := live ghost state action meets.1
      obtain ⟨trace, final, value, run, rest, reached⟩ := ih answer (meets.2 answer allowed)
      exact ⟨_, final, value, .step answer run, ⟨allowed, rest⟩, reached⟩

/-! ## Final states -/

/-- Every way the resumption can finish reaches the goal, whatever is answered. -/
def Ends (goal : State → Value → Prop) : Resumption State Action Answer Value → Prop
  | .done state value => goal state value
  | .ask _ _ resume => ∀ answer, (resume answer).Ends goal

namespace Ends

variable {goal : State → Value → Prop}

@[simp]
theorem done_iff {state : State} {value : Value} :
    (Resumption.done state value : Resumption State Action Answer Value).Ends goal ↔
      goal state value := Iff.rfl

@[simp]
theorem ask_iff {state : State} {action : Action}
    {resume : Answer action → Resumption State Action Answer Value} :
    (Resumption.ask state action resume).Ends goal ↔
      ∀ answer, (resume answer).Ends goal := Iff.rfl

theorem bind_iff {next : State → Value → Resumption State Action Answer Result}
    {last : State → Result → Prop} {first : Resumption State Action Answer Value} :
    (first.bind next).Ends last ↔
      first.Ends fun state value => (next state value).Ends last := by
  induction first with
  | done => exact Iff.rfl
  | ask state action resume ih => simp only [Resumption.bind, Ends, ih]

theorem mono {better : State → Value → Prop} {current : Resumption State Action Answer Value}
    (ends : current.Ends goal) (weaker : ∀ state value, goal state value → better state value) :
    current.Ends better := by
  induction current with
  | done state value => exact weaker state value ends
  | ask state action resume ih => exact fun answer => ih answer (ends answer)

end Ends

/-- Good ends that also reach the goal. -/
theorem Meets.and_ends {contract : Contract State Action Answer Ghost}
    {good : Ghost → State → Value → Prop} {goal : State → Value → Prop} {ghost : Ghost}
    {current : Resumption State Action Answer Value}
    (meets : current.Meets contract good ghost) (ends : current.Ends goal) :
    current.Meets contract (fun ghost state value => good ghost state value ∧ goal state value)
      ghost := by
  induction current generalizing ghost with
  | done => exact ⟨meets, ends⟩
  | ask state action resume ih =>
      exact ⟨meets.1, fun answer allowed => ih answer (meets.2 answer allowed) (ends answer)⟩

end Resumption

/-- Started where `before` holds, the program keeps the contract and ends where
`after` holds. -/
def Triple (contract : Contract State Action Answer Ghost)
    (before : Ghost → State → Prop) (program : Program State Action Answer Value)
    (after : Value → Ghost → State → Prop) : Prop :=
  ∀ ghost state, before ghost state →
    (program state).Meets contract (fun ghost state value => after value ghost state) ghost

namespace Triple

variable {contract : Contract State Action Answer Ghost}
variable {before middle : Ghost → State → Prop}

theorem pure {after : Value → Ghost → State → Prop} (value : Value)
    (holds : ∀ ghost state, before ghost state → after value ghost state) :
    Triple contract before (Pure.pure value) after :=
  fun ghost state start => holds ghost state start

theorem bind {between : Value → Ghost → State → Prop} {after : Result → Ghost → State → Prop}
    {first : Program State Action Answer Value}
    {next : Value → Program State Action Answer Result}
    (head : Triple contract before first between)
    (tail : ∀ value, Triple contract (between value) (next value) after) :
    Triple contract before (first >>= next) after :=
  fun ghost state start => Resumption.Meets.bind_iff.2
    ((head ghost state start).mono fun ghost state value reached =>
      tail value ghost state reached)

theorem weaken {stronger : Ghost → State → Prop} {after weaker : Value → Ghost → State → Prop}
    {program : Program State Action Answer Value}
    (triple : Triple contract before program after)
    (pre : ∀ ghost state, stronger ghost state → before ghost state)
    (post : ∀ value ghost state, after value ghost state → weaker value ghost state) :
    Triple contract stronger program weaker :=
  fun ghost state start =>
    (triple ghost state (pre ghost state start)).mono fun ghost state value =>
      post value ghost state

theorem pre {stronger : Ghost → State → Prop} {after : Value → Ghost → State → Prop}
    {program : Program State Action Answer Value}
    (triple : Triple contract before program after)
    (imp : ∀ ghost state, stronger ghost state → before ghost state) :
    Triple contract stronger program after :=
  triple.weaken imp fun _ _ _ => id

theorem post {after weaker : Value → Ghost → State → Prop}
    {program : Program State Action Answer Value}
    (triple : Triple contract before program after)
    (imp : ∀ value ghost state, after value ghost state → weaker value ghost state) :
    Triple contract before program weaker :=
  triple.weaken (fun _ _ => id) imp

theorem ite {condition : Prop} [Decidable condition]
    {yes no : Program State Action Answer Value} {after : Value → Ghost → State → Prop}
    (whenTrue : condition → Triple contract before yes after)
    (whenFalse : ¬ condition → Triple contract before no after) :
    Triple contract before (if condition then yes else no) after := by
  split
  · exact whenTrue ‹_›
  · exact whenFalse ‹_›

/-- Reading the state lets the rest of the program know it. -/
theorem get_bind {after : Value → Ghost → State → Prop}
    {next : State → Program State Action Answer Value}
    (tail : ∀ known, Triple contract
      (fun ghost state => before ghost state ∧ state = known) (next known) after) :
    Triple contract before (get >>= next) after :=
  fun ghost state start => tail state ghost state ⟨start, rfl⟩

theorem update {after : PUnit → Ghost → State → Prop} {change : State → State}
    (holds : ∀ ghost state, before ghost state → after ⟨⟩ ghost (change state)) :
    Triple contract before (modify change) after :=
  fun ghost state start => holds ghost state start

end Triple

/-- The program keeps the contract and an invariant of history and state. -/
def Keeps (contract : Contract State Action Answer Ghost) (keep : Ghost → State → Prop)
    (program : Program State Action Answer Value) : Prop :=
  Triple contract keep program fun _ => keep

namespace Keeps

variable {contract : Contract State Action Answer Ghost} {keep : Ghost → State → Prop}

theorem pure (value : Value) :
    Keeps contract keep (Pure.pure value : Program State Action Answer Value) :=
  Triple.pure value fun _ _ => id

theorem bind {first : Program State Action Answer Value}
    {next : Value → Program State Action Answer Result}
    (head : Keeps contract keep first) (tail : ∀ value, Keeps contract keep (next value)) :
    Keeps contract keep (first >>= next) :=
  Triple.bind head tail

theorem map {function : Value → Result} {program : Program State Action Answer Value}
    (keeps : Keeps contract keep program) :
    Keeps contract keep (function <$> program) :=
  keeps.bind fun value => pure (function value)

theorem ite {condition : Prop} [Decidable condition]
    {yes no : Program State Action Answer Value}
    (whenTrue : Keeps contract keep yes) (whenFalse : Keeps contract keep no) :
    Keeps contract keep (if condition then yes else no) :=
  Triple.ite (fun _ => whenTrue) fun _ => whenFalse

theorem get_bind {next : State → Program State Action Answer Value}
    (tail : ∀ known, Keeps contract keep (next known)) :
    Keeps contract keep (get >>= next) :=
  Triple.get_bind fun known => (tail known).pre fun _ _ => And.left

theorem update {change : State → State}
    (holds : ∀ ghost state, keep ghost state → keep ghost (change state)) :
    Keeps contract keep (modify change) :=
  Triple.update holds

theorem forM_mem {Index : Type} {body : Index → Program State Action Answer PUnit} :
    ∀ {indices : List Index}, (∀ index ∈ indices, Keeps contract keep (body index)) →
      Keeps contract keep (indices.forM body)
  | [], _ => pure PUnit.unit
  | index :: _, each => (each index List.mem_cons_self).bind fun _ =>
      forM_mem fun index member => each index (List.mem_cons_of_mem _ member)

theorem forM {Index : Type} {body : Index → Program State Action Answer PUnit}
    (each : ∀ index, Keeps contract keep (body index)) (indices : List Index) :
    Keeps contract keep (indices.forM body) :=
  forM_mem fun index _ => each index

theorem foldlM_mem {Index : Type} {body : Value → Index → Program State Action Answer Value} :
    ∀ {indices : List Index},
      (∀ value, ∀ index ∈ indices, Keeps contract keep (body value index)) →
        ∀ value, Keeps contract keep (indices.foldlM body value)
  | [], _, value => pure value
  | index :: _, each, value => (each value index List.mem_cons_self).bind fun next =>
      foldlM_mem (fun value index member => each value index (List.mem_cons_of_mem _ member)) next

theorem foldlM {Index : Type} {body : Value → Index → Program State Action Answer Value}
    (each : ∀ value index, Keeps contract keep (body value index)) (indices : List Index)
    (value : Value) : Keeps contract keep (indices.foldlM body value) :=
  foldlM_mem (fun value index _ => each value index) value

end Keeps

end Roam.Interaction
