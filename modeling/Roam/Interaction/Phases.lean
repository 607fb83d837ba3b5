import Mathlib.Data.List.Basic
import Roam.Interaction.Contract

/-!
# Runs made of phases

Some programs act in phases.  Whatever their surroundings do, what can be seen of
a run is one complete phase after the other, and a run that is cut short is cut
short of some complete phases.  A program has this property if it keeps the
contract below; while it is in the middle of a phase, `Amid` names the part of the
phase that has shown so far.
-/

namespace Roam.Interaction

variable {State Action : Type} {Answer : Action → Type} {Value Sign Phase : Type}

/-- A case distinction on something unknown that the precondition names. -/
theorem Triple.unknown {Ghost Index : Type} {contract : Contract State Action Answer Ghost}
    {before : Index → Ghost → State → Prop} {after : Value → Ghost → State → Prop}
    {program : Program State Action Answer Value}
    (each : ∀ index, Triple contract (before index) program after) :
    Triple contract (fun ghost state => ∃ index, before index ghost state) program after :=
  fun ghost state ⟨index, start⟩ => each index ghost state start

/-- What can be seen of a step, and how a complete phase shows. -/
structure Phases (State Action : Type) (Answer : Action → Type) (Sign Phase : Type) where
  sign : Step State Action Answer → List Sign
  signs : Phase → List Sign

namespace Phases

variable (phases : Phases State Action Answer Sign Phase)

/-- What can be seen of a run. -/
def seen (trace : List (Step State Action Answer)) : List Sign := trace.flatMap phases.sign

/-- How complete phases show, one after the other. -/
def shown (complete : List Phase) : List Sign := complete.flatMap phases.signs

theorem shown_append (first second : List Phase) :
    phases.shown (first ++ second) = phases.shown first ++ phases.shown second :=
  List.flatMap_append

/-- What has been seen is how some complete phases begin. -/
def Opens (history : List Sign) : Prop := ∃ complete, history <+: phases.shown complete

/-- The history is what has been seen, and the duty is to act in phases only. -/
def contract : Contract State Action Answer (List Sign) where
  require history _ _ := phases.Opens history
  allow _ _ _ _ := True
  record history state action answer := history ++ phases.sign ⟨state, action, answer⟩

/-- Complete phases that fit the state, and behind them a part of the next one. -/
def Amid (fits : List Phase → State → Prop) (part : List Sign) (history : List Sign)
    (state : State) : Prop :=
  ∃ complete, history = phases.shown complete ++ part ∧ fits complete state

/-- Between two phases. -/
abbrev Rests (fits : List Phase → State → Prop) : List Sign → State → Prop :=
  phases.Amid fits []

variable {phases}

theorem Opens.nil : phases.Opens [] := ⟨[], List.nil_prefix⟩

theorem Opens.of_phase (phase : Phase) {part : List Sign} (within : part <+: phases.signs phase) :
    phases.Opens part := by
  refine ⟨[phase], ?_⟩
  rw [shown, List.flatMap_singleton]
  exact within

theorem Opens.behind {part : List Sign} (opens : phases.Opens part) (complete : List Phase) :
    phases.Opens (phases.shown complete ++ part) := by
  obtain ⟨next, within⟩ := opens
  refine ⟨complete ++ next, ?_⟩
  rw [shown_append]
  exact (List.prefix_append_right_inj _).2 within

/-- What has been seen is complete phases and the beginning of one more, if it is not whole. -/
theorem Opens.split {history : List Sign} (opens : phases.Opens history) :
    ∃ complete part, history = phases.shown complete ++ part ∧
      (part = [] ∨ ∃ phase, part <+: phases.signs phase) := by
  obtain ⟨whole, within⟩ := opens
  induction whole generalizing history with
  | nil => exact ⟨[], [], List.prefix_nil.1 within, .inl rfl⟩
  | cons phase whole ih =>
      rcases List.prefix_or_prefix_of_prefix within (List.prefix_append _ _) with early | late
      · exact ⟨[], history, rfl, .inr ⟨phase, early⟩⟩
      · obtain ⟨rest, rfl⟩ := late
        obtain ⟨complete, part, rfl, cut⟩ := ih ((List.prefix_append_right_inj _).1 within)
        exact ⟨phase :: complete, part, (List.append_assoc _ _ _).symm, cut⟩

theorem after_contract (history : List Sign) (trace : List (Step State Action Answer)) :
    phases.contract.after history trace = history ++ phases.seen trace := by
  induction trace generalizing history with
  | nil => exact (List.append_nil history).symm
  | cons step trace ih =>
      rw [Contract.after_cons, ih]
      exact List.append_assoc _ _ _

theorem contract_allows (history : List Sign) (trace : List (Step State Action Answer)) :
    phases.contract.Allows history trace := by
  induction trace generalizing history with
  | nil => trivial
  | cons step trace ih => exact ⟨trivial, ih _⟩

section Rules

variable {fits : List Phase → State → Prop} {part : List Sign}

theorem Amid.mono {other : List Phase → State → Prop} {history : List Sign} {state later : State}
    (amid : phases.Amid fits part history state)
    (weaker : ∀ complete, fits complete state → other complete later) :
    phases.Amid other part history later := by
  obtain ⟨complete, split, fitting⟩ := amid
  exact ⟨complete, split, weaker complete fitting⟩

/-- A phase that has shown as a whole is complete. -/
theorem Amid.complete {phase : Phase} {history : List Sign} {state : State}
    (amid : phases.Amid (fun complete => fits (complete ++ [phase])) (phases.signs phase)
      history state) : phases.Rests fits history state := by
  obtain ⟨complete, rfl, fitting⟩ := amid
  refine ⟨complete ++ [phase], ?_, fitting⟩
  rw [shown_append, shown, shown, List.flatMap_singleton, List.append_nil]

/-- An action shows its sign. -/
theorem shows {action : Action} {after : Answer action → List Sign → State → Prop}
    (opens : phases.Opens part)
    (next : ∀ complete state answer, fits complete state →
      after answer
        (phases.shown complete ++ (part ++ phases.sign ⟨state, action, answer⟩)) state) :
    Triple phases.contract (phases.Amid fits part) (Program.ask action) after := by
  rintro history state ⟨complete, rfl, fitting⟩
  refine ⟨opens.behind complete, fun answer _ => ?_⟩
  show after answer (phases.shown complete ++ part ++ phases.sign ⟨state, action, answer⟩) state
  rw [List.append_assoc]
  exact next complete state answer fitting

/-- An action without a sign. -/
theorem silent {action : Action} (opens : phases.Opens part)
    (quiet : ∀ state answer, phases.sign ⟨state, action, answer⟩ = []) :
    Keeps phases.contract (phases.Amid fits part) (Program.ask action) := by
  refine shows opens fun complete state answer fitting => ⟨complete, ?_, fitting⟩
  rw [quiet, List.append_nil]

/-- An action with a sign that its answer decides. -/
theorem tells {action : Action} (told : Answer action → List Sign) (opens : phases.Opens part)
    (sign : ∀ state answer, phases.sign ⟨state, action, answer⟩ = told answer) :
    Triple phases.contract (phases.Amid fits part) (Program.ask action)
      fun answer => phases.Amid fits (part ++ told answer) := by
  refine shows opens fun complete state answer fitting => ⟨complete, ?_, fitting⟩
  rw [sign]

/-- The end of a phase, which the answer may decide. -/
theorem completes {fitting : List Phase → State → Prop} {action : Action}
    (phase : Answer action → Phase) (opens : phases.Opens part)
    (sign : ∀ state answer,
      part ++ phases.sign ⟨state, action, answer⟩ = phases.signs (phase answer))
    (fit : ∀ complete state answer, fits complete state →
      fitting (complete ++ [phase answer]) state) :
    Triple phases.contract (phases.Amid fits part) (Program.ask action)
      fun _ => phases.Rests fitting := by
  refine shows opens fun complete state answer start =>
    @Amid.complete _ _ _ _ _ phases fitting (phase answer) _ _ ?_
  refine ⟨complete, ?_, fit complete state answer start⟩
  rw [sign]

theorem update {other : List Phase → State → Prop} {change : State → State}
    (holds : ∀ complete state, fits complete state → other complete (change state)) :
    Triple phases.contract (phases.Amid fits part) (modify change)
      fun _ => phases.Amid other part :=
  Triple.update fun _ state amid => amid.mono fun complete => holds complete state

/-- Every run is made of phases. -/
theorem runs {program : Program State Action Answer Value}
    (keeps : Keeps phases.contract (phases.Rests fits) program) {state : State}
    (start : fits [] state) {trace : List (Step State Action Answer)}
    {last : Resumption State Action Answer Value}
    (run : Resumption.Runs (program state) trace last) :
    phases.Opens (phases.seen trace) ∧
      ∀ final value, last = .done final value →
        ∃ complete, phases.seen trace = phases.shown complete ∧ fits complete final := by
  have reached := (keeps [] state ⟨[], rfl, start⟩).runs run (contract_allows [] trace)
  rw [after_contract, List.nil_append] at reached
  cases last with
  | done final value =>
      obtain ⟨complete, seen, fitting⟩ := reached
      rw [List.append_nil] at seen
      refine ⟨⟨complete, [], ?_⟩, ?_⟩
      · exact (List.append_nil _).trans seen
      · rintro _ _ ⟨⟩
        exact ⟨complete, seen, fitting⟩
  | ask state action resume => exact ⟨reached.1, nofun⟩

end Rules

end Phases

end Roam.Interaction
