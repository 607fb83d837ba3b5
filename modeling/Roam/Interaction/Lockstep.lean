import Mathlib.Data.List.Forall2
import Roam.Interaction.Contract

/-!
# Runs in lockstep

Two resumptions are alike when they ask the same questions in like states for as
long as they are given the same answers.  Questions that only notify the
surroundings may differ, as long as they are noticed as the same.  Alikeness is
built along the program text, and every run has a counterpart in an alike
resumption.
-/

namespace Roam.Interaction

/-- What two runs are compared by. -/
structure Likeness (State Action : Type) (Answer : Action → Type) where
  /-- States that are taken to be the same. -/
  states : State → State → Prop
  /-- Notices that are taken to be the same. -/
  notices : Action → Action → Prop
  /-- Answers the comparison is made for. -/
  allow : (action : Action) → Answer action → Prop

variable {State Action : Type} {Answer : Action → Type} {Value Result : Type}
variable {like : Likeness State Action Answer}

namespace Likeness

/-- Two steps with the same answer to the same question, or with the same notice. -/
inductive Steps (like : Likeness State Action Answer) :
    Step State Action Answer → Step State Action Answer → Prop where
  | same {left right : State} (action : Action) (answer : Answer action)
      (states : like.states left right) :
      Steps like ⟨left, action, answer⟩ ⟨right, action, answer⟩
  | noticed {left right : State} {first second : Action}
      (answer : Answer first) (other : Answer second)
      (states : like.states left right) (notices : like.notices first second) :
      Steps like ⟨left, first, answer⟩ ⟨right, second, other⟩

/-- The first comparison is finer and is made for at least as many answers. -/
structure Refines (fine coarse : Likeness State Action Answer) : Prop where
  states : ∀ left right, fine.states left right → coarse.states left right
  notices : ∀ first second, fine.notices first second → coarse.notices first second
  allow : ∀ action answer, coarse.allow action answer → fine.allow action answer

/-- Every answer of the run is one the comparison is made for. -/
def Allows (like : Likeness State Action Answer)
    (trace : List (Step State Action Answer)) : Prop :=
  ∀ step ∈ trace, like.allow step.action step.answer

end Likeness

namespace Resumption

/-- The two resumptions behave alike from here on. -/
inductive Alike (like : Likeness State Action Answer) :
    Resumption State Action Answer Value → Resumption State Action Answer Value → Prop where
  | done {left right : State} (value : Value) (states : like.states left right) :
      Alike like (.done left value) (.done right value)
  | ask {left right : State} {action : Action}
      {resume other : Answer action → Resumption State Action Answer Value}
      (states : like.states left right)
      (rest : ∀ answer, like.allow action answer → Alike like (resume answer) (other answer)) :
      Alike like (.ask left action resume) (.ask right action other)
  | notice {left right : State} {first second : Action}
      {resume : Answer first → Resumption State Action Answer Value}
      {other : Answer second → Resumption State Action Answer Value}
      (states : like.states left right) (notices : like.notices first second)
      (rest : ∀ answer reply, Alike like (resume answer) (other reply)) :
      Alike like (.ask left first resume) (.ask right second other)

namespace Alike

/-- The first programs may be compared more finely than the rest. -/
theorem bind_refined {fine : Likeness State Action Answer} (refines : fine.Refines like)
    {first second : Resumption State Action Answer Value}
    {next other : State → Value → Resumption State Action Answer Result}
    (heads : Alike fine first second)
    (tails : ∀ left right value, fine.states left right →
      Alike like (next left value) (other right value)) :
    Alike like (first.bind next) (second.bind other) := by
  induction heads with
  | done value states => exact tails _ _ value states
  | ask states rest ih =>
      refine .ask (refines.states _ _ states) fun answer allowed => ?_
      exact ih answer (refines.allow _ _ allowed)
  | notice states notices rest ih =>
      refine .notice (refines.states _ _ states) (refines.notices _ _ notices) ?_
      exact fun answer reply => ih answer reply

theorem bind {first second : Resumption State Action Answer Value}
    {next other : State → Value → Resumption State Action Answer Result}
    (heads : Alike like first second)
    (tails : ∀ left right value, like.states left right →
      Alike like (next left value) (other right value)) :
    Alike like (first.bind next) (second.bind other) :=
  bind_refined ⟨fun _ _ => id, fun _ _ => id, fun _ _ => id⟩ heads tails

/-- Every run has a counterpart, step by step. -/
theorem counterpart {first second last : Resumption State Action Answer Value}
    {trace : List (Step State Action Answer)}
    (replies : ∀ first second, like.notices first second → Nonempty (Answer second))
    (alike : Alike like first second) (run : Runs first trace last)
    (allowed : like.Allows trace) :
    ∃ others final, Runs second others final ∧ List.Forall₂ like.Steps trace others ∧
      Alike like last final := by
  induction run generalizing second with
  | refl current => exact ⟨[], second, .refl second, .nil, alike⟩
  | step answer rest ih =>
      have later : like.Allows _ := fun step member => allowed step (List.mem_cons_of_mem _ member)
      cases alike with
      | ask states resumed =>
          have given := allowed _ List.mem_cons_self
          obtain ⟨others, final, run, steps, ends⟩ := ih (resumed answer given) later
          exact ⟨_, final, .step answer run, .cons (.same _ answer states) steps, ends⟩
      | notice states notices resumed =>
          obtain ⟨reply⟩ := replies _ _ notices
          obtain ⟨others, final, run, steps, ends⟩ := ih (resumed answer reply) later
          exact ⟨_, final, .step reply run, .cons (.noticed answer reply states notices) steps,
            ends⟩

theorem of_done {left : State} {value : Value}
    {final : Resumption State Action Answer Value}
    (alike : Alike like (.done left value) final) :
    ∃ right, final = .done right value ∧ like.states left right := by
  cases alike with
  | done value states => exact ⟨_, rfl, states⟩

end Alike

end Resumption

/-- Started in like states, the program behaves alike. -/
def Respects (like : Likeness State Action Answer)
    (program : Program State Action Answer Value) : Prop :=
  ∀ left right, like.states left right → (program left).Alike like (program right)

namespace Respects

theorem pure (value : Value) :
    Respects like (Pure.pure value : Program State Action Answer Value) :=
  fun _ _ states => .done value states

theorem bind {first : Program State Action Answer Value}
    {next : Value → Program State Action Answer Result}
    (head : Respects like first) (tail : ∀ value, Respects like (next value)) :
    Respects like (first >>= next) :=
  fun left right states => (head left right states).bind fun left right value states =>
    tail value left right states

/-- The first program may be compared more finely than the rest. -/
theorem bind_refined {fine : Likeness State Action Answer} (refines : fine.Refines like)
    {first : Program State Action Answer Value}
    {next : Value → Program State Action Answer Result} (head : Respects fine first)
    (tail : ∀ value left right, fine.states left right →
      (next value left).Alike like (next value right))
    (left right : State) (states : fine.states left right) :
    ((first >>= next) left).Alike like ((first >>= next) right) :=
  (head left right states).bind_refined refines fun left right value states =>
    tail value left right states

theorem ite {condition : Prop} [Decidable condition]
    {yes no : Program State Action Answer Value}
    (whenTrue : Respects like yes) (whenFalse : Respects like no) :
    Respects like (if condition then yes else no) := by
  split
  · exact whenTrue
  · exact whenFalse

theorem update {change : State → State}
    (holds : ∀ left right, like.states left right → like.states (change left) (change right)) :
    Respects like (modify change : Program State Action Answer PUnit) :=
  fun left right states => .done _ (holds left right states)

theorem ask (action : Action) :
    Respects like (Program.ask action : Program State Action Answer (Answer action)) :=
  fun _ _ states => .ask states fun answer _ => .done answer states

/-- A program that reads the state may go on with what like states share. -/
theorem get_bind {next : State → Program State Action Answer Value}
    (tail : ∀ left right, like.states left right →
      (next left left).Alike like (next right right)) :
    Respects like (get >>= next) :=
  tail

theorem forM {Index : Type} {body : Index → Program State Action Answer PUnit}
    (each : ∀ index, Respects like (body index)) :
    ∀ indices : List Index, Respects like (indices.forM body)
  | [] => pure PUnit.unit
  | index :: rest => (each index).bind fun _ => forM each rest

end Respects

end Roam.Interaction
