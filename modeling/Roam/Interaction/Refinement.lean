import Roam.Interaction.Host
import Roam.Interaction.Pair

/-!
# What is seen of a larger program

An application does more than call the object it owns.  A view keeps of its steps
only those of the object.  A program uses the object by calls if every run of it
is, as far as it is seen, a run of some calls, one after the other; this is built
along the program text.  If two programs share a medium that looks at nothing
else, what is seen of both together is a run of the two objects.
-/

namespace Roam.Interaction

variable {State Action Part Seen : Type} {Answer : Action → Type} {SeenAnswer : Seen → Type}
variable {Value Result Small Call : Type}

/-- What a small program's surroundings see of a larger one. -/
structure View (State Action : Type) (Answer : Action → Type) (Part Seen : Type)
    (SeenAnswer : Seen → Type) where
  part : State → Part
  /-- A step as it is seen, if it is. -/
  sees : Step State Action Answer → Option (Step Part Seen SeenAnswer)
  /-- The action that is seen to wait for its answer. -/
  waits : State → Action → Option (Part × Seen)
  agree : ∀ step, (sees step).map (fun seen => (seen.state, seen.action)) =
    waits step.state step.action

/-- A run of a sequence is still in its first program or has passed it. -/
theorem Resumption.Runs.through {first : Resumption State Action Answer Value}
    {next : State → Value → Resumption State Action Answer Result}
    {trace : List (Step State Action Answer)} {last : Resumption State Action Answer Result}
    (run : Runs (first.bind next) trace last) :
    (∃ state action resume, Runs first trace (.ask state action resume) ∧
        last = (Resumption.ask state action resume).bind next) ∨
      ∃ before after state value, trace = before ++ after ∧
        Runs first before (.done state value) ∧ Runs (next state value) after last := by
  induction first generalizing trace with
  | done state value => exact .inr ⟨[], trace, state, value, rfl, .refl _, run⟩
  | ask state action resume ih =>
      cases run with
      | refl => exact .inl ⟨state, action, resume, .refl _, rfl⟩
      | step answer rest =>
          rcases ih answer rest with ⟨waiting, asked, further, run, same⟩ |
            ⟨before, after, middle, value, rfl, early, late⟩
          · exact .inl ⟨waiting, asked, further, .step answer run, same⟩
          · exact .inr ⟨_ :: before, after, middle, value, rfl, .step answer early, late⟩

/-- A run of the first program is one of the sequence. -/
theorem Resumption.Runs.inside {first last : Resumption State Action Answer Value}
    {trace : List (Step State Action Answer)} (run : Runs first trace last)
    (next : State → Value → Resumption State Action Answer Result) :
    Runs (first.bind next) trace (last.bind next) := by
  induction run with
  | refl => exact .refl _
  | step answer rest ih => exact .step answer ih

/-- The beginning of a run is a run. -/
theorem Resumption.Runs.front {first last : Resumption State Action Answer Value}
    {before after : List (Step State Action Answer)} (run : Runs first (before ++ after) last) :
    ∃ middle, Runs first before middle := by
  induction before generalizing first with
  | nil => exact ⟨first, .refl _⟩
  | cons step before ih =>
      cases run with
      | step answer rest =>
          obtain ⟨middle, early⟩ := ih rest
          exact ⟨middle, .step answer early⟩

theorem Resumption.pending_bind {first : Resumption State Action Answer Value}
    {waiting : State × Action} (waits : first.pending = some waiting)
    (next : State → Value → Resumption State Action Answer Result) :
    (first.bind next).pending = some waiting := by
  cases first with
  | done state value => cases waits
  | ask state action resume => exact waits

namespace View

variable (view : View State Action Answer Part Seen SeenAnswer)

/-- Where the larger program has ended, so has the smaller one; where it is seen to
wait, the smaller one waits in the same way. -/
def Shows (result : Value → Small) (small : Resumption Part Seen SeenAnswer Small) :
    Resumption State Action Answer Value → Prop
  | .done state value => small = .done (view.part state) (result value)
  | .ask state action _ => ∀ seen, view.waits state action = some seen → small.pending = some seen

theorem sees_eq_none {step : Step State Action Answer}
    (hidden : view.waits step.state step.action = none) : view.sees step = none :=
  Option.map_eq_none_iff.1 ((view.agree step).trans hidden)

theorem sees_of_waits {step : Step State Action Answer} {state : Part} {action : Seen}
    (waits : view.waits step.state step.action = some (state, action)) :
    ∃ answer, view.sees step = some ⟨state, action, answer⟩ := by
  rw [← view.agree, Option.map_eq_some_iff] at waits
  obtain ⟨⟨_, _, answer⟩, sees, same⟩ := waits
  cases same
  exact ⟨answer, sees⟩

/-- The contract of code of which nothing is seen. -/
def unseen : Contract State Action Answer Unit where
  require _ state action := view.waits state action = none
  allow _ _ _ _ := True
  record ghost _ _ _ := ghost

/-- Code of which nothing is seen leaves the part alone. -/
def Hidden (program : Program State Action Answer Value) : Prop :=
  ∀ part : Part, Keeps view.unseen (fun _ state => view.part state = part) program

variable {view}

theorem unseen_runs {good : Unit → State → Value → Prop}
    {first last : Resumption State Action Answer Value} {trace : List (Step State Action Answer)}
    (meets : first.Meets view.unseen good ()) (run : Resumption.Runs first trace last) :
    trace.filterMap view.sees = [] ∧ last.Meets view.unseen good () := by
  induction run with
  | refl => exact ⟨rfl, meets⟩
  | @step state action resume trace last answer rest ih =>
      obtain ⟨nothing, later⟩ := ih (meets.2 answer trivial)
      refine ⟨?_, later⟩
      have hidden : view.sees ⟨state, action, answer⟩ = none := view.sees_eq_none meets.1
      rw [List.filterMap_cons_none hidden, nothing]

/-! ## Calls -/

/-- The calls of a list and then those of another one. -/
theorem forM_append_apply (run : Call → Program Part Seen SeenAnswer PUnit)
    (first second : List Call) (part : Part) :
    ((first ++ second).forM run : Program Part Seen SeenAnswer PUnit) part =
      ((first.forM run : Program Part Seen SeenAnswer PUnit) part).bind fun part _ =>
        (second.forM run : Program Part Seen SeenAnswer PUnit) part :=
  congrFun (List.forM_append (f := run)) part

variable (view)

/-- Every run of the program is seen as a run of some of the calls allowed. -/
def Uses (allowed : Call → Prop) (run : Call → Program Part Seen SeenAnswer PUnit)
    (program : Program State Action Answer Value) : Prop :=
  ∀ ⦃state trace last⦄, Resumption.Runs (program state) trace last →
    ∃ calls : List Call, (∀ call ∈ calls, allowed call) ∧ ∃ small,
      Resumption.Runs ((calls.forM run : Program Part Seen SeenAnswer PUnit) (view.part state))
        (trace.filterMap view.sees) small ∧ view.Shows (fun _ => ⟨⟩) small last

namespace Uses

variable {view} {allowed : Call → Prop} {run : Call → Program Part Seen SeenAnswer PUnit}

theorem pure (value : Value) :
    view.Uses allowed run (Pure.pure value : Program State Action Answer Value) := by
  intro state trace last ran
  cases ran
  exact ⟨[], nofun, _, .refl _, rfl⟩

theorem bind {first : Program State Action Answer Value}
    {next : Value → Program State Action Answer Result} (head : view.Uses allowed run first)
    (tail : ∀ value, view.Uses allowed run (next value)) :
    view.Uses allowed run (first >>= next) := by
  intro state trace last ran
  rcases ran.through with ⟨waiting, action, resume, early, rfl⟩ |
    ⟨before, after, middle, value, rfl, early, late⟩
  · obtain ⟨calls, each, small, seen, shows⟩ := head early
    exact ⟨calls, each, small, seen, shows⟩
  · obtain ⟨calls, each, small, seen, rfl⟩ := head early
    obtain ⟨further, others, final, after, shows⟩ := tail value late
    refine ⟨calls ++ further, List.forall_mem_append.2 ⟨each, others⟩, final, ?_, shows⟩
    rw [forM_append_apply, List.filterMap_append]
    exact seen.bind after

theorem get_bind {next : State → Program State Action Answer Value}
    (tail : ∀ known, view.Uses allowed run (next known)) :
    view.Uses allowed run (get >>= next) :=
  fun state _ _ ran => tail state ran

theorem ite {condition : Prop} [Decidable condition]
    {yes no : Program State Action Answer Value} (whenTrue : view.Uses allowed run yes)
    (whenFalse : view.Uses allowed run no) :
    view.Uses allowed run (if condition then yes else no) := by
  split
  · exact whenTrue
  · exact whenFalse

/-- Code of which nothing is seen makes no calls. -/
theorem of_hidden {program : Program State Action Answer Value} (hidden : view.Hidden program) :
    view.Uses allowed run program := by
  intro state trace last ran
  obtain ⟨nothing, meets⟩ := unseen_runs (hidden (view.part state) () state rfl) ran
  refine ⟨[], nofun, .done (view.part state) ⟨⟩, ?_, ?_⟩
  · rw [nothing]
    exact .refl _
  · cases last with
    | done final value =>
        have same : view.part final = view.part state := meets
        exact congrArg (Resumption.done · _) same.symm
    | ask final action resume =>
        intro seen waits
        rw [meets.1] at waits
        cases waits

end Uses

end View

/-! ## Calls of an object -/

section Host

variable {Host Object Inner Outer : Type} {InnerAnswer : Inner → Type}
variable {OuterAnswer : Outer → Type}
variable {view : View (Host × Object) Outer OuterAnswer Object Inner InnerAnswer}
variable {handle : (action : Inner) → Program Host Outer OuterAnswer (InnerAnswer action)}

/-- A handler passes the action on, and nothing is seen of what it does behind the
answer. -/
def View.Passes (view : View (Host × Object) Outer OuterAnswer Object Inner InnerAnswer)
    (handle : (action : Inner) → Program Host Outer OuterAnswer (InnerAnswer action)) : Prop :=
  ∀ action host object, ∃ outer resume, handle action host = .ask host outer resume ∧
    view.waits (host, object) outer = some (object, action) ∧ ∀ answer, ∃ given,
      view.sees ⟨(host, object), outer, answer⟩ = some ⟨object, action, given⟩ ∧
        (resume answer).Meets (view.unseen.along (·, object)) (fun _ _ value => value = given) ()

/-- A run of hosted code is seen as a run of the code itself. -/
theorem View.Passes.runs (passes : view.Passes handle) (part : ∀ both, view.part both = both.2)
    {current : Resumption Object Inner InnerAnswer Value} {host : Host}
    {trace : List (Step (Host × Object) Outer OuterAnswer)}
    {last : Resumption (Host × Object) Outer OuterAnswer Value}
    (run : Resumption.Runs (current.hosted handle host) trace last) :
    ∃ small, Resumption.Runs current (trace.filterMap view.sees) small ∧
      view.Shows id small last := by
  induction current generalizing host trace with
  | done object value =>
      cases run
      exact ⟨_, .refl _, congrArg (Resumption.done · value) (part (host, object)).symm⟩
  | ask object action resume ih =>
      obtain ⟨outer, go, handled, waits, answered⟩ := passes action host object
      have whole : (Resumption.ask object action resume).hosted handle host =
          ((Resumption.ask host outer go).embed (·, object)).bind fun both answer =>
            (resume answer).hosted handle both.1 := by
        rw [Resumption.hosted, handled]
      rw [whole] at run
      cases run with
      | refl =>
          refine ⟨_, .refl _, fun seen same => ?_⟩
          exact waits.symm.trans same
      | step answer rest =>
          obtain ⟨given, sees, meets⟩ := answered answer
          rw [List.filterMap_cons_some sees]
          have hidden : ((go answer).embed (·, object)).Meets view.unseen
              (fun _ both value => both.2 = object ∧ value = given) () :=
            Resumption.Meets.embed_iff.2 (meets.mono fun _ _ _ same => ⟨rfl, same⟩)
          rcases rest.through with ⟨waiting, asked, further, early, rfl⟩ |
            ⟨before, after, both, value, rfl, early, late⟩
          · obtain ⟨nothing, later⟩ := unseen_runs hidden early
            rw [nothing]
            refine ⟨resume given, .step given (.refl _), fun seen same => ?_⟩
            rw [later.1] at same
            cases same
          · obtain ⟨nothing, _, rfl⟩ := unseen_runs hidden early
            obtain ⟨small, seen, shows⟩ := ih value late
            rw [List.filterMap_append, nothing]
            exact ⟨small, .step value seen, shows⟩

/-- There is nothing to discard of a program without a value. -/
theorem Program.discard_eq (program : Program State Action Answer PUnit) :
    discard program = program :=
  funext fun state => Resumption.bind_done_value (program state)

/-- A call of the object is one of the calls it is used by. -/
theorem View.Passes.uses (passes : view.Passes handle) (part : ∀ both, view.part both = both.2)
    {allowed : Call → Prop} {run : Call → Program Object Inner InnerAnswer PUnit} {call : Call}
    (permitted : allowed call) {program : Program Object Inner InnerAnswer Value}
    (same : run call = discard program) : view.Uses allowed run (program.hosted handle) := by
  intro both trace last ran
  obtain ⟨small, seen, shows⟩ := passes.runs part ran
  let ended {Result : Type} (object : Object) (_ : Result) :
      Resumption Object Inner InnerAnswer PUnit := .done object ⟨⟩
  have once : ([call].forM run : Program Object Inner InnerAnswer PUnit) (view.part both) =
      ((program both.2).bind ended).bind ended := by
    rw [← part both]
    show (run call (view.part both)).bind ended = _
    rw [same]
    rfl
  refine ⟨[call], List.forall_mem_singleton.2 permitted, (small.bind ended).bind ended, ?_, ?_⟩
  · rw [once]
    exact (seen.inside _).inside _
  · cases last with
    | done final value =>
        cases shows
        rfl
    | ask state action resume =>
        intro waiting waits
        exact Resumption.pending_bind (Resumption.pending_bind (shows waiting waits) _) _

end Host

/-! ## Parts shown as the whole -/

section Embedded

variable {Whole : Type} {whole : State → Whole}

/-- A step with the state shown as the whole state it is a part of. -/
def Step.embed (whole : State → Whole) (step : Step State Action Answer) :
    Step Whole Action Answer :=
  ⟨whole step.state, step.action, step.answer⟩

/-- A run of an embedded program is an embedded run. -/
theorem Resumption.Runs.of_embed {first : Resumption State Action Answer Value}
    {trace : List (Step Whole Action Answer)} {last : Resumption Whole Action Answer Value}
    (run : Runs (first.embed whole) trace last) :
    ∃ inner final, Runs first inner final ∧ trace = inner.map (Step.embed whole) ∧
      last = final.embed whole := by
  induction first generalizing trace with
  | done state value =>
      cases run
      exact ⟨[], _, .refl _, rfl, rfl⟩
  | ask state action resume ih =>
      cases run with
      | refl => exact ⟨[], _, .refl _, rfl, rfl⟩
      | step answer rest =>
          obtain ⟨inner, final, run, rfl, rfl⟩ := ih answer rest
          exact ⟨_ :: inner, final, .step answer run, rfl, rfl⟩

end Embedded

/-! ## Two programs -/

section Two

variable {Air : Type} {view : View State Action Answer Part Seen SeenAnswer}

/-- A step of one side as it is seen, if it is. -/
def View.event (view : View State Action Answer Part Seen SeenAnswer)
    (event : Event State Action Answer) : Option (Event Part Seen SeenAnswer) :=
  (view.sees event.2).map (event.1, ·)

/-- What is seen of one side is its part of what is seen of both. -/
theorem View.steps_event (side : Side) (trace : List (Event State Action Answer)) :
    Pair.steps side (trace.filterMap view.event) =
      (Pair.steps side trace).filterMap view.sees := by
  unfold Pair.steps
  rw [List.filterMap_filterMap, List.filterMap_filterMap]
  refine congrArg (List.filterMap · trace) (funext fun event => ?_)
  obtain ⟨mover, step⟩ := event
  unfold View.event
  by_cases same : mover = side
  · cases sees : view.sees step <;> simp [same, sees]
  · cases sees : view.sees step <;> simp [same]

/-- A medium between two large programs looks only at what another one between
the small programs looks at. -/
structure View.Transparent (view : View State Action Answer Part Seen SeenAnswer)
    (outer : Medium State Action Answer Air) (inner : Medium Part Seen SeenAnswer Air) : Prop where
  seen : ∀ air side state action answer waiting step,
    view.sees ⟨state, action, answer⟩ = some step →
      outer.admits air side state action answer waiting →
        inner.admits air side step.state step.action step.answer
            (waiting.bind fun waiting => view.waits waiting.1 waiting.2) ∧
          outer.after air side action answer = inner.after air side step.action step.answer
  hidden : ∀ air side state action answer, view.sees ⟨state, action, answer⟩ = none →
    outer.after air side action answer = air
  /-- An answer that needs nobody to wait may be given whoever waits. -/
  alone : ∀ air side state action answer, inner.admits air side state action answer none →
    ∀ waiting, inner.admits air side state action answer waiting

/-- Whoever is seen to wait in the middle of a run waits in what is seen of it. -/
theorem View.pending_of_runs {result : Value → Small}
    {first last : Resumption State Action Answer Value} {trace : List (Step State Action Answer)}
    {start final : Resumption Part Seen SeenAnswer Small}
    (run : Resumption.Runs first trace last)
    (seen : Resumption.Runs start (trace.filterMap view.sees) final)
    (shows : view.Shows result final last) {state : Part} {action : Seen}
    (waits : (first.pending.bind fun waiting => view.waits waiting.1 waiting.2) =
      some (state, action)) : start.pending = some (state, action) := by
  cases run with
  | refl =>
      cases seen
      cases first with
      | done => cases waits
      | ask => exact shows _ waits
  | @step holder asks _ _ _ answer rest =>
      obtain ⟨given, sees⟩ := @View.sees_of_waits _ _ _ _ _ _ view ⟨holder, asks, answer⟩ _ _ waits
      rw [List.filterMap_cons_some sees] at seen
      cases seen
      rfl

/-- What is seen of two programs is a run of the two small ones. -/
theorem View.Transparent.runs {outer : Medium State Action Answer Air}
    {inner : Medium Part Seen SeenAnswer Air} (transparent : view.Transparent outer inner)
    {result : Value → Small} {first last : Pair State Action Answer Value Air}
    {trace : List (Event State Action Answer)} (run : Pair.Runs outer first trace last)
    {start final : Both (Resumption Part Seen SeenAnswer Small)}
    (seen : ∀ side, Resumption.Runs (start.of side)
      ((Pair.steps side trace).filterMap view.sees) (final.of side))
    (shows : ∀ side, view.Shows result (final.of side) (last.parties.of side)) :
    Pair.Runs inner ⟨start, first.air⟩ (trace.filterMap view.event) ⟨final, last.air⟩ := by
  induction run generalizing start with
  | refl pair =>
      have same : start = final := by
        obtain ⟨client, server⟩ := start
        have here := seen .client
        have there := seen .server
        cases final
        cases here
        cases there
        rfl
      subst same
      exact .refl _
  | @step pair last mover state action resume trace asks answer admitted rest ih =>
      have peer := (Pair.Runs.step mover asks answer admitted rest).project mover.peer
      have other := seen mover.peer
      have own := seen mover
      rw [Pair.steps_cons_peer] at other peer
      rw [Pair.steps_cons_self] at own
      cases sees : view.sees ⟨state, action, answer⟩ with
      | none =>
          have nothing : view.event (mover, ⟨state, action, answer⟩) = none := by
            simp [View.event, sees]
          rw [List.filterMap_cons_none sees] at own
          rw [List.filterMap_cons_none nothing]
          have still : (pair.answered outer mover action answer (resume answer)).air = pair.air :=
            transparent.hidden _ _ _ _ _ sees
          rw [← still]
          refine ih (fun side => ?_) shows
          rcases Side.eq_or_eq_peer mover side with rfl | rfl
          · exact own
          · exact other
      | some step =>
          have shown : view.event (mover, ⟨state, action, answer⟩) = some (mover, step) := by
            simp [View.event, sees]
          obtain ⟨heard, after⟩ := transparent.seen _ _ _ _ _ _ step sees admitted
          rw [List.filterMap_cons_some sees] at own
          rw [List.filterMap_cons_some shown]
          obtain ⟨part, small, reply⟩ := step
          generalize begins : start.of mover = begun at own
          cases own with
          | @step _ _ go _ _ _ further =>
              refine .step mover begins reply ?_ ?_
              · cases waits : (pair.parties.of mover.peer).pending.bind fun waiting =>
                    view.waits waiting.1 waiting.2 with
                | none =>
                    rw [waits] at heard
                    exact transparent.alone _ _ _ _ _ heard _
                | some waiting =>
                    rw [waits] at heard
                    rw [View.pending_of_runs peer other (shows mover.peer) waits]
                    exact heard
              · have later := @ih (start.put mover (go reply)) (fun side => ?_) shows
                · have air : (pair.answered outer mover action answer (resume answer)).air =
                      inner.after pair.air mover small reply := after
                  rw [air] at later
                  exact later
                · rcases Side.eq_or_eq_peer mover side with rfl | rfl
                  · rw [Both.of_put_self]
                    exact further
                  · rw [Both.of_put_peer]
                    exact other

end Two

end Roam.Interaction
