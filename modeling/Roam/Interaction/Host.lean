import Roam.Interaction.Contract

/-!
# Programs inside larger ones

A procedure works on a part of the state, or an application owns an object and is
called back by it.  Code that knows a part of the state only is embedded into the
whole; code that knows some of the actions only goes through to the others; code of
an object is hosted: each of its actions is handled by a program of the host, which
sees the host's state and leaves the object alone.  What is known of the smaller
program holds of the larger one.
-/

namespace Roam.Interaction

variable {Part State Action : Type} {Answer : Action → Type} {Ghost Value Result : Type}

/-! ## A part of the state -/

namespace Resumption

/-- Show every state as the whole state it is a part of. -/
def embed (whole : Part → State) :
    Resumption Part Action Answer Value → Resumption State Action Answer Value
  | .done part value => .done (whole part) value
  | .ask part action resume => .ask (whole part) action fun answer => (resume answer).embed whole

end Resumption

/-- A contract of the whole, as the code of a part meets it. -/
def Contract.along (whole : Part → State) (contract : Contract State Action Answer Ghost) :
    Contract Part Action Answer Ghost where
  require ghost part := contract.require ghost (whole part)
  allow ghost part := contract.allow ghost (whole part)
  record ghost part := contract.record ghost (whole part)

theorem Resumption.Meets.embed_iff {whole : Part → State}
    {contract : Contract State Action Answer Ghost} {good : Ghost → State → Value → Prop}
    {ghost : Ghost} {current : Resumption Part Action Answer Value} :
    (current.embed whole).Meets contract good ghost ↔
      current.Meets (contract.along whole) (fun ghost part => good ghost (whole part)) ghost := by
  induction current generalizing ghost with
  | done => exact Iff.rfl
  | ask part action resume ih => simp only [Resumption.embed, Resumption.Meets, ih]; rfl

namespace Program

/-- Hand a part of the state to a program by reference. -/
def focus (part : State → Part) (update : Part → State → State)
    (program : Program Part Action Answer Value) : Program State Action Answer Value :=
  fun state => (program (part state)).embed fun changed => update changed state

end Program

theorem Triple.focus {part : State → Part} {update : Part → State → State}
    {contract : Contract State Action Answer Ghost} {before : Ghost → State → Prop}
    {after : Value → Ghost → State → Prop} {program : Program Part Action Answer Value}
    (same : ∀ state, update (part state) state = state)
    (triple : ∀ state, Triple (contract.along fun changed => update changed state)
      (fun ghost changed => before ghost (update changed state)) program
      fun value ghost changed => after value ghost (update changed state)) :
    Triple contract before (program.focus part update) after := by
  intro ghost state start
  refine Resumption.Meets.embed_iff.2 (triple state ghost (part state) ?_)
  have back : update (part state) state = state := same state
  simp only [back]
  exact start

/-! ## Actions of a larger kind -/

section Through

variable {Inner Outer : Type} {OuterAnswer : Outer → Type} {say : Inner → Outer}

namespace Resumption

/-- Show every action as an action of a larger kind. -/
def through (say : Inner → Outer) :
    Resumption State Inner (fun action => OuterAnswer (say action)) Value →
      Resumption State Outer OuterAnswer Value
  | .done state value => .done state value
  | .ask state action resume => .ask state (say action) fun answer => (resume answer).through say

end Resumption

/-- A contract for the larger kind, as a program of the smaller kind meets it. -/
def Contract.through (say : Inner → Outer) (contract : Contract State Outer OuterAnswer Ghost) :
    Contract State Inner (fun action => OuterAnswer (say action)) Ghost where
  require ghost state action := contract.require ghost state (say action)
  allow ghost state action := contract.allow ghost state (say action)
  record ghost state action := contract.record ghost state (say action)

theorem Resumption.Meets.through_iff {contract : Contract State Outer OuterAnswer Ghost}
    {good : Ghost → State → Value → Prop} {ghost : Ghost}
    {current : Resumption State Inner (fun action => OuterAnswer (say action)) Value} :
    (current.through say).Meets contract good ghost ↔
      current.Meets (contract.through say) good ghost := by
  induction current generalizing ghost with
  | done => exact Iff.rfl
  | ask state action resume ih => simp only [Resumption.through, Resumption.Meets, ih]; rfl

/-- A program whose actions are actions of a larger kind. -/
def Program.through (say : Inner → Outer)
    (program : Program State Inner (fun action => OuterAnswer (say action)) Value) :
    Program State Outer OuterAnswer Value :=
  fun state => (program state).through say

theorem Triple.through {contract : Contract State Outer OuterAnswer Ghost}
    {before : Ghost → State → Prop} {after : Value → Ghost → State → Prop}
    {program : Program State Inner (fun action => OuterAnswer (say action)) Value}
    (triple : Triple (contract.through say) before program after) :
    Triple contract before (program.through say) after :=
  fun ghost state start => Resumption.Meets.through_iff.2 (triple ghost state start)

end Through

/-! ## An object and its host -/

section Host

variable {Host Object Inner Outer Record : Type} {InnerAnswer : Inner → Type}
variable {OuterAnswer : Outer → Type}

/-- Code of the object, with every action handled by the host. -/
def Resumption.hosted
    (handle : (action : Inner) → Program Host Outer OuterAnswer (InnerAnswer action)) :
    Resumption Object Inner InnerAnswer Value → Host →
      Resumption (Host × Object) Outer OuterAnswer Value
  | .done object value, host => .done (host, object) value
  | .ask object action resume, host =>
      ((handle action host).embed (·, object)).bind fun both answer =>
        (resume answer).hosted handle both.1

namespace Program

/-- Code of the host, which leaves the object alone. -/
def beside (program : Program Host Outer OuterAnswer Value) :
    Program (Host × Object) Outer OuterAnswer Value :=
  fun both => (program both.1).embed (·, both.2)

/-- A call of the object. -/
def hosted (handle : (action : Inner) → Program Host Outer OuterAnswer (InnerAnswer action))
    (program : Program Object Inner InnerAnswer Value) :
    Program (Host × Object) Outer OuterAnswer Value :=
  fun both => (program both.2).hosted handle both.1

end Program

variable {outer : Contract (Host × Object) Outer OuterAnswer Record}

/-- What the host's own code does, whatever state the object is in. -/
theorem Triple.beside {before : Record → Host × Object → Prop}
    {after : Value → Record → Host × Object → Prop} {program : Program Host Outer OuterAnswer Value}
    (triple : ∀ object, Triple (outer.along (·, object))
      (fun record host => before record (host, object)) program
      fun value record host => after value record (host, object)) :
    Triple outer before program.beside after := by
  rintro record ⟨host, object⟩ start
  exact Resumption.Meets.embed_iff.2 (triple object record host start)

theorem Keeps.beside {keep : Record → Host × Object → Prop}
    {program : Program Host Outer OuterAnswer Value}
    (keeps : ∀ object, Keeps (outer.along (·, object))
      (fun record host => keep record (host, object)) program) :
    Keeps outer keep program.beside :=
  Triple.beside keeps

/-- Each handler, asked in keeping with the inner contract, keeps the outer one,
gives an answer that the inner contract allows, and leaves behind a history and a
host that follow the inner history. -/
def Handles (inner : Contract Object Inner InnerAnswer Ghost)
    (outer : Contract (Host × Object) Outer OuterAnswer Record)
    (follows : Ghost → Record → Host → Prop)
    (handle : (action : Inner) → Program Host Outer OuterAnswer (InnerAnswer action)) : Prop :=
  ∀ action ghost record host object, follows ghost record host →
    inner.require ghost object action →
      (handle action host).Meets (outer.along (·, object))
        (fun record host answer => inner.allow ghost object action answer ∧
          follows (inner.record ghost object action answer) record host) record

variable {inner : Contract Object Inner InnerAnswer Ghost}
variable {follows : Ghost → Record → Host → Prop}
variable {handle : (action : Inner) → Program Host Outer OuterAnswer (InnerAnswer action)}

/-- Hosted code does what the code does by itself. -/
theorem Handles.meets (handles : Handles inner outer follows handle)
    {good : Ghost → Object → Value → Prop} {current : Resumption Object Inner InnerAnswer Value}
    {ghost : Ghost} {record : Record} {host : Host} (related : follows ghost record host)
    (meets : current.Meets inner good ghost) :
    (current.hosted handle host).Meets outer
      (fun record both value => ∃ ghost, follows ghost record both.1 ∧ good ghost both.2 value)
      record := by
  induction current generalizing ghost record host with
  | done object value => exact ⟨ghost, related, meets⟩
  | ask object action resume ih =>
      obtain ⟨asked, answered⟩ := meets
      refine Resumption.Meets.bind_iff.2 (Resumption.Meets.embed_iff.2 ?_)
      refine (handles action ghost record host object related asked).mono ?_
      rintro record host answer ⟨allowed, later⟩
      exact ih answer later (answered answer allowed)

theorem Handles.triple (handles : Handles inner outer follows handle)
    {before : Ghost → Object → Prop} {after : Value → Ghost → Object → Prop}
    {program : Program Object Inner InnerAnswer Value}
    (triple : Triple inner before program after) :
    Triple outer (fun record both => ∃ ghost, follows ghost record both.1 ∧ before ghost both.2)
      (program.hosted handle)
      fun value record both => ∃ ghost, follows ghost record both.1 ∧ after value ghost both.2 := by
  rintro record ⟨host, object⟩ ⟨ghost, related, start⟩
  exact handles.meets related (triple ghost object start)

end Host

end Roam.Interaction
