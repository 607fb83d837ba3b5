import Roam.Interaction.Host
import Roam.Interaction.Pair

/-!
# Shadows

A program that does more than another one casts it as its shadow: it takes the same
steps, with answers that may be read differently, and some more of which nothing falls
into the shadow.  States go together at every step.  This is built along the text of
both programs; a run of two programs that cast shadows has a shadow that is a run of
the two shadows, if the medium between them lets it through.
-/

namespace Roam.Interaction

variable {State Small Action Ghost : Type} {Answer : Action → Type}
variable {Value Other Result Further : Type}

/-- How steps fall into the shadow. -/
structure Shade (State Small Action : Type) (Answer : Action → Type) (Ghost : Type) where
  /-- Actions of which nothing is left in the shadow. -/
  hides : Action → Prop
  /-- Actions that the shadow takes as well. -/
  shows : Action → Prop
  /-- Answers the comparison is made for. -/
  allow : (action : Action) → Answer action → Prop
  /-- The answer the shadow gets. -/
  reply : (action : Action) → Answer action → Answer action
  record : Ghost → (action : Action) → Answer action → Ghost
  /-- The states that go together. -/
  relates : Ghost → State → Small → Prop

namespace Shade

/-- The first program casts the second one. -/
inductive Casts (shade : Shade State Small Action Answer Ghost)
    (good : Ghost → State → Value → Small → Other → Prop) :
    Ghost → Resumption State Action Answer Value → Resumption Small Action Answer Other →
      Prop where
  | done {ghost : Ghost} {state : State} {value : Value} {small : Small} {other : Other}
      (ended : good ghost state value small other) :
      Casts shade good ghost (.done state value) (.done small other)
  | both {ghost : Ghost} {state : State} {small : Small} {action : Action}
      {resume : Answer action → Resumption State Action Answer Value}
      {go : Answer action → Resumption Small Action Answer Other}
      (shown : shade.shows action) (related : shade.relates ghost state small)
      (further : ∀ answer, shade.allow action answer →
        Casts shade good (shade.record ghost action answer) (resume answer)
          (go (shade.reply action answer))) :
      Casts shade good ghost (.ask state action resume) (.ask small action go)
  | alone {ghost : Ghost} {state : State} {action : Action}
      {resume : Answer action → Resumption State Action Answer Value}
      {light : Resumption Small Action Answer Other}
      (hidden : shade.hides action) (related : shade.relates ghost state light.state)
      (further : ∀ answer, shade.allow action answer →
        Casts shade good (shade.record ghost action answer) (resume answer) light) :
      Casts shade good ghost (.ask state action resume) light

/-- The steps of a run and those of its shadow. -/
inductive Falls (shade : Shade State Small Action Answer Ghost) :
    List (Step State Action Answer) → List (Step Small Action Answer) → Prop where
  | nil : Falls shade [] []
  | both {state : State} {small : Small} {action : Action} {answer : Answer action}
      {trace : List (Step State Action Answer)} {shadow : List (Step Small Action Answer)}
      (shown : shade.shows action) (rest : Falls shade trace shadow) :
      Falls shade (⟨state, action, answer⟩ :: trace)
        (⟨small, action, shade.reply action answer⟩ :: shadow)
  | alone {state : State} {action : Action} {answer : Answer action}
      {trace : List (Step State Action Answer)} {shadow : List (Step Small Action Answer)}
      (hidden : shade.hides action) (rest : Falls shade trace shadow) :
      Falls shade (⟨state, action, answer⟩ :: trace) shadow

/-- The contract of code of which nothing falls into a shadow that stands still. -/
def unseen (shade : Shade State Small Action Answer Ghost) (small : Small) :
    Contract State Action Answer Ghost where
  require ghost state action := shade.hides action ∧ shade.relates ghost state small
  allow _ _ := shade.allow
  record ghost _ := shade.record ghost

variable {shade : Shade State Small Action Answer Ghost}
variable {good : Ghost → State → Value → Small → Other → Prop}

namespace Casts

variable {ghost : Ghost} {big : Resumption State Action Answer Value}
variable {light : Resumption Small Action Answer Other}

theorem mono {better : Ghost → State → Value → Small → Other → Prop}
    (casts : shade.Casts good ghost big light)
    (better_of : ∀ ghost state value small other, good ghost state value small other →
      better ghost state value small other) : shade.Casts better ghost big light := by
  induction casts with
  | done ended => exact .done (better_of _ _ _ _ _ ended)
  | both shown related _ ih => exact .both shown related ih
  | alone hidden related _ ih => exact .alone hidden related ih

/-- Sequences, where the second shadow begins in the state the first one ends in. -/
theorem bind {best : Ghost → State → Result → Small → Further → Prop}
    {next : State → Value → Resumption State Action Answer Result}
    {after : Small → Other → Resumption Small Action Answer Further}
    (casts : shade.Casts good ghost big light)
    (starts : ∀ small other, (after small other).state = small)
    (tails : ∀ ghost state value small other, good ghost state value small other →
      shade.Casts best ghost (next state value) (after small other)) :
    shade.Casts best ghost (big.bind next) (light.bind after) := by
  induction casts with
  | done ended => exact tails _ _ _ _ _ ended
  | both shown related _ ih => exact .both shown related ih
  | @alone ghost state action resume light hidden related _ ih =>
      refine .alone hidden ?_ ih
      cases light with
      | done small other =>
          rw [Resumption.bind_done, starts]
          exact related
      | ask => exact related

/-- Sequences behind a program that takes every step together with its shadow. -/
theorem bind_together {best : Ghost → State → Result → Small → Further → Prop}
    {next : State → Value → Resumption State Action Answer Result}
    {after : Small → Other → Resumption Small Action Answer Further}
    (casts : Casts { shade with hides := fun _ => False } good ghost big light)
    (tails : ∀ ghost state value small other, good ghost state value small other →
      shade.Casts best ghost (next state value) (after small other)) :
    shade.Casts best ghost (big.bind next) (light.bind after) := by
  induction casts with
  | done ended => exact tails _ _ _ _ _ ended
  | both shown related _ ih => exact .both shown related ih
  | alone hidden => cases hidden

/-- Code of which nothing falls into the shadow runs while the shadow stands still. -/
theorem of_hidden {small : Small} {other : Other}
    (meets : big.Meets (shade.unseen small)
      (fun ghost state value => good ghost state value small other) ghost) :
    shade.Casts good ghost big (.done small other) := by
  induction big generalizing ghost with
  | done => exact .done meets
  | ask state action resume ih =>
      obtain ⟨⟨hidden, related⟩, further⟩ := meets
      exact .alone hidden related fun answer allowed => ih answer (further answer allowed)

/-- Where the program has ended, so has its shadow. -/
theorem of_done {state : State} {value : Value}
    (casts : shade.Casts good ghost (.done state value) light) :
    ∃ small other, light = .done small other ∧ good ghost state value small other := by
  cases casts with
  | done ended => exact ⟨_, _, rfl, ended⟩

/-- The states go together, wherever the two programs stand. -/
theorem related (casts : shade.Casts good ghost big light)
    (ends : ∀ ghost state value small other, good ghost state value small other →
      shade.relates ghost state small) : shade.relates ghost big.state light.state := by
  cases casts with
  | done ended => exact ends _ _ _ _ _ ended
  | both _ related _ => exact related
  | alone _ related _ => exact related

end Casts

/-! ## Program text -/

/-- Started in states that go together, the first program casts the second one. -/
def Shadows (shade : Shade State Small Action Answer Ghost)
    (before : Ghost → State → Small → Prop) (program : Program State Action Answer Value)
    (light : Program Small Action Answer Other)
    (after : Ghost → State → Value → Small → Other → Prop) : Prop :=
  ∀ ghost state small, before ghost state small →
    shade.Casts after ghost (program state) (light small)

/-- The shade of code that takes every step together with its shadow. -/
abbrev together (shade : Shade State Small Action Answer Ghost) :
    Shade State Small Action Answer Ghost :=
  { shade with hides := fun _ => False }

theorem Casts.of_together {ghost : Ghost} {big : Resumption State Action Answer Value}
    {light : Resumption Small Action Answer Other}
    (casts : shade.together.Casts good ghost big light) : shade.Casts good ghost big light := by
  induction casts with
  | done ended => exact .done ended
  | both shown related _ ih => exact .both shown related ih
  | alone hidden => cases hidden

/-- The two programs take the same steps and come to the same value, the record stays what
it is, and states of one kind go together throughout. -/
def Matches (shade : Shade State Small Action Answer Ghost) (ghost : Ghost)
    (same : State → Small → Prop) (program : Program State Action Answer Value)
    (light : Program Small Action Answer Value) : Prop :=
  ∀ state small, same state small → shade.together.Casts
    (fun reached after value left other => reached = ghost ∧ same after left ∧ value = other)
    ghost (program state) (light small)

namespace Matches

variable {ghost : Ghost} {same : State → Small → Prop}

theorem pure (value : Value) : shade.Matches ghost same (Pure.pure value) (Pure.pure value) :=
  fun _ _ start => .done ⟨rfl, start, rfl⟩

theorem bind {first : Program State Action Answer Value}
    {light : Program Small Action Answer Value}
    {next : Value → Program State Action Answer Result}
    {after : Value → Program Small Action Answer Result}
    (heads : shade.Matches ghost same first light)
    (tails : ∀ value, shade.Matches ghost same (next value) (after value)) :
    shade.Matches ghost same (first >>= next) (light >>= after) := by
  intro state small start
  refine Casts.bind_together (heads state small start) ?_
  rintro _ state value small _ ⟨rfl, start, rfl⟩
  exact tails value state small start

/-- A matching program in front of the rest of a sequence. -/
theorem andThen {first : Program State Action Answer Value}
    {light : Program Small Action Answer Value}
    {next : Value → Program State Action Answer Result}
    {after : Value → Program Small Action Answer Further}
    {good : Ghost → State → Result → Small → Further → Prop}
    (heads : shade.Matches ghost same first light)
    (tails : ∀ value state small, same state small →
      shade.together.Casts good ghost (next value state) (after value small))
    {state : State} {small : Small} (start : same state small) :
    shade.together.Casts good ghost ((first >>= next) state) ((light >>= after) small) := by
  refine Casts.bind_together (heads state small start) ?_
  rintro _ state value small _ ⟨rfl, start, rfl⟩
  exact tails value state small start

theorem get_bind {next : State → Program State Action Answer Value}
    {after : Small → Program Small Action Answer Value}
    (tails : ∀ known seen, same known seen → shade.Matches ghost same (next known) (after seen)) :
    shade.Matches ghost same (get >>= next) (get >>= after) :=
  fun state small start => tails state small start state small start

theorem ite {condition : Prop} [Decidable condition]
    {yes no : Program State Action Answer Value} {light dark : Program Small Action Answer Value}
    (whenTrue : shade.Matches ghost same yes light)
    (whenFalse : shade.Matches ghost same no dark) :
    shade.Matches ghost same (if condition then yes else no)
      (if condition then light else dark) := by
  split
  · exact whenTrue
  · exact whenFalse

theorem update {change : State → State} {other : Small → Small}
    (holds : ∀ state small, same state small → same (change state) (other small)) :
    shade.Matches ghost same (modify change) (modify other) :=
  fun state small start => .done ⟨rfl, holds state small start, rfl⟩

/-- An action of both, which the record does not mention. -/
theorem ask {action : Action} (shown : shade.shows action)
    (related : ∀ state small, same state small → shade.relates ghost state small)
    (reply : ∀ answer, shade.reply action answer = answer)
    (still : ∀ answer, shade.record ghost action answer = ghost) :
    shade.Matches ghost same (Program.ask action) (Program.ask action) :=
  fun state small start => .both shown (related state small start) fun answer _ =>
    .done ⟨still answer, start, (reply answer).symm⟩

theorem forM {Index : Type} {body : Index → Program State Action Answer PUnit}
    {light : Index → Program Small Action Answer PUnit} :
    ∀ {indices : List Index},
      (∀ index ∈ indices, shade.Matches ghost same (body index) (light index)) →
        shade.Matches ghost same (indices.forM body) (indices.forM light)
  | [], _ => pure PUnit.unit
  | index :: _, each => (each index List.mem_cons_self).bind fun _ =>
      forM fun index member => each index (List.mem_cons_of_mem _ member)

end Matches

/-- A branch that both programs take, started in given states. -/
theorem Casts.ite_at {ghost : Ghost} {state : State} {small : Small} {condition : Prop}
    [Decidable condition] {yes no : Program State Action Answer Value}
    {light dark : Program Small Action Answer Other}
    (whenTrue : condition → shade.Casts good ghost (yes state) (light small))
    (whenFalse : ¬ condition → shade.Casts good ghost (no state) (dark small)) :
    shade.Casts good ghost ((if condition then yes else no) state)
      ((if condition then light else dark) small) := by
  split
  · exact whenTrue ‹_›
  · exact whenFalse ‹_›

/-- The shade of a part, shown as the whole. -/
def along {Part Piece : Type} (shade : Shade State Small Action Answer Ghost)
    (whole : Part → State) (entire : Piece → Small) : Shade Part Piece Action Answer Ghost :=
  { shade with relates := fun ghost part piece => shade.relates ghost (whole part) (entire piece) }

theorem Casts.embed {Part Piece : Type} {whole : Part → State} {entire : Piece → Small}
    {ghost : Ghost} {big : Resumption Part Action Answer Value}
    {light : Resumption Piece Action Answer Other}
    (casts : (shade.along whole entire).Casts
      (fun ghost part value piece other => good ghost (whole part) value (entire piece) other)
      ghost big light) :
    shade.Casts good ghost (big.embed whole) (light.embed entire) := by
  induction casts with
  | done ended => exact .done ended
  | both shown related _ ih => exact .both shown related ih
  | @alone ghost part action resume light hidden related _ ih =>
      refine .alone hidden ?_ ih
      cases light with
      | done => exact related
      | ask => exact related

theorem Casts.embed_left {Part : Type} {whole : Part → State} {ghost : Ghost}
    {big : Resumption Part Action Answer Value} {light : Resumption Small Action Answer Other}
    (casts : (shade.along whole id).Casts
      (fun ghost part value small other => good ghost (whole part) value small other)
      ghost big light) :
    shade.Casts good ghost (big.embed whole) light := by
  induction casts with
  | done ended => exact .done ended
  | both shown related _ ih => exact .both shown related ih
  | alone hidden related _ ih => exact .alone hidden related ih

/-! ## Two programs -/

/-- A medium between two programs lets through what another one lets through between
their shadows. -/
structure Crosses {Air Light : Type} (shade : Shade State Small Action Answer Ghost)
    (outer : Medium State Action Answer Air) (inner : Medium Small Action Answer Light)
    (between : Air → Light → Prop) : Prop where
  allow : ∀ air light side state action answer waiting, between air light →
    outer.admits air side state action answer waiting → shade.allow action answer
  both : ∀ air light side state small action answer waiting other, between air light →
    shade.shows action → outer.admits air side state action answer waiting →
      inner.admits light side small action (shade.reply action answer) other ∧
        between (outer.after air side action answer)
          (inner.after light side action (shade.reply action answer))
  alone : ∀ air light side state action answer waiting, between air light →
    shade.hides action → outer.admits air side state action answer waiting →
      between (outer.after air side action answer) light

/-- The record of some steps. -/
def after (shade : Shade State Small Action Answer Ghost) (ghost : Ghost)
    (trace : List (Step State Action Answer)) : Ghost :=
  trace.foldl (fun ghost step => shade.record ghost step.action step.answer) ghost

/-- A run of two programs casts a run of their shadows. -/
theorem Crosses.runs {Air Light : Type} {outer : Medium State Action Answer Air}
    {inner : Medium Small Action Answer Light} {between : Air → Light → Prop}
    (crosses : shade.Crosses outer inner between)
    {first last : Pair State Action Answer Value Air} {trace : List (Event State Action Answer)}
    (run : Pair.Runs outer first trace last) {ghosts : Both Ghost}
    {start : Pair Small Action Answer Other Light} (near : between first.air start.air)
    (casts : ∀ side, shade.Casts good (ghosts.of side) (first.parties.of side)
      (start.parties.of side)) :
    ∃ shadow final, Pair.Runs inner start shadow final ∧ ∀ side,
      shade.Falls (Pair.steps side trace) (Pair.steps side shadow) ∧
        shade.Casts good (shade.after (ghosts.of side) (Pair.steps side trace))
          (last.parties.of side) (final.parties.of side) := by
  induction run generalizing ghosts start with
  | refl => exact ⟨[], start, .refl _, fun side => ⟨.nil, casts side⟩⟩
  | @step pair last mover state action resume trace asks answer admitted rest ih =>
      have allowed := crosses.allow _ _ _ _ _ _ _ near admitted
      have own := casts mover
      rw [asks] at own
      generalize waits : start.parties.of mover = light at own
      -- the record of the mover goes on, and the other side stands where it stood
      have later (small : Resumption Small Action Answer Other)
          (cast : shade.Casts good (shade.record (ghosts.of mover) action answer)
            (resume answer) small) (side : Side) :
          shade.Casts good
            ((ghosts.put mover (shade.record (ghosts.of mover) action answer)).of side)
            ((pair.answered outer mover action answer (resume answer)).parties.of side)
            ((start.parties.put mover small).of side) := by
        rcases Side.eq_or_eq_peer mover side with rfl | rfl
        · rw [Pair.answered, Both.of_put_self, Both.of_put_self, Both.of_put_self]
          exact cast
        · rw [Pair.answered, Both.of_put_peer, Both.of_put_peer, Both.of_put_peer]
          exact casts mover.peer
      cases own with
      | @both _ _ small _ _ go shown related further =>
          obtain ⟨passes, near⟩ := crosses.both _ _ mover _ small _ _ _
            (start.parties.of mover.peer).pending near shown admitted
          obtain ⟨shadow, final, run, ends⟩ := @ih
            (ghosts.put mover (shade.record (ghosts.of mover) action answer))
            (start.answered inner mover action (shade.reply action answer)
              (go (shade.reply action answer))) near (later _ (further answer allowed))
          refine ⟨_, final, .step mover waits _ passes run, fun side => ?_⟩
          obtain ⟨falls, ended⟩ := ends side
          rcases Side.eq_or_eq_peer mover side with rfl | rfl
          · rw [Pair.steps_cons_self, Pair.steps_cons_self]
            rw [Both.of_put_self] at ended
            exact ⟨.both shown falls, ended⟩
          · rw [Pair.steps_cons_peer, Pair.steps_cons_peer]
            rw [Both.of_put_peer] at ended
            exact ⟨falls, ended⟩
      | alone hidden related further =>
          have near := crosses.alone _ _ mover _ _ _ _ near hidden admitted
          have same : start.parties.put mover light = start.parties :=
            Both.put_eq _ waits
          have stays := later light (further answer allowed)
          rw [same] at stays
          obtain ⟨shadow, final, run, ends⟩ := @ih
            (ghosts.put mover (shade.record (ghosts.of mover) action answer)) start near stays
          refine ⟨shadow, final, run, fun side => ?_⟩
          obtain ⟨falls, ended⟩ := ends side
          rcases Side.eq_or_eq_peer mover side with rfl | rfl
          · rw [Pair.steps_cons_self]
            rw [Both.of_put_self] at ended
            exact ⟨.alone hidden falls, ended⟩
          · rw [Pair.steps_cons_peer]
            rw [Both.of_put_peer] at ended
            exact ⟨falls, ended⟩

end Shade

end Roam.Interaction
