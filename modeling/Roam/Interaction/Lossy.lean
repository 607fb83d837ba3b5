import Roam.Interaction.Shadow

/-!
# Lossy traffic

Two programs hand items to each other over a medium that may lose any of them at any
time.  It brings nothing that was not handed to it, nothing twice and nothing out of
order.
-/

namespace Roam.Interaction

variable {State Action Value Item : Type} {Answer : Action → Type}

/-- The items an action hands over, and those an answer brings. -/
structure Traffic (Action : Type) (Answer : Action → Type) (Item : Type) where
  sends : Action → Option Item
  hears : (action : Action) → Answer action → Option Item

namespace Traffic

variable (traffic : Traffic Action Answer Item)

/-- What the steps of a program hand over. -/
def sent (trace : List (Step State Action Answer)) : List Item :=
  trace.flatMap fun step => (traffic.sends step.action).toList

/-- What the steps of a program are brought. -/
def heard (trace : List (Step State Action Answer)) : List Item :=
  trace.flatMap fun step => (traffic.hears step.action step.answer).toList

@[simp]
theorem sent_cons (step : Step State Action Answer) (trace : List (Step State Action Answer)) :
    traffic.sent (step :: trace) = (traffic.sends step.action).toList ++ traffic.sent trace :=
  List.flatMap_cons

@[simp]
theorem heard_cons (step : Step State Action Answer) (trace : List (Step State Action Answer)) :
    traffic.heard (step :: trace) =
      (traffic.hears step.action step.answer).toList ++ traffic.heard trace :=
  List.flatMap_cons

variable [DecidableEq Item]

/-- The items behind the first one that equals the given one. -/
def behind (item : Item) : List Item → List Item
  | [] => []
  | first :: rest => if first = item then rest else behind item rest

/-- What is still on its way once this much has been brought. -/
def past : Option Item → List Item → List Item
  | none, items => items
  | some item, items => behind item items

theorem behind_sublist {item : Item} {items : List Item} (member : item ∈ items) :
    (item :: behind item items).Sublist items := by
  induction items with
  | nil => exact absurd member List.not_mem_nil
  | cons first rest ih =>
      unfold behind
      by_cases same : first = item
      · simp [same]
      · rw [if_neg same]
        exact (ih ((List.mem_cons.1 member).resolve_left (Ne.symm same))).cons first

theorem past_sublist {item? : Option Item} {items : List Item}
    (members : ∀ item ∈ item?, item ∈ items) : (item?.toList ++ past item? items).Sublist items := by
  cases item? with
  | none => exact List.Sublist.refl items
  | some item => exact behind_sublist (members item rfl)

/-- What is on its way from each side: items that were handed over, in order. -/
def medium : Medium State Action Answer (Both (List Item)) where
  admits air side _ action answer _ :=
    ∀ item ∈ traffic.hears action answer, item ∈ air.of side.peer
  after air side action answer :=
    (air.put side.peer (past (traffic.hears action answer) (air.of side.peer))).put side
      (air.of side ++ (traffic.sends action).toList)

instance (air : Both (List Item)) (side : Side) (state : State) (action : Action)
    (answer : Answer action) (waiting : Option (State × Action)) :
    Decidable (traffic.medium.admits air side state action answer waiting) :=
  inferInstanceAs (Decidable (∀ item ∈ traffic.hears action answer, item ∈ air.of side.peer))

/-- What one side is brought in a run was handed over by the other one, each item once
and in the same order. -/
theorem heard_sublist {first last : Pair State Action Answer Value (Both (List Item))}
    {trace : List (Event State Action Answer)} (run : Pair.Runs traffic.medium first trace last)
    (side : Side) :
    (traffic.heard (Pair.steps side trace)).Sublist
      (first.air.of side.peer ++ traffic.sent (Pair.steps side.peer trace)) := by
  induction run with
  | refl => exact List.nil_sublist _
  | @step pair last mover state action resume trace asks answer admitted rest ih =>
      have air : (pair.answered traffic.medium mover action answer (resume answer)).air =
          (pair.air.put mover.peer (past (traffic.hears action answer)
            (pair.air.of mover.peer))).put mover
              (pair.air.of mover ++ (traffic.sends action).toList) := rfl
      rw [air] at ih
      rcases Side.eq_or_eq_peer mover side with rfl | rfl
      · rw [Both.of_put_peer, Both.of_put_self] at ih
        rw [Pair.steps_cons_self, Pair.steps_cons_peer, heard_cons]
        have taken := (past_sublist admitted).append_right (traffic.sent (Pair.steps side.peer trace))
        rw [List.append_assoc] at taken
        exact (ih.append_left _).trans taken
      · rw [Side.peer_peer, Both.of_put_self] at ih
        rw [Side.peer_peer, Pair.steps_cons_peer, Pair.steps_cons_self, sent_cons,
          ← List.append_assoc]
        exact ih

/-! ## Fewer items -/

theorem behind_suffix (item : Item) (items : List Item) : behind item items <:+ items := by
  induction items with
  | nil => exact List.suffix_refl []
  | cons first rest ih =>
      unfold behind
      split
      · exact List.suffix_cons first rest
      · exact ih.trans (List.suffix_cons first rest)

theorem behind_mono {item : Item} {fewer items : List Item} (sub : fewer.Sublist items) :
    (behind item fewer).Sublist (behind item items) := by
  induction sub with
  | slnil => exact List.Sublist.refl _
  | @cons fewer items first sub ih =>
      show (behind item fewer).Sublist (if first = item then items else behind item items)
      split
      · exact (behind_suffix item fewer).sublist.trans sub
      · exact ih
  | @cons_cons fewer items first sub ih =>
      unfold behind
      split
      · exact sub
      · exact ih

theorem filter_behind {keep : Item → Bool} {item : Item} (kept : keep item = true)
    (items : List Item) : (behind item items).filter keep = behind item (items.filter keep) := by
  induction items with
  | nil => rfl
  | cons first rest ih =>
      by_cases same : first = item
      · subst same
        simp [behind, kept]
      · cases other : keep first <;> simp [behind, same, other, ih]

/-- Where only some items count, it does not matter if others are brought in between. -/
theorem past_filter {keep : Item → Bool} {items others : List Item}
    (sub : (items.filter keep).Sublist others) (item? : Option Item) :
    ((past item? items).filter keep).Sublist (past (item?.filter keep) others) := by
  cases item? with
  | none => exact sub
  | some item =>
      cases kept : keep item with
      | true =>
          have brought : (some item).filter keep = some item := by simp [kept]
          rw [brought]
          show ((behind item items).filter keep).Sublist (behind item others)
          rw [filter_behind kept]
          exact behind_mono sub
      | false =>
          have nothing : (some item).filter keep = none := by simp [kept]
          rw [nothing]
          exact ((behind_suffix item items).sublist.filter keep).trans sub

variable {Small Ghost : Type}

/-- What is on its way on a thinner medium: of fine items, at least all that are kept. -/
structure Thins (keep : Item → Bool) (fine : Item → Prop) (air light : Both (List Item)) :
    Prop where
  fine : ∀ side, ∀ item ∈ air.of side, fine item
  kept : ∀ side, ((air.of side).filter keep).Sublist (light.of side)

/-- Both directions after a step, on the medium and on the thinner one. -/
theorem Thins.after {keep : Item → Bool} {fine : Item → Prop} {air light : Both (List Item)}
    (near : Thins keep fine air light) (side : Side) {brought sent : Option Item}
    {handed : List Item} (sound : ∀ item ∈ sent, fine item)
    (kept : (sent.toList.filter keep).Sublist handed) :
    Thins keep fine
      ((air.put side.peer (past brought (air.of side.peer))).put side
        (air.of side ++ sent.toList))
      ((light.put side.peer (past (brought.filter keep) (light.of side.peer))).put side
        (light.of side ++ handed)) := by
  constructor
  · intro other
    rcases Side.eq_or_eq_peer side other with rfl | rfl
    · rw [Both.of_put_self]
      intro item member
      rcases List.mem_append.1 member with flying | handed
      · exact near.fine other item flying
      · exact sound item (Option.mem_toList.1 handed)
    · rw [Both.of_put_peer, Both.of_put_self]
      intro item member
      refine near.fine side.peer item (List.Sublist.subset ?_ member)
      cases brought with
      | none => exact List.Sublist.refl _
      | some brought => exact (behind_suffix brought _).sublist
  · intro other
    rcases Side.eq_or_eq_peer side other with rfl | rfl
    · rw [Both.of_put_self, Both.of_put_self, List.filter_append]
      exact (near.kept other).append kept
    · rw [Both.of_put_peer, Both.of_put_peer, Both.of_put_self, Both.of_put_self]
      exact past_filter (near.kept side.peer) brought

/-- A shade that leaves some items out lets a medium for items through. -/
theorem crosses {shade : Shade State Small Action Answer Ghost} {keep : Item → Bool}
    {fine : Item → Prop}
    (allow : ∀ action answer, (∀ item ∈ traffic.hears action answer, fine item) →
      shade.allow action answer)
    (sends : ∀ action, shade.shows action ∨ shade.hides action →
      ∀ item ∈ traffic.sends action, fine item)
    (hears : ∀ action answer, traffic.hears action (shade.reply action answer) =
      (traffic.hears action answer).filter keep)
    (hidden : ∀ action, shade.hides action →
      (∀ answer, traffic.hears action answer = none) ∧
        ∀ item ∈ traffic.sends action, keep item = false) :
    shade.Crosses traffic.medium traffic.medium (Thins keep fine) where
  allow air light side state action answer waiting near admitted :=
    allow action answer fun item member => near.fine side.peer item (admitted item member)
  both air light side state small action answer waiting other near shown admitted := by
    constructor
    · intro item member
      rw [hears] at member
      obtain ⟨brought, kept⟩ := Option.mem_filter_iff.1 member
      exact (near.kept side.peer).subset (List.mem_filter.2 ⟨admitted item brought, kept⟩)
    · show Thins keep fine _ ((light.put side.peer
        (past (traffic.hears action (shade.reply action answer)) (light.of side.peer))).put side _)
      rw [hears]
      exact near.after side (sends action (.inl shown)) List.filter_sublist
  alone air light side state action answer waiting near hides admitted := by
    obtain ⟨silent, dropped⟩ := hidden action hides
    have nothing : (traffic.sends action).toList.filter keep = [] := by
      refine List.filter_eq_nil_iff.2 fun item member => ?_
      rw [dropped item (Option.mem_toList.1 member)]
      exact Bool.false_ne_true
    have after := @Thins.after _ _ keep fine air light near side (traffic.hears action answer) _ []
      (sends action (.inr hides)) (nothing ▸ List.Sublist.refl [])
    rw [silent] at after
    have same : (light.put side.peer (past none (light.of side.peer))).put side
        (light.of side ++ []) = light := by
      rw [List.append_nil, past, Both.put_eq light rfl, Both.put_eq light rfl]
    rw [Option.filter_none, same] at after
    show Thins keep fine ((air.put side.peer
      (past (traffic.hears action answer) (air.of side.peer))).put side _) light
    rw [silent]
    exact after

end Traffic

end Roam.Interaction
