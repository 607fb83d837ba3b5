import Mathlib.Data.Fintype.Defs
import Mathlib.Data.List.Induction
import Roam.RangeTest.Walk

/-!
# One action for one press

A button is acted upon when its count reaches two, and a count above two is the only
memory of a press that has been served.  The count is eight bits wide, and an action
clears the counts of the other buttons.  As long as no served press loses its count
in one of these ways, no press is acted upon twice.
-/

namespace Roam.RangeTest

open Roam.Interaction
open Roam.Node

instance : Fintype Button where
  elems := {.settingSelect, .valueSelect, .enter}
  complete button := by cases button <;> decide

/-! ## Counts -/

namespace Base

/-- What the last scan has read of a button. -/
def pressed (base : Base) : Button → Bool
  | .settingSelect => base.settingSelect
  | .valueSelect => base.valueSelect
  | .enter => base.enter

def count (base : Base) : Button → UInt8
  | .settingSelect => base.settingSelectCount
  | .valueSelect => base.valueSelectCount
  | .enter => base.enterCount

/-- While a button is pressed, the pressed buttons are counted and no count is cleared. -/
theorem count_countPresses {base : Base} {held : Button} (holding : base.pressed held = true)
    (button : Button) :
    base.countPresses.count button =
      base.count button + if base.pressed button then 1 else 0 := by
  obtain ⟨_, _, _, _, _, _, _, _, _, _, _, first, second, third, _, _, _, _, _⟩ := base
  have some : (first || second || third) = true := by
    cases held <;> simp [pressed] at holding <;> simp [holding]
  cases button <;> cases first <;> cases second <;> cases third <;>
    first | exact absurd some (by decide) | simp [countPresses, count, pressed]

end Base

namespace Base

/-- A single button is read as pressed. -/
def holdOnly (base : Base) (button : Button) : Base :=
  { base with
    settingSelect := decide (button = .settingSelect)
    valueSelect := decide (button = .valueSelect)
    enter := decide (button = .enter) }

/-- A scan that finds a single button pressed, up to its actions. -/
def scanOnly (base : Base) (button : Button) : Base := (base.holdOnly button).countPresses

theorem count_scanOnly (base : Base) (button : Button) :
    (base.scanOnly button).count button = base.count button + 1 := by
  have held : (base.holdOnly button).pressed button = true := by
    cases button <;> rfl
  rw [scanOnly, count_countPresses held, if_pos held]
  cases button <;> rfl

/-- A button that is held on has its count wrap, or start again behind an action for
another button; once it is zero two more scans make the button due again. -/
theorem due_again (base : Base) (button : Button) :
    (base.count button = 255 → (base.scanOnly button).count button = 0) ∧
      (base.count button = 0 →
        ((base.scanOnly button).scanOnly button).count button = 2) := by
  refine ⟨fun full => ?_, fun lost => ?_⟩
  · rw [count_scanOnly, full]
    rfl
  · rw [count_scanOnly, count_scanOnly, lost]
    rfl

end Base

/-! ## Presses that have been served -/

/-- The buttons that have been acted upon and not been read as released since. -/
abbrev Served : Type := Button → Bool

namespace Served

def observe (served : Served) : (action : Action) → action.Answer → Served
  | .triggered button, _ => fun other => decide (other = button) || served other
  | .digitalRead pin, high => fun other => served other && !(decide (other.pin = pin) && high)
  | _, _ => served

section Read

variable {served : Served} {pin : UInt8} {high : Bool} {button : Button}

theorem of_read (serving : served.observe (.digitalRead pin) high button = true) :
    served button = true :=
  (Bool.and_eq_true_iff.1 serving).1

/-- A button that is still served after its own reading was held. -/
theorem held_of_read (serving : served.observe (.digitalRead button.pin) high button = true) :
    high = false := by
  have held := (Bool.and_eq_true_iff.1 serving).2
  simpa using held

end Read

/-- The buttons served after the listed steps. -/
def of (trace : List BaseStep) : Served :=
  trace.foldl (fun served step => served.observe step.action step.answer) fun _ => false

/-- A button that is still served has not been released since it was acted upon. -/
theorem of_unreleased {first middle : List BaseStep} {trigger : BaseStep} {button : Button}
    (acted : trigger.action = .triggered button)
    (pressed : ∀ both, ⟨both, .digitalRead button.pin, true⟩ ∉ middle) :
    of (first ++ trigger :: middle) button = true := by
  induction middle using List.reverseRecOn with
  | nil =>
      obtain ⟨both, action, answer⟩ := trigger
      cases acted
      rw [of, List.foldl_append]
      simp [observe]
  | append_singleton front step ih =>
      have earlier := ih fun both member => pressed both (List.mem_append_left _ member)
      have now := fun both same => pressed both (List.mem_append_right _ (List.mem_singleton.2 same))
      rw [of] at earlier
      rw [← List.cons_append, ← List.append_assoc, of, List.foldl_append]
      obtain ⟨both, action, answer⟩ := step
      cases action with
      | digitalRead pin =>
          by_cases own : button.pin = pin
          · subst own
            have low : answer = false := Bool.eq_false_iff.2 fun high => now both (by rw [high])
            simpa [observe, low] using earlier
          · simpa [observe, own] using earlier
      | triggered other => exact Bool.or_eq_true_iff.2 (Or.inr earlier)
      | _ => exact earlier

end Served

/-- Every served button that a scan finds held keeps its count: it does not wrap, and
no other button is about to be acted upon. -/
def Remembers (served : Served) (base : Base) (held : Button → Bool) : Prop :=
  ∀ button, served button = true → held button = true → base.count button ≠ 255 ∧
    ∀ other, other ≠ button → held other = true → base.count other ≠ 1

instance (served : Served) (base : Base) (held : Button → Bool) :
    Decidable (Remembers served base held) :=
  inferInstanceAs (Decidable (∀ _, _))

/-- What a scan has found when it reads the last button. -/
def heldWith (base : Base) (high : Bool) : Button → Bool
  | .enter => !high
  | button => base.pressed button

/-- Each scan remembers the presses that have been served. -/
def Steady (served : Served) (both : Base × LoraPoint2Point) :
    (action : Action) → action.Answer → Prop
  | .digitalRead pin, high =>
      pin = Button.enter.pin → Remembers served both.1 (heldWith both.1 high)
  | _, _ => True

/-- The contract of a sketch that is pressed steadily: it acts upon a button only once
before the button is released. -/
def pressing : Contract (Base × LoraPoint2Point) Action Action.Answer Served where
  require served _ action := ∀ button, action = .triggered button → served button = false
  allow := Steady
  record served _ action answer := served.observe action answer

/-- Between two scans no count is two, and a served button has a count above it. -/
structure Settled (served : Served) (base : Base) : Prop where
  rest : ∀ button, base.count button ≠ 2
  above : ∀ button, served button = true → 3 ≤ (base.count button).toNat

/-- After the presses have been counted a served button has a count above two, and no
other button is about to be acted upon. -/
def Counted (served : Served) (base : Base) : Prop :=
  ∀ button, served button = true → 3 ≤ (base.count button).toNat ∧
    ∀ other, other ≠ button → base.count other ≠ 2

/-- A scan counts what it has found. -/
theorem Settled.counted {served : Served} {base : Base} (settled : Settled served base)
    (pressed : ∀ button, served button = true → base.pressed button = true)
    (remembers : Remembers served base base.pressed) : Counted served base.countPresses := by
  intro button serving
  have held := pressed button serving
  obtain ⟨below, others⟩ := remembers button serving held
  refine ⟨?_, fun other apart => ?_⟩
  · rw [Base.count_countPresses held, if_pos held]
    have least := settled.above button serving
    have under : (base.count button).toNat ≠ 255 := fun same => below (UInt8.toNat_inj.1 same)
    have bound := (base.count button).toNat_lt
    rw [UInt8.toNat_add]
    show 3 ≤ ((base.count button).toNat + 1) % 256
    omega
  · rw [Base.count_countPresses held]
    split
    · rename_i down
      intro two
      exact others other apart down (by grind)
    · rw [UInt8.add_zero]
      exact settled.rest other

/-- An action counts its own button as served, and clears the other counts. -/
theorem Counted.act {served : Served} {base later : Base} {button : Button}
    (counted : Counted served base) (due : base.count button = 2) (own : later.count button = 3)
    (cleared : ∀ other, other ≠ button → later.count other = 0) :
    served button = false ∧ Settled (served.observe (.triggered button) ()) later := by
  have fresh : ∀ other, served other = true → False := by
    intro other serving
    obtain ⟨least, apart⟩ := counted other serving
    by_cases same : button = other
    · rw [← same, due] at least
      exact absurd least (by decide)
    · exact apart button same due
  refine ⟨Bool.eq_false_iff.2 (fresh button), ⟨fun other two => ?_, fun other serving => ?_⟩⟩
  · by_cases same : other = button
    · rw [same, own] at two
      exact absurd two (by decide)
    · rw [cleared other same] at two
      exact absurd two (by decide)
  · rcases Bool.or_eq_true_iff.1 serving with same | earlier
    · rw [of_decide_eq_true same, own]
      decide
    · exact (fresh other earlier).elim

theorem Settled.checks {served : Served} {base : Base} (settled : Settled served base) :
    Counted served base :=
  fun button serving => ⟨settled.above button serving, fun other _ => settled.rest other⟩

/-- Some of the buttons have been looked at. -/
structure Checked (checked : List Button) (served : Served) (base : Base) : Prop where
  counted : Counted served base
  rest : ∀ button ∈ checked, base.count button ≠ 2

/-! ## The sketch -/

/-- Nothing but the counts counts. -/
theorem Settled.frame {served : Served} {base later : Base} (settled : Settled served base)
    (counts : later.count = base.count) : Settled served later :=
  ⟨counts ▸ settled.rest, counts ▸ settled.above⟩

/-- What the object does is nothing to the buttons. -/
theorem relays_pressing : Relays (Contract.watching fun (_ : Unit) _ _ _ => ()) pressing
    fun _ => Settled where
  act action _ served base object settled _ := by
    refine ⟨nofun, fun _ _ => ⟨trivial, ?_⟩⟩
    cases action with
    | linkChangeInd settings => exact settled.frame rfl
    | _ => exact settled
  log action logs _ object served base settled := by
    cases action
    case openDataFile => exact ⟨nofun, fun _ _ => settled⟩
    case millis => exact ⟨nofun, fun _ _ => settled⟩
    all_goals cases logs
  print _ _ _ _ _ _ _ _ settled _ _ := ⟨nofun, settled⟩
  lastAck _ _ _ settled := settled.frame rfl

/-- Between two scans the presses are settled. -/
abbrev SettledBetween (served : Served) (both : Base × LoraPoint2Point) : Prop :=
  Settled served both.1

theorem call_settled {Value : Type} (program : NodeM Value) :
    Keeps pressing SettledBetween (call program) := by
  have anything : Triple (Contract.watching fun (_ : Unit) _ _ _ => ()) (fun _ _ => True) program
      fun _ _ _ => True :=
    fun ghost node _ => Resumption.Meets.undemanding (fun _ _ _ => trivial) ghost _
  refine (relays_pressing.call anything).weaken ?_ ?_
  · exact fun _ _ settled => ⟨(), settled, trivial⟩
  · rintro _ _ _ ⟨_, settled, _⟩
    exact settled

section Scan

variable (object : LoraPoint2Point)

theorem readButtons_counted : Triple (pressing.along (·, object)) Settled readButtons
    fun _ => Counted := by
  intro served base settled
  refine ⟨nofun, fun first _ => ⟨nofun, fun second _ => ⟨nofun, fun third steady => ?_⟩⟩⟩
  have remembers := steady rfl
  refine Settled.counted ?_ ?_ ?_
  · refine ⟨settled.rest, fun button serving => settled.above button ?_⟩
    exact Served.of_read (Served.of_read (Served.of_read serving))
  · intro button serving
    cases button with
    | settingSelect =>
        have low : first = false := Served.held_of_read (Served.of_read (Served.of_read serving))
        exact congrArg not low
    | valueSelect =>
        have low : second = false := Served.held_of_read (Served.of_read serving)
        exact congrArg not low
    | enter =>
        have low : third = false := Served.held_of_read serving
        exact congrArg not low
  · intro button serving held
    obtain ⟨below, others⟩ := remembers button (Served.of_read serving) (by cases button <;> exact held)
    exact ⟨below, fun other apart down => others other apart (by cases other <;> exact down)⟩

/-- A button that is due is acted upon. -/
theorem act_settled {button : Button} {change : Base → Base}
    (own : ∀ base, (change base).count button = base.count button + 1)
    (cleared : ∀ base other, other ≠ button → (change base).count other = 0) :
    Triple (pressing.along (·, object))
      (fun served base => Counted served base ∧ base.count button = 2)
      (do perform (.triggered button); modify change)
      fun _ => Settled := by
  rintro served base ⟨counted, due⟩
  have three : (change base).count button = 3 := by
    rw [own, due]
    rfl
  obtain ⟨fresh, settled⟩ := counted.act due three (cleared base)
  refine ⟨?_, fun _ _ => settled⟩
  rintro _ ⟨rfl⟩
  exact fresh

/-- Looking at a button acts upon it if it is due. -/
theorem process_checked {button : Button} {checked : List Button} {change : Base → Base}
    (own : ∀ base, (change base).count button = base.count button + 1)
    (cleared : ∀ base other, other ≠ button → (change base).count other = 0) :
    Triple (pressing.along (·, object)) (Checked checked)
      (do if (← get).count button = 2 then do perform (.triggered button); modify change)
      fun _ => Checked (button :: checked) := by
  refine Triple.get_bind fun known => Triple.ite (fun due => ?_) fun idle => Triple.pure _ ?_
  · refine Triple.weaken (act_settled object own cleared) ?_ fun _ _ _ settled => ?_
    · rintro served base ⟨checked, rfl⟩
      exact ⟨checked.counted, due⟩
    · exact ⟨settled.checks, fun other _ => settled.rest other⟩
  · rintro served base ⟨checked, rfl⟩
    exact ⟨checked.counted, List.forall_mem_cons.2 ⟨idle, checked.rest⟩⟩

theorem processSettingSelect_checked : Triple (pressing.along (·, object)) (Checked [])
    processSettingSelect fun _ => Checked [.settingSelect] := by
  refine process_checked object (fun _ => rfl) fun base other apart => ?_
  cases other with
  | settingSelect => exact absurd rfl apart
  | valueSelect => rfl
  | enter => rfl

theorem processValueSelect_checked : Triple (pressing.along (·, object)) (Checked [.settingSelect])
    processValueSelect fun _ => Checked [.valueSelect, .settingSelect] := by
  refine process_checked object (fun _ => rfl) fun base other apart => ?_
  cases other with
  | settingSelect => rfl
  | valueSelect => exact absurd rfl apart
  | enter => rfl

end Scan

/-- The last button is looked at, and asks for a link change. -/
theorem processEnter_settled : Triple pressing
    (fun served both => Checked [.valueSelect, .settingSelect] served both.1) processEnter
    fun _ => SettledBetween := by
  refine Triple.get_bind fun known => Triple.ite (fun due => ?_) fun idle => Triple.pure _ ?_
  · have acted : Triple pressing
        (fun served both => Checked [.valueSelect, .settingSelect] served both.1 ∧ both = known)
        (Program.beside do
          perform (.triggered .enter)
          modify fun base => { base with
            enterCount := base.enterCount + 1
            settingSelectCount := 0
            valueSelectCount := 0
            noPressCount := 0 })
        fun _ => SettledBetween := by
      refine Triple.beside fun object => ?_
      refine Triple.pre (act_settled object (fun _ => rfl) fun base other apart => ?_) ?_
      · cases other with
        | settingSelect => rfl
        | valueSelect => rfl
        | enter => exact absurd rfl apart
      · rintro served base ⟨checked, rfl⟩
        exact ⟨checked.counted, due⟩
    refine acted.bind fun _ => Keeps.get_bind fun both => ?_
    refine (call_settled _).bind fun _ => Keeps.beside fun object => ?_
    exact Keeps.update fun _ _ settled => settled.frame rfl
  · rintro served both ⟨⟨counted, rest⟩, rfl⟩
    obtain ⟨value, setting⟩ := List.forall_mem_cons.1 rest
    have none : ∀ button, both.1.count button ≠ 2 := by
      intro button
      cases button with
      | settingSelect => exact setting _ List.mem_cons_self
      | valueSelect => exact value
      | enter => exact idle
    exact ⟨none, fun button serving => (counted button serving).1⟩

/-- A scan acts upon each button once before it is released. -/
theorem serviceButtons_settled : Keeps pressing SettledBetween serviceButtons := by
  refine Keeps.get_bind fun _ => Keeps.ite ?_ (Keeps.pure ())
  have reads : Triple pressing SettledBetween (Program.beside readButtons)
      fun _ served both => Checked [] served both.1 :=
    Triple.beside fun object => Triple.post (readButtons_counted object) fun _ _ _ counted =>
      ⟨counted, nofun⟩
  have first : Triple pressing (fun served both => Checked [] served both.1)
      (Program.beside processSettingSelect)
      fun _ served both => Checked [.settingSelect] served both.1 :=
    Triple.beside processSettingSelect_checked
  have second : Triple pressing (fun served both => Checked [.settingSelect] served both.1)
      (Program.beside processValueSelect)
      fun _ served both => Checked [.valueSelect, .settingSelect] served both.1 :=
    Triple.beside processValueSelect_checked
  exact reads.bind fun _ => first.bind fun _ => second.bind fun _ => processEnter_settled

theorem polls_settled : Polls pressing SettledBetween where
  poll action polls := Keeps.beside fun object served base settled => by
    cases action
    case millis => exact ⟨nofun, fun _ _ => settled⟩
    case typed => exact ⟨nofun, fun _ _ => settled⟩
    all_goals cases polls
  times _ _ _ _ _ _ settled := settled.frame rfl
  setupRadio := call_settled _
  startHeartbeats := call_settled _
  setTxMessage := call_settled _
  buildStringFromSerial _ := call_settled _
  serviceTx := call_settled _
  serviceRx := call_settled _

/-! ## Runs -/

/-- No scan of the run forgets a press that has been served. -/
def SteadyRun (trace : List BaseStep) : Prop := pressing.Allows (fun _ => false) trace

instance (served : Served) (both : Base × LoraPoint2Point) (action : Action)
    (answer : action.Answer) : Decidable (Steady served both action answer) := by
  unfold Steady
  split <;> infer_instance

instance decidableAllows (served : Served) (trace : List BaseStep) :
    Decidable (pressing.Allows served trace) :=
  match trace with
  | [] => isTrue trivial
  | step :: rest =>
      have := decidableAllows (served.observe step.action step.answer) rest
      inferInstanceAs (Decidable (Steady served step.state step.action step.answer ∧
        pressing.Allows (served.observe step.action step.answer) rest))

instance : DecidablePred SteadyRun := decidableAllows _

theorem settled_start : Settled (fun _ => false) start.1 :=
  ⟨fun button => by cases button <;> decide, nofun⟩

/-- As long as no scan forgets a press that has been served, every button is acted upon
once before it is released, in every run of the base. -/
theorem one_action_per_press {iterations : Nat} {trace : List BaseStep}
    {last : Resumption (Base × LoraPoint2Point) Action Action.Answer Unit}
    (run : Resumption.Runs (sketch iterations start) trace last) (steady : SteadyRun trace)
    {first middle later : List BaseStep} {once again : BaseStep}
    (split : trace = first ++ once :: (middle ++ again :: later)) (button : Button)
    (acted : once.action = .triggered button) (actedAgain : again.action = .triggered button) :
    ∃ both, ⟨both, .digitalRead button.pin, true⟩ ∈ middle := by
  subst split
  rw [← List.cons_append, ← List.append_assoc] at run steady
  have fresh := ((polls_settled.sketch serviceButtons_settled iterations) _ start
    settled_start).required run steady button actedAgain
  by_contra unreleased
  have serving : Served.of (first ++ once :: middle) button = true :=
    Served.of_unreleased acted fun both member => unreleased ⟨both, member⟩
  exact absurd (fresh.symm.trans serving) nofun

/-- The setting button held down over six scans, and the value button over the third
and the fourth of them. -/
def overlapping : List BaseStep × Resumption (Base × LoraPoint2Point) Action Action.Answer Unit :=
  Bench.run {
    clock := fun position => UInt32.ofNat (20 * position)
    presses := fun position pin => pin = 9 ∨ (pin = 6 ∧ 36 < position ∧ position < 53) } 6

/-- The setting button pressed twice for two scans, with two scans in between. -/
def pressedTwice : List BaseStep × Resumption (Base × LoraPoint2Point) Action Action.Answer Unit :=
  Bench.run {
    clock := fun position => UInt32.ofNat (20 * position)
    presses := fun position pin => pin = 9 ∧ (position < 40 ∨ 56 < position) } 6

/-- The button an action acts upon, if it does. -/
def Action.button? : Action → Option Button
  | .triggered button => some button
  | _ => none

theorem Action.eq_triggered {action : Action} {button : Button}
    (found : action.button? = some button) : action = .triggered button := by
  cases action
  case triggered other => exact congrArg Action.triggered (Option.some.inj found)
  all_goals cases found

/-- A run with two steps picked out. -/
theorem split_at {α : Type} (list : List α) {first second : Nat} (order : first < second)
    (inside : second < list.length) :
    list = list.take first ++ list.get ⟨first, order.trans inside⟩ ::
      ((list.drop (first + 1)).take (second - (first + 1)) ++
        list.get ⟨second, inside⟩ :: list.drop (second + 1)) := by
  have rest : list.get ⟨second, inside⟩ :: list.drop (second + 1) =
      (list.drop (first + 1)).drop (second - (first + 1)) := by
    rw [List.get_eq_getElem, List.getElem_cons_drop, List.drop_drop, Nat.add_sub_cancel' order]
  rw [rest, List.take_append_drop, List.get_eq_getElem, List.getElem_cons_drop,
    List.take_append_drop]

theorem pressedTwice_long : 68 < pressedTwice.1.length := by decide +kernel

theorem overlapping_long : 69 < overlapping.1.length := by decide +kernel

theorem one_action_per_press_twice :
    ∃ both, ⟨both, .digitalRead 9, true⟩ ∈ (pressedTwice.1.drop 36).take 32 := by
  have steady : SteadyRun pressedTwice.1 := by decide +kernel
  refine one_action_per_press (Bench.run_runs _ _) steady
    (split_at _ (by decide : 35 < 68) pressedTwice_long) .settingSelect ?_ ?_
  · exact Action.eq_triggered (by decide +kernel)
  · exact Action.eq_triggered (by decide +kernel)

/-- The press of the setting button is acted upon twice. -/
theorem overlapping_press_acts_twice :
    ¬ ∀ (iterations : Nat) (trace : List BaseStep)
      (last : Resumption (Base × LoraPoint2Point) Action Action.Answer Unit)
      (first middle later : List BaseStep) (once again : BaseStep) (button : Button),
      Resumption.Runs (sketch iterations start) trace last →
        trace = first ++ once :: (middle ++ again :: later) →
          once.action = .triggered button → again.action = .triggered button →
            ∃ both, ⟨both, .digitalRead button.pin, true⟩ ∈ middle := by
  intro always
  obtain ⟨both, member⟩ := always 6 _ _ _ _ _ _ _ .settingSelect (Bench.run_runs _ _)
    (split_at overlapping.1 (by decide : 35 < 69) overlapping_long)
    (Action.eq_triggered (by decide +kernel)) (Action.eq_triggered (by decide +kernel))
  have held : ((overlapping.1.drop 36).take 33).all (fun step =>
      match step with
      | ⟨_, .digitalRead pin, high⟩ => !(pin = 9 && high)
      | _ => true) = true := by decide +kernel
  exact Bool.false_ne_true (List.all_eq_true.1 held _ member)

end Roam.RangeTest
