import Roam.Node.Link
import Roam.Node.Validity

/-!
# Withdrawing a link change

A server whose response is not acknowledged hands its previous settings to the
setters.  A setter that has refused the requested value has not moved its
previous one, so that parameter goes back one change too far.
-/

namespace Roam.Node

open Roam.Interaction

/-- A transmission at this step, if there is one, is not acknowledged. -/
def unacknowledged : NodeStep → Bool
  | ⟨_, .sendtoWait _ _, acknowleged⟩ => !acknowleged
  | _ => true

/-- No transmission is acknowledged. -/
def losing : Contract LoraPoint2Point Action Action.Answer Unit where
  require _ _ _ := True
  allow _ node action answer := unacknowledged ⟨node, action, answer⟩ = true
  record _ _ _ _ := ()

theorem losing_allows (trace : List NodeStep) :
    losing.Allows () trace ↔ ∀ step ∈ trace, unacknowledged step = true := by
  have stepwise := losing.allows_iff (fun _ _ _ _ => Iff.rfl) () trace
  exact stepwise

theorem setAll_losing (settings : Settings) (node : LoraPoint2Point) :
    (setAll settings node).Meets losing (fun _ later _ => later = node.withSettings settings)
      () := by
  have kept : (setAll settings node).Meets losing (fun _ _ _ => True) () :=
    Resumption.Meets.undemanding (fun _ _ _ => trivial) () _
  exact (kept.and_ends (setAll_ends node settings)).mono fun _ _ _ => And.right

/-- Every parameter is requested with a value its setter accepts, or has not been
changed since it had its present value. -/
def Settings.Undoable (requested current previous : Settings) : Prop :=
  (requested.spreadingFactor < numSpreadingFactors ∨
      previous.spreadingFactor = current.spreadingFactor) ∧
    (requested.signalBandwidth < numSignalBandwidths ∨
      previous.signalBandwidth = current.signalBandwidth) ∧
    (requested.frequencyChannel < numFrequencyChannels ∨
      previous.frequencyChannel = current.frequencyChannel) ∧
    ((minTxPower ≤ requested.txPower ∧ requested.txPower ≤ maxTxPower) ∨
      previous.txPower = current.txPower)

instance (requested current previous : Settings) :
    Decidable (requested.Undoable current previous) :=
  inferInstanceAs (Decidable (_ ∧ _ ∧ _ ∧ _))

/-- Where the refused parameters keep their previous values, nothing is lost
exactly if those are the current ones. -/
theorem Settings.sift_eq_iff (requested current previous : Settings) :
    requested.sift previous current = current ↔ requested.Undoable current previous := by
  have power : ¬ (maxTxPower < requested.txPower ∨ requested.txPower < minTxPower) ↔
      minTxPower ≤ requested.txPower ∧ requested.txPower ≤ maxTxPower := by
    rw [not_or, Int8.not_lt, Int8.not_lt, and_comm]
  obtain ⟨spreadingFactor, signalBandwidth, frequencyChannel, txPower⟩ := current
  simp only [Settings.sift, Settings.Undoable, Settings.mk.injEq, ite_eq_right_iff, ← power,
    ← Nat.not_le, or_iff_not_imp_left, not_not]

/-- Settings chosen between two valid ones are valid. -/
theorem Settings.sift_valid {refused accepted : Settings} (first : refused.Valid)
    (second : accepted.Valid) (requested : Settings) :
    (requested.sift refused accepted).Valid := by
  have below {value : Prop} [Decidable value] {left right limit : EnumValue}
      (one : left < limit) (other : right < limit) : (if value then left else right) < limit := by
    split
    · exact one
    · exact other
  have power {value : Prop} [Decidable value] :
      minTxPower ≤ (if value then refused.txPower else accepted.txPower) ∧
        (if value then refused.txPower else accepted.txPower) ≤ maxTxPower := by
    split
    · exact first.2.2.2
    · exact second.2.2.2
  exact ⟨below first.1 second.1, below first.2.1 second.2.1, below first.2.2.1 second.2.2.1,
    power⟩

/-! ## The handler of a request -/

/-- Without an acknowledgement the handler ends where each refused parameter has
its previous value. -/
theorem serviceLinkChangeReq_withdraws (srcAddress : UInt8) (settings : Settings)
    {node : LoraPoint2Point} (current : node.current.Valid) (previous : node.previous.Valid) :
    (serviceLinkChangeReq srcAddress settings node).Meets losing
      (fun _ later _ => later.current = settings.sift node.previous node.current) () := by
  let still (_ : Unit) (later : LoraPoint2Point) : Prop := later = node
  let tried (_ : Unit) (later : LoraPoint2Point) : Prop := later = node.withSettings settings
  let ended (_ : Unit) (later : LoraPoint2Point) : Prop :=
    later.current = settings.sift node.previous node.current
  have reads : ReadsAnywhere losing still := fun _ _ _ _ _ same => ⟨trivial, fun _ _ => same⟩
  have entered : Keeps losing still (perform (.enter .serviceLinkChangeReq)) :=
    fun _ _ same => ⟨trivial, fun _ _ => same⟩
  have set : Triple losing still (setAll settings) fun _ => tried := by
    intro _ _ same
    rw [same]
    exact setAll_losing settings node
  have waited : Keeps losing tried (perform (.delay 100)) :=
    fun _ _ same => ⟨trivial, fun _ _ => same⟩
  have sent (payload : List UInt8) : Triple losing tried (sendtoWait payload srcAddress)
      fun acknowleged _ later => acknowleged = false ∧ tried () later := by
    intro _ later same
    refine ⟨trivial, fun acknowleged lost => ⟨?_, same⟩⟩
    exact Bool.not_eq_true' acknowleged ▸ lost
  have withdrawn : Triple losing tried (do setAll (← get).previous) fun _ => ended := by
    apply Triple.get_bind
    rintro known _ later ⟨same, rfl⟩
    apply (setAll_losing later.previous later).mono
    rintro _ final _ rfl
    have moved := node.withSettings_moves settings
    have valid : later.previous.Valid := by
      rw [same, moved.2]
      exact Settings.sift_valid previous current settings
    show (later.withSettings later.previous).current = _
    rw [(later.withSettings_moves later.previous).1, Settings.sift_of_valid valid, same, moved.2]
  have left : Keeps losing ended (perform (.leave .serviceLinkChangeReq)) :=
    fun _ _ reached => ⟨trivial, fun _ _ => reached⟩
  have handled : Triple losing still (serviceLinkChangeReq srcAddress settings)
      fun _ => ended := by
    apply Triple.bind entered
    intro _
    apply Triple.bind _ fun _ => left
    apply Triple.bind (reads.printSettings settings)
    intro _
    apply set.bind
    intro _
    apply Triple.get_bind
    intro known
    apply Triple.pre _ fun _ _ => And.left
    apply Triple.bind waited
    intro _
    apply (sent _).bind
    rintro (_ | _)
    · exact withdrawn.pre fun _ _ => And.right
    · rintro _ _ ⟨acknowleged, _⟩
      cases acknowleged
  exact handled () node rfl

/-! ## Every run -/

/-- If the response to a request is not acknowledged, the node is back at the
settings it had exactly if every parameter can be undone. -/
theorem request_undone_iff (thisAddress : UInt8) (operations : List Operation)
    (before trace : List NodeStep) (node final : LoraPoint2Point) (rxMsg : Message)
    (reached : Resumption.Runs (session operations (LoraPoint2Point.initial thisAddress)) before
      (.done node true))
    (run : Resumption.Runs (serviceLinkChangeReq rxMsg.srcAddr rxMsg.requestedSettings node) trace
      (.done final ()))
    (lost : ∀ step ∈ trace, unacknowledged step) :
    final.current = node.current ↔
      rxMsg.requestedSettings.Undoable node.current node.previous := by
  have inStep := (session_inStep thisAddress operations).runs reached
    (Contract.watching_allows _ before) rfl
  have withdraws := serviceLinkChangeReq_withdraws rxMsg.srcAddr rxMsg.requestedSettings
    inStep.1.current inStep.1.previous
  have ended := withdraws.runs run ((losing_allows trace).2 lost)
  rw [show final.current = _ from ended]
  exact Settings.sift_eq_iff _ _ _

/-- A request for spreading factor 8 and the given power. -/
def powerRequest (txPower : UInt8) : Message :=
  { srcAddr := 9, bufLen := 5, buf := (Data.Buffer.filled maxMessageLen 0).load [3, 1, 2, 0, txPower] }

/-- A node whose power has been set to 10 serves such a request in vain. -/
def vainRequest (txPower : UInt8) : (List NodeStep × NodeRun Bool) × (List NodeStep × NodeRun Unit) :=
  let before := Surroundings.run {} [.setTxPower 10] 1
  (before, Resumption.drive ({ acknowledges := fun _ => false } : Surroundings).answer 0
    (serviceLinkChangeReq (powerRequest txPower).srcAddr (powerRequest txPower).requestedSettings
      before.2.state))

/-- Five dBm are accepted and undone. -/
theorem request_undone_iff_accepted :
    (vainRequest 5).2.2.state.current = (vainRequest 5).1.2.state.current :=
  (request_undone_iff 1 [.setTxPower 10] (vainRequest 5).1.1 (vainRequest 5).2.1 _ _
    (powerRequest 5) (Surroundings.run_runs _ _ _) (Resumption.drive_runs _ _ _) (by decide)).2
      (by decide)

/-- Fifty dBm are refused, and the power goes back to 2 dBm. -/
theorem refused_power_not_undone :
    ¬ ∀ (thisAddress : UInt8) (operations : List Operation) (before trace : List NodeStep)
      (node final : LoraPoint2Point) (rxMsg : Message),
      Resumption.Runs (session operations (LoraPoint2Point.initial thisAddress)) before
        (.done node true) →
      Resumption.Runs (serviceLinkChangeReq rxMsg.srcAddr rxMsg.requestedSettings node) trace
        (.done final ()) →
      (∀ step ∈ trace, unacknowledged step) → final.current = node.current := by
  intro always
  have kept := always 1 [.setTxPower 10] (vainRequest 50).1.1 (vainRequest 50).2.1 _ _
    (powerRequest 50) (Surroundings.run_runs _ _ _) (Resumption.drive_runs _ _ _) (by decide)
  exact absurd kept (by decide)

end Roam.Node
