import Roam.Node.Exchange

/-!
# Committing to a link change

After a complete exchange both nodes are at the requested settings.  They stay
there as long as no rollback timer runs out with other settings to go back to:
the client arms its timer for the request and once more for the response, and
only trusted packets stop it.
-/

namespace Roam.Node

open Roam.Interaction

/-! ## What a run has come to -/

/-- A request is acknowledged. -/
def grants : NodeStep → Bool
  | ⟨_, .sendtoWait payload _, acknowleged⟩ =>
      acknowleged && decide (payload.head? = some MsgType.linkChangeReq.code)
  | _ => false

/-- A response is acknowledged. -/
def confirms : NodeStep → Bool
  | ⟨_, .sendtoWait payload _, acknowleged⟩ =>
      acknowleged && decide (payload.head? = some MsgType.linkChangeRsp.code)
  | _ => false

/-- A response is handled. -/
def heeds : NodeStep → Bool
  | ⟨_, .enter .serviceLinkChangeRsp, _⟩ => true
  | _ => false

namespace Link

/-- The three marks of an exchange. -/
def marks (link : Link) : Bool × Bool × Bool := (link.granted, link.confirmed, link.heeded)

/-- The marks stay once they are set. -/
abbrev Marked (link later : Link) (step : NodeStep) : Prop :=
  later.marks = (link.granted || grants step, link.confirmed || confirms step,
    link.heeded || heeds step)

theorem marked_of_same {link later : Link} {step : NodeStep} (same : later.marks = link.marks)
    (ungranted : grants step = false) (unconfirmed : confirms step = false)
    (unheeded : heeds step = false) : link.Marked later step := by
  unfold Marked
  rw [same, ungranted, unconfirmed, unheeded, Bool.or_false, Bool.or_false, Bool.or_false]
  rfl

theorem marked_sendtoWait (link : Link) (node : LoraPoint2Point) (payload : List UInt8)
    (destAddress : UInt8) (acknowleged : Bool) :
    link.Marked (link.observe node (.sendtoWait payload destAddress) acknowleged)
      ⟨node, .sendtoWait payload destAddress, acknowleged⟩ := by
  have codes : MsgType.linkChangeReq.code ≠ MsgType.linkChangeRsp.code := by decide
  by_cases request : payload.head? = some MsgType.linkChangeReq.code
  · rw [observe_request request]
    cases acknowleged <;> simp [Marked, grants, confirms, heeds, marks, Link.request, change,
      request, codes]
  by_cases response : payload.head? = some MsgType.linkChangeRsp.code
  · rw [observe_response response]
    cases acknowleged <;>
      simp [Marked, grants, confirms, heeds, marks, respond, settle, change, response, codes.symm]
  · have plain : link.observe node (.sendtoWait payload destAddress) acknowleged =
        if acknowleged = true ∧ destAddress ≠ broadcastAddress then link.count else link :=
      (if_neg request).trans (if_neg response)
    refine marked_of_same ?_ (by simp [grants, request]) (by simp [confirms, response]) rfl
    rw [plain]
    split <;> rfl

theorem marked_observe (link : Link) (step : NodeStep) :
    link.Marked (link.observe step.state step.action step.answer) step := by
  obtain ⟨node, action, answer⟩ := step
  cases action with
  | enter procedure =>
      cases procedure with
      | serviceLinkChangeRsp =>
          show (link.granted, link.confirmed, true) = (_ || false, _ || false, _ || true)
          rw [Bool.or_false, Bool.or_false, Bool.or_true]
      | _ => exact marked_of_same rfl rfl rfl rfl
  | leave procedure => cases procedure <;> exact marked_of_same rfl rfl rfl rfl
  | millis =>
      refine marked_of_same ?_ rfl rfl rfl
      show (if _ then link.expire else link).marks = _
      split <;> rfl
  | sendtoWait payload destAddress => exact link.marked_sendtoWait node payload destAddress answer
  | recvfromAckTimeout capacity timeout =>
      cases (answer : Reception) <;> exact marked_of_same rfl rfl rfl rfl
  | _ => exact marked_of_same rfl rfl rfl rfl

/-- A run has set a mark if the mark was set before or a step of the run sets it. -/
theorem marks_after {asks : Settings → Prop} (link : Link) (steps : List NodeStep) :
    ((tracking asks).after link steps).marks =
      (link.granted || steps.any grants, link.confirmed || steps.any confirms,
        link.heeded || steps.any heeds) := by
  induction steps generalizing link with
  | nil =>
      rw [List.any_nil, List.any_nil, List.any_nil, Bool.or_false, Bool.or_false, Bool.or_false]
      rfl
  | cons step steps ih =>
      have now := link.marked_observe step
      simp only [Marked, marks, Prod.mk.injEq] at now
      rw [Contract.after_cons, ih]
      simp only [List.any_cons, ← Bool.or_assoc, Prod.mk.injEq]
      exact ⟨congrArg (· || _) now.1, congrArg (· || _) now.2.1, congrArg (· || _) now.2.2⟩

end Link

/-! ## What a link keeps -/

/-- This reading of the clock finds the rollback timer run out, and the rollback leads
away from the given tuning. -/
def withdraws (tuning : Settings.Tuning) : NodeStep → Bool
  | ⟨node, .millis, now⟩ =>
      decide (node.linkChangeTimeoutTimer.Expired now ∧ node.previous.tuning ≠ tuning)
  | _ => false

theorem previous_of_expired {tuning : Settings.Tuning} {node : LoraPoint2Point} {now : UInt32}
    (late : node.linkChangeTimeoutTimer.Expired now)
    (stays : withdraws tuning ⟨node, .millis, now⟩ = false) : node.previous.tuning = tuning := by
  by_contra away
  exact absurd stays (Bool.eq_false_iff.not.2 (not_not.2 (decide_eq_true ⟨late, away⟩)))

/-- The mark behind which a side is to stay where it is. -/
def Link.committed (link : Link) : Side → Bool
  | .client => link.granted
  | .server => link.confirmed

/-- Behind its mark no side rolls back to another tuning. -/
def remaining (tuning : Settings.Tuning) (links : Both Link) (side : Side) (step : NodeStep) :
    Prop :=
  (links.of side).committed side = true → withdraws tuning step = false

namespace Dialogue

/-- Each side is at the tuning once it is committed, and before that on its way. -/
structure Committing (tuning : Settings.Tuning) (dialogue : Dialogue) : Prop extends
    Orderly dialogue where
  clientTuned : dialogue.links.client.granted = true →
    dialogue.links.client.current.tuning = tuning
  clientSettled : dialogue.links.client.granted = true →
    dialogue.links.client.origin.tuning = tuning ∨
      (dialogue.links.client.activity = some .linkChangeReq ∧
        dialogue.links.client.heeded = false)
  serverTuned : dialogue.links.server.confirmed = true → dialogue.links.client.granted = true →
    dialogue.links.server.current.tuning = tuning ∧ dialogue.links.server.origin.tuning = tuning
  responding : dialogue.Heard .server .linkChangeRsp → dialogue.links.client.granted = true →
    dialogue.links.server.current.tuning = tuning

namespace Committing

variable {requested : Settings} {dialogue later : Dialogue}

/-- A client that is not in its request any more is done with it. -/
theorem client_settled {tuning : Settings.Tuning} (committing : dialogue.Committing tuning)
    (idle : dialogue.links.client.activity = none)
    (granted : dialogue.links.client.granted = true) :
    dialogue.links.client.origin.tuning = tuning := by
  rcases committing.clientSettled granted with settled | ⟨active, _⟩
  · exact settled
  · exact absurd (idle.symm.trans active) nofun

/-- A rollback between equal tunings leads to the same tuning. -/
theorem expire_tuning {tuning : Settings.Tuning} {link : Link}
    (current : link.current.tuning = tuning) (previous : link.previous.tuning = tuning) :
    link.expire.current.tuning = tuning :=
  Settings.sift_tuning current previous

theorem moves (committing : dialogue.Committing requested.tuning)
    (move : Move (requesting requested) (remaining requested.tuning) dialogue later) :
    later.Committing requested.tuning := by
  have orderly := committing.toOrderly.moves move
  cases move with
  | enters side procedure ordinary idle =>
      cases side with
      | client =>
          exact { orderly, committing with
            clientSettled := fun granted => .inl (committing.client_settled idle granted) }
      | server => exact { orderly, committing with }
  | serves side silent idle holds =>
      cases side with
      | client => exact absurd holds committing.deaf
      | server =>
          exact { orderly, committing with
            serverTuned := fun confirmed => absurd holds (committing.confirmed confirmed).2.1
            responding := fun heard => absurd heard (not_heard_of_silent silent) }
  | confirms side idle holds =>
      cases side with
      | client =>
          exact { orderly, committing with
            clientSettled := fun granted => .inl (committing.client_settled idle granted) }
      | server => exact { orderly, committing with }
  | leaves side procedure active answered =>
      cases side with
      | client =>
          exact { orderly, committing with
            clientSettled := fun granted => .inl (committing.clientTuned granted) }
      | server =>
          exact { orderly, committing with
            serverTuned := fun confirmed granted =>
              ⟨(committing.serverTuned confirmed granted).1,
                (committing.serverTuned confirmed granted).1⟩ }
  | expires side node now fit late silent read idle armed previous =>
      cases side with
      | client =>
          have back (granted : dialogue.links.client.granted = true) :
              dialogue.links.client.previous.tuning = requested.tuning := by
            rw [← show node.previous = dialogue.links.client.previous from previous]
            exact previous_of_expired late (fit granted)
          exact { orderly, committing with
            clientTuned := fun granted =>
              expire_tuning (committing.clientTuned granted) (back granted)
            clientSettled := fun granted => .inl (committing.clientTuned granted) }
      | server =>
          have back (confirmed : dialogue.links.server.confirmed = true) :
              dialogue.links.server.previous.tuning = requested.tuning := by
            rw [← show node.previous = dialogue.links.server.previous from previous]
            exact previous_of_expired late (fit confirmed)
          exact { orderly, committing with
            serverTuned := fun confirmed granted =>
              ⟨expire_tuning (committing.serverTuned confirmed granted).1 (back confirmed),
                (committing.serverTuned confirmed granted).1⟩
            responding := fun heard => absurd heard (not_heard_of_silent silent) }
  | requests side settings acknowleged asked valid read fresh active heard =>
      cases side with
      | client =>
          have unasked : ¬ dialogue.links.client.asked = true := Bool.eq_false_iff.1 fresh
          cases acknowleged with
          | true =>
              cases asked
              have tuned := congrArg Settings.tuning
                (Settings.sift_of_valid valid dialogue.links.client.current requested)
              have unheeded := Bool.eq_false_iff.2 (mt committing.heeded unasked)
              exact { orderly, committing with
                clientTuned := fun _ => tuned
                clientSettled := fun _ => .inr ⟨active, unheeded⟩
                serverTuned := fun confirmed => absurd (committing.confirmed confirmed).1 unasked
                responding := fun taken => absurd (committing.heard taken) unasked }
          | false => exact { orderly, committing with }
      | server => exact absurd asked id
  | responds side node payload destAddress acknowleged fit response read fresh active heard =>
      cases side with
      | client => exact absurd active committing.unserving
      | server =>
          cases acknowleged with
          | true =>
              have tuned := committing.responding ⟨payload, heard rfl, response⟩
              exact { orderly, committing with
                serverTuned := fun _ granted => ⟨tuned granted, tuned granted⟩
                responding := fun _ => tuned }
          | false =>
              exact { orderly, committing with
                serverTuned := fun confirmed =>
                  absurd fresh ((committing.confirmed confirmed).2.2 active)
                responding := fun taken => absurd taken (not_heard_of_silent rfl) }
  | counts side payload traffic heard =>
      cases side with
      | client => exact { orderly, committing with }
      | server =>
          exact { orderly, committing with
            responding := fun heard => absurd heard (not_heard_of_silent rfl) }
  | drops side traffic =>
      cases side with
      | client => exact { orderly, committing with }
      | server =>
          exact { orderly, committing with
            responding := fun heard => absurd heard (not_heard_of_silent rfl) }
  | takes side node capacity timeout payload srcAddr destAddr msgId flags destAddress fit idle
      settled room silent unheard tuned speaks =>
      cases side with
      | client =>
          exact { orderly, committing with
            responding := fun _ granted => tuned.trans (committing.clientTuned granted) }
      | server => exact { orderly, committing with }

theorem start (clientNode serverNode : LoraPoint2Point) (tuning : Settings.Tuning) :
    Committing tuning ⟨⟨Link.of clientNode, Link.of serverNode⟩, ⟨none, none⟩⟩ :=
  { Orderly.start clientNode serverNode with
    clientTuned := nofun
    clientSettled := nofun
    serverTuned := nofun
    responding := fun heard => absurd heard (not_heard_of_silent rfl) }

end Committing

end Dialogue

/-! ## Every run -/

/-- The mark of a side: for the client its acknowledged request, for the server its
acknowledged response. -/
def commits : Side → NodeStep → Bool
  | .client => grants
  | .server => confirms

section Runs

variable {clientNode serverNode : LoraPoint2Point} {before after serverCalls : List Operation}
variable {destAddress : UInt8} {requested : Settings} {trace : List NodeEvent} {last : Nodes}

/-- A node that is between two ends of the same tuning has that tuning. -/
theorem Link.Between.tuning {link : Link} {node : LoraPoint2Point} {tuning : Settings.Tuning}
    (between : link.Between node) (origin : link.origin.tuning = tuning)
    (current : link.current.tuning = tuning) : node.current.tuning = tuning := by
  obtain ⟨spreadingFactor, signalBandwidth, frequencyChannel⟩ := between
  subst origin
  simp only [Settings.tuning, Settings.Tuning.mk.injEq] at current ⊢
  refine ⟨?_, ?_, ?_⟩
  · exact spreadingFactor.elim id fun same => same.trans current.1
  · exact signalBandwidth.elim id fun same => same.trans current.2.1
  · exact frequencyChannel.elim id fun same => same.trans current.2.2

/-- The histories of the links after a run. -/
abbrev linksAfter (requested : Settings) (links : Both Link) (trace : List NodeEvent) : Both Link :=
  Pair.after (fun side => tracking (requesting requested side)) links trace

theorem any_steps {mark : NodeStep → Bool} {side : Side} :
    (Pair.steps side trace).any mark = true ↔
      ∃ step, (side, step) ∈ trace ∧ mark step = true := by
  simp only [List.any_eq_true, Pair.mem_steps]

/-- A link carries a mark exactly if a step of its side sets it. -/
theorem marks_linksAfter (requested : Settings) (clientNode serverNode : LoraPoint2Point)
    (trace : List NodeEvent) (side : Side) :
    ((linksAfter requested ⟨Link.of clientNode, Link.of serverNode⟩ trace).of side).marks =
      ((Pair.steps side trace).any grants, (Pair.steps side trace).any confirms,
        (Pair.steps side trace).any heeds) := by
  rw [Pair.of_after, Link.marks_after]
  cases side <;> rfl

theorem committed_linksAfter (requested : Settings) (clientNode serverNode : LoraPoint2Point)
    (trace : List NodeEvent) (side : Side) :
    ((linksAfter requested ⟨Link.of clientNode, Link.of serverNode⟩ trace).of side).committed side =
      true ↔ ∃ step, (side, step) ∈ trace ∧ commits side step = true := by
  have marks := marks_linksAfter requested clientNode serverNode trace side
  simp only [Link.marks, Prod.mk.injEq] at marks
  rw [← any_steps]
  cases side with
  | client => exact marks.1 ▸ Iff.rfl
  | server => exact marks.2.1 ▸ Iff.rfl

theorem heeded_linksAfter (requested : Settings) (clientNode serverNode : LoraPoint2Point)
    (trace : List NodeEvent) (side : Side) :
    ((linksAfter requested ⟨Link.of clientNode, Link.of serverNode⟩ trace).of side).heeded =
      true ↔ ∃ step, (side, step) ∈ trace ∧ heeds step = true := by
  have marks := marks_linksAfter requested clientNode serverNode trace side
  simp only [Link.marks, Prod.mk.injEq] at marks
  rw [← any_steps]
  exact marks.2.2 ▸ Iff.rfl

/-- Behind a complete exchange both nodes have the requested tuning, as long as no
committed side rolls back to another one. -/
theorem commitment_lasts
    (one : OneRequest clientNode serverNode before after destAddress requested serverCalls)
    (run : Pair.Runs radio
      (Nodes.start clientNode serverNode (before ++ .linkChangeReq destAddress requested :: after)
        serverCalls) trace last)
    (granted : ∃ step, (Side.client, step) ∈ trace ∧ grants step = true)
    (heeded : ∃ step, (Side.client, step) ∈ trace ∧ heeds step = true)
    (confirmed : ∃ step, (Side.server, step) ∈ trace ∧ confirms step = true)
    (harmless : ∀ early side step late, trace = early ++ (side, step) :: late →
      (∃ mark, (side, mark) ∈ early ∧ commits side mark = true) →
        withdraws requested.tuning step = false) (side : Side) :
    (last.parties.of side).state.current.tuning = requested.tuning := by
  have linked := one.linked (Dialogue.Committing.start clientNode serverNode requested.tuning)
  have kept := linked.run (fun _ _ => Dialogue.Committing.moves) run ?_
  · obtain ⟨meets, _, committing⟩ := kept
    have between := (standing (meets side)).1
    have marked := committed_linksAfter requested clientNode serverNode trace
    have clientCommitted := (marked .client).2 granted
    have serverCommitted := (marked .server).2 confirmed
    have clientHeeded := (heeded_linksAfter requested clientNode serverNode _ .client).2 heeded
    cases side with
    | client =>
        apply between.tuning _ (committing.clientTuned clientCommitted)
        refine (committing.clientSettled clientCommitted).resolve_right fun unheeded => ?_
        exact absurd (clientHeeded.symm.trans unheeded.2) nofun
    | server =>
        obtain ⟨current, origin⟩ := committing.serverTuned serverCommitted clientCommitted
        exact between.tuning origin current
  · rintro early ⟨side, step⟩ late split committed
    exact harmless early side step late split
      ((committed_linksAfter requested clientNode serverNode _ side).1 committed)

end Runs

/-! ## One exchange without later traffic -/

namespace Exchange

/-- The request is taken in at once, the response as soon as it is sent; then the
client services its timers. -/
def order : List Side :=
  List.replicate 4 .client ++ List.replicate 2 .server ++ List.replicate 19 .client ++
    List.replicate 31 .server ++ [.client, .server] ++ List.replicate 33 .client

def nodes : Nodes :=
  Nodes.start (LoraPoint2Point.initial 1) (LoraPoint2Point.initial 2)
    ([] ++ .linkChangeReq 2 ⟨1, 2, 0, 2⟩ :: [.serviceRx, .serviceTimers]) [.serviceRx]

/-- The exchange takes no time; the timers are serviced at the given time. -/
def run (now : UInt32) : List NodeEvent × Nodes :=
  ({ clock := fun position => if position < 72 then 0 else now } : Weather).run order nodes

theorem runs (now : UInt32) : Pair.Runs radio nodes (run now).1 (run now).2 :=
  Weather.run_runs _ _ _

theorem one :
    OneRequest (LoraPoint2Point.initial 1) (LoraPoint2Point.initial 2) []
      [.serviceRx, .serviceTimers] 2 ⟨1, 2, 0, 2⟩ [.serviceRx] where
  clientReady := .initial (by decide)
  serverReady := .initial (by decide)
  valid := by decide
  addressed := by decide
  clientCalls := by decide
  serverCalls := by decide

end Exchange

theorem commitment_lasts_at_once :
    (Exchange.run 0).2.parties.client.state.current.tuning = (⟨1, 2, 0, 2⟩ : Settings).tuning ∧
      (Exchange.run 0).2.parties.server.state.current.tuning =
        (⟨1, 2, 0, 2⟩ : Settings).tuning := by
  have lasts := commitment_lasts Exchange.one (Exchange.runs 0) (any_steps.1 (by decide +kernel))
    (any_steps.1 (by decide +kernel)) (any_steps.1 (by decide +kernel)) ?_
  · exact ⟨lasts .client, lasts .server⟩
  · intro early side step late split _
    have harmless : ∀ event ∈ (Exchange.run 0).1, withdraws ⟨1, 2, 0⟩ event.2 = false := by
      decide +kernel
    exact harmless (side, step) (split ▸ List.mem_append_right early List.mem_cons_self)

/-- No transmission fails. -/
def arrives : NodeStep → Bool
  | ⟨_, .sendtoWait _ _, acknowleged⟩ => acknowleged
  | _ => true

/-- Without later traffic the timer armed for the response runs out, and the client
leaves the settings which the server keeps. -/
theorem commitment_withdrawn :
    ¬ ∀ (clientNode serverNode : LoraPoint2Point) (before after serverCalls : List Operation)
      (destAddress : UInt8) (requested : Settings) (trace : List NodeEvent) (last : Nodes),
      clientNode.current.tuning = serverNode.current.tuning →
      OneRequest clientNode serverNode before after destAddress requested serverCalls →
      Pair.Runs radio (Nodes.start clientNode serverNode
        (before ++ .linkChangeReq destAddress requested :: after) serverCalls) trace last →
      (∀ event ∈ trace, arrives event.2 = true) →
      (∃ step, (Side.client, step) ∈ trace ∧ grants step = true) →
      (∃ step, (Side.client, step) ∈ trace ∧ heeds step = true) →
      (∃ step, (Side.server, step) ∈ trace ∧ confirms step = true) →
        ∀ side, (last.parties.of side).state.current.tuning = requested.tuning := by
  intro lasts
  have kept := lasts (LoraPoint2Point.initial 1) (LoraPoint2Point.initial 2) [] _ _ 2 _ _ _ rfl
    Exchange.one (Exchange.runs 24001) (by decide +kernel) (any_steps.1 (by decide +kernel))
    (any_steps.1 (by decide +kernel)) (any_steps.1 (by decide +kernel)) .client
  have left : (Exchange.run 24001).2.parties.client.state.current.tuning = ⟨0, 2, 0⟩ := by
    decide +kernel
  exact absurd (left.symm.trans kept) (by decide)

end Roam.Node
