import Roam.Node.Radio
import Roam.Node.Tracking

/-!
# Two links

The abstract counterpart of two nodes on the air: a pair of links that moves by
what the nodes promise when they act and by what the radio lets pass.  What every
move preserves holds along every run of the two nodes.
-/

namespace Roam.Node

open Roam.Interaction

/-- Two links, and for each side the frame that has been taken in. -/
structure Dialogue where
  links : Both Link
  heard : Air

namespace Dialogue

/-- One side has made a step that leaves this link behind. -/
def step (dialogue : Dialogue) (side : Side) (link : Link) : Dialogue :=
  ⟨dialogue.links.put side link, dialogue.heard⟩

/-- A transmission of one side is over. -/
def sent (dialogue : Dialogue) (side : Side) (link : Link) : Dialogue :=
  ⟨dialogue.links.put side link, dialogue.heard.put side none⟩

/-- One side has taken in a frame of the other. -/
def took (dialogue : Dialogue) (side : Side) (link : Link) (payload : List UInt8) : Dialogue :=
  ⟨dialogue.links.put side link, dialogue.heard.put side.peer (some payload)⟩

/-- What a step of two nodes on the air does to their links.  Each side may ask
for the settings named for it; the steps satisfy a condition on the history. -/
inductive Move (asks : Side → Settings → Prop) (fits : Both Link → Side → NodeStep → Prop)
    (dialogue : Dialogue) : Dialogue → Prop where
  | enters (side : Side) (procedure : Procedure)
      (ordinary : procedure = .linkChangeReq ∨ procedure = .linkChangeReqTimeout)
      (idle : (dialogue.links.of side).activity = none) :
      Move asks fits dialogue
        (dialogue.step side { dialogue.links.of side with activity := some procedure })
  | serves (side : Side) (silent : dialogue.heard.of side = none)
      (idle : (dialogue.links.of side).activity = none)
      (holds : (dialogue.links.of side).Holds .linkChangeReq) :
      Move asks fits dialogue
        (dialogue.step side ((dialogue.links.of side).enter .serviceLinkChangeReq))
  | confirms (side : Side) (idle : (dialogue.links.of side).activity = none)
      (holds : (dialogue.links.of side).Holds .linkChangeRsp) :
      Move asks fits dialogue
        (dialogue.step side ((dialogue.links.of side).enter .serviceLinkChangeRsp))
  | leaves (side : Side) (procedure : Procedure)
      (active : (dialogue.links.of side).activity = some procedure)
      (answered : procedure = .serviceLinkChangeReq →
        (dialogue.links.of side).verdict ≠ none) :
      Move asks fits dialogue
        (dialogue.step side { (dialogue.links.of side).settle with activity := none })
  | expires (side : Side) (node : LoraPoint2Point) (now : UInt32)
      (fit : fits dialogue.links side ⟨node, .millis, now⟩)
      (late : node.linkChangeTimeoutTimer.Expired now)
      (silent : dialogue.heard.of side = none)
      (read : (dialogue.links.of side).Read)
      (idle : (dialogue.links.of side).activity = none)
      (armed : (dialogue.links.of side).armed = true)
      (previous : node.previous = (dialogue.links.of side).previous) :
      Move asks fits dialogue (dialogue.step side (dialogue.links.of side).expire)
  | requests (side : Side) (settings : Settings) (acknowleged : Bool)
      (asked : asks side settings) (valid : settings.Valid)
      (read : (dialogue.links.of side).Read)
      (fresh : (dialogue.links.of side).asked = false)
      (active : (dialogue.links.of side).activity = some .linkChangeReq)
      (heard : acknowleged = true → dialogue.heard.of side =
        some (MsgType.linkChangeReq.code :: settings.encode)) :
      Move asks fits dialogue
        (dialogue.sent side ((dialogue.links.of side).request settings acknowleged))
  | responds (side : Side) (node : LoraPoint2Point) (payload : List UInt8) (destAddress : UInt8)
      (acknowleged : Bool)
      (fit : fits dialogue.links side ⟨node, .sendtoWait payload destAddress, acknowleged⟩)
      (response : payload.head? = some MsgType.linkChangeRsp.code)
      (read : (dialogue.links.of side).Read)
      (fresh : (dialogue.links.of side).verdict = none)
      (active : (dialogue.links.of side).activity = some .serviceLinkChangeReq)
      (heard : acknowleged = true → dialogue.heard.of side = some payload) :
      Move asks fits dialogue
        (dialogue.sent side ((dialogue.links.of side).respond acknowleged))
  | counts (side : Side) (payload : List UInt8) (traffic : Traffic payload)
      (heard : dialogue.heard.of side = some payload) :
      Move asks fits dialogue (dialogue.sent side (dialogue.links.of side).count)
  | drops (side : Side)
      (traffic : ∀ payload, dialogue.heard.of side = some payload → Traffic payload) :
      Move asks fits dialogue (dialogue.sent side (dialogue.links.of side))
  | takes (side : Side) (node : LoraPoint2Point) (capacity : UInt8) (timeout : Nat)
      (payload : List UInt8) (srcAddr destAddr msgId flags destAddress : UInt8)
      (fit : fits dialogue.links side ⟨node, .recvfromAckTimeout capacity timeout,
        Reception.message payload srcAddr destAddr msgId flags⟩)
      (idle : (dialogue.links.of side).activity = none)
      (settled : (dialogue.links.of side).origin = (dialogue.links.of side).current)
      (room : node.rxMsg.bufLen ≠ 0)
      (silent : dialogue.heard.of side = none)
      (unheard : dialogue.heard.of side.peer = none)
      (tuned : (dialogue.links.of side.peer).current.tuning =
        (dialogue.links.of side).current.tuning)
      (speaks : (dialogue.links.of side.peer).Speaks (asks side.peer) payload destAddress) :
      Move asks fits dialogue (dialogue.took side ((dialogue.links.of side).take
        (node.rxMsg.afterReception (.message payload srcAddr destAddr msgId flags))) payload)

end Dialogue

/-! ## Nodes move like their links -/

/-- A frame that was taken in belongs to a transmission that is still pending. -/
def Pending (nodes : Nodes) : Prop :=
  ∀ side payload, nodes.air.of side = some payload →
    ∃ node destAddress, (nodes.parties.of side).pending =
      some (node, .sendtoWait payload destAddress)

/-- A message that is carried is the frame of a pending transmission. -/
theorem carried_iff {heard : Option (List UInt8)} {node : LoraPoint2Point}
    {payload : List UInt8} {srcAddr destAddr : UInt8}
    {waiting : Option (LoraPoint2Point × Action)} :
    carried heard node payload srcAddr destAddr waiting = true ↔
      heard = none ∧ ∃ sender, waiting = some (sender, .sendtoWait payload destAddr) ∧
        sender.current.tuning = node.current.tuning ∧ srcAddr = sender.thisAddress ∧
          (destAddr = node.thisAddress ∨ destAddr = broadcastAddress) := by
  constructor
  · intro passes
    unfold carried at passes
    split at passes
    · obtain ⟨unheard, rfl, tuned, source, rfl, addressed⟩ := of_decide_eq_true passes
      exact ⟨unheard, _, rfl, tuned, source, addressed⟩
    · cases passes
  · rintro ⟨unheard, sender, rfl, tuned, source, addressed⟩
    exact decide_eq_true ⟨unheard, rfl, tuned, source, rfl, addressed⟩

theorem Pending.answered {nodes : Nodes} (pending : Pending nodes) {side : Side}
    {node : LoraPoint2Point} {action : Action} {resume : action.Answer → NodeRun Unit}
    (asks : nodes.parties.of side = .ask node action resume) (answer : action.Answer)
    (admitted : radio.admits nodes.air side node action answer
      (nodes.parties.of side.peer).pending) :
    Pending (nodes.answered radio side action answer (resume answer)) := by
  -- what the other side has in the air stays there, unless it is taken in at this step
  have still (quiet : nodes.air.after side action answer = nodes.air.put side none) :
      Pending (nodes.answered radio side action answer (resume answer)) := by
    intro other payload heard
    change (nodes.air.after side action answer).of other = some payload at heard
    rw [quiet] at heard
    rcases Side.eq_or_eq_peer side other with rfl | rfl
    · rw [Both.of_put_self] at heard
      cases heard
    · rw [Both.of_put_peer] at heard
      obtain ⟨sender, destAddress, waits⟩ := pending _ _ heard
      refine ⟨sender, destAddress, ?_⟩
      rw [Pair.answered, Both.of_put_peer]
      exact waits
  cases action with
  | recvfromAckTimeout capacity timeout =>
      cases (answer : Reception) with
      | nothing => exact still rfl
      | filtered payload => exact still rfl
      | message payload srcAddr destAddr msgId flags =>
          intro other frame heard
          change ((nodes.air.put side none).put side.peer (some payload)).of other = some frame
            at heard
          rcases Side.eq_or_eq_peer side other with rfl | rfl
          · rw [Both.of_put_peer_self, Both.of_put_self] at heard
            cases heard
          · rw [Both.of_put_self] at heard
            cases heard
            obtain ⟨_, sender, waits, _⟩ := carried_iff.1 admitted
            refine ⟨sender, destAddr, ?_⟩
            rw [Pair.answered, Both.of_put_peer]
            exact waits
  | _ => exact still rfl

/-! ## Every run -/

/-- A node ends a call where its link says. -/
abbrev Ended (_ : Side) (link : Link) (node : LoraPoint2Point) (_ : Unit) : Prop :=
  ∃ mode unasked, Tracks mode unasked { busy := Stage.unpaused } link node

/-- Wherever a node stands that keeps to its link, it stands between the ends of
its last change. -/
theorem standing {asks : Settings → Prop} {side : Side} {link : Link} {current : NodeRun Unit}
    (meets : current.Meets (tracking asks) (Ended side) link) :
    link.Between current.state ∧ link.Settled current.state := by
  cases current with
  | done node value =>
      obtain ⟨mode, unasked, tracks⟩ := meets
      exact tracks.rests
  | ask node action resume => exact ⟨meets.1.1, meets.1.2.1⟩

theorem Link.Speaks.nonempty {asks : Settings → Prop} {link : Link} {payload : List UInt8}
    {destAddress : UInt8} (speaks : link.Speaks asks payload destAddress) : payload ≠ [] := by
  rcases speaks with ⟨traffic, _⟩ | ⟨settings, _, _, rfl, _⟩ | ⟨response, _⟩
  · exact traffic.1
  · exact nofun
  · rintro rfl
    cases response

/-- A node that is about to send is where its link says, and says who it is. -/
theorem speaks_of_pending {asks : Settings → Prop} {side : Side} {link : Link}
    {current : NodeRun Unit} {node : LoraPoint2Point} {payload : List UInt8}
    {destAddress : UInt8} (meets : current.Meets (tracking asks) (Ended side) link)
    (waits : current.pending = some (node, .sendtoWait payload destAddress)) :
    node.current = link.current ∧ node.thisAddress ≠ broadcastAddress ∧
      link.Speaks asks payload destAddress := by
  cases current with
  | done => cases waits
  | ask state action resume =>
      cases waits
      exact meets.1.2.2.2

/-- What a side has in the air is what it is sending. -/
theorem Pending.sends {nodes : Nodes} (pending : Pending nodes) {side : Side}
    {node : LoraPoint2Point} {action : Action} {resume : action.Answer → NodeRun Unit}
    (acts : nodes.parties.of side = .ask node action resume) {payload : List UInt8}
    (heard : nodes.air.of side = some payload) :
    ∃ destAddress, action = .sendtoWait payload destAddress := by
  obtain ⟨sender, destAddress, waits⟩ := pending side payload heard
  rw [acts] at waits
  cases waits
  exact ⟨destAddress, rfl⟩

/-- A side that does not send has nothing in the air. -/
theorem Pending.silent {nodes : Nodes} (pending : Pending nodes) {side : Side}
    {node : LoraPoint2Point} {action : Action} {resume : action.Answer → NodeRun Unit}
    (acts : nodes.parties.of side = .ask node action resume)
    (mute : ∀ payload destAddress, action ≠ .sendtoWait payload destAddress) :
    nodes.air.of side = none := by
  cases heard : nodes.air.of side with
  | none => rfl
  | some payload =>
      obtain ⟨destAddress, same⟩ := pending.sends acts heard
      exact absurd same (mute payload destAddress)

section Runs

variable {asks : Side → Settings → Prop} {fits : Both Link → Side → NodeStep → Prop}
variable {inv : Dialogue → Prop} {nodes : Nodes} {links : Both Link}

/-- What is kept along a run of two nodes. -/
abbrev Linked (asks : Side → Settings → Prop) (inv : Dialogue → Prop) (nodes : Nodes)
    (links : Both Link) : Prop :=
  Pair.Kept (fun side => tracking (asks side)) Ended
    (fun nodes links => Pending nodes ∧ inv ⟨links, nodes.air⟩) nodes links

/-- The end of a transmission is a move of the links. -/
theorem Linked.transmits (moves : ∀ dialogue later, inv dialogue →
      Dialogue.Move asks fits dialogue later → inv later)
    {side : Side} {node : LoraPoint2Point} {payload : List UInt8} {destAddress : UInt8}
    {resume : Bool → NodeRun Unit} {acknowleged : Bool} (pending : Pending nodes)
    (holds : inv ⟨links, nodes.air⟩)
    (acts : nodes.parties.of side = .ask node (.sendtoWait payload destAddress) resume)
    (admitted : radio.admits nodes.air side node (.sendtoWait payload destAddress) acknowleged
      (nodes.parties.of side.peer).pending)
    (fit : fits links side ⟨node, .sendtoWait payload destAddress, acknowleged⟩)
    (promise : (links.of side).Promise (asks side) node (.sendtoWait payload destAddress)) :
    inv (Dialogue.sent ⟨links, nodes.air⟩ side
      ((links.of side).observe node (.sendtoWait payload destAddress) acknowleged)) := by
  obtain ⟨read, _, _, speaks⟩ := promise
  have heard (received : acknowleged = true) (addressed : destAddress ≠ broadcastAddress) :
      nodes.air.of side = some payload :=
    (of_decide_eq_true admitted received).resolve_left addressed
  rcases speaks with ⟨traffic, free⟩ | ⟨settings, asked, valid, rfl, fresh, active, addressed⟩ |
    ⟨response, fresh, active, addressed⟩
  · rw [Link.observe_traffic traffic]
    split
    · rename_i counts
      exact moves _ _ holds (.counts side payload traffic (heard counts.1 counts.2))
    · apply moves _ _ holds (.drops side _)
      intro frame taken
      obtain ⟨_, same⟩ := pending.sends acts taken
      cases same
      exact traffic
  · rw [Link.observe_request rfl, Settings.decode_encode valid]
    exact moves _ _ holds (.requests side settings acknowleged asked valid read fresh active
      fun received => heard received addressed)
  · rw [Link.observe_response response]
    exact moves _ _ holds (.responds side node payload destAddress acknowleged fit response
      read fresh active fun received => heard received addressed)

/-- The reception of a message is a move of the links. -/
theorem Linked.receives (moves : ∀ dialogue later, inv dialogue →
      Dialogue.Move asks fits dialogue later → inv later)
    {side : Side} {node : LoraPoint2Point} {capacity : UInt8} {timeout : Nat}
    {payload : List UInt8} {srcAddr destAddr msgId flags : UInt8}
    (linked : Linked asks inv nodes links) (silent : nodes.air.of side = none)
    (admitted : radio.admits nodes.air side node (.recvfromAckTimeout capacity timeout)
      (.message payload srcAddr destAddr msgId flags) (nodes.parties.of side.peer).pending)
    (fit : fits links side ⟨node, .recvfromAckTimeout capacity timeout,
      Reception.message payload srcAddr destAddr msgId flags⟩)
    (promise : (links.of side).Promise (asks side) node (.recvfromAckTimeout capacity timeout)) :
    (payload ≠ [] ∧ srcAddr ≠ broadcastAddress) ∧
      inv (Dialogue.took ⟨links, nodes.air⟩ side ((links.of side).take
        (node.rxMsg.afterReception (.message payload srcAddr destAddr msgId flags))) payload) := by
  obtain ⟨meets, pending, holds⟩ := linked
  obtain ⟨read, idle, origin, current, room⟩ := promise
  obtain ⟨unheard, sender, waits, tuned, source, _⟩ := carried_iff.1 admitted
  obtain ⟨sending, address, speaks⟩ := speaks_of_pending (meets side.peer) waits
  rw [sending, current] at tuned
  refine ⟨⟨speaks.nonempty, source ▸ address⟩, ?_⟩
  exact moves _ _ holds (.takes side node capacity timeout payload srcAddr destAddr msgId flags
    destAddr fit idle origin room silent unheard tuned speaks)

/-- A step of the nodes is a move of their links. -/
theorem Linked.goesOn (moves : ∀ dialogue later, inv dialogue →
      Dialogue.Move asks fits dialogue later → inv later)
    {side : Side} {node : LoraPoint2Point} {action : Action}
    {resume : action.Answer → NodeRun Unit} {answer : action.Answer}
    (linked : Linked asks inv nodes links)
    (acts : nodes.parties.of side = .ask node action resume)
    (admitted : radio.admits nodes.air side node action answer
      (nodes.parties.of side.peer).pending)
    (fit : fits links side ⟨node, action, answer⟩) :
    (tracking (asks side)).allow (links.of side) node action answer ∧
      Pending (nodes.answered radio side action answer (resume answer)) ∧
      inv ⟨links.put side ((links.of side).observe node action answer),
        nodes.air.after side action answer⟩ := by
  obtain ⟨meets, pending, holds⟩ := linked
  have own := meets side
  rw [acts] at own
  obtain ⟨⟨between, settled, promise⟩, _⟩ := own
  have later := pending.answered acts answer admitted
  let dialogue : Dialogue := ⟨links, nodes.air⟩
  -- a step that transmits nothing leaves the air as it is
  have stepped (mute : ∀ payload destAddress, action ≠ .sendtoWait payload destAddress)
      {link : Link} (reached : inv (dialogue.step side link)) :
      inv ⟨links.put side link, nodes.air.put side none⟩ := by
    have same := nodes.air.put_eq (pending.silent acts mute)
    rw [same]
    exact reached
  have rest (mute : ∀ payload destAddress, action ≠ .sendtoWait payload destAddress) :
      inv ⟨links.put side (links.of side), nodes.air.put side none⟩ := by
    apply stepped mute
    unfold Dialogue.step
    rw [links.put_eq rfl]
    exact holds
  cases action with
  | enter procedure =>
      refine ⟨trivial, later, ?_⟩
      cases procedure with
      | linkChangeReq =>
          exact stepped nofun (moves dialogue _ holds (.enters side _ (.inl rfl) promise.1))
      | linkChangeReqTimeout =>
          exact stepped nofun (moves dialogue _ holds (.enters side _ (.inr rfl) promise.1))
      | serviceLinkChangeReq =>
          exact stepped nofun (moves dialogue _ holds
            (.serves side (pending.silent acts nofun) promise.1 promise.2))
      | serviceLinkChangeRsp =>
          exact stepped nofun (moves dialogue _ holds (.confirms side promise.1 promise.2))
      | serviceHeartbeatReq => exact rest nofun
      | serviceHeartbeatRsp => exact rest nofun
  | leave procedure =>
      refine ⟨trivial, later, ?_⟩
      cases procedure with
      | linkChangeReq => exact stepped nofun (moves dialogue _ holds (.leaves side _ promise nofun))
      | linkChangeReqTimeout =>
          exact stepped nofun (moves dialogue _ holds (.leaves side _ promise nofun))
      | serviceLinkChangeReq =>
          exact stepped nofun (moves dialogue _ holds
            (.leaves side _ promise.1 fun _ => promise.2))
      | serviceLinkChangeRsp =>
          exact stepped nofun (moves dialogue _ holds (.leaves side _ promise nofun))
      | serviceHeartbeatReq => exact rest nofun
      | serviceHeartbeatRsp => exact rest nofun
  | millis =>
      refine ⟨trivial, later, ?_⟩
      obtain ⟨read, previous, running⟩ := promise
      show inv ⟨links.put side
        (if node.linkChangeTimeoutTimer.Expired answer then (links.of side).expire
          else links.of side), nodes.air.put side none⟩
      split
      · rename_i late
        obtain ⟨idle, armed⟩ := running late.1
        exact stepped nofun (moves dialogue _ holds
          (.expires side node answer fit late (pending.silent acts nofun) read idle armed previous))
      · exact rest nofun
  | sendtoWait payload destAddress =>
      exact ⟨trivial, later, Linked.transmits moves pending holds acts admitted fit promise⟩
  | recvfromAckTimeout capacity timeout =>
      cases (answer : Reception) with
      | nothing => exact ⟨trivial, later, rest nofun⟩
      | filtered payload =>
          have nonempty : payload ≠ [] := of_decide_eq_true admitted
          exact ⟨nonempty, later, rest nofun⟩
      | message payload srcAddr destAddr msgId flags =>
          have silent := pending.silent acts nofun
          obtain ⟨allowed, taken⟩ := Linked.receives moves ⟨meets, pending, holds⟩ silent
            admitted fit promise
          refine ⟨allowed, later, ?_⟩
          show inv ⟨links.put side _, (nodes.air.put side none).put side.peer (some payload)⟩
          rw [nodes.air.put_eq silent]
          exact taken
  | _ => exact ⟨trivial, later, rest nofun⟩

/-- What every move of the links preserves holds along every run of the nodes. -/
theorem Linked.run {last : Nodes} {trace : List NodeEvent}
    (moves : ∀ dialogue later, inv dialogue →
      Dialogue.Move asks fits dialogue later → inv later)
    (linked : Linked asks inv nodes links) (run : Pair.Runs radio nodes trace last)
    (fitting : ∀ before event later, trace = before ++ event :: later →
      fits (Pair.after (fun side => tracking (asks side)) links before) event.1 event.2) :
    Linked asks inv last (Pair.after (fun side => tracking (asks side)) links trace) := by
  apply run.kept _ linked fitting
  intro nodes links side node action resume answer linked acts admitted fit
  exact Linked.goesOn moves linked acts admitted fit

end Runs

end Roam.Node
