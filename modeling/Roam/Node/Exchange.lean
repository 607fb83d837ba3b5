import Roam.Node.Dialogue

/-!
# One request

The client asks for a link change once, and the server never does.  Every move of
the two links keeps the exchange in order: the server serves a request only while
it is pending or behind it, a response belongs to a request that has been
answered, and once its response is acknowledged the server has no request to
serve any more.
-/

namespace Roam.Node

open Roam.Interaction

/-- Only the client asks, and only for the settings named. -/
def requesting (requested : Settings) : Side → Settings → Prop
  | .client, settings => settings = requested
  | .server, _ => False

namespace Dialogue

/-- A frame of the given type has been taken in from this side, which is still
waiting for the acknowledgement. -/
def Heard (dialogue : Dialogue) (side : Side) (type : MsgType) : Prop :=
  ∃ payload, dialogue.heard.of side = some payload ∧ payload.head? = some type.code

theorem not_heard_of_silent {dialogue : Dialogue} {side : Side} {type : MsgType}
    (silent : dialogue.heard.of side = none) : ¬ dialogue.Heard side type := by
  rintro ⟨payload, heard, _⟩
  rw [silent] at heard
  cases heard

section Traffic

variable {dialogue : Dialogue} {side : Side}

theorem traffic_of_heard {payload : List UInt8} (traffic : Traffic payload)
    (heard : dialogue.heard.of side = some payload) :
    ∀ frame, dialogue.heard.of side = some frame → Traffic frame := by
  intro frame taken
  cases heard.symm.trans taken
  exact traffic

theorem not_heard_request
    (traffic : ∀ frame, dialogue.heard.of side = some frame → Traffic frame) :
    ¬ dialogue.Heard side .linkChangeReq := by
  rintro ⟨frame, taken, request⟩
  exact (traffic frame taken).2.1 request

theorem not_heard_response
    (traffic : ∀ frame, dialogue.heard.of side = some frame → Traffic frame) :
    ¬ dialogue.Heard side .linkChangeRsp := by
  rintro ⟨frame, taken, response⟩
  exact (traffic frame taken).2.2 response

end Traffic

/-- How far the exchange is. -/
structure Orderly (dialogue : Dialogue) : Prop where
  deaf : ¬ dialogue.links.client.Holds .linkChangeReq
  unserving : dialogue.links.client.activity ≠ some .serviceLinkChangeReq
  heeded : dialogue.links.client.heeded = true → dialogue.links.client.asked = true
  answered : dialogue.links.client.Holds .linkChangeRsp → dialogue.links.client.asked = true
  granted : dialogue.links.client.granted = true → dialogue.links.client.asked = true
  served : dialogue.links.server.served = true →
    dialogue.links.client.asked = true ∨ dialogue.Heard .client .linkChangeReq
  holds : dialogue.links.server.Holds .linkChangeReq → dialogue.links.server.served = true
  serving : dialogue.links.server.activity = some .serviceLinkChangeReq →
    dialogue.links.server.served = true
  heard : dialogue.Heard .server .linkChangeRsp → dialogue.links.client.asked = true
  confirmed : dialogue.links.server.confirmed = true →
    dialogue.links.client.asked = true ∧ ¬ dialogue.links.server.Holds .linkChangeReq ∧
      (dialogue.links.server.activity = some .serviceLinkChangeReq →
        dialogue.links.server.verdict ≠ none)

end Dialogue

/-- A message that has just been taken in starts like its frame. -/
theorem Message.head_afterReception {message : Message} {payload : List UInt8}
    {srcAddr destAddr msgId flags : UInt8} (room : message.bufLen ≠ 0) (nonempty : payload ≠ []) :
    payload.head? = some ((message.afterReception
      (.message payload srcAddr destAddr msgId flags)).buf.get 0) := by
  have positive : message.bufLen.toNat ≠ 0 := fun zero => room (UInt8.toNat_inj.1 zero)
  obtain ⟨more, count⟩ := Nat.exists_eq_succ_of_ne_zero positive
  obtain ⟨first, rest, rfl⟩ := List.exists_cons_of_ne_nil nonempty
  show some first = some ((message.buf.load _).get 0)
  rw [Data.Buffer.get_load_zero _ _ (by decide), count]
  rfl

theorem Link.take_holds {link : Link} {message : Message} {payload : List UInt8}
    {srcAddr destAddr msgId flags : UInt8} (room : message.bufLen ≠ 0) (nonempty : payload ≠ [])
    (type : MsgType) :
    (link.take (message.afterReception
      (.message payload srcAddr destAddr msgId flags))).Holds type ↔
        payload.head? = some type.code := by
  rw [Message.head_afterReception room nonempty, Option.some_inj]
  exact and_iff_right rfl

namespace Dialogue.Orderly

variable {requested : Settings} {fits : Both Link → Side → NodeStep → Prop}
variable {dialogue later : Dialogue}

/-- A transmission that carries no request is not one the server has heard as a request. -/
theorem asked_of_sent (orderly : dialogue.Orderly)
    (other : ¬ dialogue.Heard .client .linkChangeReq)
    (served : dialogue.links.server.served = true) : dialogue.links.client.asked = true :=
  (orderly.served served).resolve_right other

/-- What the client takes in is no request, and a response only if it has asked. -/
theorem client_takes (orderly : dialogue.Orderly) {payload : List UInt8} {destAddress : UInt8}
    (silent : dialogue.heard.client = none)
    (speaks : dialogue.links.server.Speaks (requesting requested .server) payload destAddress) :
    payload.head? ≠ some MsgType.linkChangeReq.code ∧
      (payload.head? = some MsgType.linkChangeRsp.code → dialogue.links.client.asked = true) := by
  rcases speaks with ⟨traffic, _⟩ | ⟨_, never, _⟩ | ⟨response, _, active, _⟩
  · exact ⟨traffic.2.1, fun response => absurd response traffic.2.2⟩
  · exact absurd never id
  · refine ⟨?_, fun _ => ?_⟩
    · rw [response]
      decide
    · exact orderly.asked_of_sent (not_heard_of_silent silent) (orderly.serving active)

/-- A request that the server takes in is the first one. -/
theorem server_takes (orderly : dialogue.Orderly) {payload : List UInt8} {destAddress : UInt8}
    (speaks : dialogue.links.client.Speaks (requesting requested .client) payload destAddress)
    (request : payload.head? = some MsgType.linkChangeReq.code) :
    dialogue.links.client.asked = false := by
  rcases speaks with ⟨traffic, _⟩ | ⟨_, _, _, _, fresh, _⟩ | ⟨_, _, active, _⟩
  · exact absurd request traffic.2.1
  · exact fresh
  · exact absurd active orderly.unserving

/-- The client has asked; only the acknowledgement decides whether it is granted. -/
theorem requests (orderly : dialogue.Orderly) (settings : Settings) (acknowleged : Bool) :
    Orderly (dialogue.sent .client (dialogue.links.client.request settings acknowleged)) := by
  cases acknowleged <;>
    exact { orderly with
      heeded := fun _ => rfl
      answered := fun _ => rfl
      granted := fun _ => rfl
      served := fun _ => .inl rfl
      heard := fun _ => rfl
      confirmed := fun confirmed => ⟨rfl, (orderly.confirmed confirmed).2⟩ }

/-- The server has responded; an acknowledged response answers a request. -/
theorem responds (orderly : dialogue.Orderly) {acknowleged : Bool}
    (read : dialogue.links.server.Read)
    (heard : acknowleged = true → dialogue.Heard .server .linkChangeRsp) :
    Orderly (dialogue.sent .server (dialogue.links.server.respond acknowleged)) := by
  cases acknowleged with
  | true =>
      have asked := orderly.heard (heard rfl)
      exact { orderly with
        heard := fun _ => asked
        confirmed := fun _ => ⟨asked, read.1, fun _ => nofun⟩ }
  | false =>
      exact { orderly with
        heard := fun taken => absurd taken (not_heard_of_silent rfl)
        confirmed := fun confirmed =>
          ⟨(orderly.confirmed confirmed).1, read.1, fun _ => nofun⟩ }

section Takes

variable {node : LoraPoint2Point} {payload : List UInt8}
variable {srcAddr destAddr msgId flags destAddress : UInt8}

theorem takes_client (orderly : dialogue.Orderly) (room : node.rxMsg.bufLen ≠ 0)
    (silent : dialogue.heard.client = none)
    (speaks : dialogue.links.server.Speaks (requesting requested .server) payload destAddress) :
    Orderly (dialogue.took .client (dialogue.links.client.take
      (node.rxMsg.afterReception (.message payload srcAddr destAddr msgId flags))) payload) := by
  have nonempty := speaks.nonempty
  obtain ⟨noRequest, response⟩ := orderly.client_takes silent speaks
  exact { orderly with
    deaf := fun holds => noRequest ((Link.take_holds room nonempty _).1 holds)
    answered := fun holds => response ((Link.take_holds room nonempty _).1 holds)
    heard := by
      rintro ⟨frame, taken, head⟩
      cases taken
      exact response head }

theorem takes_server (orderly : dialogue.Orderly) (room : node.rxMsg.bufLen ≠ 0)
    (idle : dialogue.links.server.activity = none) (unheard : dialogue.heard.of .client = none)
    (speaks : dialogue.links.client.Speaks (requesting requested .client) payload destAddress) :
    Orderly (dialogue.took .server (dialogue.links.server.take
      (node.rxMsg.afterReception (.message payload srcAddr destAddr msgId flags))) payload) := by
  have nonempty := speaks.nonempty
  have fresh := orderly.server_takes speaks
  have free : dialogue.links.server.activity ≠ some .serviceLinkChangeReq := idle ▸ nofun
  exact { orderly with
    served := fun served => by
      rcases Bool.or_eq_true_iff.1 served with early | now
      · exact .inl (orderly.asked_of_sent (not_heard_of_silent unheard) early)
      · have request : payload.head? = some MsgType.linkChangeReq.code :=
          (Message.head_afterReception room nonempty).trans
            (congrArg some (of_decide_eq_true now))
        exact .inr ⟨payload, rfl, request⟩
    holds := fun unread => by
      apply Bool.or_eq_true_iff.2
      exact .inr (decide_eq_true unread.2)
    serving := fun active => absurd active free
    confirmed := fun confirmed => by
      have asked := (orderly.confirmed confirmed).1
      refine ⟨asked, fun unread => ?_, fun active => absurd active free⟩
      have request := (Link.take_holds room nonempty _).1 unread
      exact absurd (asked.symm.trans (fresh request)) nofun }

end Takes

/-- Every move keeps the exchange in order. -/
theorem moves (orderly : dialogue.Orderly)
    (move : Move (requesting requested) fits dialogue later) : later.Orderly := by
  cases move with
  | enters side procedure ordinary idle =>
      cases side with
      | client =>
          have other : some procedure ≠ some Procedure.serviceLinkChangeReq := by
            rcases ordinary with rfl | rfl <;> nofun
          exact { orderly with unserving := other }
      | server =>
          have other : procedure ≠ Procedure.serviceLinkChangeReq := by
            rcases ordinary with rfl | rfl <;> nofun
          exact { orderly with
            serving := fun active => absurd (Option.some.inj active) other
            confirmed := fun confirmed => by
              obtain ⟨asked, unread, _⟩ := orderly.confirmed confirmed
              exact ⟨asked, unread, fun active => absurd (Option.some.inj active) other⟩ }
  | serves side silent idle holds =>
      cases side with
      | client => exact absurd holds orderly.deaf
      | server =>
          exact { orderly with
            holds := fun unread => absurd unread.1 nofun
            serving := fun _ => orderly.holds holds
            confirmed := fun confirmed => absurd holds (orderly.confirmed confirmed).2.1 }
  | confirms side idle holds =>
      cases side with
      | client =>
          exact { orderly with
            deaf := fun unread => absurd unread.1 nofun
            unserving := nofun
            heeded := fun _ => orderly.answered holds
            answered := fun unread => absurd unread.1 nofun }
      | server =>
          exact { orderly with
            holds := fun unread => absurd unread.1 nofun
            serving := nofun
            confirmed := fun confirmed =>
              ⟨(orderly.confirmed confirmed).1, fun unread => absurd unread.1 nofun, nofun⟩ }
  | leaves side procedure active answered =>
      cases side with
      | client => exact { orderly with unserving := nofun }
      | server =>
          exact { orderly with
            serving := nofun
            confirmed := fun confirmed =>
              ⟨(orderly.confirmed confirmed).1, (orderly.confirmed confirmed).2.1, nofun⟩ }
  | expires side node now fit late silent read idle armed previous =>
      cases side with
      | client => exact { orderly with }
      | server => exact { orderly with }
  | requests side settings acknowleged asked valid read fresh active heard =>
      cases side with
      | client => exact orderly.requests settings acknowleged
      | server => exact absurd asked id
  | responds side node payload destAddress acknowleged fit response read fresh active heard =>
      cases side with
      | client => exact absurd active orderly.unserving
      | server =>
          exact orderly.responds read fun acknowleged => ⟨payload, heard acknowleged, response⟩
  | counts side payload traffic heard =>
      cases side with
      | client =>
          have other := not_heard_request (traffic_of_heard traffic heard)
          exact { orderly with
            served := fun served => .inl (orderly.asked_of_sent other served) }
      | server =>
          exact { orderly with heard := fun taken => absurd taken (not_heard_of_silent rfl) }
  | drops side traffic =>
      cases side with
      | client =>
          have other := not_heard_request traffic
          exact { orderly with
            served := fun served => .inl (orderly.asked_of_sent other served) }
      | server =>
          exact { orderly with heard := fun taken => absurd taken (not_heard_of_silent rfl) }
  | takes side node capacity timeout payload srcAddr destAddr msgId flags destAddress fit idle
      settled room silent unheard tuned speaks =>
      cases side with
      | client => exact orderly.takes_client room silent speaks
      | server => exact orderly.takes_server room idle unheard speaks

/-- Before anything has been said. -/
theorem start (clientNode serverNode : LoraPoint2Point) :
    Orderly ⟨⟨Link.of clientNode, Link.of serverNode⟩, ⟨none, none⟩⟩ where
  deaf holds := absurd holds.1 nofun
  unserving := nofun
  heeded := nofun
  answered holds := absurd holds.1 nofun
  granted := nofun
  served := nofun
  holds holds := absurd holds.1 nofun
  serving := nofun
  heard heard := absurd heard (not_heard_of_silent rfl)
  confirmed := nofun

end Dialogue.Orderly

/-! ## Two nodes with one request -/

/-- A node is ready as soon as it is constructed. -/
theorem Ready.initial {thisAddress : UInt8} (other : thisAddress ≠ broadcastAddress) :
    Ready (LoraPoint2Point.initial thisAddress) where
  clear := rfl
  oneShot := rfl
  room := by
    show (128 : UInt8) ≠ 0
    decide
  draft := by
    constructor
    · show (0 : UInt8) ≠ MsgType.linkChangeReq.code
      decide
    · show (0 : UInt8) ≠ MsgType.linkChangeRsp.code
      decide
  address := other

/-- Two nodes between calls: the client makes ordinary calls and one valid request,
the server makes ordinary calls. -/
structure OneRequest (clientNode serverNode : LoraPoint2Point) (before after : List Operation)
    (destAddress : UInt8) (requested : Settings) (serverCalls : List Operation) : Prop where
  clientReady : Ready clientNode
  serverReady : Ready serverNode
  valid : requested.Valid
  addressed : destAddress ≠ broadcastAddress
  clientCalls : ∀ call ∈ before ++ after, Ordinary clientNode.serialCommandMode call
  serverCalls : ∀ call ∈ serverCalls, Ordinary serverNode.serialCommandMode call

namespace OneRequest

variable {clientNode serverNode : LoraPoint2Point} {before after serverCalls : List Operation}
variable {destAddress : UInt8} {requested : Settings}

/-- The nodes at the start. -/
abbrev nodes (_ : OneRequest clientNode serverNode before after destAddress requested serverCalls) :
    Nodes :=
  Nodes.start clientNode serverNode (before ++ .linkChangeReq destAddress requested :: after)
    serverCalls

/-- The links at the start. -/
abbrev links (_ : OneRequest clientNode serverNode before after destAddress requested serverCalls) :
    Both Link :=
  ⟨Link.of clientNode, Link.of serverNode⟩

theorem linked
    (one : OneRequest clientNode serverNode before after destAddress requested serverCalls)
    {inv : Dialogue → Prop} (holds : inv ⟨one.links, ⟨none, none⟩⟩) :
    Linked (requesting requested) inv one.nodes one.links := by
  refine ⟨fun side => ?_, fun side payload heard => ?_, holds⟩
  · cases side with
    | client => exact one.clientReady.requests rfl one.valid one.addressed one.clientCalls
    | server => exact one.serverReady.serves one.serverCalls
  · cases side with
    | client => cases heard
    | server => cases heard

end OneRequest

end Roam.Node
