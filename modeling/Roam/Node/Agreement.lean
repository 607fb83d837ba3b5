import Roam.Node.Commitment

/-!
# Agreeing on the settings

Whatever is lost of one exchange, the nodes end up with the same tuning: either
both are where they started, or both are at the requested settings.  The client is
away from the start only while its timer is armed or the server has been told to
stay, and before that too few packets pass to stop the timer.
-/

namespace Roam.Node

open Roam.Interaction

/-! ## What may go wrong -/

/-- This reading of the clock finds the rollback timer run out. -/
def runsOut : NodeStep → Bool
  | ⟨node, .millis, now⟩ => decide (node.linkChangeTimeoutTimer.Expired now)
  | _ => false

/-- A request is taken in with too little room for it. -/
def truncates : NodeStep → Bool
  | ⟨node, .recvfromAckTimeout _ _, .message payload _ _ _ _⟩ =>
      decide (payload.head? = some MsgType.linkChangeReq.code ∧ node.rxMsg.bufLen < 5)
  | _ => false

/-- Either the response may be acknowledged or the rollback timer of the client may
run out.  No request is truncated, and where nothing is to change, a rollback
changes nothing. -/
def undisturbed (shared : Settings.Tuning) (requested : Settings) (confirming : Bool)
    (_ : Both Link) : Side → NodeStep → Prop
  | .client, step =>
      runsOut step = true →
        confirming = false ∧ (requested.tuning = shared → withdraws shared step = false)
  | .server, step => (confirms step = true → confirming = true) ∧ truncates step = false

/-- What fits is taken in as it was sent. -/
theorem Message.requestedSettings_afterReception {message : Message} {payload : List UInt8}
    {srcAddr destAddr msgId flags : UInt8} (long : payload.length = 5)
    (room : 5 ≤ message.bufLen) :
    (message.afterReception (.message payload srcAddr destAddr msgId flags)).requestedSettings =
      Settings.decode payload := by
  have whole : payload.take message.bufLen.toNat = payload := by
    apply List.take_of_length_le
    rw [long]
    exact UInt8.le_iff_toNat_le.1 room
  have cell (index : Nat) (inside : index < 5) :
      (message.buf.load payload).get index = payload.getD index 0 := by
    apply Data.Buffer.get_load_of_lt
    · rw [long]
      decide
    · rw [long]
      exact inside
  simp only [Message.afterReception, Message.overwrite, whole, Message.requestedSettings,
    Settings.decode, cell 1 (by decide), cell 2 (by decide), cell 3 (by decide),
    cell 4 (by decide)]

theorem Link.take_told {link : Link} {message : Message} {payload : List UInt8}
    {srcAddr destAddr msgId flags : UInt8} (room : message.bufLen ≠ 0) (nonempty : payload ≠ []) :
    (link.take (message.afterReception
      (.message payload srcAddr destAddr msgId flags))).told = true ↔
        link.told = true ∨ payload.head? = some MsgType.linkChangeRsp.code := by
  rw [Message.head_afterReception room nonempty, Option.some_inj]
  exact Bool.or_eq_true_iff.trans (or_congr_right decide_eq_true_iff)

/-- Valid settings are accepted, and the way back leads to where the link was. -/
theorem Link.change_of_valid {settings : Settings} (valid : settings.Valid) (link : Link) :
    (link.change settings).current = settings ∧ (link.change settings).previous = link.current :=
  ⟨Settings.sift_of_valid valid _ _, Settings.sift_of_valid valid _ _⟩

/-! ## Where the nodes are -/

namespace Dialogue

/-- The server is changing its link for a request it has not answered. -/
abbrev Trying (dialogue : Dialogue) : Prop :=
  dialogue.links.server.activity = some .serviceLinkChangeReq ∧
    dialogue.links.server.verdict = none

/-- Where each side is, and how it would come back. -/
structure Agreeing (shared : Settings.Tuning) (requested : Settings) (confirming : Bool)
    (dialogue : Dialogue) : Prop extends Orderly dialogue where
  unasked : dialogue.links.client.asked = false → dialogue.links.client.armed = false ∧
    dialogue.links.client.current.tuning = shared ∧ dialogue.links.client.current.Valid
  placed : dialogue.links.client.current.tuning = shared ∨
    dialogue.links.client.current.tuning = requested.tuning
  away : dialogue.links.client.current.tuning ≠ shared → dialogue.links.client.armed = true ∧
    dialogue.links.client.previous.tuning = shared ∧ dialogue.links.client.previous.Valid
  limited : dialogue.links.client.current.tuning ≠ shared →
    dialogue.links.server.confirmed = false →
      dialogue.links.client.credit ≤ dialogue.links.client.told.toNat
  unarmed : requested.tuning ≠ shared → dialogue.links.client.current.tuning = shared →
    dialogue.links.client.armed = false
  reached : dialogue.links.client.Holds .linkChangeRsp →
    dialogue.links.client.current.tuning = requested.tuning
  talking : ∀ payload, dialogue.heard.client = some payload → Traffic payload →
    dialogue.links.server.confirmed = false → dialogue.links.client.current.tuning = shared
  asking : dialogue.links.server.Holds .linkChangeReq →
    dialogue.links.server.inbox.requestedSettings = requested
  trying : dialogue.Trying → dialogue.links.server.current.tuning = requested.tuning ∧
    dialogue.links.server.previous.tuning = shared ∧ dialogue.links.server.previous.Valid
  staying : dialogue.links.server.confirmed = false → ¬ dialogue.Trying →
    dialogue.links.server.current.tuning = shared ∧ dialogue.links.server.current.Valid
  agreed : dialogue.links.server.confirmed = true → confirming = true ∧
    dialogue.links.server.current.tuning = requested.tuning ∧
      dialogue.links.client.current.tuning = requested.tuning
  settled : dialogue.links.server.activity ≠ some .serviceLinkChangeReq →
    dialogue.links.server.origin.tuning = dialogue.links.server.current.tuning
  unbound : dialogue.links.server.armed = false ∧ ¬ dialogue.links.server.Holds .linkChangeRsp
  busy : dialogue.links.server.activity = some .serviceLinkChangeReq →
    dialogue.links.server.unread = false
  told : dialogue.links.client.told = true → dialogue.links.client.asked = true ∧
    ¬ dialogue.links.server.Holds .linkChangeReq ∧
      (dialogue.Trying → dialogue.Heard .server .linkChangeRsp)
  responded : dialogue.Heard .server .linkChangeRsp → confirming = true →
    dialogue.links.client.current.tuning = requested.tuning

namespace Agreeing

variable {shared : Settings.Tuning} {requested : Settings} {confirming : Bool}
variable {dialogue later : Dialogue}

/-- A server that is idle is not changing its link. -/
theorem not_trying (idle : dialogue.links.server.activity = none) : ¬ dialogue.Trying :=
  fun trying => absurd (idle.symm.trans trying.1) nofun

/-- Whoever sends a response is trying the settings of a request. -/
theorem trying_of_response {payload : List UInt8} {destAddress : UInt8}
    (speaks : dialogue.links.server.Speaks (requesting requested .server) payload destAddress)
    (response : payload.head? = some MsgType.linkChangeRsp.code) : dialogue.Trying := by
  rcases speaks with ⟨traffic, _⟩ | ⟨_, never, _⟩ | ⟨_, fresh, active, _⟩
  · exact absurd response traffic.2.2
  · exact absurd never id
  · exact ⟨active, fresh⟩

/-- What leaves a node that tries the requested settings is its response. -/
theorem response_of_away (agreeing : dialogue.Agreeing shared requested confirming)
    {payload : List UInt8} {destAddress : UInt8}
    (unconfirmed : dialogue.links.server.confirmed = false)
    (away : dialogue.links.server.current.tuning ≠ shared)
    (speaks : dialogue.links.server.Speaks (requesting requested .server) payload destAddress) :
    payload.head? = some MsgType.linkChangeRsp.code ∧ dialogue.Trying := by
  have trying : dialogue.Trying := by
    by_contra resting
    exact away (agreeing.staying unconfirmed resting).1
  rcases speaks with ⟨_, free⟩ | ⟨_, never, _⟩ | ⟨response, _⟩
  · exact absurd trying.1 free
  · exact absurd never id
  · exact ⟨response, trying⟩

/-- The client never responds. -/
theorem client_silent (agreeing : dialogue.Agreeing shared requested confirming)
    {payload : List UInt8} {destAddress : UInt8}
    (speaks : dialogue.links.client.Speaks (requesting requested .client) payload destAddress) :
    payload.head? ≠ some MsgType.linkChangeRsp.code := by
  rcases speaks with ⟨traffic, _⟩ | ⟨_, _, _, rfl, _⟩ | ⟨_, _, active, _⟩
  · exact traffic.2.2
  · show some MsgType.linkChangeReq.code ≠ _
    decide
  · exact absurd active agreeing.unserving

/-- A request that is not truncated asks for what the client has asked for. -/
theorem taken_request {link : Link} {node : LoraPoint2Point} {capacity : UInt8} {timeout : Nat}
    {payload : List UInt8} {srcAddr destAddr msgId flags destAddress : UInt8}
    (unserving : link.activity ≠ some .serviceLinkChangeReq)
    (speaks : link.Speaks (requesting requested .client) payload destAddress)
    (request : payload.head? = some MsgType.linkChangeReq.code)
    (whole : truncates ⟨node, .recvfromAckTimeout capacity timeout,
      Reception.message payload srcAddr destAddr msgId flags⟩ = false) :
    (node.rxMsg.afterReception
      (.message payload srcAddr destAddr msgId flags)).requestedSettings = requested := by
  have room : 5 ≤ node.rxMsg.bufLen := by
    by_contra short
    have less := UInt8.not_le.1 short
    exact absurd ((decide_eq_true ⟨request, less⟩).symm.trans whole) nofun
  rcases speaks with ⟨traffic, _⟩ | ⟨settings, rfl, valid, rfl, _⟩ | ⟨_, _, active, _⟩
  · exact absurd request traffic.2.1
  · rw [Message.requestedSettings_afterReception rfl room, Settings.decode_encode valid]
  · exact absurd active unserving

/-- The server sets out for the requested settings. -/
theorem serves (valid : requested.Valid) (agreeing : dialogue.Agreeing shared requested confirming)
    (idle : dialogue.links.server.activity = none)
    (holds : dialogue.links.server.Holds .linkChangeReq)
    (orderly : Orderly
      (dialogue.step .server (dialogue.links.server.enter .serviceLinkChangeReq))) :
    Agreeing shared requested confirming
      (dialogue.step .server (dialogue.links.server.enter .serviceLinkChangeReq)) := by
  have unconfirmed : dialogue.links.server.confirmed = false :=
    Bool.eq_false_iff.2 fun confirmed => (agreeing.confirmed confirmed).2.1 holds
  obtain ⟨tuned, accepted⟩ := agreeing.staying unconfirmed (not_trying idle)
  have asked := agreeing.asking holds
  obtain ⟨current, previous⟩ := Link.change_of_valid valid dialogue.links.server
  rw [← asked] at current previous
  exact { orderly, agreeing with
    asking := fun unread => absurd unread.1 nofun
    trying := fun _ => ⟨congrArg Settings.tuning (current.trans asked),
      (congrArg Settings.tuning previous).trans tuned,
      (congrArg Settings.Valid previous).mpr accepted⟩
    staying := fun _ resting => absurd ⟨rfl, rfl⟩ resting
    agreed := fun confirmed => absurd (confirmed.symm.trans unconfirmed) nofun
    settled := fun free => absurd rfl free
    unbound := ⟨agreeing.unbound.1, fun unread => absurd unread.1 nofun⟩
    busy := fun _ => rfl
    told := fun told => absurd holds (agreeing.told told).2.1 }

/-- A rollback of the client leads to where both have started. -/
theorem expire_tuning (agreeing : dialogue.Agreeing shared requested confirming)
    {node : LoraPoint2Point} {now : UInt32} (late : node.linkChangeTimeoutTimer.Expired now)
    (armed : dialogue.links.client.armed = true)
    (previous : node.previous = dialogue.links.client.previous)
    (level : requested.tuning = shared → withdraws shared ⟨node, .millis, now⟩ = false) :
    dialogue.links.client.expire.current.tuning = shared := by
  by_cases home : dialogue.links.client.current.tuning = shared
  · have same : requested.tuning = shared := by
      by_contra other
      exact absurd ((agreeing.unarmed other home).symm.trans armed) nofun
    have stays := previous_of_expired late (level same)
    rw [previous] at stays
    exact Settings.sift_tuning home stays
  · obtain ⟨_, tuned, accepted⟩ := agreeing.away home
    obtain ⟨current, _⟩ := Link.change_of_valid accepted dialogue.links.client
    exact (congrArg Settings.tuning current).trans tuned

/-- The client is back, and no response will be acknowledged any more. -/
theorem expires (agreeing : dialogue.Agreeing shared requested confirming)
    (patient : confirming = false) (armed : dialogue.links.client.armed = true)
    (read : dialogue.links.client.Read)
    (back : dialogue.links.client.expire.current.tuning = shared)
    (orderly : Orderly (dialogue.step .client dialogue.links.client.expire)) :
    Agreeing shared requested confirming
      (dialogue.step .client dialogue.links.client.expire) := by
  have asked : ¬ dialogue.links.client.asked = false := fun fresh =>
    absurd ((agreeing.unasked fresh).1.symm.trans armed) nofun
  exact { orderly, agreeing with
    unasked := fun fresh => absurd fresh asked
    placed := .inl back
    away := fun away => absurd back away
    limited := fun away => absurd back away
    unarmed := fun _ _ => rfl
    reached := fun holds => absurd holds read.2
    talking := fun _ _ _ _ => back
    agreed := fun confirmed => absurd ((agreeing.agreed confirmed).1.symm.trans patient) nofun
    responded := fun _ confirming => absurd (confirming.symm.trans patient) nofun }

/-- The client has asked, and has set out if the request was acknowledged. -/
theorem requests (valid : requested.Valid)
    (agreeing : dialogue.Agreeing shared requested confirming)
    (read : dialogue.links.client.Read) (fresh : dialogue.links.client.asked = false)
    (acknowleged : Bool)
    (orderly : Orderly
      (dialogue.sent .client (dialogue.links.client.request requested acknowleged))) :
    Agreeing shared requested confirming
      (dialogue.sent .client (dialogue.links.client.request requested acknowleged)) := by
  obtain ⟨unarmed, tuned, accepted⟩ := agreeing.unasked fresh
  have unconfirmed : ¬ dialogue.links.server.confirmed = true := fun confirmed =>
    absurd ((agreeing.confirmed confirmed).1.symm.trans fresh) nofun
  have untold : ¬ dialogue.links.client.told = true := fun told =>
    absurd ((agreeing.told told).1.symm.trans fresh) nofun
  cases acknowleged with
  | true =>
      obtain ⟨current, previous⟩ := Link.change_of_valid valid dialogue.links.client
      have there := congrArg Settings.tuning current
      exact { orderly, agreeing with
        unasked := nofun
        placed := .inr there
        away := fun _ => ⟨rfl, (congrArg Settings.tuning previous).trans tuned,
          (congrArg Settings.Valid previous).mpr accepted⟩
        limited := fun _ _ => Nat.zero_le _
        unarmed := fun other home => absurd (there.symm.trans home) other
        reached := fun holds => absurd holds read.2
        talking := nofun
        agreed := fun confirmed => absurd confirmed unconfirmed
        told := fun told => absurd told untold
        responded := fun _ _ => there }
  | false =>
      exact { orderly, agreeing with
        unasked := nofun
        talking := nofun
        told := fun told => absurd told untold }

/-- The server stays if its response was acknowledged, and else goes back. -/
theorem responds (agreeing : dialogue.Agreeing shared requested confirming) {acknowleged : Bool}
    (active : dialogue.links.server.activity = some .serviceLinkChangeReq)
    (fresh : dialogue.links.server.verdict = none) (read : dialogue.links.server.Read)
    (reached : acknowleged = true →
      confirming = true ∧ dialogue.links.client.current.tuning = requested.tuning)
    (orderly : Orderly (dialogue.sent .server (dialogue.links.server.respond acknowleged))) :
    Agreeing shared requested confirming
      (dialogue.sent .server (dialogue.links.server.respond acknowleged)) := by
  obtain ⟨there, tuned, accepted⟩ := agreeing.trying ⟨active, fresh⟩
  cases acknowleged with
  | true =>
      obtain ⟨patient, both⟩ := reached rfl
      exact { orderly, agreeing with
        limited := fun _ => nofun
        talking := fun _ _ _ => nofun
        trying := fun trying => absurd trying.2 nofun
        staying := nofun
        agreed := fun _ => ⟨patient, there, both⟩
        settled := fun _ => rfl
        told := fun told => ⟨(agreeing.told told).1, read.1, fun trying => absurd trying.2 nofun⟩
        responded := fun taken => absurd taken (not_heard_of_silent rfl) }
  | false =>
      have unconfirmed : ¬ dialogue.links.server.confirmed = true := fun confirmed =>
        (agreeing.confirmed confirmed).2.2 active fresh
      obtain ⟨back, _⟩ := Link.change_of_valid accepted dialogue.links.server.settle
      exact { orderly, agreeing with
        trying := fun trying => absurd trying.2 nofun
        staying := fun _ _ => ⟨(congrArg Settings.tuning back).trans tuned,
          (congrArg Settings.Valid back).mpr accepted⟩
        agreed := fun confirmed => absurd confirmed unconfirmed
        settled := fun free => absurd active free
        told := fun told => ⟨(agreeing.told told).1, read.1, fun trying => absurd trying.2 nofun⟩
        responded := fun taken => absurd taken (not_heard_of_silent rfl) }

section Takes

variable {node : LoraPoint2Point} {payload : List UInt8}
variable {srcAddr destAddr msgId flags destAddress : UInt8}

/-- The client has taken in a frame; away from the start it is the response. -/
theorem takes_client (agreeing : dialogue.Agreeing shared requested confirming)
    (room : node.rxMsg.bufLen ≠ 0) (silent : dialogue.heard.client = none)
    (unheard : dialogue.heard.of .server = none)
    (tuned : dialogue.links.server.current.tuning = dialogue.links.client.current.tuning)
    (speaks : dialogue.links.server.Speaks (requesting requested .server) payload destAddress)
    (orderly : Orderly (dialogue.took .client (dialogue.links.client.take
      (node.rxMsg.afterReception (.message payload srcAddr destAddr msgId flags))) payload)) :
    Agreeing shared requested confirming (dialogue.took .client (dialogue.links.client.take
      (node.rxMsg.afterReception (.message payload srcAddr destAddr msgId flags))) payload) := by
  have nonempty := speaks.nonempty
  obtain ⟨_, asked⟩ := agreeing.client_takes silent speaks
  have reached (response : payload.head? = some MsgType.linkChangeRsp.code) :
      dialogue.links.client.current.tuning = requested.tuning :=
    tuned.symm.trans (agreeing.trying (trying_of_response speaks response)).1
  have first (told : dialogue.links.client.told = true) : ¬ dialogue.Trying := fun trying =>
    not_heard_of_silent unheard ((agreeing.told told).2.2 trying)
  exact { orderly, agreeing with
    limited := fun away unconfirmed => by
      obtain ⟨response, trying⟩ := agreeing.response_of_away unconfirmed
        (fun home => away (tuned.symm.trans home)) speaks
      have untold := Bool.eq_false_iff.2 fun told => first told trying
      have few := agreeing.limited away unconfirmed
      rw [untold] at few
      apply Nat.le_trans (Nat.succ_le_succ few)
      apply Nat.le_of_eq
      exact (congrArg Bool.toNat ((Link.take_told room nonempty).2 (.inr response))).symm
    reached := fun holds => reached ((Link.take_holds room nonempty _).1 holds)
    told := fun told => by
      rcases (Link.take_told room nonempty).1 told with early | response
      · exact ⟨(agreeing.told early).1, (agreeing.told early).2.1,
          fun trying => absurd trying (first early)⟩
      · have trying := trying_of_response speaks response
        refine ⟨asked response, fun holds => ?_, fun _ => ⟨payload, rfl, response⟩⟩
        exact absurd (holds.1.symm.trans (agreeing.busy trying.1)) nofun
    responded := fun taken _ => by
      obtain ⟨frame, heard, response⟩ := taken
      cases heard
      exact reached response }

/-- The server has taken in a frame; a request is the one the client has made. -/
theorem takes_server (agreeing : dialogue.Agreeing shared requested confirming)
    {capacity : UInt8} {timeout : Nat} (idle : dialogue.links.server.activity = none)
    (room : node.rxMsg.bufLen ≠ 0)
    (whole : truncates ⟨node, .recvfromAckTimeout capacity timeout,
      Reception.message payload srcAddr destAddr msgId flags⟩ = false)
    (tuned : dialogue.links.client.current.tuning = dialogue.links.server.current.tuning)
    (speaks : dialogue.links.client.Speaks (requesting requested .client) payload destAddress)
    (orderly : Orderly (dialogue.took .server (dialogue.links.server.take
      (node.rxMsg.afterReception (.message payload srcAddr destAddr msgId flags))) payload)) :
    Agreeing shared requested confirming (dialogue.took .server (dialogue.links.server.take
      (node.rxMsg.afterReception (.message payload srcAddr destAddr msgId flags))) payload) := by
  have nonempty := speaks.nonempty
  have never := not_trying idle
  exact { orderly, agreeing with
    talking := fun _ _ _ unconfirmed => tuned.trans (agreeing.staying unconfirmed never).1
    asking := fun holds => by
      have request := (Link.take_holds room nonempty _).1 holds
      exact taken_request agreeing.unserving speaks request whole
    trying := fun trying => absurd (idle.symm.trans trying.1) nofun
    staying := fun unconfirmed _ => agreeing.staying unconfirmed never
    unbound := by
      refine ⟨agreeing.unbound.1, fun holds => ?_⟩
      have response := (Link.take_holds room nonempty _).1 holds
      exact agreeing.client_silent speaks response
    busy := fun active => absurd (idle.symm.trans active) nofun
    told := fun told => by
      have asked := (agreeing.told told).1
      refine ⟨asked, fun holds => ?_, fun trying => absurd (idle.symm.trans trying.1) nofun⟩
      have request := (Link.take_holds room nonempty _).1 holds
      exact absurd (asked.symm.trans (agreeing.server_takes speaks request)) nofun }

end Takes

/-- Every move keeps the nodes where they may be. -/
theorem moves (valid : requested.Valid) (agreeing : dialogue.Agreeing shared requested confirming)
    (move : Move (requesting requested) (undisturbed shared requested confirming) dialogue later) :
    later.Agreeing shared requested confirming := by
  have orderly := agreeing.toOrderly.moves move
  cases move with
  | enters side procedure ordinary idle =>
      cases side with
      | client => exact { orderly, agreeing with }
      | server =>
          have other : some procedure ≠ some Procedure.serviceLinkChangeReq := by
            rcases ordinary with rfl | rfl <;> nofun
          exact { orderly, agreeing with
            trying := fun trying => absurd trying.1 other
            staying := fun unconfirmed _ => agreeing.staying unconfirmed (not_trying idle)
            settled := fun _ => agreeing.settled (idle ▸ nofun)
            busy := fun active => absurd active other
            told := fun told => ⟨(agreeing.told told).1, (agreeing.told told).2.1,
              fun trying => absurd trying.1 other⟩ }
  | serves side silent idle holds =>
      cases side with
      | client => exact absurd holds agreeing.deaf
      | server => exact agreeing.serves valid idle holds orderly
  | confirms side idle holds =>
      cases side with
      | client =>
          have there := agreeing.reached holds
          have asked := agreeing.answered holds
          exact { orderly, agreeing with
            unasked := fun fresh => absurd (asked.symm.trans fresh) nofun
            away := fun away => ⟨rfl, (agreeing.away away).2⟩
            unarmed := fun other same => absurd (there.symm.trans same) other
            reached := fun unread => absurd unread.1 nofun }
      | server => exact absurd holds agreeing.unbound.2
  | leaves side procedure active answered =>
      cases side with
      | client => exact { orderly, agreeing with }
      | server =>
          have stays : ¬ dialogue.Trying := by
            rintro ⟨serving, unanswered⟩
            cases active.symm.trans serving
            exact answered rfl unanswered
          exact { orderly, agreeing with
            trying := fun trying => absurd trying.1 nofun
            staying := fun unconfirmed _ => agreeing.staying unconfirmed stays
            settled := fun _ => rfl
            busy := nofun
            told := fun told => ⟨(agreeing.told told).1, (agreeing.told told).2.1,
              fun trying => absurd trying.1 nofun⟩ }
  | expires side node now fit late silent read idle armed previous =>
      cases side with
      | client =>
          obtain ⟨patient, level⟩ := fit (decide_eq_true late)
          have back := agreeing.expire_tuning late armed previous level
          exact agreeing.expires patient armed read back orderly
      | server => exact absurd (agreeing.unbound.1.symm.trans armed) nofun
  | requests side settings acknowleged asked valid read fresh active heard =>
      cases side with
      | client =>
          cases asked
          exact agreeing.requests valid read fresh acknowleged orderly
      | server => exact absurd asked id
  | responds side node payload destAddress acknowleged fit response read fresh active heard =>
      cases side with
      | client => exact absurd active agreeing.unserving
      | server =>
          refine agreeing.responds active fresh read (fun acknowleged => ?_) orderly
          have patient := fit.1 (Bool.and_eq_true_iff.2 ⟨acknowleged, decide_eq_true response⟩)
          exact ⟨patient, agreeing.responded ⟨payload, heard acknowleged, response⟩ patient⟩
  | counts side payload traffic heard =>
      cases side with
      | client =>
          exact { orderly, agreeing with
            limited := fun away unconfirmed =>
              absurd (agreeing.talking payload heard traffic unconfirmed) away
            talking := nofun }
      | server =>
          have other := not_heard_response (traffic_of_heard traffic heard)
          exact { orderly, agreeing with
            told := fun told => ⟨(agreeing.told told).1, (agreeing.told told).2.1,
              fun trying => absurd ((agreeing.told told).2.2 trying) other⟩
            responded := fun taken => absurd taken (not_heard_of_silent rfl) }
  | drops side traffic =>
      cases side with
      | client => exact { orderly, agreeing with talking := nofun }
      | server =>
          have other := not_heard_response traffic
          exact { orderly, agreeing with
            told := fun told => ⟨(agreeing.told told).1, (agreeing.told told).2.1,
              fun trying => absurd ((agreeing.told told).2.2 trying) other⟩
            responded := fun taken => absurd taken (not_heard_of_silent rfl) }
  | takes side node capacity timeout payload srcAddr destAddr msgId flags destAddress fit idle
      settled room silent unheard tuned speaks =>
      cases side with
      | client => exact agreeing.takes_client room silent unheard tuned speaks orderly
      | server => exact agreeing.takes_server idle room fit.2 tuned speaks orderly

/-- Before anything has been said. -/
theorem start {clientNode serverNode : LoraPoint2Point} (requested : Settings) (confirming : Bool)
    (shared : serverNode.current.tuning = clientNode.current.tuning)
    (clientValid : clientNode.current.Valid) (serverValid : serverNode.current.Valid)
    (clientStopped : clientNode.linkChangeTimeoutTimer.started = false)
    (serverStopped : serverNode.linkChangeTimeoutTimer.started = false) :
    Agreeing clientNode.current.tuning requested confirming
      ⟨⟨Link.of clientNode, Link.of serverNode⟩, ⟨none, none⟩⟩ :=
  { Orderly.start clientNode serverNode with
    unasked := fun _ => ⟨clientStopped, rfl, clientValid⟩
    placed := .inl rfl
    away := fun away => absurd rfl away
    limited := fun away => absurd rfl away
    unarmed := fun _ _ => clientStopped
    reached := fun holds => absurd holds.1 nofun
    talking := nofun
    asking := fun holds => absurd holds.1 nofun
    trying := fun trying => absurd trying.1 nofun
    staying := fun _ _ => ⟨shared, serverValid⟩
    agreed := nofun
    settled := fun _ => rfl
    unbound := ⟨serverStopped, fun holds => absurd holds.1 nofun⟩
    busy := nofun
    told := nofun
    responded := fun heard => absurd heard (not_heard_of_silent rfl) }

/-- A client whose timer has been stopped is where the server is. -/
theorem together (agreeing : dialogue.Agreeing shared requested confirming)
    (answered : ¬ dialogue.Trying) {timer : SimpleTimer}
    (timed : dialogue.links.client.Timed timer) (stopped : timer.started = false) :
    dialogue.links.client.current.tuning = dialogue.links.server.current.tuning := by
  cases confirmed : dialogue.links.server.confirmed with
  | true =>
      obtain ⟨_, server, client⟩ := agreeing.agreed confirmed
      exact client.trans server.symm
  | false =>
      have server := (agreeing.staying confirmed answered).1
      by_contra apart
      have away : dialogue.links.client.current.tuning ≠ shared :=
        fun home => apart (home.trans server.symm)
      have few := agreeing.limited away confirmed
      rcases timed.2 (agreeing.away away).1 with running | trusted
      · exact absurd (running.symm.trans stopped) nofun
      · have most := Bool.toNat_le dialogue.links.client.told
        have enough : successfulPacketsBeforeLinkIsTrusted.toNat = 3 := by decide
        omega

end Agreeing

end Dialogue

/-! ## Every run -/

/-- The link change procedure a node is in. -/
def procedureAfter (running : Option Procedure) : NodeStep → Option Procedure
  | ⟨_, .enter .serviceHeartbeatReq, _⟩ => running
  | ⟨_, .enter .serviceHeartbeatRsp, _⟩ => running
  | ⟨_, .enter procedure, _⟩ => some procedure
  | ⟨_, .leave .serviceHeartbeatReq, _⟩ => running
  | ⟨_, .leave .serviceHeartbeatRsp, _⟩ => running
  | ⟨_, .leave _, _⟩ => none
  | _ => running

/-- A heartbeat is no change of the link. -/
theorem foldl_procedureAfter {running : Option Procedure} (steps : List NodeStep)
    (change : running ≠ some .serviceHeartbeatReq ∧ running ≠ some .serviceHeartbeatRsp) :
    steps.foldl procedureAfter running ≠ some .serviceHeartbeatReq ∧
      steps.foldl procedureAfter running ≠ some .serviceHeartbeatRsp := by
  induction steps generalizing running with
  | nil => exact change
  | cons step steps ih =>
      apply ih
      obtain ⟨node, action, answer⟩ := step
      cases action with
      | enter procedure =>
          cases procedure <;> first | exact change | exact ⟨nofun, nofun⟩
      | leave procedure =>
          cases procedure <;> first | exact change | exact ⟨nofun, nofun⟩
      | _ => exact change

namespace Link

theorem activity_observe (link : Link) (step : NodeStep) :
    (link.observe step.state step.action step.answer).activity =
      procedureAfter link.activity step := by
  obtain ⟨node, action, answer⟩ := step
  cases action with
  | enter procedure => cases procedure <;> rfl
  | leave procedure => cases procedure <;> rfl
  | millis =>
      show (if _ then link.expire else link).activity = _
      split <;> rfl
  | sendtoWait payload destAddress =>
      show (if _ then link.request _ answer else if _ then link.respond answer
        else if _ then link.count else link).activity = link.activity
      split
      · cases (answer : Bool) <;> rfl
      · split
        · cases (answer : Bool) <;> rfl
        · split <;> rfl
  | recvfromAckTimeout capacity timeout => cases (answer : Reception) <;> rfl
  | _ => rfl

theorem activity_after {asks : Settings → Prop} (link : Link) (steps : List NodeStep) :
    ((tracking asks).after link steps).activity = steps.foldl procedureAfter link.activity := by
  induction steps generalizing link with
  | nil => rfl
  | cons step steps ih =>
      rw [Contract.after_cons, ih, List.foldl_cons]
      exact congrArg (steps.foldl procedureAfter) (link.activity_observe step)

end Link

/-- Two nodes between calls with the same tuning and no rollback under way. -/
structure OneExchange (clientNode serverNode : LoraPoint2Point) (before after : List Operation)
    (destAddress : UInt8) (requested : Settings) (serverCalls : List Operation) : Prop extends
    OneRequest clientNode serverNode before after destAddress requested serverCalls where
  shared : serverNode.current.tuning = clientNode.current.tuning
  clientValid : clientNode.current.Valid
  serverValid : serverNode.current.Valid
  clientStopped : clientNode.linkChangeTimeoutTimer.started = false
  serverStopped : serverNode.linkChangeTimeoutTimer.started = false

section Runs

variable {clientNode serverNode : LoraPoint2Point} {before after serverCalls : List Operation}
variable {destAddress : UInt8} {requested : Settings} {trace : List NodeEvent} {last : Nodes}

theorem activity_linksAfter (requested : Settings) (clientNode serverNode : LoraPoint2Point)
    (trace : List NodeEvent) (side : Side) :
    ((linksAfter requested ⟨Link.of clientNode, Link.of serverNode⟩ trace).of side).activity =
      (Pair.steps side trace).foldl procedureAfter none := by
  rw [Pair.of_after, Link.activity_after]
  cases side <;> rfl

/-- What may keep the nodes apart although the client has no timer running. -/
inductive Obstacle where
  /-- The client handles the response and holds its timer meanwhile. -/
  | responding
  /-- The rollback of the client is due or under way. -/
  | returning
  /-- The request was truncated. -/
  | truncated
  /-- Nothing was to change, but the timer armed for the response ran out. -/
  | reverted
  deriving DecidableEq

def Obstacle.Arises (clientNode : LoraPoint2Point) (requested : Settings)
    (trace : List NodeEvent) (last : Nodes) : Obstacle → Prop
  | .responding => (Pair.steps .client trace).foldl procedureAfter none = some .serviceLinkChangeRsp
  | .returning =>
      (Pair.steps .client trace).foldl procedureAfter none = some .linkChangeReqTimeout ∨
        last.parties.client.state.linkChangeTimeoutTimer.done = true
  | .truncated => (Pair.steps .server trace).any truncates = true
  | .reverted => requested.tuning = clientNode.current.tuning ∧
      (Pair.steps .client trace).any (withdraws clientNode.current.tuning) = true

instance (obstacle : Obstacle) :
    Decidable (obstacle.Arises clientNode requested trace last) :=
  match obstacle with
  | .responding => inferInstanceAs (Decidable (_ = _))
  | .returning => inferInstanceAs (Decidable (_ ∨ _))
  | .truncated => inferInstanceAs (Decidable (_ = _))
  | .reverted => inferInstanceAs (Decidable (_ ∧ _))

/-- Whatever is lost, the nodes agree as soon as neither is changing its link, unless
the timer of the client runs out although the response is acknowledged. -/
theorem exchange_agrees
    (one : OneExchange clientNode serverNode before after destAddress requested serverCalls)
    (run : Pair.Runs radio
      (Nodes.start clientNode serverNode (before ++ .linkChangeReq destAddress requested :: after)
        serverCalls) trace last)
    (either : ¬ ((Pair.steps .client trace).any runsOut = true ∧
      (Pair.steps .server trace).any confirms = true))
    (clientOut : (Pair.steps .client trace).foldl procedureAfter none ≠ some .linkChangeReq)
    (serverOut : (Pair.steps .server trace).foldl procedureAfter none ≠ some .serviceLinkChangeReq)
    (stopped : last.parties.client.state.linkChangeTimeoutTimer.started = false)
    (clear : ∀ obstacle : Obstacle, ¬ obstacle.Arises clientNode requested trace last) :
    last.parties.client.state.current.tuning = last.parties.server.state.current.tuning ∧
      (last.parties.client.state.current.tuning = clientNode.current.tuning ∨
        last.parties.client.state.current.tuning = requested.tuning) := by
  have linked := one.linked (Dialogue.Agreeing.start requested
    ((Pair.steps .server trace).any confirms) one.shared one.clientValid one.serverValid
    one.clientStopped one.serverStopped)
  have kept := linked.run (fun _ _ => Dialogue.Agreeing.moves one.valid) run ?_
  · obtain ⟨meets, _, agreeing⟩ := kept
    have client := activity_linksAfter requested clientNode serverNode trace .client
    have server := activity_linksAfter requested clientNode serverNode trace .server
    have idle : (Pair.steps .client trace).foldl procedureAfter none = none := by
      have change := @foldl_procedureAfter none (Pair.steps .client trace) ⟨nofun, nofun⟩
      cases running : (Pair.steps .client trace).foldl procedureAfter none with
      | none => rfl
      | some procedure =>
          rw [running] at change clientOut client
          cases procedure with
          | linkChangeReq => exact absurd rfl clientOut
          | linkChangeReqTimeout => exact absurd (.inl running) (clear .returning)
          | serviceLinkChangeReq => exact absurd client agreeing.unserving
          | serviceLinkChangeRsp => exact absurd running (clear .responding)
          | serviceHeartbeatReq => exact absurd rfl change.1
          | serviceHeartbeatRsp => exact absurd rfl change.2
    have calm := Bool.eq_false_iff.2 fun due => clear .returning (.inr due)
    have serverFree := server.trans_ne serverOut
    obtain ⟨clientBetween, clientSettled⟩ := standing (meets .client)
    obtain ⟨origin, timed⟩ := clientSettled (client.trans idle) calm
    have clientTuned := clientBetween.tuning (congrArg Settings.tuning origin) rfl
    have serverTuned := (standing (meets .server)).1.tuning (agreeing.settled serverFree) rfl
    have together := agreeing.together (fun trying => serverFree trying.1) timed stopped
    constructor
    · exact clientTuned.trans (together.trans serverTuned.symm)
    · exact agreeing.placed.imp clientTuned.trans clientTuned.trans
  · rintro early ⟨side, step⟩ late split
    have member : (side, step) ∈ trace := split ▸ List.mem_append_right early List.mem_cons_self
    cases side with
    | client =>
        intro expired
        have expiry := any_steps.2 ⟨step, member, expired⟩
        refine ⟨Bool.eq_false_iff.2 fun confirmed => either ⟨expiry, confirmed⟩, fun same => ?_⟩
        exact Bool.eq_false_iff.2 fun away =>
          clear .reverted ⟨same, any_steps.2 ⟨step, member, away⟩⟩
    | server =>
        refine ⟨fun confirmed => any_steps.2 ⟨step, member, confirmed⟩, ?_⟩
        exact Bool.eq_false_iff.2 fun cut => clear .truncated (any_steps.2 ⟨step, member, cut⟩)

/-- The nodes agree unless one of these obstacles arises. -/
def AgreesUnless (obstacles : List Obstacle) : Prop :=
  ∀ (clientNode serverNode : LoraPoint2Point) (before after serverCalls : List Operation)
    (destAddress : UInt8) (requested : Settings) (trace : List NodeEvent) (last : Nodes),
    OneExchange clientNode serverNode before after destAddress requested serverCalls →
    Pair.Runs radio
      (Nodes.start clientNode serverNode (before ++ .linkChangeReq destAddress requested :: after)
        serverCalls) trace last →
    ¬ ((Pair.steps .client trace).any runsOut = true ∧
      (Pair.steps .server trace).any confirms = true) →
    (Pair.steps .client trace).foldl procedureAfter none ≠ some .linkChangeReq →
    (Pair.steps .server trace).foldl procedureAfter none ≠ some .serviceLinkChangeReq →
    last.parties.client.state.linkChangeTimeoutTimer.started = false →
    (∀ obstacle ∈ obstacles, ¬ obstacle.Arises clientNode requested trace last) →
      last.parties.client.state.current.tuning = last.parties.server.state.current.tuning ∧
        (last.parties.client.state.current.tuning = clientNode.current.tuning ∨
          last.parties.client.state.current.tuning = requested.tuning)

theorem AgreesUnless.mono {few many : List Obstacle} (subset : few ⊆ many)
    (agrees : AgreesUnless few) : AgreesUnless many := by
  intro _ _ _ _ _ _ _ _ _ one run either clientOut serverOut stopped clear
  apply agrees _ _ _ _ _ _ _ _ _ one run either clientOut serverOut stopped
  exact fun obstacle member => clear obstacle (subset member)

/-- The nodes are apart, and none of these obstacles arises. -/
def Apart (obstacles : List Obstacle) (clientNode : LoraPoint2Point) (requested : Settings)
    (trace : List NodeEvent) (last : Nodes) : Prop :=
  ¬ ((Pair.steps .client trace).any runsOut = true ∧
      (Pair.steps .server trace).any confirms = true) ∧
    (Pair.steps .client trace).foldl procedureAfter none ≠ some .linkChangeReq ∧
    (Pair.steps .server trace).foldl procedureAfter none ≠ some .serviceLinkChangeReq ∧
    last.parties.client.state.linkChangeTimeoutTimer.started = false ∧
    (∀ obstacle ∈ obstacles, ¬ obstacle.Arises clientNode requested trace last) ∧
    last.parties.client.state.current.tuning ≠ last.parties.server.state.current.tuning

instance (obstacles : List Obstacle) :
    Decidable (Apart obstacles clientNode requested trace last) :=
  inferInstanceAs (Decidable (_ ∧ _ ∧ _ ∧ _ ∧ _ ∧ _))

theorem not_agreesUnless {obstacles : List Obstacle}
    (one : OneExchange clientNode serverNode before after destAddress requested serverCalls)
    (run : Pair.Runs radio
      (Nodes.start clientNode serverNode (before ++ .linkChangeReq destAddress requested :: after)
        serverCalls) trace last)
    (apart : Apart obstacles clientNode requested trace last) : ¬ AgreesUnless obstacles := by
  intro agrees
  obtain ⟨either, clientOut, serverOut, stopped, clear, differ⟩ := apart
  exact differ (agrees _ _ _ _ _ _ _ _ _ one run either clientOut serverOut stopped clear).1

end Runs

/-! ## Runs in which the nodes stay apart -/

namespace Exchange

/-- A node that has been at spreading factor 1, with this much room for a frame in a
receive buffer that is not empty. -/
def worn (thisAddress room : UInt8) : LoraPoint2Point :=
  { LoraPoint2Point.initial thisAddress with
    previous := ⟨1, 2, 0, 2⟩
    rxMsg := { bufLen := room, buf := .filled maxMessageLen 200 } }

theorem worn_ready {thisAddress room : UInt8} (other : thisAddress ≠ broadcastAddress)
    (nonzero : room ≠ 0) : Ready (worn thisAddress room) :=
  { Ready.initial other with room := nonzero }

theorem worn_one (room : UInt8) (requested : Settings) (after : List Operation)
    (nonzero : room ≠ 0) (valid : requested.Valid) (calls : ∀ call ∈ after, Ordinary false call) :
    OneExchange (worn 1 128) (worn 2 room) [] after 2 requested [.serviceRx] where
  clientReady := worn_ready (by decide) (by decide)
  serverReady := worn_ready (by decide) nonzero
  valid := valid
  addressed := by decide
  clientCalls := calls
  serverCalls := by
    show ∀ call ∈ [Operation.serviceRx], Ordinary false call
    decide
  shared := rfl
  clientValid := Settings.default_valid
  serverValid := Settings.default_valid
  clientStopped := rfl
  serverStopped := rfl

/-- A worn client asks a worn server for a link change and goes on with some calls. -/
def between (weather : Weather) (order : List Side) (room : UInt8) (requested : Settings)
    (after : List Operation) : List NodeEvent × Nodes :=
  weather.run order (Nodes.start (worn 1 128) (worn 2 room)
    ([] ++ .linkChangeReq 2 requested :: after) [.serviceRx])

theorem apart_between {obstacles : List Obstacle} (weather : Weather) (order : List Side)
    (room : UInt8) (requested : Settings) (after : List Operation) (nonzero : room ≠ 0)
    (valid : requested.Valid) (calls : ∀ call ∈ after, Ordinary false call)
    (apart : Apart obstacles (worn 1 128) requested
      (between weather order room requested after).1
      (between weather order room requested after).2) : ¬ AgreesUnless obstacles :=
  not_agreesUnless (worn_one room requested after nonzero valid calls) (weather.run_runs _ _) apart

/-- The server takes the request in at once, and the client ends its call. -/
def opening : List Side :=
  List.replicate 4 .client ++ List.replicate 2 .server ++ List.replicate 18 .client

/-- The server has missed the acknowledgement of its response and is back, while the
client is handling the response. -/
theorem apart_responding : ¬ AgreesUnless [.returning, .truncated, .reverted] := by
  apply apart_between { loses := fun position => position = 57 }
    (opening ++ .client :: List.replicate 31 .server ++ .client :: List.replicate 17 .server ++
      List.replicate 12 .client) 128 ⟨3, 2, 0, 2⟩ [.serviceRx] <;> decide +kernel

/-- The response is lost and the server is back, while the client is about to return. -/
theorem apart_returning : ¬ AgreesUnless [.responding, .truncated, .reverted] := by
  apply apart_between { clock := fun position => if position < 72 then 0 else 3001 }
    (opening ++ List.replicate 48 .server ++ [.client]) 128 ⟨3, 2, 0, 2⟩ [.serviceTimers] <;>
      decide +kernel

/-- The server reads settings it refuses behind the first byte of the request, and goes
back to others than it has left. -/
theorem apart_truncated : ¬ AgreesUnless [.responding, .returning, .reverted] := by
  apply apart_between { loses := fun position => position = 6 }
    (List.replicate 4 .client ++ List.replicate 2 .server ++ List.replicate 2 .client ++
      List.replicate 48 .server) 1 ⟨3, 2, 0, 2⟩ [] <;> decide +kernel

/-- The acknowledgements of the request and of the response are lost; only the power
was to change, and the client returns to older settings. -/
theorem apart_reverted : ¬ AgreesUnless [.responding, .returning, .truncated] := by
  apply apart_between
    { loses := fun position => position = 6 ∨ position = 41
      clock := fun position => if position < 72 then 0 else 24001 }
    (List.replicate 4 .client ++ List.replicate 2 .server ++ List.replicate 3 .client ++
      List.replicate 31 .server ++ .client :: List.replicate 17 .server ++
      List.replicate 60 .client) 128 ⟨0, 2, 0, 5⟩ [.serviceRx, .serviceTimers] <;> decide +kernel

/-- The response is lost, and both sides go back. -/
def withdrawal : List NodeEvent × Nodes :=
  between { clock := fun position => if position < 72 then 0 else 3001 }
    (opening ++ List.replicate 48 .server ++ List.replicate 18 .client) 128 ⟨3, 2, 0, 2⟩
    [.serviceTimers]

end Exchange

/-- None of the obstacles can be left out. -/
theorem exchange_disagrees :
    ¬ AgreesUnless [] ∧ ¬ AgreesUnless [.returning, .truncated, .reverted] ∧
      ¬ AgreesUnless [.responding, .truncated, .reverted] ∧
      ¬ AgreesUnless [.responding, .returning, .reverted] ∧
      ¬ AgreesUnless [.responding, .returning, .truncated] := by
  refine ⟨fun agrees => ?_, Exchange.apart_responding, Exchange.apart_returning,
    Exchange.apart_truncated, Exchange.apart_reverted⟩
  exact Exchange.apart_responding (agrees.mono (List.nil_subset _))

theorem exchange_agrees_withdrawal :
    Exchange.withdrawal.2.parties.client.state.current.tuning =
        Exchange.withdrawal.2.parties.server.state.current.tuning ∧
      (Exchange.withdrawal.2.parties.client.state.current.tuning = ⟨0, 2, 0⟩ ∨
        Exchange.withdrawal.2.parties.client.state.current.tuning = ⟨3, 2, 0⟩) := by
  apply exchange_agrees
    (Exchange.worn_one 128 ⟨3, 2, 0, 2⟩ [.serviceTimers] (by decide) (by decide) (by decide))
    (Weather.run_runs _ _ _)
  · decide +kernel
  · decide +kernel
  · decide +kernel
  · decide +kernel
  · intro obstacle
    cases obstacle <;> decide +kernel

end Roam.Node
