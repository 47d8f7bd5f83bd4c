import ProxyLink.Proofs.Bridge.History
import ProxyLink.Proofs.Frame.Grammar

/-!
# The records of a bridge agree

A bridge keeps three records of its traffic: its counters, the log, and the metrics if there are
any. `Tallied` says that what they gain is the same, and that it is what can be told from outside.
Main statement, which comes last: after every history of a bridge that is measured from the start,
the three records agree.
-/

namespace ProxyLink

/-! ### Reading the log -/

namespace Event

/-- Whether an event matters so much and has this message. -/
def notes (e : Event) (level : Level) (message : String) : Bool :=
  e.level == level && e.message == message

/-- Whether an event tells of a message that goes in a direction. -/
def goes (e : Event) (direction : Direction) : Bool :=
  e.notes .debug "proxy message" && e.fields.lookup "direction" == some direction.name

/-- Whether an event tells of a message that is handed to the link. -/
def leaves (e : Event) : Bool := e.goes .outbound || e.goes .forward

end Event

/-! ### What a frame turned out to be -/

namespace Inbound

/-- Whether a frame turned out to be a message for the owner of the bridge. -/
def isRequest : Except Failure Inbound → Bool
  | .ok (.request _) => true
  | _ => false

/-- Whether a frame turned out to be a reply that somebody waited for. -/
def isReply : Except Failure Inbound → Bool
  | .ok (.reply _) => true
  | _ => false

/-- Whether a frame turned out to be a reply whose id is missing or cannot be read. -/
def isRefused : Except Failure Inbound → Bool
  | .error (.missingId _) | .error (.property _) => true
  | _ => false

end Inbound

/-! ### What the records gain -/

/-- Metrics have what counters have, and the latency of so many replies. -/
structure Metrics.Shows (m : Metrics) (c : Counters) (replies : Nat) : Prop where
  sent : m.sent = c.sent
  received : m.received = c.received
  orphaned : m.orphaned = c.orphaned
  rejected : m.rejected = c.rejected
  latency : m.latency.count = replies

theorem Metrics.shows_empty : Metrics.empty.Shows ⟨0, 0, 0, 0, 0⟩ 0 where
  sent := rfl
  received := rfl
  orphaned := rfl
  rejected := rfl
  latency := rfl

namespace Bridge

/-- A bridge has metrics, and they have what its counters have. -/
def Measured (b : Bridge) (replies : Nat) : Prop :=
  ∃ m, b.metrics = some m ∧ m.Shows b.counters replies

namespace Measured

variable {b : Bridge} {replies : Nat}

/-- Counters and metrics that are updated alike go on to agree. -/
theorem measure (h : b.Measured replies) {update : Metrics → Metrics} {counters : Counters}
    {replies' : Nat}
    (hupdate : ∀ m : Metrics, m.Shows b.counters replies → (update m).Shows counters replies') :
    ({ b with counters }.measure update).Measured replies' := by
  obtain ⟨m, hm, hshows⟩ := h
  exact ⟨update m, congrArg (Option.map update) hm, hupdate m hshows⟩

theorem countSent (h : b.Measured replies) : b.countSent.Measured replies :=
  h.measure fun _ hm => { hm with sent := congrArg (· + 1) hm.sent }

/-- Frames that the link refuses are not measured. -/
theorem countDropped (h : b.Measured replies) : b.countDropped.Measured replies := by
  obtain ⟨m, hm, hshows⟩ := h
  exact ⟨m, hm, { hshows with }⟩

theorem countReceived (h : b.Measured replies) : b.countReceived.Measured replies :=
  h.measure fun _ hm => { hm with received := congrArg (· + 1) hm.received }

theorem countOrphaned (h : b.Measured replies) : b.countOrphaned.Measured replies :=
  h.measure fun _ hm => { hm with orphaned := congrArg (· + 1) hm.orphaned }

theorem countRejected (h : b.Measured replies) : b.countRejected.Measured replies :=
  h.measure fun _ hm => { hm with rejected := congrArg (· + 1) hm.rejected }

theorem observeLatency (h : b.Measured replies) (elapsed : Duration) :
    (b.measure (·.observeLatency elapsed)).Measured (replies + 1) :=
  h.measure fun _ hm => { hm with latency := congrArg (· + 1) hm.latency }

end Measured

/-- What the records of a bridge gain in a history is the same in each of them, and is what can be
told from outside. -/
structure Tallied (b : Bridge) (h : History) : Prop where
  attempts : h.bridge.counters.sent + h.bridge.counters.dropped =
    b.counters.sent + b.counters.dropped + h.attempts
  leaves : h.events.countP Event.leaves = h.attempts
  dropped : h.bridge.counters.dropped =
    b.counters.dropped + h.events.countP (·.notes .warn "transport send failed")
  handled : h.bridge.counters.received + h.bridge.counters.rejected =
    b.counters.received + b.counters.rejected + h.handled
  received : h.bridge.counters.received =
    b.counters.received + h.events.countP (·.goes .inbound)
  routed : h.events.countP (·.goes .inbound) =
    h.inbound.countP Inbound.isRequest + h.inbound.countP Inbound.isReply +
      h.events.countP (·.notes .warn "orphan reply") + h.inbound.countP Inbound.isRefused
  orphaned : h.bridge.counters.orphaned =
    b.counters.orphaned + h.events.countP (·.notes .warn "orphan reply")
  rejected : h.bridge.counters.rejected =
    b.counters.rejected + h.events.countP (·.notes .warn "rejected inbound frame")
  measured : ∀ replies, b.Measured replies →
    h.bridge.Measured (replies + h.inbound.countP Inbound.isReply)

variable {b : Bridge} {link : Link} {side : Side}

/-- What is gained first and what is gained then is gained together. -/
theorem Tallied.andThen {h h' : History} (first : b.Tallied h) (next : h.bridge.Tallied h') :
    b.Tallied (h.andThen h') := by
  obtain ⟨attempts, leaves, dropped, handled, received, routed, orphaned, rejected, measured⟩ :=
    first
  obtain ⟨attempts', leaves', dropped', handled', received', routed', orphaned', rejected',
    measured'⟩ := next
  constructor <;> simp only [History.andThen, List.countP_append]
  case measured =>
    intro replies hb
    rw [← Nat.add_assoc]
    exact measured' _ (measured replies hb)
  all_goals omega

/-- What the records gain does not depend on the table. -/
theorem Tallied.of_pending {pending : Pending} {h : History}
    (hgain : { b with pending }.Tallied h) : b.Tallied h := { hgain with }

/-! ### What each kind of event adds to the records

What is counted in a log of known events comes by evaluation. Only the records that gain something
are named: the others are those of a history in which nothing happens. -/

theorem tallied_nothing (b : Bridge) (link : Link) : b.Tallied ⟨b, link, 0, 0, [], []⟩ where
  attempts := rfl
  leaves := rfl
  dropped := rfl
  handled := rfl
  received := rfl
  routed := rfl
  orphaned := rfl
  rejected := rfl
  measured _ hb := hb

/-- What happens to the table alone does not concern the records: at most the log tells of a
registration that was withdrawn. -/
theorem tallied_pending (b : Bridge) (pending : Pending) (link : Link) {events : List Event}
    (hevents : events = [] ∨ ∃ id, events = [.withdrawn id]) :
    b.Tallied ⟨{ b with pending }, link, 0, 0, [], events⟩ := by
  rcases hevents with rfl | ⟨id, rfl⟩
  · exact { b.tallied_nothing link with }
  · exact { b.tallied_nothing link with }

theorem tallied_sent (b : Bridge) (link : Link) {direction : Direction}
    (hdirection : direction = .outbound ∨ direction = .forward) (m : Message) :
    b.Tallied ⟨b.countSent, link, 1, 0, [], [m.traffic direction]⟩ := by
  rcases hdirection with rfl | rfl <;>
    exact { b.tallied_nothing link with
      attempts := Nat.add_right_comm ..
      leaves := rfl
      measured := fun _ hb => hb.countSent }

theorem tallied_dropped (b : Bridge) (link : Link) {direction : Direction}
    (hdirection : direction = .outbound ∨ direction = .forward) (m : Message) (failure : Failure) :
    b.Tallied ⟨b.countDropped, link, 1, 0, [], [m.traffic direction, .sendFailed failure]⟩ := by
  rcases hdirection with rfl | rfl <;>
    exact { b.tallied_nothing link with
      attempts := rfl
      leaves := rfl
      dropped := rfl
      measured := fun _ hb => hb.countDropped }

/-- A frame that holds a message for the owner of the bridge. -/
theorem tallied_request (b : Bridge) (link : Link) (m : Message) :
    b.Tallied ⟨b.countReceived, link, 0, 1, [.ok (.request m)], [m.traffic .inbound]⟩ :=
  { b.tallied_nothing link with
    handled := Nat.add_right_comm ..
    received := rfl
    routed := rfl
    measured := fun _ hb => hb.countReceived }

/-- A frame that holds a reply that somebody waited for. -/
theorem tallied_reply (b : Bridge) (link : Link) (pending : Pending) (m : Message) (id : Int64)
    (elapsed : Duration) :
    b.Tallied ⟨{ b.countReceived with pending }.measure (·.observeLatency elapsed), link, 0, 1,
      [.ok (.reply id)], [m.traffic .inbound]⟩ :=
  { b.tallied_request link m with
    routed := rfl
    measured := fun _ hb => hb.countReceived.observeLatency elapsed }

/-- A frame that holds a reply that nobody waited for. -/
theorem tallied_orphan (b : Bridge) (link : Link) (pending : Pending) (m : Message) (id : Int64)
    (type : MessageType) :
    b.Tallied ⟨{ b.countReceived with pending }.countOrphaned, link, 0, 1,
      [.error (.orphan id type)], [m.traffic .inbound, .orphanReply id type]⟩ :=
  { b.tallied_request link m with
    routed := rfl
    orphaned := rfl
    measured := fun _ hb => hb.countReceived.countOrphaned }

/-- A frame that holds a reply without an id that can be read. -/
theorem tallied_refused (b : Bridge) (link : Link) (m : Message) {failure : Failure}
    (hfailure : (∃ type, failure = .missingId type) ∨ ∃ e, failure = .property e) :
    b.Tallied ⟨b.countReceived, link, 0, 1, [.error failure], [m.traffic .inbound]⟩ := by
  rcases hfailure with ⟨type, rfl⟩ | ⟨e, rfl⟩ <;>
    exact { b.tallied_request link m with
      routed := rfl
      measured := fun _ hb => hb.countReceived }

/-- A frame that cannot be decoded. -/
theorem tallied_rejected (b : Bridge) (link : Link) {failure : Failure}
    (hfailure : (∃ type, failure = .unknownType type) ∨ ∃ fault, failure = .malformed fault) :
    b.Tallied ⟨b.countRejected, link, 0, 1, [.error failure], [.rejected failure]⟩ := by
  rcases hfailure with ⟨type, rfl⟩ | ⟨fault, rfl⟩ <;>
    exact { b.tallied_nothing link with
      handled := rfl
      rejected := rfl
      measured := fun _ hb => hb.countRejected }

/-! ### What each operation adds to the records -/

/-- A message that is handed to the link is either sent or dropped. -/
theorem tallied_transmit (b : Bridge) (link : Link) (side : Side) {direction : Direction}
    (hdirection : direction = .outbound ∨ direction = .forward) (m : Message) :
    b.Tallied ((b.transmit link side direction m).history 1) := by
  rw [transmit]
  cases link.send side m.frame with
  | ok link => exact b.tallied_sent link hdirection m
  | error failure => exact b.tallied_dropped link hdirection m failure

theorem tallied_sendRegistered (b : Bridge) (link : Link) (side : Side) (ticket : Ticket)
    (request restored : Message) :
    b.Tallied ((b.sendRegistered link side ticket request restored).history 1) := by
  have hsend := b.tallied_transmit link side (.inl rfl) request
  rw [sendRegistered, send]
  cases (b.transmit link side .outbound request).result with
  | ok _ => exact hsend
  | error failure => exact hsend.andThen (tallied_pending _ _ _ (Pending.events_drop _ ticket))

/-- A request is handed to the link unless its id waits already. -/
theorem tallied_sendUnder (b : Bridge) (link : Link) (side : Side) (id : Int64)
    (request restored : Message) :
    b.Tallied ((b.sendUnder link side id request restored).history
      (if !b.pending.contains id then 1 else 0)) := by
  cases hc : b.pending.contains id with
  | true =>
    rw [sendUnder_of_contains hc]
    exact tallied_pending b _ link (.inl rfl)
  | false =>
    rw [sendUnder, Pending.register_of_not_contains hc]
    exact .of_pending (tallied_sendRegistered { b with pending := _ } link side _ request restored)

/-- A request is handed to the link when it can be registered. -/
theorem tallied_sendRequest (b : Bridge) (link : Link) (side : Side) (request : Message) :
    b.Tallied ((b.sendRequest link side request).history
      (if b.admitsRequest request then 1 else 0)) := by
  have hquiet := b.tallied_nothing link
  rw [sendRequest, admitsRequest]
  cases request.layer.isRequest with
  | false => exact hquiet
  | true =>
    cases request.requestId with
    | error e => exact hquiet
    | ok named =>
      cases named with
      | some id => exact b.tallied_sendUnder link side id request request
      | none =>
        let fresh : Bridge := { b with pending := b.pending.nextId.2 }
        let named := request.setRequestId (some b.pending.nextId.1)
        exact .of_pending (fresh.tallied_sendUnder link side b.pending.nextId.1 named
          (named.setRequestId none))

/-- A reply is handed to the link when it can answer the request. -/
theorem tallied_sendReply (b : Bridge) (link : Link) (side : Side) (request reply : Message) :
    b.Tallied ((b.sendReply link side request reply).history
      (if request.admitsReply reply then 1 else 0)) := by
  have hquiet := b.tallied_nothing link
  rw [sendReply, Message.admitsReply]
  cases request.layer.isRequest with
  | false => exact hquiet
  | true =>
    cases request.requestId with
    | error e =>
      cases reply.layer.isReply <;> exact hquiet
    | ok named =>
      cases named with
      | none => cases reply.layer.isReply <;> exact hquiet
      | some id =>
        cases reply.layer.isReply with
        | false => exact hquiet
        | true => exact b.tallied_transmit link side (.inl rfl) (reply.setRequestId (some id))

/-- A frame is rejected, or received and then routed in one of four ways. -/
theorem tallied_receiveFrame (b : Bridge) (link : Link) (elapsed : Int64 → Duration)
    (frame : List UInt8) :
    b.Tallied (b.perform link .left (.receiveFrame frame elapsed)) := by
  rw [perform, receiveFrame]
  obtain ⟨m, hm⟩ | ⟨type, ht⟩ | ⟨fault, hf⟩ := Frame.decode_outcomes b.registry frame
  · rw [hm]
    simp only [route]
    cases hreply : m.layer.isReply with
    | false => exact b.tallied_request link m
    | true =>
      obtain ⟨id, p', hdeliver⟩ | ⟨id, p', hdeliver⟩ | hdeliver | ⟨e, hdeliver⟩ :=
        b.countReceived.pending.deliver_of_isReply hreply
      · rw [hdeliver]
        exact b.tallied_reply link p' m id (elapsed id)
      · rw [hdeliver]
        exact b.tallied_orphan link p' m id m.type
      · rw [hdeliver]
        exact b.tallied_refused link m (.inl ⟨m.type, rfl⟩)
      · rw [hdeliver]
        exact b.tallied_refused link m (.inr ⟨e, rfl⟩)
  · rw [ht]
    exact b.tallied_rejected link (.inl ⟨type, rfl⟩)
  · rw [hf]
    exact b.tallied_rejected link (.inr ⟨fault, rfl⟩)

/-- Frames add to the records one after the other. -/
theorem tallied_receiveFrames (b : Bridge) (link : Link) (elapsed : Int64 → Duration)
    (frames : List (List UInt8)) :
    let (results, b', events) := b.receiveFrames elapsed frames
    b.Tallied ⟨b', link, 0, frames.length, results, events⟩ := by
  induction frames generalizing b with
  | nil => exact b.tallied_nothing link
  | cons frame frames ih =>
    have hfirst := b.tallied_receiveFrame link elapsed frame
    have hstep : b.receiveFrame elapsed frame = (_, _, _) := rfl
    rw [receiveFrames_cons hstep]
    simp only
    rw [List.length_cons, Nat.add_comm]
    exact hfirst.andThen (ih _)

/-- Whatever happens to a bridge adds the same to each of its records. -/
theorem tallied_perform (b : Bridge) (link : Link) (side : Side) (activity : Activity) :
    b.Tallied (b.perform link side activity) := by
  cases activity with
  | sendRequest request => exact b.tallied_sendRequest link side request
  | sendReply request reply => exact b.tallied_sendReply link side request reply
  | send m => exact b.tallied_transmit link side (.inl rfl) m
  | forward m => exact b.tallied_transmit link side (.inr rfl) m.clone
  | receiveFrame frame elapsed => exact b.tallied_receiveFrame link elapsed frame
  | poll elapsed => exact b.tallied_receiveFrames _ elapsed (link.receiveAll side).1
  | shutdown => exact b.tallied_pending _ link (.inl rfl)
  | useTable op => exact b.tallied_pending _ link (b.pending.events_after op)
  | relink link => exact b.tallied_nothing link

/-- Every history adds the same to each of the records of a bridge. -/
theorem tallied_run (b : Bridge) (link : Link) (side : Side) (activities : List Activity) :
    b.Tallied (b.run link side activities) := by
  induction activities generalizing b link with
  | nil => exact b.tallied_nothing link
  | cons activity activities ih =>
    exact (b.tallied_perform link side activity).andThen (ih _ _)

/-- After every history of a bridge whose metrics are reported from the start, its records agree.
Each message that was handed to the link was sent or dropped, and is in the log as outbound or
forwarded; each frame that was handled was received or rejected. What was received is in the log as
inbound, and was a request, a reply that somebody waited for, a reply that nobody waited for, or a
reply without an id that can be read. What was dropped, rejected or orphaned is in the log as a
warning. The metrics have the numbers that the counters have, and the latency of each reply that
somebody waited for. -/
theorem records_agree (registry : Registry) (link : Link) (side : Side)
    (activities : List Activity) :
    let h := (Bridge.new registry (some .empty)).run link side activities
    let c := h.bridge.counters
    c.sent + c.dropped = h.attempts ∧
    h.events.countP (fun e => e.goes .outbound || e.goes .forward) = h.attempts ∧
    c.received + c.rejected = h.handled ∧
    c.received = h.events.countP (·.goes .inbound) ∧
    c.received = h.inbound.countP Inbound.isRequest + h.inbound.countP Inbound.isReply +
      c.orphaned + h.inbound.countP Inbound.isRefused ∧
    c.rejected = h.events.countP (·.notes .warn "rejected inbound frame") ∧
    c.orphaned = h.events.countP (·.notes .warn "orphan reply") ∧
    c.dropped = h.events.countP (·.notes .warn "transport send failed") ∧
    ∃ m, h.bridge.metrics = some m ∧ m.sent = c.sent ∧ m.received = c.received ∧
      m.orphaned = c.orphaned ∧ m.rejected = c.rejected ∧
      m.latency.count = h.inbound.countP Inbound.isReply := by
  intro h c
  have hgain : (Bridge.new registry (some .empty)).Tallied h := tallied_run _ link side activities
  obtain ⟨m, hm, hshows⟩ := hgain.measured 0 ⟨.empty, rfl, Metrics.shows_empty⟩
  have horphaned : c.orphaned = h.events.countP (·.notes .warn "orphan reply") :=
    hgain.orphaned.trans (Nat.zero_add _)
  have hreceived : c.received = h.events.countP (·.goes .inbound) :=
    hgain.received.trans (Nat.zero_add _)
  refine ⟨hgain.attempts.trans (Nat.zero_add _), hgain.leaves,
    hgain.handled.trans (Nat.zero_add _), hreceived, ?_, hgain.rejected.trans (Nat.zero_add _),
    horphaned, hgain.dropped.trans (Nat.zero_add _), m, hm, hshows.sent, hshows.received,
    hshows.orphaned, hshows.rejected, hshows.latency.trans (Nat.zero_add _)⟩
  rw [hreceived, hgain.routed, horphaned]

end Bridge

end ProxyLink
