import ProxyLink.Proofs.Bridge.History

/-!
# Requests are sent as a whole or not at all

Sending a request changes the request, hands out an id and a ticket and registers them before the
link can refuse the frame. Main statement, which comes last: whatever is refused, all of that is
undone but for the id and the ticket that are used up.
-/

namespace ProxyLink

/-- An id that is registered and given up at once has used up a number, and that is all. -/
theorem Pending.Numbered.drop_register {p : Pending} (h : p.Numbered) {id : Int64}
    (hunused : p.contains id = false) :
    (p.register id).2.drop ⟨id, p.nextNumber⟩ =
      ({ p with nextNumber := p.nextNumber + 1 }, [.withdrawn id]) := by
  let t : Ticket := ⟨id, p.nextNumber⟩
  have hwaiting : (p.waiting ++ [t]).filter (· != t) = p.waiting := by
    have hkept : p.waiting.filter (· != t) = p.waiting := by
      apply List.filter_eq_self.mpr
      intro t' ht'
      apply bne_iff_ne.mpr
      rintro rfl
      exact Nat.lt_irrefl _ (h.waiting t ht')
    rw [List.filter_append, hkept, List.filter_cons_of_neg (by simp), List.filter_nil,
      List.append_nil]
  have hsettled : p.settled.filter (·.1 != p.nextNumber) = p.settled := by
    apply List.filter_eq_self.mpr
    intro e he
    exact bne_iff_ne.mpr (Nat.ne_of_lt (h.settled e he))
  have hwaits : t ∈ p.waiting ++ [t] := List.mem_append_right _ (List.mem_singleton_self t)
  rw [register_of_not_contains hunused, Pending.drop, if_pos hwaits]
  simp only [t, hsettled] at hwaiting ⊢
  rw [hwaiting]

namespace Bridge

variable {b : Bridge} {link : Link} {side : Side}

/-- A bridge that differs from `b` at most in the ids and the tickets that it hands out next, and in
the frames that the link refused, which are `dropped` more. -/
def SparedBut (b : Bridge) (dropped : Nat) (b' : Bridge) : Prop :=
  ∃ pending, b.pending.Keeps pending ∧ b' =
    { b with pending, counters := { b.counters with dropped := b.counters.dropped + dropped } }

/-- Why a request is refused: it is none, its id cannot be read, the id that it has or would be
given waits already, or the end that its frame goes to is gone. -/
inductive Refuses (b : Bridge) (link : Link) (side : Side) (request : Message) :
    Failure → Prop where
  | notRequest : request.layer.isRequest = false →
    Refuses b link side request (.notRequest request.type)
  | property {e : PropertyError} : request.requestId = .error e →
    Refuses b link side request (.property e)
  | duplicateId {named : Option Int64} : request.requestId = .ok named →
    b.pending.contains (named.getD b.pending.nextId.1) = true →
    Refuses b link side request (.duplicateId (named.getD b.pending.nextId.1))
  | peerGone : link.queue (link.target side) = none → Refuses b link side request .peerGone

/-- When the end that a request goes to is gone, its registration is given up again. -/
theorem sendUnder_of_queue_none (hnumbered : b.pending.Numbered) {id : Int64}
    (hunused : b.pending.contains id = false) (hgone : link.queue (link.target side) = none)
    (request restored : Message) :
    b.sendUnder link side id request restored = ⟨(.error .peerGone, restored),
      { b with pending := { b.pending with nextNumber := b.pending.nextNumber + 1 } }.countDropped,
      link, [request.traffic .outbound, .sendFailed .peerGone, .withdrawn id]⟩ := by
  have hdrop := hnumbered.drop_register hunused
  rw [Pending.register_of_not_contains hunused] at hdrop
  rw [sendUnder, Pending.register_of_not_contains hunused]
  simp only [sendRegistered, send_of_queue_none hgone, countDropped]
  rw [hdrop]
  rfl

/-- Under an id, a request is sent and waits for its reply, or it is refused and nothing has
changed. -/
theorem sendUnder_cases (hnumbered : b.pending.Numbered) (link : Link) (side : Side) (id : Int64)
    (request restored : Message) :
    (∃ failure events b', (failure = .duplicateId id ∧ b.pending.contains id = true ∨
        failure = .peerGone ∧ link.queue (link.target side) = none) ∧
      b.SparedBut (if failure = .peerGone then 1 else 0) b' ∧
      b.sendUnder link side id request restored =
        ⟨(.error failure, restored), b', link, events⟩) ∨
    (b.pending.contains id = false ∧ ∃ frames, link.queue (link.target side) = some frames ∧
      b.sendUnder link side id request restored =
        ⟨(.ok ⟨id, b.pending.nextNumber⟩, request), b.afterRequest b.pending.lastId id,
          link.setQueue (link.target side) (some (frames ++ [request.frame])),
          [request.traffic .outbound]⟩) := by
  have hkeeps : b.pending.Keeps { b.pending with nextNumber := b.pending.nextNumber + 1 } :=
    ⟨rfl, rfl, Nat.le_succ _⟩
  cases hc : b.pending.contains id with
  | true =>
    exact .inl ⟨_, _, _, .inl ⟨rfl, rfl⟩, ⟨_, hkeeps, rfl⟩, sendUnder_of_contains hc ..⟩
  | false =>
    cases hq : link.queue (link.target side) with
    | none =>
      exact .inl ⟨_, _, _, .inr ⟨rfl, rfl⟩, ⟨_, hkeeps, rfl⟩,
        sendUnder_of_queue_none hnumbered hc hq ..⟩
    | some frames => exact .inr ⟨rfl, frames, rfl, sendUnder_of_not_contains hc hq ..⟩

/-- A request whose id can be read is sent under that id, and one without an id under the next one,
which it is given first. Whatever it is refused for, it is then left as it was. -/
theorem sendRequest_eq_sendUnder (b : Bridge) (link : Link) (side : Side) {request : Message}
    (hlayer : request.layer.isRequest = true) {named : Option Int64}
    (hid : request.requestId = .ok named) :
    let id := named.getD b.pending.nextId.1
    ∃ lastId given, given = { request with bag := given.bag } ∧
      (∀ key, given.bag.text? key = (request.bag.text? key).or
        (if key = Field.requestId.key then some (Decimal.ofInt64 id) else none)) ∧
      given.requestId = .ok (some id) ∧
      b.sendRequest link side request =
        { b with pending := { b.pending with lastId } }.sendUnder link side id given request := by
  rw [sendRequest, if_pos hlayer, hid]
  cases named with
  | some id =>
    exact ⟨b.pending.lastId, request, rfl, Message.text?_or_of_requestId_some hid _, hid, rfl⟩
  | none =>
    let id := b.pending.nextId.1
    refine ⟨id, request.setRequestId (some id), rfl, Message.text?_setRequestId_of_none hid id,
      Message.requestId_setRequestId_some request id, ?_⟩
    simp only
    rw [Message.setRequestId_setRequestId_none hid]
    rfl

/-- After every history of a bridge, a request is either refused or sent. When it is refused, it is
as it was, no registration, outcome or queue has changed, and of the bridge nothing but the ids and
the tickets that are handed out next, and, when the end that the frame goes to is gone, the number
of frames that the link refused. When it is sent, it has kept every text, the one of an id included,
and has gained an id only where it had none; one registration has been added, under the id that its
text reads as, which did not wait before and has no outcome yet; and one frame, that of the request
as it now stands, has been queued and counted. -/
theorem sendRequest_all_or_nothing (registry : Registry) (metrics : Option Metrics) (link : Link)
    (side : Side) (activities : List Activity) (request : Message) :
    let h := (Bridge.new registry metrics).run link side activities
    let step := h.bridge.sendRequest h.link side request
    (∃ failure, step.result = (.error failure, request) ∧ step.link = h.link ∧
      h.bridge.Refuses h.link side request failure ∧
      h.bridge.SparedBut (if failure = .peerGone then 1 else 0) step.bridge) ∨
    ∃ ticket sent lastId frames, step.result = (.ok ticket, sent) ∧
      sent = { request with bag := sent.bag } ∧
      (∀ key, sent.bag.text? key = (request.bag.text? key).or
        (if key = Field.requestId.key then some (Decimal.ofInt64 ticket.id) else none)) ∧
      sent.requestId = .ok (some ticket.id) ∧ h.bridge.pending.contains ticket.id = false ∧
      h.bridge.pending.outcome? ticket = none ∧
      step.bridge = { h.bridge with
        pending := { h.bridge.pending with
          lastId
          nextNumber := h.bridge.pending.nextNumber + 1
          waiting := h.bridge.pending.waiting ++ [ticket] }
        counters := { h.bridge.counters with sent := h.bridge.counters.sent + 1 }
        metrics := h.bridge.metrics.map .countSent } ∧
      h.link.queue (h.link.target side) = some frames ∧
      step.link = h.link.setQueue (h.link.target side) (some (frames ++ [sent.frame])) := by
  intro h step
  have hnumbered : h.bridge.pending.Numbered := numbered_run registry metrics link side activities
  by_cases hlayer : request.layer.isRequest = true
  · cases hid : request.requestId with
    | error e =>
      have hstep : step = ⟨(.error (.property e), request), h.bridge, h.link, []⟩ := by
        simp only [step, sendRequest, hid, if_pos hlayer]
      rw [hstep]
      exact .inl ⟨_, rfl, rfl, .property hid, _, ⟨rfl, rfl, Nat.le_refl _⟩, rfl⟩
    | ok named =>
      obtain ⟨lastId, given, hrest, htext, hgiven, hstep⟩ :=
        h.bridge.sendRequest_eq_sendUnder h.link side hlayer hid
      let fresh : Bridge := { h.bridge with pending := { h.bridge.pending with lastId } }
      have hfresh : fresh.pending.Numbered := ⟨hnumbered.waiting, hnumbered.settled⟩
      rw [show step = _ from hstep]
      obtain ⟨failure, events, b', hwhy, ⟨pending, hkeeps, rfl⟩, hunder⟩ |
        ⟨hunused, frames, hq, hunder⟩ := sendUnder_cases hfresh h.link side _ given request
      · rw [hunder]
        refine .inl ⟨failure, rfl, rfl, ?_, pending,
          ⟨hkeeps.waiting, hkeeps.settled, hkeeps.nextNumber⟩, rfl⟩
        rcases hwhy with ⟨rfl, hc⟩ | ⟨rfl, hgone⟩
        · exact .duplicateId hid hc
        · exact .peerGone hgone
      · rw [hunder]
        exact .inr ⟨_, given, lastId, frames, rfl, hrest, htext, hgiven, hunused,
          hnumbered.outcome?_eq_none _, rfl, hq, rfl⟩
  · have hstep : step = ⟨(.error (.notRequest request.type), request), h.bridge, h.link, []⟩ := by
      simp only [step, sendRequest, if_neg hlayer]
    rw [hstep]
    exact .inl ⟨_, rfl, rfl, .notRequest (eq_false_of_ne_true hlayer), _,
      ⟨rfl, rfl, Nat.le_refl _⟩, rfl⟩

/-- An id with a sign is registered as the number that it reads as, and is left as it is. -/
example :
    let request := (Message.ofStandard .echoRequest).insertText "RequestId" "+7"
    let step := (Bridge.new .standard none).sendRequest .pair .left request
    step.result.2 = request ∧ step.bridge.pending.waiting = [⟨7, 0⟩] := by
  decide +kernel

end Bridge

end ProxyLink
