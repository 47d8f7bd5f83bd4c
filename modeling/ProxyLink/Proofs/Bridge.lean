import ProxyLink.Bridge
import ProxyLink.Proofs.Link
import ProxyLink.Proofs.Message
import ProxyLink.Proofs.Pending

/-!
# What a bridge does in one step

Each operation over a link whose other end is not gone is described as a whole: its result, and the
bridge and the link after it.
-/

namespace ProxyLink.Bridge

variable {b : Bridge} {link : Link} {s : Side} {frames : List (List UInt8)}

/-- Every frame could be decoded, and somebody waited for every reply. -/
def Quiet (b : Bridge) : Prop := b.counters.rejected = 0 ∧ b.counters.orphaned = 0

/-! ### Sending -/

/-- A message is sent when the end that it goes to is not gone. -/
theorem send_of_queue (hlive : link.queue (link.target s) = some frames) (m : Message) :
    b.send link s m = ⟨.ok (), b.countSent,
      link.setQueue (link.target s) (some (frames ++ [m.frame])), [m.traffic .outbound]⟩ := by
  rw [send, transmit, Link.send_of_queue hlive]

/-- A copy of a message is sent on when the end that it goes to is not gone. -/
theorem forward_of_queue (hlive : link.queue (link.target s) = some frames) (m : Message) :
    b.forward link s m = ⟨.ok (), b.countSent,
      link.setQueue (link.target s) (some (frames ++ [m.clone.frame])),
      [m.clone.traffic .forward]⟩ := by
  rw [forward, transmit, Link.send_of_queue hlive]

/-- A message is refused when the end that it goes to is gone. -/
theorem send_of_queue_none (hgone : link.queue (link.target s) = none) (m : Message) :
    b.send link s m = ⟨.error .peerGone, b.countDropped, link,
      [m.traffic .outbound, .sendFailed .peerGone]⟩ := by
  rw [send, transmit, Link.send_of_queue_none hgone]

/-- The bridge after it has sent a request under an id. -/
def afterRequest (b : Bridge) (lastId id : Int64) : Bridge :=
  let ticket : Ticket := ⟨id, b.pending.nextNumber⟩
  let pending : Pending :=
    ⟨lastId, b.pending.nextNumber + 1, b.pending.waiting ++ [ticket], b.pending.settled⟩
  { b with pending }.countSent

/-- Nothing is sent under an id that waits already. -/
theorem sendUnder_of_contains {id : Int64} (h : b.pending.contains id = true)
    (request restored : Message) :
    b.sendUnder link s id request restored = ⟨(.error (.duplicateId id), restored),
      { b with pending := { b.pending with nextNumber := b.pending.nextNumber + 1 } }, link,
      []⟩ := by
  rw [sendUnder, Pending.register_of_contains h]

/-- A message is sent under an id that does not wait, and then waits under it. -/
theorem sendUnder_of_not_contains {id : Int64} (h : b.pending.contains id = false)
    (hlive : link.queue (link.target s) = some frames) (request restored : Message) :
    b.sendUnder link s id request restored =
      ⟨(.ok ⟨id, b.pending.nextNumber⟩, request), b.afterRequest b.pending.lastId id,
        link.setQueue (link.target s) (some (frames ++ [request.frame])),
        [request.traffic .outbound]⟩ := by
  rw [sendUnder, Pending.register_of_not_contains h]
  simp only
  rw [sendRegistered, send_of_queue hlive]
  rfl

/-- A request either is refused, and nothing has changed but the ids and the tickets that are handed
out next; or it is sent under an id that nobody waits for, and waits under that id itself. It is
given the id unless it has one. -/
theorem sendRequest_cases (b : Bridge) (hlive : link.queue (link.target s) = some frames)
    (request : Message) :
    (∃ failure restored pending, b.pending.Keeps pending ∧
      b.sendRequest link s request =
        ⟨(.error failure, restored), { b with pending }, link, []⟩) ∨
    ∃ lastId id sent, request.layer.isRequest = true ∧
      (sent = request ∨ sent = request.setRequestId (some id)) ∧
      sent.requestId = .ok (some id) ∧ b.pending.contains id = false ∧
      b.sendRequest link s request =
        ⟨(.ok ⟨id, b.pending.nextNumber⟩, sent), b.afterRequest lastId id,
          link.setQueue (link.target s) (some (frames ++ [sent.frame])),
          [sent.traffic .outbound]⟩ := by
  by_cases hlayer : request.layer.isRequest = true
  · rw [sendRequest, if_pos hlayer]
    cases hid : request.requestId with
    | error e => exact .inl ⟨.property e, request, b.pending, ⟨rfl, rfl, Nat.le_refl _⟩, rfl⟩
    | ok named =>
      cases named with
      | some id =>
        cases hc : b.pending.contains id with
        | true =>
          refine .inl ⟨.duplicateId id, request, _, ?_, sendUnder_of_contains hc ..⟩
          exact ⟨rfl, rfl, Nat.le_succ _⟩
        | false =>
          exact .inr ⟨b.pending.lastId, id, request, hlayer, .inl rfl, hid, hc,
            sendUnder_of_not_contains hc hlive ..⟩
      | none =>
        -- The id is taken from the table before it is known to be free.
        let id := b.pending.lastId + 1
        let fresh : Bridge := { b with pending := { b.pending with lastId := id } }
        cases hc : fresh.pending.contains id with
        | true =>
          refine .inl ⟨.duplicateId id, _, _, ?_, sendUnder_of_contains (b := fresh) hc ..⟩
          exact ⟨rfl, rfl, Nat.le_succ _⟩
        | false =>
          exact .inr ⟨id, id, request.setRequestId (some id), hlayer, .inr rfl,
            Message.requestId_setRequestId_some request id, hc,
            sendUnder_of_not_contains (b := fresh) hc hlive ..⟩
  · rw [sendRequest, if_neg hlayer]
    exact .inl ⟨.notRequest request.type, request, b.pending, ⟨rfl, rfl, Nat.le_refl _⟩, rfl⟩

/-- A reply is sent with the id of the request that it answers. -/
theorem sendReply_of_requestId {request reply : Message} {id : Int64}
    (hlive : link.queue (link.target s) = some frames)
    (hrequest : request.layer.isRequest = true) (hid : request.requestId = .ok (some id))
    (hreply : reply.layer.isReply = true) :
    b.sendReply link s request reply =
      ⟨(.ok (), reply.setRequestId (some id)), b.countSent,
        link.setQueue (link.target s) (some (frames ++ [(reply.setRequestId (some id)).frame])),
        [(reply.setRequestId (some id)).traffic .outbound]⟩ := by
  rw [sendReply, if_pos hrequest, hid]
  simp only
  rw [if_pos hreply, send_of_queue hlive]

/-! ### Receiving -/

/-- A frame that cannot be decoded comes to that failure. -/
theorem receiveFrame_of_error (elapsed : Int64 → Duration) {frame : List UInt8} {failure : Failure}
    (hdecode : Frame.decode b.registry frame = .error failure) :
    b.receiveFrame elapsed frame = (.error failure, b.countRejected, [.rejected failure]) := by
  rw [receiveFrame, hdecode]

/-- A message that is no reply is given to the owner of the bridge. -/
theorem receiveFrame_of_not_isReply (elapsed : Int64 → Duration) {frame : List UInt8}
    {m : Message} (hdecode : Frame.decode b.registry frame = .ok m)
    (hlayer : m.layer.isReply = false) :
    b.receiveFrame elapsed frame =
      (.ok (.request m), b.countReceived, [m.traffic .inbound]) := by
  rw [receiveFrame, hdecode]
  simp only
  rw [route, if_neg (by rw [hlayer]; exact Bool.false_ne_true)]

/-- A reply turns out to be what the table makes of it. -/
theorem receiveFrame_of_isReply (elapsed : Int64 → Duration) {frame : List UInt8} {m : Message}
    (hdecode : Frame.decode b.registry frame = .ok m) (hlayer : m.layer.isReply = true) :
    (b.receiveFrame elapsed frame).1 = (b.pending.deliver m).1.map .reply ∧
    (b.receiveFrame elapsed frame).2.1.pending = (b.pending.deliver m).2 := by
  have hpending : b.countReceived.pending = b.pending := rfl
  rw [receiveFrame, hdecode]
  simp only
  rw [route, if_pos hlayer, hpending]
  cases b.pending.deliver m with
  | mk result pending =>
    cases result with
    | ok id => exact ⟨rfl, rfl⟩
    | error failure => cases failure <;> exact ⟨rfl, rfl⟩

/-- The bridge after it has handed a reply to the request that waited for it. -/
def afterReply (b : Bridge) (elapsed : Duration) (t : Ticket) (reply : Message) : Bridge :=
  { b.countReceived with pending := { b.pending with
      waiting := b.pending.waiting.filter fun w => w.id != t.id
      settled := (t.number, .ok reply) :: b.pending.settled } }.measure (·.observeLatency elapsed)

/-- A reply is handed to the request that waits under its id. -/
theorem receiveFrame_of_find? (elapsed : Int64 → Duration) {frame : List UInt8} {reply : Message}
    {t : Ticket} (hdecode : Frame.decode b.registry frame = .ok reply)
    (hlayer : reply.layer.isReply = true) (hid : reply.requestId = .ok (some t.id))
    (hfind : b.pending.find? t.id = some t) :
    b.receiveFrame elapsed frame = (.ok (.reply t.id), b.afterReply (elapsed t.id) t reply,
      [reply.traffic .inbound]) := by
  rw [receiveFrame, hdecode]
  simp only
  rw [route, if_pos hlayer, countReceived, measure, Pending.deliver_of_find? hlayer hid hfind]
  rfl

theorem receiveFrames_cons {elapsed : Int64 → Duration} {frame : List UInt8} {b' : Bridge}
    {result : Except Failure Inbound} {events : List Event}
    (hstep : b.receiveFrame elapsed frame = (result, b', events)) (frames : List (List UInt8)) :
    b.receiveFrames elapsed (frame :: frames) =
      (result :: (b'.receiveFrames elapsed frames).1, (b'.receiveFrames elapsed frames).2.1,
        events ++ (b'.receiveFrames elapsed frames).2.2) := by
  rw [receiveFrames, hstep]

end ProxyLink.Bridge
