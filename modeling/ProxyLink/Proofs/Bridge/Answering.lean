import ProxyLink.Proofs.Bridge

/-!
# Answers are refused or stamped and sent

Before an answer is sent, the message that it answers is looked at first, and then the answer
itself. Main statement, which comes last: what is refused changes nothing at all; what is not
refused gets the id of the request in its one way of writing, and is queued or refused by the link,
which the counters tell.
-/

namespace ProxyLink

/-- The text of its request id reads as an id. -/
def Message.ReadsId (m : Message) (id : Int64) : Prop :=
  ∃ text, m.bag.text? Field.requestId.key = some text ∧ Property.ofText? text = some id

/-- A request and a message to answer it with. -/
structure Answerable (request reply : Message) (id : Int64) : Prop where
  isRequest : request.layer.isRequest = true
  readsId : request.ReadsId id
  isReply : reply.layer.isReply = true

/-- Why an answer is refused. What is wrong with the request comes before what is wrong with the
answer. -/
inductive Unanswerable (request reply : Message) : Failure → Prop where
  /-- What is to be answered is no request. -/
  | notRequest (hlayer : request.layer.isRequest = false) :
    Unanswerable request reply (.notRequest request.type)
  /-- The id of the request cannot be read. -/
  | unreadable {text : String} (hlayer : request.layer.isRequest = true)
      (htext : request.bag.text? Field.requestId.key = some text)
      (hread : (Property.ofText? text : Option Int64) = none) :
    Unanswerable request reply (.property ⟨Field.requestId.key, Property.typeName Int64, text⟩)
  /-- The request has no id. -/
  | missingId (hlayer : request.layer.isRequest = true)
      (htext : request.bag.text? Field.requestId.key = none) :
    Unanswerable request reply (.missingId request.type)
  /-- The answer is no reply. -/
  | notReply {id : Int64} (hlayer : request.layer.isRequest = true) (hid : request.ReadsId id)
      (hreply : reply.layer.isReply = false) :
    Unanswerable request reply (.notReply reply.type)

namespace Message

variable {m : Message} {id : Int64}

theorem ReadsId.requestId (h : m.ReadsId id) : m.requestId = .ok (some id) :=
  Bag.get_eq_some_iff.mpr h

/-- A message with an id has that id, in its one way of writing, and all of its other texts. -/
theorem text?_setRequestId (m : Message) (id : Int64) (key : String) :
    (m.setRequestId (some id)).bag.text? key =
      if key = Field.requestId.key then some (Decimal.ofInt64 id) else m.bag.text? key :=
  Bag.text?_set m.bag Field.requestId.key key (some id)

end Message

/-- An answer is either refused for one of the reasons, or there is an id that it can be given. -/
theorem unanswerable_or_answerable (request reply : Message) :
    (∃ failure, Unanswerable request reply failure) ∨ ∃ id, Answerable request reply id := by
  cases hlayer : request.layer.isRequest with
  | false => exact .inl ⟨_, .notRequest hlayer⟩
  | true =>
    cases htext : request.bag.text? Field.requestId.key with
    | none => exact .inl ⟨_, .missingId hlayer htext⟩
    | some text =>
      cases hread : (Property.ofText? text : Option Int64) with
      | none => exact .inl ⟨_, .unreadable hlayer htext hread⟩
      | some id =>
        have hid : request.ReadsId id := ⟨text, htext, hread⟩
        cases hreply : reply.layer.isReply with
        | false => exact .inl ⟨_, .notReply hlayer hid hreply⟩
        | true => exact .inr ⟨id, hlayer, hid, hreply⟩

namespace Bridge

variable {b : Bridge} {link : Link} {side : Side} {request reply : Message} {id : Int64}

/-- An answer that is refused changes nothing. -/
theorem sendReply_of_unanswerable {failure : Failure} (h : Unanswerable request reply failure) :
    b.sendReply link side request reply = ⟨(.error failure, reply), b, link, []⟩ := by
  unfold sendReply
  cases h with
  | notRequest hlayer => rw [if_neg (by simp [hlayer])]
  | unreadable hlayer htext hread =>
    rw [if_pos hlayer, Message.requestId, Bag.get_of_ofText?_none htext hread]
  | missingId hlayer htext =>
    rw [if_pos hlayer, Message.requestId, Bag.get_eq_none_iff.mpr htext]
  | notReply hlayer hid hreply =>
    rw [if_pos hlayer, hid.requestId]
    simp only
    rw [if_neg (by simp [hreply])]

/-- An answer that is not refused is given the id and sent as it then is. -/
theorem sendReply_of_answerable (h : Answerable request reply id) :
    let named := reply.setRequestId (some id)
    let step := b.send link side named
    b.sendReply link side request reply =
      ⟨(step.result, named), step.bridge, step.link, step.events⟩ := by
  intro named step
  rw [sendReply, if_pos h.isRequest, h.readsId.requestId]
  simp only
  rw [if_pos h.isReply]

/-- Whatever the state of a bridge and its link is, and whatever messages are used as a request and
as its answer: an answer that is refused, for the first of the reasons that holds, is left as it
was, and so are the bridge and the link. Otherwise the id of the request can be read. Then the
answer gets that id, in its one way of writing, and keeps all of its other texts, and the bridge
changes in what it counts only. If the end that the frame goes to is not gone, the frame of the
answer as it now stands is queued there behind the others, and counted; if it is gone, that is the
failure, the link is as it was, and one more frame is counted as refused. -/
theorem answer_is_refused_or_stamped (b : Bridge) (link : Link) (side : Side)
    (request reply : Message) :
    let step := b.sendReply link side request reply
    ((∃ failure, Unanswerable request reply failure) ∨ ∃ id, Answerable request reply id) ∧
    (∀ failure, Unanswerable request reply failure →
      step = ⟨(.error failure, reply), b, link, []⟩) ∧
    ∀ id, Answerable request reply id → ∃ sent, step.result.2 = sent ∧
      sent = { reply with bag := sent.bag } ∧
      (∀ key, sent.bag.text? key =
        if key = Field.requestId.key then some (Decimal.ofInt64 id) else reply.bag.text? key) ∧
      ((∃ frames, link.queue (link.target side) = some frames ∧ step.result.1 = .ok () ∧
          step.link = link.setQueue (link.target side) (some (frames ++ [sent.frame])) ∧
          step.bridge = { b with
            counters := { b.counters with sent := b.counters.sent + 1 }
            metrics := b.metrics.map .countSent }) ∨
        (link.queue (link.target side) = none ∧ step.result.1 = .error .peerGone ∧
          step.link = link ∧
          step.bridge = { b with
            counters := { b.counters with dropped := b.counters.dropped + 1 } })) := by
  intro step
  refine ⟨unanswerable_or_answerable request reply, ?_, ?_⟩
  · intro failure h
    exact sendReply_of_unanswerable h
  · intro id h
    have hstep : step = _ := sendReply_of_answerable h
    refine ⟨reply.setRequestId (some id), by rw [hstep], rfl, reply.text?_setRequestId id, ?_⟩
    cases hqueue : link.queue (link.target side) with
    | none =>
      rw [send_of_queue_none hqueue] at hstep
      rw [hstep]
      exact .inr ⟨rfl, rfl, rfl, rfl⟩
    | some frames =>
      rw [send_of_queue hqueue] at hstep
      rw [hstep]
      exact .inl ⟨frames, rfl, rfl, rfl, rfl⟩

/-- An id with a sign and a leading zero is the same id without them in the reply. -/
example :
    let request := (Message.ofStandard .echoRequest).insertText "RequestId" "+07"
    let step := (Bridge.new .standard none).sendReply .pair .right request
      (Message.ofStandard .echoReply)
    step.result.2 = (Message.ofStandard .echoReply).insertText "RequestId" "7" ∧
      step.link.left = some [step.result.2.frame] := by
  decide +kernel

end Bridge

end ProxyLink
