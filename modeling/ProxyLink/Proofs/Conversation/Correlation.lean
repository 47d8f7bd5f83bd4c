import ProxyLink.Proofs.Conversation.Step

/-!
# Replies reach their requests

In every conversation that comes about, the table of a side holds the ids of its requests that are
not settled, nothing is rejected or orphaned, and every ticket yields the reply to its own request.
-/

namespace ProxyLink.Conversation

variable {c : Conversation} {s : Side} {mine theirs : List Message}

/-- The messages that wait at one end are those on their way there. -/
theorem Half.arriving (hs : Half c s mine theirs) (hother : Half c s.other theirs mine) :
    c.arriving s = theirs := by
  have hdecode : ∀ m ∈ theirs,
      (Frame.decode (c.party s).bridge.registry m.frame).toOption = some m := by
    intro m hm
    rw [hs.registry, (hother.sendable m hm).decode]
    rfl
  rw [Conversation.arriving, hother.queue_self, Option.getD_some, List.filterMap_map]
  exact (List.filterMap_congr hdecode).trans List.filterMap_some

/-- In every conversation that comes about, and for each side of it:

* no id waits twice, and the ids that wait are those of the requests on their way to the peer, of
  the requests that the peer has received and not answered, and of the replies on their way back;
* the requests that were sent are those that the peer has received and those on their way, in this
  order;
* no frame was rejected, and no reply orphaned;
* what a ticket yields is the reply that the peer has sent for the request of that ticket;
* a ticket that does not wait any more has yielded that already, or is about to. -/
theorem correlation_of_reachable (h : c.Reachable) (s : Side) :
    (((c.exchange s).pending.waiting.map (·.id)).Nodup ∧
      ((c.exchange s).pending.waiting.map fun t => Except.ok (some t.id)).Perm
        ((c.requestsAt s.other ++ (c.exchange s).unanswered ++ c.repliesAt s).map
          Message.requestId)) ∧
    (c.exchange s).sent.map (·.2) = (c.exchange s).received ++ c.requestsAt s.other ∧
    (c.party s).bridge.counters.rejected = 0 ∧ (c.party s).bridge.counters.orphaned = 0 ∧
    (∀ place t request outcome, (c.exchange s).sent[place]? = some (t, request) →
      (c.exchange s).pending.outcome? t = some outcome ∨
        (place, outcome) ∈ (c.exchange s).collected →
      ∃ reply, outcome = .ok reply ∧ (c.exchange s).received[place]? = some request ∧
        (place, reply) ∈ (c.exchange s).answered) ∧
    ∀ place t request, (c.exchange s).sent[place]? = some (t, request) →
      t ∈ (c.exchange s).pending.waiting ∨ ((c.exchange s).pending.outcome? t).isSome = true ∨
        ∃ outcome, (place, outcome) ∈ (c.exchange s).collected := by
  obtain ⟨mine, theirs, hs, hother⟩ := h.orderly s
  obtain ⟨done, back, hcorrelated, hback⟩ := hs.matched
  have hrequests : c.requestsAt s.other = mine.filter (·.layer.isRequest) := by
    rw [requestsAt, hother.arriving (by rw [Side.other_other]; exact hs)]
  have hreplies : c.repliesAt s = back.map (·.2) := by
    rw [repliesAt, hs.arriving hother, hback]
  have hanswer : ∀ place t request reply, (c.exchange s).sent[place]? = some (t, request) →
      (place, reply) ∈ done → (c.exchange s).received[place]? = some request ∧
        (place, reply) ∈ (c.exchange s).answered := by
    intro place t request reply he hdone
    have ha : (place, reply) ∈ (c.exchange s).answered := by
      rw [hcorrelated.answered]
      exact List.mem_append_left _ hdone
    obtain ⟨t', request', he', hreceived, -⟩ := hcorrelated.replied _ ha
    rw [he] at he'
    cases he'
    exact ⟨hreceived, ha⟩
  refine ⟨⟨hcorrelated.distinct, ?_⟩, ?_, hs.quiet.1, hs.quiet.2, ?_, ?_⟩
  · rw [hrequests, hreplies, List.append_assoc, List.map_append, List.map_append, List.map_map]
    exact hcorrelated.ids
  · rw [hrequests]
    exact hcorrelated.order
  · intro place t request outcome he hout
    rcases hout with hout | hout
    · obtain ⟨reply, ho, hdone⟩ := hcorrelated.reply_of_outcome? he hout
      exact ⟨reply, ho, hanswer place t request reply he hdone⟩
    · obtain ⟨reply, ho, hdone⟩ := hcorrelated.collected place outcome hout
      exact ⟨reply, ho, hanswer place t request reply he hdone⟩
  · intro place t request he
    by_cases hp : place ∈ done.map (·.1)
    · rcases hcorrelated.kept place t request he hp with ⟨outcome, hs⟩ | hc
      · exact .inr (.inl (Pending.isSome_outcome?_of_mem hs))
      · exact .inr (.inr hc)
    · exact .inl ((hcorrelated.waiting t).mpr ⟨place, request, he, hp⟩)

/-- An echo is requested and answered: the ticket yields the reply. -/
theorem correlation_of_echo : ∃ c : Conversation, c.Reachable ∧ ∃ t request reply,
    (c.exchange .left).sent[0]? = some (t, request) ∧
    (c.exchange .left).pending.outcome? t = some (.ok reply) ∧
    (c.exchange .left).received[0]? = some request ∧
    (0, reply) ∈ (c.exchange .left).answered := by
  let asked := (start fun _ => none).request .left (.ofStandard .echoRequest)
  let answered := (asked.poll .right fun _ => .zero).reply .right 0 (.ofStandard .echoReply)
  let c := answered.poll .left fun _ => .zero
  have hasked : asked.Reachable := by
    refine .request .left (.start _) (Message.ofKind_ofStandard .echoRequest) ?_
    decide +kernel
  have hanswered : answered.Reachable := by
    refine .reply .right 0 (.poll .right _ hasked) (Message.ofKind_ofStandard .echoReply) rfl ?_ ?_
    · decide +kernel
    · decide +kernel
  have hc : c.Reachable := .poll .left _ hanswered
  let request := (Message.ofStandard .echoRequest).setRequestId (some 1)
  have hsent : (c.exchange .left).sent[0]? = some (⟨1, 0⟩, request) := by
    decide +kernel
  have hout : (c.exchange .left).pending.outcome? ⟨1, 0⟩ =
      some (.ok ((Message.ofStandard .echoReply).setRequestId (some 1))) := by
    decide +kernel
  obtain ⟨-, -, -, -, hyield, -⟩ := correlation_of_reachable hc .left
  obtain ⟨reply, ho, hreceived, ha⟩ := hyield 0 ⟨1, 0⟩ request _ hsent (.inl hout)
  rw [ho] at hout
  exact ⟨c, hc, ⟨1, 0⟩, request, reply, hsent, hout, hreceived, ha⟩

end ProxyLink.Conversation
