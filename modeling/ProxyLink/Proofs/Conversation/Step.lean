import ProxyLink.Proofs.Conversation.Exchange
import ProxyLink.Proofs.Frame.RoundTrip

/-!
# Steps of a conversation

Every step of a conversation keeps what `Half` says of each side: the frames on their way are those
of messages that the other side can decode, and the requests of the side are in order. So this holds
of every conversation that comes about.
-/

namespace ProxyLink

theorem StandardKind.isReply_layer (k : StandardKind) : k.layer.isReply = !k.layer.isRequest := by
  cases k <;> rfl

namespace Conversation

/-- A message that is decoded as it was sent. -/
def Sendable (m : Message) : Prop := (∃ k, m.OfKind k) ∧ m.body.length < 2 ^ 32

theorem Sendable.decode {m : Message} (h : Sendable m) :
    Frame.decode .standard m.frame = .ok m := by
  rcases h with ⟨⟨k, hk⟩, hshort⟩
  refine Frame.decode_frame_of_blank hk (Message.ofKind_ofStandard k) rfl ?_ hshort
  rw [hk.type]
  exact Registry.find?_standard k

theorem Sendable.isReply {m : Message} (h : Sendable m) :
    m.layer.isReply = !m.layer.isRequest := by
  rcases h with ⟨⟨k, hk⟩, -⟩
  rw [hk.layer]
  exact k.isReply_layer

/-- What is known of one side: the messages `mine` are on their way to the other side, and its
requests are in order, given that `theirs` are on their way back. -/
structure Half (c : Conversation) (s : Side) (mine theirs : List Message) : Prop where
  crossed : c.link.crossed = true
  queue : c.link.queue s.other = some (mine.map Message.frame)
  sendable : ∀ m ∈ mine, Sendable m
  registry : (c.party s).bridge.registry = .standard
  quiet : (c.party s).bridge.Quiet
  matched : Matched (c.exchange s) mine theirs

/-- What is known of both sides, seen from one of them. -/
def Orderly (c : Conversation) (s : Side) : Prop :=
  ∃ mine theirs, Half c s mine theirs ∧ Half c s.other theirs mine

variable {c c' : Conversation} {s : Side} {mine theirs : List Message}

/-- Where the frames that a side sends are queued. -/
theorem Half.live (h : Half c s mine theirs) :
    c.link.queue (c.link.target s) = some (mine.map Message.frame) := by
  rw [Link.target_of_crossed h.crossed]
  exact h.queue

/-- What is on its way to a side waits at its end. -/
theorem Half.queue_self (h : Half c s.other theirs mine) :
    c.link.queue s = some (theirs.map Message.frame) := by
  rw [← h.queue, Side.other_other]

/-- What is known is the same from either side. -/
theorem Orderly.all (h : Orderly c s) (s' : Side) : Orderly c s' := by
  rcases h with ⟨mine, theirs, hs, hother⟩
  rcases Side.eq_or_eq_other s s' with rfl | rfl
  · exact ⟨mine, theirs, hs, hother⟩
  · refine ⟨theirs, mine, hother, ?_⟩
    rw [Side.other_other]
    exact hs

/-! ### One side acts -/

private theorem orderly_update (hother : Half c s.other theirs mine) {link : Link} {p : Party}
    {mine' theirs' : List Message} (hc' : c' = c.update s link p) (hcrossed : link.crossed = true)
    (hmine : link.queue s.other = some (mine'.map Message.frame))
    (htheirs : link.queue s = some (theirs'.map Message.frame))
    (hsendable : ∀ m ∈ mine', Sendable m) (hsendable' : ∀ m ∈ theirs', Sendable m)
    (hregistry : p.bridge.registry = .standard) (hquiet : p.bridge.Quiet)
    (hself : Matched (c'.exchange s) mine' theirs')
    (hpeer : Matched (c'.exchange s.other) theirs' mine') : Orderly c' s := by
  subst hc'
  refine ⟨mine', theirs', ?_, ?_⟩
  · refine ⟨hcrossed, hmine, hsendable, ?_, ?_, hself⟩
    · rw [party_update_self]
      exact hregistry
    · rw [party_update_self]
      exact hquiet
  · refine ⟨hcrossed, ?_, hsendable', ?_, ?_, hpeer⟩
    · rw [Side.other_other]
      exact htheirs
    · rw [party_update_other]
      exact hother.registry
    · rw [party_update_other]
      exact hother.quiet

/-- One side does something on its own. -/
private theorem orderly_alone (hs : Half c s mine theirs) (hother : Half c s.other theirs mine)
    {p : Party} (hc' : c' = c.update s c.link p) (hregistry : p.bridge.registry = .standard)
    (hquiet : p.bridge.Quiet) (hself : Matched (c'.exchange s) mine theirs)
    (hpeer : Matched (c'.exchange s.other) theirs mine) : Orderly c' s :=
  orderly_update hother hc' hs.crossed hs.queue hother.queue_self hs.sendable hother.sendable
    hregistry hquiet hself hpeer

/-- One side sends a message. -/
private theorem orderly_send (hs : Half c s mine theirs) (hother : Half c s.other theirs mine)
    {m : Message} (hm : Sendable m) {p : Party}
    (hc' : c' = c.update s
      (c.link.setQueue s.other (some (mine.map Message.frame ++ [m.frame]))) p)
    (hregistry : p.bridge.registry = .standard) (hquiet : p.bridge.Quiet)
    (hself : Matched (c'.exchange s) (mine ++ [m]) theirs)
    (hpeer : Matched (c'.exchange s.other) theirs (mine ++ [m])) : Orderly c' s := by
  refine orderly_update hother hc' ?_ ?_ ?_ ?_ hother.sendable hregistry hquiet hself hpeer
  · simp [hs.crossed]
  · simp
  · simp [hother.queue_self]
  · simpa [or_imp, forall_and] using ⟨hs.sendable, hm⟩

/-- One side takes the first message that waits at its end. -/
private theorem orderly_take {m : Message} (hs : Half c s mine (m :: theirs))
    (hother : Half c s.other (m :: theirs) mine) {p : Party}
    (hc' : c' = c.update s (c.link.setQueue s (some (theirs.map Message.frame))) p)
    (hregistry : p.bridge.registry = .standard) (hquiet : p.bridge.Quiet)
    (hself : Matched (c'.exchange s) mine theirs)
    (hpeer : Matched (c'.exchange s.other) theirs mine) : Orderly c' s := by
  refine orderly_update hother hc' ?_ ?_ ?_ hs.sendable ?_ hregistry hquiet hself hpeer
  · simp [hs.crossed]
  · simp [hs.queue]
  · simp
  · exact fun m' hm' => hother.sendable m' (List.mem_cons_of_mem _ hm')

/-! ### Steps of the owners -/

/-- A request is sent, or refused. -/
theorem Orderly.request (h : Orderly c s) {k : StandardKind} {m : Message} (hm : m.OfKind k)
    (hshort : ∀ e ∈ ((c.request s m).party s).sent, e.2.body.length < 2 ^ 32) :
    Orderly (c.request s m) s := by
  rcases h with ⟨mine, theirs, hs, hother⟩
  rcases Bridge.sendRequest_cases (c.party s).bridge hs.live m with
    ⟨failure, restored, pending, hkeeps, hstep⟩ |
    ⟨lastId, id, sent, hlayer, hsent, hid, hunused, hstep⟩
  · have hnext : c.request s m = c.update s c.link
        { c.party s with bridge := { (c.party s).bridge with pending } } := by
      simp only [Conversation.request, hstep]
    refine orderly_alone hs hother hnext hs.registry hs.quiet ?_ ?_
    · rw [hnext, exchange_update_self]
      exact hs.matched.keep hkeeps
    · rw [hnext, exchange_update_other]
      · exact hother.matched
      · rfl
      · rfl
  · let ticket : Ticket := ⟨id, (c.party s).bridge.pending.nextNumber⟩
    have hnext : c.request s m = c.update s
        (c.link.setQueue s.other (some (mine.map Message.frame ++ [sent.frame])))
        { c.party s with
          bridge := (c.party s).bridge.afterRequest lastId id
          sent := (c.party s).sent ++ [(ticket, sent)] } := by
      simp only [Conversation.request, hstep, Link.target_of_crossed hs.crossed, ticket]
    have hkind : sent.OfKind k := by
      rcases hsent with rfl | rfl
      · exact hm
      · exact hm.setRequestId _
    have hsendable : Sendable sent := by
      rw [hnext, party_update_self] at hshort
      refine ⟨⟨k, hkind⟩, hshort (ticket, sent) ?_⟩
      exact List.mem_append_right _ (List.mem_singleton_self _)
    have hrequest : sent.layer.isRequest = true := by
      rw [hkind.layer, ← hm.layer]
      exact hlayer
    have hreply : sent.layer.isReply = false := by
      rw [hsendable.isReply, hrequest]
      rfl
    refine orderly_send hs hother hsendable hnext hs.registry hs.quiet ?_ ?_
    · rw [hnext, exchange_update_self]
      exact hs.matched.ask hrequest hid hunused rfl
    · rw [hnext, matched_theirs_concat hreply, exchange_update_other]
      · exact hother.matched
      · rfl
      · rfl

/-- A request that has arrived is answered. -/
theorem Orderly.reply (h : Orderly c s) {place : Nat} {k : StandardKind} {m : Message}
    (hm : m.OfKind k) (hlayer : k.layer.isReply = true)
    (hplace : place ∉ (c.party s).answered.map (·.1))
    (hshort : ∀ a ∈ ((c.reply s place m).party s).answered, a.2.body.length < 2 ^ 32) :
    Orderly (c.reply s place m) s := by
  cases hrequest : (c.party s).received[place]? with
  | none =>
    have hnext : c.reply s place m = c := by
      simp only [Conversation.reply, hrequest]
    rw [hnext]
    exact h
  | some request =>
    rcases h with ⟨mine, theirs, hs, hother⟩
    have hreceived : (c.exchange s.other).received[place]? = some request := by
      rw [exchange, Side.other_other]
      exact hrequest
    have hunanswered : place ∉ (c.exchange s.other).answered.map (·.1) := by
      rw [exchange, Side.other_other]
      exact hplace
    obtain ⟨hasks, id, hid, hanswer⟩ := hother.matched.answer hreceived hunanswered
    let sent := m.setRequestId (some id)
    have hkind : sent.OfKind k := hm.setRequestId _
    have hreply : m.layer.isReply = true := by
      rw [hm.layer]
      exact hlayer
    have hstep := Bridge.sendReply_of_requestId (b := (c.party s).bridge) hs.live hasks hid hreply
    have hnext : c.reply s place m = c.update s
        (c.link.setQueue s.other (some (mine.map Message.frame ++ [sent.frame])))
        { c.party s with
          bridge := (c.party s).bridge.countSent
          answered := (c.party s).answered ++ [(place, sent)] } := by
      simp only [Conversation.reply, hrequest, hstep, Link.target_of_crossed hs.crossed, sent]
    have hsendable : Sendable sent := by
      rw [hnext, party_update_self] at hshort
      refine ⟨⟨k, hkind⟩, hshort (place, sent) ?_⟩
      exact List.mem_append_right _ (List.mem_singleton_self _)
    have hnoRequest : sent.layer.isRequest = false := by
      simpa [hsendable.isReply] using (show sent.layer.isReply = true from hreply)
    refine orderly_send hs hother hsendable hnext hs.registry hs.quiet ?_ ?_
    · rw [hnext, matched_mine_concat hnoRequest, exchange_update_self]
      exact hs.matched
    · rw [hnext, exchange_update_other_of_answered (a := (place, sent))]
      · exact hanswer sent hreply (Message.requestId_setRequestId_some m id)
      · rfl
      · rfl

/-- A ticket is used up if it has an outcome. -/
theorem Orderly.collect (h : Orderly c s) (place : Nat) : Orderly (c.collect s place) s := by
  cases he : (c.party s).sent[place]? with
  | none =>
    have hnext : c.collect s place = c := by
      simp only [Conversation.collect, he]
    rw [hnext]
    exact h
  | some e =>
    rcases e with ⟨t, m⟩
    cases hout : (c.party s).bridge.pending.outcome? t with
    | none =>
      have hnext : c.collect s place = c := by
        simp only [Conversation.collect, he, Pending.wait, hout]
      rw [hnext]
      exact h
    | some outcome =>
      rcases h with ⟨mine, theirs, hs, hother⟩
      have hnext : c.collect s place = c.update s c.link
          { c.party s with
            bridge := { (c.party s).bridge with pending := ((c.party s).bridge.pending.drop t).1 }
            collected := (c.party s).collected ++ [(place, outcome)] } := by
        simp only [Conversation.collect, he, Pending.wait, hout]
      refine orderly_alone hs hother hnext hs.registry hs.quiet ?_ ?_
      · rw [hnext, exchange_update_self]
        exact hs.matched.collect he hout
      · rw [hnext, exchange_update_other]
        · exact hother.matched
        · rfl
        · rfl

/-! ### Frames that arrive -/

/-- The first message that waits is a request. -/
private theorem orderly_receive_request {m : Message} (hs : Half c s mine (m :: theirs))
    (hother : Half c s.other (m :: theirs) mine) (hlayer : m.layer.isReply = false)
    (elapsed : Int64 → Duration) : Orderly (c.receive s elapsed) s := by
  have hm : Sendable m := hother.sendable m List.mem_cons_self
  have hrequest : m.layer.isRequest = true := by
    simpa [hm.isReply] using hlayer
  have hdecode : Frame.decode (c.party s).bridge.registry m.frame = .ok m := by
    rw [hs.registry]
    exact hm.decode
  have hstep := Bridge.receiveFrame_of_not_isReply elapsed hdecode hlayer
  have hnext : c.receive s elapsed = c.update s
      (c.link.setQueue s (some (theirs.map Message.frame)))
      { c.party s with
        bridge := (c.party s).bridge.countReceived
        received := (c.party s).received ++ [m] } :=
    receive_of_queue_cons hother.queue_self hstep
  refine orderly_take hs hother hnext hs.registry hs.quiet ?_ ?_
  · rw [hnext, exchange_update_self]
    exact (matched_theirs_cons hlayer).mp hs.matched
  · rw [hnext, exchange_update_other_of_received (m := m)]
    · exact hother.matched.hear hrequest
    · rfl
    · rfl

/-- The first message that waits is a reply. -/
private theorem orderly_receive_reply {m : Message} (hs : Half c s mine (m :: theirs))
    (hother : Half c s.other (m :: theirs) mine) (hlayer : m.layer.isReply = true)
    (elapsed : Int64 → Duration) : Orderly (c.receive s elapsed) s := by
  have hm : Sendable m := hother.sendable m List.mem_cons_self
  have hrequest : m.layer.isRequest = false := by
    simpa [hm.isReply] using hlayer
  have hdecode : Frame.decode (c.party s).bridge.registry m.frame = .ok m := by
    rw [hs.registry]
    exact hm.decode
  obtain ⟨t, hid, hfind, hsettled⟩ := hs.matched.settle hlayer
  have hstep := Bridge.receiveFrame_of_find? elapsed hdecode hlayer hid hfind
  have hnext : c.receive s elapsed = c.update s
      (c.link.setQueue s (some (theirs.map Message.frame)))
      { c.party s with bridge := (c.party s).bridge.afterReply (elapsed t.id) t m } := by
    rw [receive_of_queue_cons hother.queue_self hstep]
    simp only [List.filterMap_cons, List.filterMap_nil, Inbound.request?, List.append_nil]
  refine orderly_take hs hother hnext hs.registry hs.quiet ?_ ?_
  · rw [hnext, exchange_update_self]
    exact hsettled
  · rw [hnext, exchange_update_other]
    · exact (matched_mine_cons hrequest).mp hother.matched
    · rfl
    · rfl

/-- The first frame that waits is handled, if there is one. -/
theorem Orderly.receive (h : Orderly c s) (elapsed : Int64 → Duration) :
    Orderly (c.receive s elapsed) s := by
  rcases h with ⟨mine, theirs, hs, hother⟩
  cases theirs with
  | nil =>
    rw [receive_of_queue_nil hother.queue_self]
    exact ⟨mine, [], hs, hother⟩
  | cons m theirs =>
    cases hlayer : m.layer.isReply with
    | false => exact orderly_receive_request hs hother hlayer elapsed
    | true => exact orderly_receive_reply hs hother hlayer elapsed

/-- Every frame that waits is handled. -/
theorem Orderly.poll (h : Orderly c s) (elapsed : Int64 → Duration) :
    Orderly (c.poll s elapsed) s := by
  have hqueue : ∃ frames, c.link.queue s = some frames := by
    rcases h with ⟨mine, theirs, -, hother⟩
    exact ⟨_, hother.queue_self⟩
  rcases hqueue with ⟨frames, hqueue⟩
  -- To handle the first frame keeps both sides in order and leaves the others waiting.
  induction frames generalizing c with
  | nil =>
    rw [poll_of_queue_nil hqueue]
    exact h
  | cons frame frames ih =>
    obtain ⟨hrest, hpoll⟩ := poll_of_queue_cons hqueue elapsed
    rw [hpoll]
    exact ih (h.receive elapsed) hrest

/-! ### Runs -/

theorem orderly_start (metrics : Side → Option Metrics) (s : Side) :
    Orderly (start metrics) s := by
  have hhalf (s : Side) : Half (start metrics) s [] [] := by
    refine ⟨rfl, ?_, nofun, rfl, ⟨rfl, rfl⟩, [], [], correlated_empty, rfl⟩
    cases s <;> rfl
  exact ⟨[], [], hhalf s, hhalf s.other⟩

/-- Every conversation that comes about is in order on both sides. -/
theorem Reachable.orderly (h : c.Reachable) (s : Side) : Orderly c s := by
  -- A step is taken by one side, from which both sides are seen.
  induction h with
  | start metrics => exact orderly_start metrics s
  | request s' _ hm hshort ih => exact ((ih.all s').request hm hshort).all s
  | reply s' place _ hm hlayer hplace hshort ih =>
    exact ((ih.all s').reply hm hlayer hplace hshort).all s
  | receive s' elapsed _ ih => exact ((ih.all s').receive elapsed).all s
  | poll s' elapsed _ ih => exact ((ih.all s').poll elapsed).all s
  | collect s' place _ ih => exact ((ih.all s').collect place).all s

end Conversation

end ProxyLink
