import ProxyLink.Proofs.Conversation.Run
import ProxyLink.Proofs.Pending

/-!
# The requests of one side

`Correlated` is what ties the requests of one side to the table in which they wait, to the requests
that the other side has received and to its replies. It takes the messages on their way as given,
so that it can be kept up step by step, for each side on its own.
-/

namespace ProxyLink.Conversation

/-- The requests of a side are in order. Those in `asked` are on their way to the other side, `done`
are the replies that have come back, and `back` those on their way. -/
structure Correlated (x : Exchange) (asked : List Message) (done back : List (Nat × Message)) :
    Prop where
  order : x.sent.map (·.2) = x.received ++ asked
  answered : x.answered = done ++ back
  once : (x.answered.map (·.1)).Nodup
  /-- A reply has the id of the request that it answers. -/
  replied : ∀ a ∈ x.answered, ∃ t m, x.sent[a.1]? = some (t, m) ∧ x.received[a.1]? = some m ∧
    a.2.requestId = .ok (some t.id)
  /-- A request has the id of its ticket. -/
  named : ∀ e ∈ x.sent, e.2.layer.isRequest = true ∧ e.2.requestId = .ok (some e.1.id)
  numbered : (x.sent.map (·.1.number)).Nodup
  below : ∀ e ∈ x.sent, e.1.number < x.pending.nextNumber
  distinct : (x.pending.waiting.map (·.id)).Nodup
  /-- The requests that wait are those whose reply has not come back. -/
  waiting : ∀ t, t ∈ x.pending.waiting ↔
    ∃ place m, x.sent[place]? = some (t, m) ∧ place ∉ done.map (·.1)
  ids : (x.pending.waiting.map fun t => Except.ok (some t.id)).Perm
    (asked.map Message.requestId ++
      (x.unanswered.map Message.requestId ++ back.map (·.2.requestId)))
  /-- Every outcome is a reply that has come back. -/
  settled : ∀ n outcome, (n, outcome) ∈ x.pending.settled → ∃ place t m reply,
    x.sent[place]? = some (t, m) ∧ t.number = n ∧ outcome = .ok reply ∧ (place, reply) ∈ done
  collected : ∀ place outcome, (place, outcome) ∈ x.collected → ∃ reply,
    outcome = .ok reply ∧ (place, reply) ∈ done
  /-- A reply that has come back is the outcome of its ticket, or has been until it was used up. -/
  kept : ∀ place t m, x.sent[place]? = some (t, m) → place ∈ done.map (·.1) →
    (∃ outcome, (t.number, outcome) ∈ x.pending.settled) ∨
      ∃ outcome, (place, outcome) ∈ x.collected

variable {x : Exchange} {asked : List Message} {done back : List (Nat × Message)}

/-! ### Places in a list -/

private theorem getElem?_concat_iff {α : Type} {xs : List α} {a b : α} {i : Nat} :
    (xs ++ [a])[i]? = some b ↔ xs[i]? = some b ∨ i = xs.length ∧ a = b := by
  rcases Nat.lt_trichotomy i xs.length with hlt | rfl | hgt
  · rw [List.getElem?_append_left hlt]
    simp [Nat.ne_of_lt hlt]
  · simp
  · rw [List.getElem?_eq_none (by simp; omega), List.getElem?_eq_none (by omega)]
    simp [Nat.ne_of_gt hgt]

private theorem getElem?_append_of_eq_some {α : Type} {xs ys : List α} {a : α} {i : Nat}
    (h : xs[i]? = some a) : (xs ++ ys)[i]? = some a := by
  obtain ⟨hi, -⟩ := List.getElem?_eq_some_iff.mp h
  rw [List.getElem?_append_left hi, h]

private theorem nodup_concat {α : Type} {xs : List α} {a : α} (h : xs.Nodup) (ha : a ∉ xs) :
    (xs ++ [a]).Nodup := by
  rw [← List.concat_eq_append]
  exact h.concat ha

private theorem perm_middle_third {α : Type} (a : α) (xs ys zs : List α) :
    (xs ++ (ys ++ a :: zs)).Perm (a :: (xs ++ (ys ++ zs))) := by
  rw [← List.append_assoc, ← List.append_assoc]
  exact List.perm_middle

theorem correlated_empty : Correlated ⟨.empty, [], [], [], []⟩ [] [] [] where
  order := rfl
  answered := rfl
  once := .nil
  replied := nofun
  named := nofun
  numbered := .nil
  below := nofun
  distinct := .nil
  waiting t := by simp [Pending.empty]
  ids := .nil
  settled := nofun
  collected := nofun
  kept := nofun

/-! ### Requests that are not answered -/

/-- A request that arrives is not answered. -/
theorem unanswered_concat (h : x.received.length ∉ x.answered.map (·.1)) {m : Message} :
    ({ x with received := x.received ++ [m] } : Exchange).unanswered = x.unanswered ++ [m] := by
  simp only [Exchange.unanswered, List.zipIdx_append, List.filter_append, List.map_append]
  rw [Nat.zero_add, List.zipIdx_singleton, List.filter_cons_of_pos (by simpa using h)]
  rfl

/-- A request that is answered is taken from those that are not. -/
theorem perm_cons_unanswered {place : Nat} {request : Message}
    (hrequest : x.received[place]? = some request) (hplace : place ∉ x.answered.map (·.1))
    (reply : Message) : x.unanswered.Perm (request ::
      ({ x with answered := x.answered ++ [(place, reply)] } : Exchange).unanswered) := by
  let places := x.received.zipIdx.filter fun e => e.2 ∉ x.answered.map (·.1)
  have hnodup : places.Nodup := by
    apply List.Nodup.filter
    apply List.Nodup.of_map Prod.snd
    rw [List.zipIdx_map_snd]
    exact List.nodup_range'
  have hmem : (request, place) ∈ places := by
    apply List.mem_filter.mpr
    exact ⟨List.mk_mem_zipIdx_iff_getElem?.mpr hrequest, decide_eq_true hplace⟩
  have herase : places.erase (request, place) = x.received.zipIdx.filter fun e =>
      e.2 ∉ (x.answered ++ [(place, reply)]).map (·.1) := by
    rw [hnodup.erase_eq_filter, List.filter_filter]
    apply List.filter_congr
    rintro ⟨m, i⟩ hm
    have hm := List.mk_mem_zipIdx_iff_getElem?.mp hm
    have hpair : (m, i) ≠ (request, place) ↔ i ≠ place := by
      apply not_congr
      constructor
      · exact congrArg Prod.snd
      · rintro rfl
        rw [hm] at hrequest
        cases hrequest
        rfl
    rw [Bool.eq_iff_iff, Bool.and_eq_true, bne_iff_ne, hpair, decide_eq_true_iff,
      decide_eq_true_iff, List.map_append, List.mem_append, not_or, List.map_singleton,
      List.mem_singleton]
    exact and_comm
  have hperm := (List.perm_cons_erase hmem).map (·.1)
  rw [herase] at hperm
  exact hperm

namespace Correlated

/-! ### What follows at once -/

/-- Two places of tickets with one number are the same. -/
theorem place_inj (h : Correlated x asked done back) {place place' : Nat} {e e' : Ticket × Message}
    (he : x.sent[place]? = some e) (he' : x.sent[place']? = some e')
    (hn : e.1.number = e'.1.number) : place = place' := by
  obtain ⟨hlt, -⟩ := List.getElem?_eq_some_iff.mp he
  apply (List.getElem?_inj (by rw [List.length_map]; exact hlt) h.numbered).mp
  rw [List.getElem?_map, List.getElem?_map, he, he', Option.map_some, Option.map_some, hn]

/-- A request that has arrived is the one that was sent at its place. -/
theorem sent_of_received (h : Correlated x asked done back) {place : Nat} {m : Message}
    (hm : x.received[place]? = some m) : ∃ t, x.sent[place]? = some (t, m) := by
  have hmap : (x.sent.map (·.2))[place]? = some m := by
    rw [h.order]
    exact getElem?_append_of_eq_some hm
  rw [List.getElem?_map, Option.map_eq_some_iff] at hmap
  rcases hmap with ⟨⟨t, m'⟩, he, rfl⟩
  exact ⟨t, he⟩

/-- Requests are answered after they have arrived. -/
theorem lt_of_answered (h : Correlated x asked done back) {place : Nat}
    (hp : place ∈ x.answered.map (·.1)) : place < x.received.length := by
  obtain ⟨a, ha, rfl⟩ := List.mem_map.mp hp
  obtain ⟨t, m, -, hm, -⟩ := h.replied a ha
  exact (List.getElem?_eq_some_iff.mp hm).1

theorem lt_of_done (h : Correlated x asked done back) {place : Nat}
    (hp : place ∈ done.map (·.1)) : place < x.received.length := by
  apply h.lt_of_answered
  rw [h.answered, List.map_append]
  exact List.mem_append_left _ hp

/-- Two tickets are the same when their places are. -/
theorem ticket_ne_iff (h : Correlated x asked done back) {place place' : Nat} {t t' : Ticket}
    {m m' : Message} (he : x.sent[place]? = some (t, m)) (he' : x.sent[place']? = some (t', m')) :
    t' ≠ t ↔ place' ≠ place := by
  apply not_congr
  constructor
  · rintro rfl
    exact h.place_inj he' he rfl
  · rintro rfl
    rw [he] at he'
    cases he'
    rfl

/-- No reply to the request that is sent next has come back. -/
theorem length_notMem_done (h : Correlated x asked done back) :
    x.sent.length ∉ done.map (·.1) := by
  intro hp
  have hlt := h.lt_of_done hp
  have hlength := congrArg List.length h.order
  rw [List.length_map, List.length_append] at hlength
  omega

/-- A reply on its way back has not come back already. -/
theorem notMem_done_of_back {a : Nat × Message} (h : Correlated x asked done (a :: back)) :
    a.1 ∉ done.map (·.1) := by
  have honce := h.once
  rw [h.answered, List.map_append, List.map_cons] at honce
  intro hp
  exact (List.nodup_append.mp honce).2.2 _ hp _ List.mem_cons_self rfl

/-- The outcome of a ticket is the reply to its request. -/
theorem reply_of_outcome? (h : Correlated x asked done back) {place : Nat} {t : Ticket}
    {m : Message} {outcome : Outcome} (he : x.sent[place]? = some (t, m))
    (hout : x.pending.outcome? t = some outcome) :
    ∃ reply, outcome = .ok reply ∧ (place, reply) ∈ done := by
  obtain ⟨place', t', m', reply, he', hn, ho, hdone⟩ :=
    h.settled _ _ (Pending.mem_settled_of_outcome? hout)
  rw [h.place_inj he he' hn.symm]
  exact ⟨reply, ho, hdone⟩

/-- A request whose reply has come back does not wait. -/
theorem notMem_waiting_of_done (h : Correlated x asked done back) {place : Nat} {t : Ticket}
    {m : Message} (he : x.sent[place]? = some (t, m)) (hp : place ∈ done.map (·.1)) :
    t ∉ x.pending.waiting := by
  intro hw
  obtain ⟨place', m', he', hp'⟩ := (h.waiting t).mp hw
  rw [← h.place_inj he he' rfl] at hp'
  exact hp' hp

/-! ### What the side that asks does -/

/-- Other ids and tickets that are handed out next make no difference. -/
theorem keep (h : Correlated x asked done back) {pending : Pending}
    (hkeeps : x.pending.Keeps pending) :
    Correlated { x with pending } asked done back := by
  rcases hkeeps with ⟨hwaiting, hsettled, hnext⟩
  refine { h with
    below := ?below, distinct := ?distinct, waiting := ?waiting, ids := ?ids, settled := ?settled,
    kept := ?kept }
  case below =>
    intro e he
    exact Nat.lt_of_lt_of_le (h.below e he) hnext
  case distinct =>
    rw [hwaiting]
    exact h.distinct
  case waiting =>
    rw [hwaiting]
    exact h.waiting
  case ids =>
    rw [hwaiting]
    exact h.ids
  case settled =>
    rw [hsettled]
    exact h.settled
  case kept =>
    rw [hsettled]
    exact h.kept

/-- A request is sent under an id that nobody waits for. -/
theorem ask (h : Correlated x asked done back) {m : Message} {lastId id : Int64}
    (hlayer : m.layer.isRequest = true) (hid : m.requestId = .ok (some id))
    (hunused : x.pending.contains id = false) {t : Ticket}
    (ht : t = ⟨id, x.pending.nextNumber⟩) :
    Correlated { x with
      pending := ⟨lastId, x.pending.nextNumber + 1, x.pending.waiting ++ [t], x.pending.settled⟩
      sent := x.sent ++ [(t, m)] } (asked ++ [m]) done back := by
  subst ht
  have hplace := h.length_notMem_done
  have hnew : id ∉ x.pending.waiting.map (·.id) := by
    rw [← Pending.contains_iff, hunused]
    exact Bool.false_ne_true
  refine { h with
    order := ?order, replied := ?replied, named := ?named, numbered := ?numbered, below := ?below,
    distinct := ?distinct, waiting := ?waiting, ids := ?ids, settled := ?settled, kept := ?kept }
  case order =>
    rw [List.map_append, h.order, List.append_assoc]
    rfl
  case replied =>
    intro a ha
    obtain ⟨t, m', he, hm, hreply⟩ := h.replied a ha
    exact ⟨t, m', getElem?_append_of_eq_some he, hm, hreply⟩
  case named =>
    intro e he
    rcases List.mem_append.mp he with he | he
    · exact h.named e he
    · rw [List.mem_singleton.mp he]
      exact ⟨hlayer, hid⟩
  case numbered =>
    rw [List.map_append]
    apply nodup_concat h.numbered
    intro hn
    obtain ⟨e, he, hnumber⟩ := List.mem_map.mp hn
    exact Nat.ne_of_lt (h.below e he) hnumber
  case below =>
    intro e he
    rcases List.mem_append.mp he with he | he
    · exact Nat.lt_succ_of_lt (h.below e he)
    · rw [List.mem_singleton.mp he]
      exact Nat.lt_succ_self _
  case distinct =>
    rw [List.map_append]
    exact nodup_concat h.distinct hnew
  case waiting =>
    intro t
    rw [List.mem_append, List.mem_singleton, h.waiting]
    constructor
    · rintro (⟨place, m', he, hp⟩ | rfl)
      · exact ⟨place, m', getElem?_append_of_eq_some he, hp⟩
      · exact ⟨x.sent.length, m, getElem?_concat_iff.mpr (.inr ⟨rfl, rfl⟩), hplace⟩
    · rintro ⟨place, m', he, hp⟩
      rcases getElem?_concat_iff.mp he with he | ⟨-, he⟩
      · exact .inl ⟨place, m', he, hp⟩
      · cases he
        exact .inr rfl
  case ids =>
    rw [List.map_append, List.map_append, List.map_singleton, List.map_singleton, hid,
      List.append_assoc]
    exact (List.perm_append_singleton _ _).trans ((h.ids.cons _).trans List.perm_middle.symm)
  case settled =>
    intro n outcome hs
    obtain ⟨place, t, m', reply, he, hrest⟩ := h.settled n outcome hs
    exact ⟨place, t, m', reply, getElem?_append_of_eq_some he, hrest⟩
  case kept =>
    intro place t m' he hp
    rcases getElem?_concat_iff.mp he with he | ⟨rfl, -⟩
    · exact h.kept place t m' he hp
    · exact absurd hp hplace

/-- A ticket with an outcome is used up. -/
theorem collect (h : Correlated x asked done back) {place : Nat} {t : Ticket} {m : Message}
    {outcome : Outcome} (he : x.sent[place]? = some (t, m))
    (hout : x.pending.outcome? t = some outcome) :
    Correlated { x with
      pending := (x.pending.drop t).1
      collected := x.collected ++ [(place, outcome)] } asked done back := by
  obtain ⟨reply, ho, hdone⟩ := h.reply_of_outcome? he hout
  have hwaiting := Pending.waiting_drop_of_notMem
    (h.notMem_waiting_of_done he (List.mem_map_of_mem hdone))
  refine { h with
    distinct := ?distinct, waiting := ?waiting, ids := ?ids, settled := ?settled,
    collected := ?collected, kept := ?kept }
  case distinct =>
    rw [hwaiting]
    exact h.distinct
  case waiting =>
    rw [hwaiting]
    exact h.waiting
  case ids =>
    rw [hwaiting]
    exact h.ids
  case settled =>
    intro n o hs
    exact h.settled n o (Pending.mem_settled_drop_iff.mp hs).1
  case collected =>
    intro place' o hc
    rcases List.mem_append.mp hc with hc | hc
    · exact h.collected place' o hc
    · cases List.mem_singleton.mp hc
      exact ⟨reply, ho, hdone⟩
  case kept =>
    intro place' t' m' he' hp
    by_cases hn : t'.number = t.number
    · rw [h.place_inj he' he hn]
      exact .inr ⟨outcome, List.mem_append_right _ (List.mem_singleton_self _)⟩
    · rcases h.kept place' t' m' he' hp with ⟨o, hs⟩ | ⟨o, hc⟩
      · exact .inl ⟨o, Pending.mem_settled_drop_iff.mpr ⟨hs, hn⟩⟩
      · exact .inr ⟨o, List.mem_append_left _ hc⟩

/-- A reply comes back. Its request still waits, and the reply is handed to it. -/
theorem settle {place : Nat} {reply : Message}
    (h : Correlated x asked done ((place, reply) :: back)) :
    ∃ t, reply.requestId = .ok (some t.id) ∧ x.pending.find? t.id = some t ∧
      Correlated { x with
        pending := { x.pending with
          waiting := x.pending.waiting.filter fun w => w.id != t.id
          settled := (t.number, .ok reply) :: x.pending.settled } }
        asked (done ++ [(place, reply)]) back := by
  have hmem : (place, reply) ∈ x.answered := by
    rw [h.answered]
    exact List.mem_append_right _ List.mem_cons_self
  obtain ⟨t, m, he, -, hid⟩ := h.replied _ hmem
  have hplace := h.notMem_done_of_back
  have hw : t ∈ x.pending.waiting := (h.waiting t).mpr ⟨place, m, he, hplace⟩
  have hplaces (place' : Nat) : place' ∉ (done ++ [(place, reply)]).map (·.1) ↔
      place' ∉ done.map (·.1) ∧ place' ≠ place := by
    rw [List.map_append, List.mem_append, not_or, List.map_singleton, List.mem_singleton]
  refine ⟨t, hid, Pending.find?_of_mem h.distinct hw, { h with
    answered := ?answered, distinct := ?distinct, waiting := ?waiting, ids := ?ids,
    settled := ?settled, collected := ?collected, kept := ?kept }⟩
  case answered =>
    rw [h.answered, List.append_assoc]
    rfl
  case distinct => exact h.distinct.sublist (List.filter_sublist.map _)
  case waiting =>
    intro t'
    rw [Pending.mem_filter_id_iff h.distinct hw, h.waiting]
    constructor
    · rintro ⟨⟨place', m', he', hp⟩, hne⟩
      exact ⟨place', m', he', (hplaces place').mpr ⟨hp, (h.ticket_ne_iff he he').mp hne⟩⟩
    · rintro ⟨place', m', he', hp⟩
      obtain ⟨hp, hne⟩ := (hplaces place').mp hp
      exact ⟨⟨place', m', he', hp⟩, (h.ticket_ne_iff he he').mpr hne⟩
  case ids =>
    -- The id of the reply is taken away on both sides.
    apply (List.perm_cons (.ok (some t.id))).mp
    have hids := ((Pending.perm_cons_filter_id h.distinct hw).map _).symm.trans h.ids
    rw [List.map_cons, List.map_cons, hid] at hids
    exact hids.trans (perm_middle_third ..)
  case settled =>
    intro n outcome hs
    rcases List.mem_cons.mp hs with hs | hs
    · cases hs
      exact ⟨place, t, m, reply, he, rfl, rfl, List.mem_append_right _ List.mem_cons_self⟩
    · obtain ⟨place', t', m', reply', he', hn, ho, hdone⟩ := h.settled n outcome hs
      exact ⟨place', t', m', reply', he', hn, ho, List.mem_append_left _ hdone⟩
  case collected =>
    intro place' outcome hc
    obtain ⟨reply', ho, hdone⟩ := h.collected place' outcome hc
    exact ⟨reply', ho, List.mem_append_left _ hdone⟩
  case kept =>
    intro place' t' m' he' hp
    by_cases hne : place' = place
    · subst hne
      rw [he] at he'
      cases he'
      exact .inl ⟨.ok reply, List.mem_cons_self⟩
    · have hdone : place' ∈ done.map (·.1) := by
        by_contra hd
        exact (hplaces place').mpr ⟨hd, hne⟩ hp
      rcases h.kept place' t' m' he' hdone with ⟨o, hs⟩ | hc
      · exact .inl ⟨o, List.mem_cons_of_mem _ hs⟩
      · exact .inr hc

/-! ### What the side that answers does -/

/-- A request arrives. -/
theorem hear {m : Message} (h : Correlated x (m :: asked) done back) :
    Correlated { x with received := x.received ++ [m] } asked done back := by
  have hplace : x.received.length ∉ x.answered.map (·.1) := by
    intro hp
    exact Nat.lt_irrefl _ (h.lt_of_answered hp)
  refine { h with order := ?order, replied := ?replied, ids := ?ids }
  case order =>
    rw [h.order, List.append_assoc]
    rfl
  case replied =>
    intro a ha
    obtain ⟨t, m', he, hm, hreply⟩ := h.replied a ha
    exact ⟨t, m', he, getElem?_append_of_eq_some hm, hreply⟩
  case ids =>
    rw [unanswered_concat hplace, List.map_append, List.append_assoc]
    exact h.ids.trans (perm_middle_third ..).symm

/-- A request is answered. -/
theorem answer (h : Correlated x asked done back) {place : Nat} {request reply : Message}
    {id : Int64} (hrequest : x.received[place]? = some request)
    (hplace : place ∉ x.answered.map (·.1)) (hid : request.requestId = .ok (some id))
    (hreply : reply.requestId = .ok (some id)) :
    Correlated { x with answered := x.answered ++ [(place, reply)] } asked done
      (back ++ [(place, reply)]) := by
  obtain ⟨t, he⟩ := h.sent_of_received hrequest
  refine { h with answered := ?answered, once := ?once, replied := ?replied, ids := ?ids }
  case answered => rw [h.answered, List.append_assoc]
  case once =>
    rw [List.map_append]
    exact nodup_concat h.once hplace
  case replied =>
    intro a ha
    rcases List.mem_append.mp ha with ha | ha
    · exact h.replied a ha
    · rw [List.mem_singleton.mp ha]
      refine ⟨t, request, he, hrequest, ?_⟩
      rw [hreply, ← hid]
      exact (h.named _ (List.mem_of_getElem? he)).2
  case ids =>
    have hopen := (perm_cons_unanswered hrequest hplace reply).map Message.requestId
    rw [List.map_cons, hid] at hopen
    refine h.ids.trans (((hopen.append_right _).append_left _).trans ?_)
    rw [List.cons_append, List.map_append, List.map_singleton, hreply]
    refine List.perm_middle.trans ?_
    rw [← List.append_assoc, ← List.append_assoc, ← List.append_assoc]
    exact (List.perm_append_singleton _ _).symm

end Correlated

/-! ### Messages on their way -/

/-- The requests of a side are in order, where `mine` are the messages on their way to the other
side, and `theirs` those on their way back. -/
def Matched (x : Exchange) (mine theirs : List Message) : Prop :=
  ∃ done back, Correlated x (mine.filter (·.layer.isRequest)) done back ∧
    back.map (·.2) = theirs.filter (·.layer.isReply)

variable {mine theirs : List Message} {m : Message}

/-- No reply of a side is a request of it. -/
theorem matched_mine_concat (h : m.layer.isRequest = false) :
    Matched x (mine ++ [m]) theirs ↔ Matched x mine theirs := by
  simp [Matched, h]

/-- No request of the other side is a reply of it. -/
theorem matched_theirs_concat (h : m.layer.isReply = false) :
    Matched x mine (theirs ++ [m]) ↔ Matched x mine theirs := by
  simp [Matched, h]

/-- No reply of a side is a request of it that arrives. -/
theorem matched_mine_cons (h : m.layer.isRequest = false) :
    Matched x (m :: mine) theirs ↔ Matched x mine theirs := by
  simp [Matched, h]

/-- No request of the other side is a reply of it that arrives. -/
theorem matched_theirs_cons (h : m.layer.isReply = false) :
    Matched x mine (m :: theirs) ↔ Matched x mine theirs := by
  simp [Matched, h]

namespace Matched

/-- Other ids and tickets that are handed out next make no difference. -/
theorem keep (h : Matched x mine theirs) {pending : Pending} (hkeeps : x.pending.Keeps pending) :
    Matched { x with pending } mine theirs := by
  rcases h with ⟨done, back, hcorrelated, hback⟩
  exact ⟨done, back, hcorrelated.keep hkeeps, hback⟩

/-- A request is sent under an id that nobody waits for. -/
theorem ask (h : Matched x mine theirs) {lastId id : Int64} (hlayer : m.layer.isRequest = true)
    (hid : m.requestId = .ok (some id)) (hunused : x.pending.contains id = false) {t : Ticket}
    (ht : t = ⟨id, x.pending.nextNumber⟩) :
    Matched { x with
      pending := ⟨lastId, x.pending.nextNumber + 1, x.pending.waiting ++ [t], x.pending.settled⟩
      sent := x.sent ++ [(t, m)] } (mine ++ [m]) theirs := by
  rcases h with ⟨done, back, hcorrelated, hback⟩
  have hmine : (mine ++ [m]).filter (·.layer.isRequest) =
      mine.filter (·.layer.isRequest) ++ [m] := by
    simp [hlayer]
  refine ⟨done, back, ?_, hback⟩
  rw [hmine]
  exact hcorrelated.ask hlayer hid hunused ht

/-- A ticket with an outcome is used up. -/
theorem collect (h : Matched x mine theirs) {place : Nat} {t : Ticket} {outcome : Outcome}
    (he : x.sent[place]? = some (t, m)) (hout : x.pending.outcome? t = some outcome) :
    Matched { x with
      pending := (x.pending.drop t).1
      collected := x.collected ++ [(place, outcome)] } mine theirs := by
  rcases h with ⟨done, back, hcorrelated, hback⟩
  exact ⟨done, back, hcorrelated.collect he hout, hback⟩

/-- A reply that comes back is handed to its request. -/
theorem settle (h : Matched x mine (m :: theirs)) (hlayer : m.layer.isReply = true) :
    ∃ t, m.requestId = .ok (some t.id) ∧ x.pending.find? t.id = some t ∧
      Matched { x with
        pending := { x.pending with
          waiting := x.pending.waiting.filter fun w => w.id != t.id
          settled := (t.number, .ok m) :: x.pending.settled } } mine theirs := by
  rcases h with ⟨done, back, hcorrelated, hback⟩
  simp only [List.filter_cons, hlayer, if_true, List.map_eq_cons_iff] at hback
  rcases hback with ⟨⟨place, reply⟩, back, rfl, rfl, hback⟩
  obtain ⟨t, hid, hfind, hsettled⟩ := hcorrelated.settle
  exact ⟨t, hid, hfind, _, back, hsettled, hback⟩

/-- A request arrives. -/
theorem hear (h : Matched x (m :: mine) theirs) (hlayer : m.layer.isRequest = true) :
    Matched { x with received := x.received ++ [m] } mine theirs := by
  rcases h with ⟨done, back, hcorrelated, hback⟩
  simp only [List.filter_cons, hlayer, if_true] at hcorrelated
  exact ⟨done, back, hcorrelated.hear, hback⟩

/-- A request that has arrived is answered under its id. -/
theorem answer (h : Matched x mine theirs) {place : Nat} {request : Message}
    (hrequest : x.received[place]? = some request) (hplace : place ∉ x.answered.map (·.1)) :
    request.layer.isRequest = true ∧ ∃ id, request.requestId = .ok (some id) ∧
      ∀ reply : Message, reply.layer.isReply = true → reply.requestId = .ok (some id) →
        Matched { x with answered := x.answered ++ [(place, reply)] } mine
          (theirs ++ [reply]) := by
  rcases h with ⟨done, back, hcorrelated, hback⟩
  obtain ⟨t, ht⟩ := hcorrelated.sent_of_received hrequest
  obtain ⟨hlayer, hid⟩ := hcorrelated.named _ (List.mem_of_getElem? ht)
  refine ⟨hlayer, t.id, hid, ?_⟩
  intro reply hreply hreplied
  refine ⟨done, back ++ [(place, reply)], hcorrelated.answer hrequest hplace hid hreplied, ?_⟩
  simp [hback, hreply]

end Matched

end ProxyLink.Conversation
