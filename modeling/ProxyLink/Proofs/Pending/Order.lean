import ProxyLink.Proofs.Pending.Ledger

/-!
# Resolutions in any order

Replies, cancellations and expiries settle registrations by their ids. `resolveAll_eq` tells what a
list of them makes of a table when no two of them act on one id: each is answered as if it were the
only one, and settles what it would settle then. Main statement, which comes last: it makes no
difference in which order they come.
-/

namespace ProxyLink

/-- What settles a registration from outside, by its id. -/
inductive Resolution where
  | complete (reply : Message)
  | cancel (id : Int64)
  | expire (id : Int64)

/-- What a resolution is answered. -/
inductive Verdict where
  /-- The id that a reply was handed over under, or why it was not. -/
  | delivery (result : Except Failure Int64)
  /-- Whether somebody was released. -/
  | release (released : Bool)

namespace Resolution

/-- The id that a resolution acts on. A reply that is for nobody acts on none. -/
def id? : Resolution → Option Int64
  | .complete reply => reply.addressee.toOption
  | .cancel id | .expire id => some id

def actsOn (r : Resolution) (id : Int64) : Bool := r.id? == some id

/-- Two resolutions act on ids that differ, as far as they act on any. -/
def Apart (r r' : Resolution) : Prop := ∀ id, r.id? = some id → r'.id? ≠ some id

/-- The outcome that a resolution brings to whoever waits for its id. -/
def outcome : Resolution → Outcome
  | .complete reply => .ok reply
  | .cancel id => .error (.cancelled id)
  | .expire id => .error (.timedOut id)

/-- What a resolution is answered, which depends on whether somebody waits for its id. -/
def verdict (found : Bool) : Resolution → Verdict
  | .complete reply =>
    match reply.addressee with
    | .error failure => .delivery (.error failure)
    | .ok id => .delivery (if found then .ok id else .error (.orphan id reply.type))
  | .cancel _ | .expire _ => .release found

theorem apart_of_ne {r r' : Resolution} (h : r.id? ≠ r'.id?) : r.Apart r' :=
  fun _ hid hid' => h (hid.trans hid'.symm)

theorem Apart.symm {r r' : Resolution} (h : r.Apart r') : r'.Apart r :=
  fun id hid' hid => h id hid hid'

end Resolution

namespace Pending

variable {p : Pending} {r : Resolution} {rs : List Resolution}

/-- The answer to a resolution, and the table after it. -/
def resolve (p : Pending) : Resolution → Verdict × Pending
  | .complete reply => (.delivery (p.deliver reply).1, (p.deliver reply).2)
  | .cancel id => (.release (p.cancel id).1, (p.cancel id).2)
  | .expire id => (.release (p.expire id).1, (p.expire id).2)

/-- The answers to resolutions one by one, and the table after them. -/
def resolveAll (p : Pending) : List Resolution → List Verdict × Pending
  | [] => ([], p)
  | r :: rs =>
    let (verdict, p) := p.resolve r
    let (verdicts, p) := p.resolveAll rs
    (verdict :: verdicts, p)

/-- The registration that a resolution settles. -/
def target? (p : Pending) (r : Resolution) : Option Ticket := r.id?.bind p.find?

/-- What a resolution notes: its outcome, under the number of the registration that it settles. -/
def note? (p : Pending) (r : Resolution) : Option (Nat × Outcome) :=
  (p.target? r).map fun t => (t.number, r.outcome)

/-! ### One resolution -/

/-- Settling an id takes away the registration that waits under it and notes the outcome for it, if
there is one. -/
theorem settle_eq (p : Pending) (id : Int64) (outcome : Outcome) :
    p.settle id outcome = ((p.find? id).isSome, { p with
      waiting := p.waiting.filter fun t => !(some id == some t.id)
      settled := ((p.find? id).map fun t => (t.number, outcome)).toList ++ p.settled }) := by
  have hfilter : (p.waiting.filter fun t => !(some id == some t.id)) =
      p.waiting.filter fun t => t.id != id := by
    apply List.filter_congr
    intro t _
    rw [Option.some_beq_some, BEq.comm]
    rfl
  rw [hfilter]
  obtain ⟨t, hfind, hsettle⟩ | ⟨hfind, hsettle⟩ := p.settle_cases id outcome
  · rw [hsettle, hfind]
    rfl
  · have hkept : (p.waiting.filter fun t => t.id != id) = p.waiting := by
      apply List.filter_eq_self.mpr
      intro t ht
      exact bne_iff_ne.mpr fun hid => List.find?_eq_none.mp hfind t ht (beq_iff_eq.mpr hid)
    rw [hsettle, hfind, hkept]
    rfl

/-- A resolution is answered by whether somebody waits for its id, and settles whoever does. -/
theorem resolve_eq (p : Pending) (r : Resolution) :
    p.resolve r = (r.verdict (p.target? r).isSome, { p with
      waiting := p.waiting.filter fun t => !r.actsOn t.id
      settled := (p.note? r).toList ++ p.settled }) := by
  cases r with
  | cancel id =>
    rw [resolve, cancel, settle_eq]
    rfl
  | expire id =>
    rw [resolve, expire, settle_eq]
    rfl
  | complete reply =>
    cases haddressee : reply.addressee with
    | error failure =>
      have hkept : (p.waiting.filter fun t => !((none : Option Int64) == some t.id)) = p.waiting :=
        List.filter_true _
      simp only [resolve, deliver_eq, note?, target?, Resolution.actsOn, Resolution.id?,
        Resolution.verdict, haddressee, Except.toOption, hkept]
      rfl
    | ok id =>
      simp only [resolve, deliver_eq, note?, target?, Resolution.actsOn, Resolution.id?,
        Resolution.verdict, haddressee, Except.toOption, settle_eq]
      rfl

/-- What a resolution settles is not changed by one that acts on another id. -/
theorem target?_resolve {r' : Resolution} (h : r.Apart r') :
    (p.resolve r).2.target? r' = p.target? r' := by
  rw [resolve_eq]
  unfold target?
  cases hid : r'.id? with
  | none => rfl
  | some id =>
    simp only [Option.bind_some, find?, List.find?_filter]
    congr 1
    funext t
    by_cases ht : t.id = id
    · have hne : r.actsOn t.id = false := by
        rw [Resolution.actsOn, beq_eq_false_iff_ne, ht]
        exact fun hr => h id hr hid
      simp only [hne, Bool.not_false, true_and, Bool.decide_eq_true]
    · simp [ht]

/-! ### Many resolutions -/

theorem resolveAll_cons (p : Pending) (r : Resolution) (rs : List Resolution) :
    p.resolveAll (r :: rs) = ((p.resolve r).1 :: ((p.resolve r).2.resolveAll rs).1,
      ((p.resolve r).2.resolveAll rs).2) := rfl

/-- Of resolutions that act on ids that differ, each is answered as if it were the only one, and
settles what it would settle then. -/
theorem resolveAll_eq (p : Pending) (h : rs.Pairwise Resolution.Apart) :
    p.resolveAll rs = (rs.map fun r => (p.resolve r).1, { p with
      waiting := p.waiting.filter fun t => !rs.any (·.actsOn t.id)
      settled := (rs.filterMap p.note?).reverse ++ p.settled }) := by
  induction rs generalizing p with
  | nil => simp [resolveAll]
  | cons r rs ih =>
    obtain ⟨hfirst, hrest⟩ := List.pairwise_cons.mp h
    -- The first resolution takes nothing away from the others, which act on other ids.
    have htarget : ∀ r' ∈ rs, (p.resolve r).2.target? r' = p.target? r' :=
      fun r' hr' => target?_resolve (hfirst r' hr')
    have hverdicts : rs.map (fun r' => ((p.resolve r).2.resolve r').1) =
        rs.map fun r' => (p.resolve r').1 := by
      apply List.map_congr_left
      intro r' hr'
      simp only [resolve_eq _ r', htarget r' hr']
    have hnotes : rs.filterMap (p.resolve r).2.note? = rs.filterMap p.note? := by
      apply List.filterMap_congr
      intro r' hr'
      rw [note?, note?, htarget r' hr']
    have hwaiting : ((p.waiting.filter fun t => !r.actsOn t.id).filter fun t =>
          !rs.any (·.actsOn t.id)) = p.waiting.filter fun t => !(r :: rs).any (·.actsOn t.id) := by
      rw [List.filter_filter]
      apply List.filter_congr
      intro t _
      rw [List.any_cons, Bool.not_or, Bool.and_comm]
    have hsettled : (rs.filterMap p.note?).reverse ++ ((p.note? r).toList ++ p.settled) =
        ((r :: rs).filterMap p.note?).reverse ++ p.settled := by
      rw [List.filterMap_cons]
      cases p.note? r <;> simp
    rw [resolveAll_cons, ih _ hrest, hverdicts, hnotes, resolve_eq p r, ← hwaiting, ← hsettled]
    simp only [List.map_cons, resolve_eq p r]

/-- The registration that a resolution settles waits, under the id that is acted on. -/
theorem mem_of_target? {t : Ticket} (h : p.target? r = some t) :
    t ∈ p.waiting ∧ r.id? = some t.id := by
  obtain ⟨id, hid, hfind⟩ := Option.bind_eq_some_iff.mp h
  obtain ⟨ht, rfl⟩ := mem_of_find? hfind
  exact ⟨ht, hid⟩

/-- Nothing is noted twice for one registration. -/
theorem nodup_notes (hnumbered : (p.waiting.map (·.number)).Nodup)
    (h : rs.Pairwise Resolution.Apart) : ((rs.filterMap p.note?).reverse.map (·.1)).Nodup := by
  rw [List.map_reverse, List.nodup_reverse, List.Nodup, List.pairwise_map]
  refine h.filterMap _ ?_
  intro r r' hapart e he e' he' hn
  obtain ⟨t, htarget, rfl⟩ := Option.map_eq_some_iff.mp he
  obtain ⟨t', htarget', rfl⟩ := Option.map_eq_some_iff.mp he'
  obtain ⟨ht, hid⟩ := mem_of_target? htarget
  obtain ⟨ht', hid'⟩ := mem_of_target? htarget'
  obtain rfl : t = t' := List.inj_on_of_nodup_map hnumbered ht ht' hn
  exact hapart t.id hid hid'

/-- A ticket has the outcome that was noted for it, or else the one that it had. -/
theorem outcome?_resolveAll (p : Pending) (h : rs.Pairwise Resolution.Apart) (t : Ticket) :
    (p.resolveAll rs).2.outcome? t =
      ((rs.filterMap p.note?).reverse.lookup t.number).or (p.outcome? t) := by
  rw [resolveAll_eq p h]
  exact List.lookup_append

/-- Tables that agree in everything but the order in which outcomes were noted. -/
structure Alike (p p' : Pending) : Prop where
  lastId : p.lastId = p'.lastId
  nextNumber : p.nextNumber = p'.nextNumber
  waiting : p.waiting = p'.waiting
  settled : p.settled.Perm p'.settled
  /-- The order of outcomes is nothing that a ticket can learn. -/
  outcome : ∀ t, p.outcome? t = p'.outcome? t

/-- It makes no difference for a table in which order resolutions come that act on ids that
differ. -/
theorem alike_resolveAll (hnumbered : (p.waiting.map (·.number)).Nodup)
    (h : rs.Pairwise Resolution.Apart) {rs' : List Resolution} (hperm : rs.Perm rs') :
    (p.resolveAll rs).2.Alike (p.resolveAll rs').2 := by
  have h' : rs'.Pairwise Resolution.Apart := hperm.pairwise h Resolution.Apart.symm
  have hnotes : (rs.filterMap p.note?).reverse.Perm (rs'.filterMap p.note?).reverse :=
    (List.reverse_perm _).trans ((hperm.filterMap _).trans (List.reverse_perm _).symm)
  have hany : ∀ id, rs.any (·.actsOn id) = rs'.any (·.actsOn id) := fun _ => hperm.any_eq
  refine ⟨?_, ?_, ?_, ?_, ?_⟩
  · rw [resolveAll_eq p h, resolveAll_eq p h']
  · rw [resolveAll_eq p h, resolveAll_eq p h']
  · simp only [resolveAll_eq p h, resolveAll_eq p h', hany]
  · rw [resolveAll_eq p h, resolveAll_eq p h']
    exact hnotes.append_right _
  · intro t
    rw [outcome?_resolveAll p h, outcome?_resolveAll p h',
      lookup_perm hnotes (nodup_notes hnumbered h)]

/-! ### Replies to requests that wait -/

/-- A message answers the request of a ticket that waits: it is a reply with the id of the
ticket. -/
structure Answers (p : Pending) (t : Ticket) (reply : Message) : Prop where
  waits : t ∈ p.waiting
  isReply : reply.layer.isReply = true
  requestId : reply.requestId = .ok (some t.id)

namespace Answers

variable {t : Ticket} {reply : Message}

theorem id?_complete (h : p.Answers t reply) : (Resolution.complete reply).id? = some t.id := by
  rw [Resolution.id?, Message.addressee, if_pos h.isReply, h.requestId]
  rfl

/-- An answer settles the registration of its ticket. -/
theorem target?_complete (h : p.Answers t reply) (hdistinct : (p.waiting.map (·.id)).Nodup) :
    p.target? (.complete reply) = some t := by
  rw [target?, h.id?_complete]
  exact find?_of_mem hdistinct h.waits

theorem resolve_complete (h : p.Answers t reply) (hdistinct : (p.waiting.map (·.id)).Nodup) :
    (p.resolve (.complete reply)).1 = .delivery (.ok t.id) := by
  rw [resolve_eq, h.target?_complete hdistinct, Resolution.verdict, Message.addressee,
    if_pos h.isReply, h.requestId]
  rfl

end Answers

section

variable {answers : List (Ticket × Message)}

theorem apart_answers (hids : (answers.map (·.1.id)).Nodup)
    (hanswers : ∀ e ∈ answers, p.Answers e.1 e.2) :
    (answers.map fun e => Resolution.complete e.2).Pairwise Resolution.Apart := by
  rw [List.pairwise_map]
  refine (List.pairwise_map.mp hids).imp_of_mem ?_
  intro e e' he he' hne
  apply Resolution.apart_of_ne
  rw [(hanswers e he).id?_complete, (hanswers e' he').id?_complete]
  exact fun hid => hne (Option.some.inj hid)

/-- Answers act on the ids of their tickets. -/
theorem any_actsOn_answers (hanswers : ∀ e ∈ answers, p.Answers e.1 e.2) (id : Int64) :
    (answers.map fun e => Resolution.complete e.2).any (·.actsOn id) = true ↔
      id ∈ answers.map (·.1.id) := by
  rw [List.any_map, List.any_eq_true, List.mem_map]
  refine exists_congr fun e => and_congr_right fun he => ?_
  rw [Function.comp_apply, Resolution.actsOn, (hanswers e he).id?_complete, beq_iff_eq,
    Option.some_inj]

/-- Answers to different requests are all accepted, and each is the outcome of its ticket. -/
theorem resolveAll_answers (hdistinct : (p.waiting.map (·.id)).Nodup)
    (hnumbered : (p.waiting.map (·.number)).Nodup) (hids : (answers.map (·.1.id)).Nodup)
    (hanswers : ∀ e ∈ answers, p.Answers e.1 e.2) :
    let (verdicts, p') := p.resolveAll (answers.map fun e => .complete e.2)
    verdicts = answers.map (fun e => .delivery (.ok e.1.id)) ∧
    (∀ e ∈ answers, p'.outcome? e.1 = some (.ok e.2)) ∧
    p'.waiting = p.waiting.filter fun t => t.id ∉ answers.map (·.1.id) := by
  let rs : List Resolution := answers.map fun e => .complete e.2
  have hapart : rs.Pairwise Resolution.Apart := apart_answers hids hanswers
  refine ⟨?_, ?_, ?_⟩
  · rw [resolveAll_eq p hapart, List.map_map]
    apply List.map_congr_left
    intro e he
    exact (hanswers e he).resolve_complete hdistinct
  · intro e he
    have hnote : (e.1.number, Except.ok e.2) ∈ (rs.filterMap p.note?).reverse := by
      rw [List.mem_reverse, List.mem_filterMap]
      refine ⟨.complete e.2, List.mem_map_of_mem he, ?_⟩
      rw [note?, (hanswers e he).target?_complete hdistinct]
      rfl
    rw [outcome?_resolveAll p hapart, lookup_of_mem (nodup_notes hnumbered hapart) hnote]
    rfl
  · rw [resolveAll_eq p hapart]
    apply List.filter_congr
    intro t _
    rw [Bool.eq_iff_iff, Bool.not_eq_true', decide_eq_true_iff, ← any_actsOn_answers hanswers,
      Bool.not_eq_true]

end

end Pending

namespace Ledger

/-- After every history of a table, resolutions that act on pairwise different ids, whether or not
anybody waits for these, may come in any order. Each is answered as if it were the only one; the
table afterwards is the same, and so is the outcome of each ticket. In particular, answers to
different requests that wait, in whatever order they come, are all accepted, each is the outcome of
the ticket of its request, and just these requests wait no more. -/
theorem resolved_in_any_order (ops : List Operation) {rs rs' : List Resolution}
    (hapart : rs.Pairwise Resolution.Apart) (hperm : rs.Perm rs') :
    let p := (start.run ops).table
    (p.resolveAll rs).1 = rs.map (fun r => (p.resolve r).1) ∧
    (p.resolveAll rs').1 = rs'.map (fun r => (p.resolve r).1) ∧
    (p.resolveAll rs).2.Alike (p.resolveAll rs').2 ∧
    ∀ answers : List (Ticket × Message), (answers.map (·.1.id)).Nodup →
      (∀ e ∈ answers, p.Answers e.1 e.2) →
      let (verdicts, p') := p.resolveAll (answers.map fun e => .complete e.2)
      verdicts = answers.map (fun e => .delivery (.ok e.1.id)) ∧
      (∀ e ∈ answers, p'.outcome? e.1 = some (.ok e.2)) ∧
      p'.waiting = p.waiting.filter fun t => t.id ∉ answers.map (·.1.id) := by
  intro p
  have haccounted : (start.run ops).Accounted := accounted_run ops
  have hapart' : rs'.Pairwise Resolution.Apart := hperm.pairwise hapart Resolution.Apart.symm
  refine ⟨?_, ?_, Pending.alike_resolveAll haccounted.numbered_waiting hapart hperm, ?_⟩
  · rw [Pending.resolveAll_eq p hapart]
  · rw [Pending.resolveAll_eq p hapart']
  · intro answers hids hanswers
    exact Pending.resolveAll_answers haccounted.distinct haccounted.numbered_waiting hids hanswers

/-- Of three requests, one is answered with an id that has a sign and one is cancelled, while the id
of no request expires. -/
theorem resolved_among_others :
    let p := (start.run [.register 1, .register 2, .register 3]).table
    let reply := (Message.ofStandard .echoReply).insertText "RequestId" "+2"
    let rs : List Resolution := [.cancel 1, .complete reply, .expire 9]
    (p.resolveAll rs).1 = [.release true, .delivery (.ok 2), .release false] ∧
    (p.resolveAll rs.reverse).1 = [.release false, .delivery (.ok 2), .release true] ∧
    (p.resolveAll rs).2.Alike (p.resolveAll rs.reverse).2 ∧
    (p.resolveAll [.complete reply]).2.outcome? ⟨2, 1⟩ = some (.ok reply) := by
  intro p reply rs
  have hids : (rs.map Resolution.id?).Nodup := by decide +kernel
  have hapart : rs.Pairwise Resolution.Apart :=
    (List.pairwise_map.mp hids).imp Resolution.apart_of_ne
  have hanswers : ∀ e ∈ [((⟨2, 1⟩ : Ticket), reply)], p.Answers e.1 e.2 := by
    intro e he
    rw [List.mem_singleton.mp he]
    exact ⟨by decide, rfl, by decide +kernel⟩
  obtain ⟨hfirst, hsecond, halike, hanswered⟩ :=
    resolved_in_any_order [.register 1, .register 2, .register 3] hapart rs.reverse_perm.symm
  refine ⟨hfirst.trans ?_, hsecond.trans ?_, halike, ?_⟩
  · rfl
  · rfl
  · exact (hanswered [(⟨2, 1⟩, reply)] (by decide) hanswers).2.1 _ List.mem_cons_self

end Ledger

end ProxyLink
