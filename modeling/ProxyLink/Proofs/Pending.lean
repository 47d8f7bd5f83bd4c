import Mathlib.Data.List.Nodup
import ProxyLink.Pending
import ProxyLink.Proofs.Lookup

/-!
# What the table of requests does

Each operation is described by the registrations that wait and the outcomes that are known after it.
The only thing that an operation needs to know of the table is that no id waits twice.
-/

namespace ProxyLink

namespace Message

variable {m : Message}

/-- Whom a reply is for: the id that it is delivered under, or why there is none. -/
def addressee (reply : Message) : Except Failure Int64 :=
  if reply.layer.isReply then
    match reply.requestId with
    | .error e => .error (.property e)
    | .ok none => .error (.missingId reply.type)
    | .ok (some id) => .ok id
  else .error (.notReply reply.type)

theorem addressee_of_text?_none (hlayer : m.layer.isReply = true)
    (htext : m.bag.text? Field.requestId.key = none) :
    m.addressee = .error (.missingId m.type) := by
  rw [addressee, if_pos hlayer, requestId, Bag.get, htext]

/-- A reply is for the id that the text of its request id reads as. -/
theorem addressee_of_text? (hlayer : m.layer.isReply = true) {text : String}
    (htext : m.bag.text? Field.requestId.key = some text) :
    m.addressee =
      match (Property.ofText? text : Option Int64) with
      | some id => .ok id
      | none => .error (.property ⟨Field.requestId.key, Property.typeName Int64, text⟩) := by
  rw [addressee, if_pos hlayer, requestId, Bag.get, htext]
  simp only
  cases (Property.ofText? text : Option Int64) <;> rfl

end Message

namespace Pending

variable {p : Pending}

/-- A table that has the registrations and the outcomes of another one, and at most hands out other
ids and tickets. -/
structure Keeps (p p' : Pending) : Prop where
  waiting : p'.waiting = p.waiting
  settled : p'.settled = p.settled
  nextNumber : p.nextNumber ≤ p'.nextNumber

/-! ### Registrations that wait -/

/-- An id waits when a registration with that id does. -/
theorem contains_iff {id : Int64} : p.contains id = true ↔ id ∈ p.waiting.map (·.id) := by
  simp only [contains, find?, List.find?_isSome, beq_iff_eq, List.mem_map]

/-- Where no id waits twice, each registration that waits is the one found under its id. -/
theorem find?_of_mem (hdistinct : (p.waiting.map (·.id)).Nodup) {t : Ticket}
    (ht : t ∈ p.waiting) : p.find? t.id = some t := by
  cases h : p.find? t.id with
  | none => exact absurd (beq_self_eq_true t.id) (List.find?_eq_none.mp h t ht)
  | some t' =>
    have hid := List.find?_some h
    rw [List.inj_on_of_nodup_map hdistinct (List.mem_of_find?_eq_some h) ht (beq_iff_eq.mp hid)]

/-- An id that waits already is not registered again. -/
theorem register_of_contains {id : Int64} (h : p.contains id = true) :
    p.register id = (.error (.duplicateId id), { p with nextNumber := p.nextNumber + 1 }) := by
  rw [register, if_pos h]

/-- An id that does not wait is registered, with the next number. -/
theorem register_of_not_contains {id : Int64} (h : p.contains id = false) :
    p.register id = (.ok ⟨id, p.nextNumber⟩,
      { p with
        nextNumber := p.nextNumber + 1
        waiting := p.waiting ++ [⟨id, p.nextNumber⟩] }) := by
  rw [register, if_neg (by rw [h]; exact Bool.false_ne_true)]

/-- Where no id waits twice, a registration is taken away by its id or by itself alike. -/
theorem filter_id_eq (hdistinct : (p.waiting.map (·.id)).Nodup) {t : Ticket} (ht : t ∈ p.waiting) :
    p.waiting.filter (fun w => w.id != t.id) = p.waiting.filter (· != t) := by
  apply List.filter_congr
  intro w hw
  rw [Bool.eq_iff_iff, bne_iff_ne, bne_iff_ne]
  exact not_congr ⟨List.inj_on_of_nodup_map hdistinct hw ht, congrArg Ticket.id⟩

/-- The registration of an id is taken away, and no other one. -/
theorem mem_filter_id_iff (hdistinct : (p.waiting.map (·.id)).Nodup) {t t' : Ticket}
    (ht : t ∈ p.waiting) :
    t' ∈ p.waiting.filter (fun w => w.id != t.id) ↔ t' ∈ p.waiting ∧ t' ≠ t := by
  rw [filter_id_eq hdistinct ht, List.mem_filter, bne_iff_ne]

/-- What waits is the registration that is taken away, and the others. -/
theorem perm_cons_filter_id (hdistinct : (p.waiting.map (·.id)).Nodup) {t : Ticket}
    (ht : t ∈ p.waiting) : p.waiting.Perm (t :: p.waiting.filter fun w => w.id != t.id) := by
  rw [filter_id_eq hdistinct ht, ← hdistinct.of_map.erase_eq_filter]
  exact List.perm_cons_erase ht

/-! ### Replies and outcomes -/

/-- A reply to an id that waits is handed to the registration that waits under it. -/
theorem deliver_of_find? {reply : Message} {id : Int64} {t : Ticket}
    (hlayer : reply.layer.isReply = true) (hid : reply.requestId = .ok (some id))
    (hfind : p.find? id = some t) :
    p.deliver reply = (.ok id, { p with
      waiting := p.waiting.filter fun w => w.id != id
      settled := (t.number, .ok reply) :: p.settled }) := by
  rw [deliver, if_pos hlayer, hid]
  simp only [settle, hfind]

theorem mem_settled_of_outcome? {t : Ticket} {outcome : Outcome}
    (h : p.outcome? t = some outcome) : (t.number, outcome) ∈ p.settled := by
  obtain ⟨before, behind, hsplit, -⟩ := List.lookup_eq_some_iff.mp h
  rw [hsplit]
  exact List.mem_append_right _ List.mem_cons_self

theorem isSome_outcome?_of_mem {t : Ticket} {outcome : Outcome}
    (h : (t.number, outcome) ∈ p.settled) : (p.outcome? t).isSome = true :=
  List.lookup_isSome_iff.mpr ⟨_, h, beq_self_eq_true _⟩

theorem waiting_drop_of_notMem {t : Ticket} (h : t ∉ p.waiting) :
    (p.drop t).1.waiting = p.waiting := by
  apply List.filter_eq_self.mpr
  intro w hw
  apply bne_iff_ne.mpr
  rintro rfl
  exact h hw

/-- Giving up a ticket forgets what was noted under its number, and nothing else. -/
theorem mem_settled_drop_iff {t : Ticket} {n : Nat} {outcome : Outcome} :
    (n, outcome) ∈ (p.drop t).1.settled ↔ (n, outcome) ∈ p.settled ∧ n ≠ t.number := by
  apply List.mem_filter.trans
  apply and_congr_right
  intro _
  exact bne_iff_ne

/-! ### What each operation makes of the outcomes -/

/-- The registration that is found under an id waits, and has that id. -/
theorem mem_of_find? {id : Int64} {t : Ticket} (h : p.find? id = some t) :
    t ∈ p.waiting ∧ t.id = id := by
  have hid := List.find?_some h
  exact ⟨List.mem_of_find?_eq_some h, beq_iff_eq.mp hid⟩

/-- Settling changes something exactly when somebody waits, whose outcome it then is. -/
theorem settle_cases (p : Pending) (id : Int64) (outcome : Outcome) :
    (∃ t, p.find? id = some t ∧ p.settle id outcome = (true, { p with
      waiting := p.waiting.filter fun w => w.id != id
      settled := (t.number, outcome) :: p.settled })) ∨
    p.find? id = none ∧ p.settle id outcome = (false, p) := by
  rw [settle]
  cases p.find? id with
  | none => exact .inr ⟨rfl, rfl⟩
  | some t => exact .inl ⟨t, rfl, rfl⟩

theorem settle_iff_contains (p : Pending) (id : Int64) (outcome : Outcome) :
    (p.settle id outcome).1 = true ↔ p.contains id = true := by
  unfold settle contains
  cases p.find? id <;> simp

/-- A reply settles the id that it is for, and what is for nobody changes nothing. -/
theorem deliver_eq (p : Pending) (reply : Message) :
    p.deliver reply =
      match reply.addressee with
      | .error failure => (.error failure, p)
      | .ok id =>
        let (found, p) := p.settle id (.ok reply)
        (if found then .ok id else .error (.orphan id reply.type), p) := by
  rw [deliver, Message.addressee]
  split
  · cases reply.requestId with
    | error e => rfl
    | ok named =>
      cases named with
      | none => rfl
      | some id =>
        obtain ⟨t, -, hsettle⟩ | ⟨-, hsettle⟩ := p.settle_cases id (.ok reply)
        · simp only [hsettle, if_true]
        · simp only [hsettle, Bool.false_eq_true, if_false]
  · rfl

/-- A reply that has an id is accepted exactly when somebody waits for that id. -/
theorem deliver_iff_contains (p : Pending) {reply : Message} {id : Int64}
    (hlayer : reply.layer.isReply = true) (hid : reply.requestId = .ok (some id)) :
    (p.deliver reply).1 = .ok id ↔ p.contains id = true := by
  have haddressee : reply.addressee = .ok id := by
    rw [Message.addressee, if_pos hlayer, hid]
  rw [deliver_eq, haddressee, ← p.settle_iff_contains id (.ok reply)]
  simp only
  cases (p.settle id (.ok reply)).1 <;> simp

/-- A reply is handed over as the outcome of whoever waits for its id, or nothing changes. -/
theorem deliver_cases (p : Pending) (reply : Message) :
    (∃ id t, p.find? id = some t ∧ p.deliver reply = (.ok id, (p.settle id (.ok reply)).2)) ∨
      ∃ failure, p.deliver reply = (.error failure, p) := by
  rw [deliver_eq]
  cases reply.addressee with
  | error failure => exact .inr ⟨failure, rfl⟩
  | ok id =>
    obtain ⟨t, hfind, hsettle⟩ | ⟨-, hsettle⟩ := p.settle_cases id (.ok reply)
    · exact .inl ⟨id, t, hfind, by simp only [hsettle, if_true]⟩
    · exact .inr ⟨.orphan id reply.type, by simp only [hsettle, Bool.false_eq_true, if_false]⟩

/-- A reply is handed over, or nobody waits for it, or it has no id that can be read. -/
theorem deliver_of_isReply (p : Pending) {reply : Message}
    (hreply : reply.layer.isReply = true) :
    (∃ id p', p.deliver reply = (.ok id, p')) ∨
    (∃ id p', p.deliver reply = (.error (.orphan id reply.type), p')) ∨
    p.deliver reply = (.error (.missingId reply.type), p) ∨
    ∃ e, p.deliver reply = (.error (.property e), p) := by
  rw [deliver, if_pos hreply]
  cases reply.requestId with
  | error e => exact .inr (.inr (.inr ⟨e, rfl⟩))
  | ok named =>
    cases named with
    | none => exact .inr (.inr (.inl rfl))
    | some id =>
      obtain ⟨t, -, hsettle⟩ | ⟨-, hsettle⟩ := p.settle_cases id (.ok reply)
      · simp only [hsettle]
        exact .inl ⟨id, _, rfl⟩
      · simp only [hsettle]
        exact .inr (.inl ⟨id, _, rfl⟩)

/-- An outcome that is noted is that of its ticket, and leaves the others alone. -/
theorem outcome?_note {waiting : List Ticket} {n : Nat} {outcome : Outcome} (t : Ticket) :
    ({ p with waiting, settled := (n, outcome) :: p.settled } : Pending).outcome? t =
      if t.number = n then some outcome else p.outcome? t :=
  lookup_cons_ite (n, outcome) p.settled t.number

theorem waiting_settle {id : Int64} {t : Ticket} (hfind : p.find? id = some t) (outcome : Outcome) :
    (p.settle id outcome).2.waiting = p.waiting.filter fun w => w.id != id := by
  rw [settle, hfind]

/-- Whoever is found under an id has the outcome that the id is settled with, and nobody else's
outcome changes. -/
theorem outcome?_settle {id : Int64} {t : Ticket} (hfind : p.find? id = some t) (outcome : Outcome)
    (t' : Ticket) : (p.settle id outcome).2.outcome? t' =
      if t'.number = t.number then some outcome else p.outcome? t' := by
  rw [settle, hfind]
  exact outcome?_note t'

/-- A reply that is accepted is the outcome of whoever waited for its id. -/
theorem outcome?_deliver {reply : Message} {id : Int64} (h : (p.deliver reply).1 = .ok id) :
    ∃ t ∈ p.waiting, t.id = id ∧ (p.deliver reply).2.outcome? t = some (.ok reply) := by
  obtain ⟨id', t, hfind, hdeliver⟩ | ⟨failure, hdeliver⟩ := p.deliver_cases reply
  · rw [hdeliver] at h ⊢
    cases h
    obtain ⟨ht, hid⟩ := mem_of_find? hfind
    exact ⟨t, ht, hid, (outcome?_settle hfind _ t).trans (if_pos rfl)⟩
  · rw [hdeliver] at h
    cases h

/-- Giving up a ticket forgets its outcome and no other one. -/
theorem outcome?_drop (p : Pending) (t t' : Ticket) :
    (p.drop t).1.outcome? t' = if t'.number = t.number then none else p.outcome? t' :=
  lookup_filter_ne p.settled t.number t'.number

/-- Giving a ticket up is noted as a withdrawal, or not at all. -/
theorem events_drop (p : Pending) (t : Ticket) :
    (p.drop t).2 = [] ∨ ∃ id, (p.drop t).2 = [.withdrawn id] := by
  rw [drop]
  split
  · exact .inr ⟨t.id, rfl⟩
  · exact .inl rfl

/-- What a table becomes when a ticket is used up: its registration and its outcome are gone, and no
other registration or outcome has changed. -/
structure UsedUp (p : Pending) (t : Ticket) (p' : Pending) : Prop where
  waiting : p'.waiting = p.waiting.filter (· != t)
  outcome : ∀ t', t'.number ≠ t.number → p'.outcome? t' = p.outcome? t'
  nextNumber : p'.nextNumber = p.nextNumber

/-- Giving a ticket up concerns nobody else. -/
theorem usedUp_drop (p : Pending) (t : Ticket) : UsedUp p t (p.drop t).1 := by
  refine ⟨rfl, ?_, rfl⟩
  intro t' hn
  rw [outcome?_drop, if_neg hn]

private theorem lookup_cancelled (waiting : List Ticket) (settled : List (Nat × Outcome))
    (n : Nat) :
    (waiting.map (fun t : Ticket => (t.number, Except.error (Failure.cancelled t.id))) ++
        settled).lookup n =
      match waiting.find? (·.number == n) with
      | some t => some (.error (.cancelled t.id))
      | none => settled.lookup n := by
  induction waiting with
  | nil => rfl
  | cons t rest ih =>
    rw [List.map_cons, List.cons_append, lookup_cons_ite, ih, List.find?_cons]
    by_cases hn : n = t.number
    · rw [if_pos hn, beq_iff_eq.mpr hn.symm]
    · rw [if_neg hn, beq_eq_false_iff_ne.mpr (Ne.symm hn)]

/-- Cancelling everything is the outcome of all that waits, where no two registrations have one
number. -/
theorem outcome?_cancelAll_of_mem (hnumbered : (p.waiting.map (·.number)).Nodup) {t : Ticket}
    (ht : t ∈ p.waiting) : p.cancelAll.2.outcome? t = some (.error (.cancelled t.id)) := by
  refine (lookup_cancelled p.waiting p.settled t.number).trans ?_
  cases h : p.waiting.find? (·.number == t.number) with
  | none => exact absurd (beq_self_eq_true _) (List.find?_eq_none.mp h t ht)
  | some t' =>
    have hn := List.find?_some h
    rw [List.inj_on_of_nodup_map hnumbered (List.mem_of_find?_eq_some h) ht (beq_iff_eq.mp hn)]

/-- Cancelling everything leaves alone the outcome of what does not wait. -/
theorem outcome?_cancelAll_of_number {t : Ticket} (ht : ∀ w ∈ p.waiting, w.number ≠ t.number) :
    p.cancelAll.2.outcome? t = p.outcome? t := by
  refine (lookup_cancelled p.waiting p.settled t.number).trans ?_
  have hnone : p.waiting.find? (·.number == t.number) = none := by
    rw [List.find?_eq_none]
    intro w hw
    rw [beq_iff_eq]
    exact ht w hw
  rw [hnone]
  rfl

/-! ### Waiting until time is up

A ticket without an outcome is assumed to wait still: this is what makes it safe to let its id
expire. -/

/-- Time runs out exactly for a ticket without an outcome. -/
theorem result_waitUntilExpired (hdistinct : (p.waiting.map (·.id)).Nodup) {t : Ticket}
    (howned : p.outcome? t = none → t ∈ p.waiting) :
    (p.waitUntilExpired t).1 = (p.outcome? t).getD (.error (.timedOut t.id)) := by
  rw [waitUntilExpired]
  cases hout : p.outcome? t with
  | some outcome => rfl
  | none =>
    simp only [expire, settle, find?_of_mem hdistinct (howned hout), outcome?_note, if_true]
    rfl

/-- Only the registration of the ticket is taken away, and only its outcome is forgotten. -/
theorem usedUp_waitUntilExpired (hdistinct : (p.waiting.map (·.id)).Nodup) {t : Ticket}
    (howned : p.outcome? t = none → t ∈ p.waiting) : UsedUp p t (p.waitUntilExpired t).2.1 := by
  rw [waitUntilExpired]
  cases hout : p.outcome? t with
  | some outcome => exact usedUp_drop p t
  | none =>
    have ht := howned hout
    simp only [expire, settle, find?_of_mem hdistinct ht]
    -- What expires and is then given up is what is given up at once.
    refine ⟨?_, ?_, rfl⟩
    · simp only [drop, filter_id_eq hdistinct ht, List.filter_filter, Bool.and_self]
    · intro t' hn
      rw [outcome?_drop, if_neg hn, outcome?_note, if_neg hn]

/-- The ticket is given up in the end, either at once or after its id was let expire. -/
theorem waitUntilExpired_cases (p : Pending) (t : Ticket) :
    (p.waitUntilExpired t).2 = p.drop t ∨
      (p.waitUntilExpired t).2 = (p.expire t.id).2.drop t := by
  unfold waitUntilExpired
  cases p.outcome? t with
  | some outcome => exact .inl rfl
  | none => exact .inr rfl

/-- An outcome that is there is returned at once, for every time and whatever others do. -/
theorem waitFor_of_outcome? {t : Ticket} {outcome : Outcome} (h : p.outcome? t = some outcome)
    (others : Nat → Pending → Pending) (time : Nat) :
    p.waitFor others t time = (outcome, p.drop t) := by
  cases time with
  | zero => simp only [waitFor, waitUntilExpired, h]
  | succ time => simp only [waitFor, h]

/-- When nobody else acts on the table, it makes no difference how long a request may wait. -/
theorem waitFor_nobody (p : Pending) (t : Ticket) (time : Nat) :
    p.waitFor nobody t time = p.waitUntilExpired t := by
  cases hout : p.outcome? t with
  | some outcome => rw [waitFor_of_outcome? hout, waitUntilExpired, hout]
  | none =>
    induction time with
    | zero => rfl
    | succ time ih =>
      rw [waitFor, hout]
      exact ih

/-! ### Numbers that are used up -/

@[simp] theorem nextNumber_settle (p : Pending) (id : Int64) (outcome : Outcome) :
    (p.settle id outcome).2.nextNumber = p.nextNumber := by
  obtain ⟨t, -, hsettle⟩ | ⟨-, hsettle⟩ := p.settle_cases id outcome <;> rw [hsettle]

@[simp] theorem nextNumber_waitUntilExpired (p : Pending) (t : Ticket) :
    (p.waitUntilExpired t).2.1.nextNumber = p.nextNumber := by
  obtain h | h := p.waitUntilExpired_cases t
  · rw [h]
    rfl
  · rw [h]
    exact p.nextNumber_settle t.id _

end Pending

end ProxyLink
