import Mathlib.Algebra.Group.Nat.Defs
import ProxyLink.Proofs.Pending.Ledger

/-!
# Every registration is resolved once, by its own ticket or from outside

Two statements about every history of a table. A registration leaves the table at most once and for
one reason, and whoever has its ticket learns that reason and no other. And a ticket acts on its own
registration only, even where an operation goes by the id, which may have been registered again.
-/

namespace ProxyLink.Ledger

variable {l : Ledger}

namespace Accounted

/-- Those who wait are those who have a ticket and no outcome. -/
theorem perm_live (h : l.Accounted) :
    l.table.waiting.Perm (l.live.filter fun t => (l.table.outcome? t).isNone) := by
  have hlive : l.live.Nodup := h.numbered.of_map.sublist h.live
  refine (List.perm_ext_iff_of_nodup h.distinct.of_map (hlive.filter _)).mpr ?_
  intro t
  rw [List.mem_filter, Option.isNone_iff_eq_none]
  constructor
  · exact h.held t
  · rintro ⟨hl, hout⟩
    exact h.owned hl hout

/-- Every registration either waits or has left. -/
theorem perm_issued (h : l.Accounted) :
    l.issued.Perm (l.table.waiting ++ l.removed.map (·.1)) := by
  have hnodup : (l.table.waiting ++ l.removed.map (·.1)).Nodup := by
    refine List.nodup_append.mpr ⟨h.distinct.of_map, h.once, ?_⟩
    rintro t hw _ hr rfl
    exact (h.mem_waiting.mp hw).2 hr
  refine (List.perm_ext_iff_of_nodup h.numbered.of_map hnodup).mpr ?_
  intro t
  rw [List.mem_append, h.mem_waiting]
  constructor
  · intro hi
    by_cases hr : t ∈ l.removed.map (·.1)
    · exact .inr hr
    · exact .inl ⟨hi, hr⟩
  · rintro (⟨hi, -⟩ | hr)
    · exact hi
    · exact h.registered t hr

/-- As long as the numbers that are used up have 64 bits, the tickets differ in these bits. -/
theorem nodup_uint64 (h : l.Accounted) (hfew : l.table.nextNumber ≤ 2 ^ 64) :
    (l.issued.map fun t => UInt64.ofNat t.number).Nodup := by
  refine h.numbered.of_map.map_on ?_
  intro t ht t' ht' he
  have hn := congrArg UInt64.toNat he
  rw [UInt64.toNat_ofNat_of_lt' (Nat.lt_of_lt_of_le (h.below t ht) hfew),
    UInt64.toNat_ofNat_of_lt' (Nat.lt_of_lt_of_le (h.below t' ht') hfew)] at hn
  exact h.eq_of_number ht ht' hn

/-- The registration of a number is taken away like that of a ticket. -/
theorem filter_number_eq (h : l.Accounted) {t : Ticket} (ht : t ∈ l.live) :
    l.table.waiting.filter (·.number != t.number) = l.table.waiting.filter (· != t) := by
  apply List.filter_congr
  intro w hw
  rw [Bool.eq_iff_iff, bne_iff_ne, bne_iff_ne]
  exact not_congr ⟨h.eq_of_number (h.mem_waiting.mp hw).1 (h.live.subset ht),
    congrArg Ticket.number⟩

/-- Whoever uses a ticket up takes away what belongs to that ticket, and nothing else. -/
theorem usedUp_step (h : l.Accounted) {t : Ticket} (ht : t ∈ l.live) {time : Duration}
    {op : Operation} (hop : op ∈ [.wait t, .waitFor t time, .drop t]) :
    l.table.UsedUp t (l.step op).table ∧ (l.step op).live = l.live.filter (· != t) := by
  have huse : ∀ table cause count,
      (l.useUp t table cause count).table = table ∧
        (l.useUp t table cause count).live = l.live.filter (· != t) := by
    intro table cause count
    rw [Ledger.useUp, if_pos ht]
    exact ⟨rfl, rfl⟩
  simp only [List.mem_cons, List.not_mem_nil, or_false] at hop
  rcases hop with rfl | rfl | rfl
  · simp only [Ledger.step, huse, and_true]
    exact l.table.usedUp_drop t
  · simp only [Ledger.step, Pending.waitFor_nobody, huse, and_true]
    exact h.usedUp_waitUntilExpired ht
  · simp only [Ledger.step, huse, and_true]
    exact l.table.usedUp_drop t

end Accounted

/-- After every history of a table:

* no id waits twice, and no two registrations have one number, nor one number of 64 bits while
  there were at most 2⁶⁴ attempts to register;
* those who wait are exactly the tickets that are not used up and have no outcome;
* every registration that was made either waits or has left the table, once and for one reason, so
  that the registrations are as many as those who wait and the removals that were reported;
* a ticket yields the outcome that the removal of its registration brought, however long it would
  have waited; before there is one it yields nothing, or, after any time in which nobody else does
  anything, that time is up;
* a reply that is accepted for an id is what the ticket of the registration under that id yields;
* an id can be cancelled, let expire, or answered by a reply that has it, exactly while it waits. -/
theorem registrations_leave_once (ops : List Operation) :
    let l := start.run ops
    (l.table.waiting.map (·.id)).Nodup ∧
    ((l.issued.map (·.number)).Nodup ∧ (ops.countP Operation.registers ≤ 2 ^ 64 →
      (l.issued.map fun t => UInt64.ofNat t.number).Nodup)) ∧
    (l.live.Nodup ∧
      l.table.waiting.Perm (l.live.filter fun t => (l.table.outcome? t).isNone)) ∧
    ((l.removed.map (·.1)).Nodup ∧ l.issued.Perm (l.table.waiting ++ l.removed.map (·.1)) ∧
      l.issued.length = l.table.size + l.reported) ∧
    (∀ t ∈ l.live, ∀ removal, (t, removal) ∈ l.removed → ∃ outcome,
      removal.outcome? t.id = some outcome ∧ (l.table.wait t).1 = some outcome ∧
        ∀ others time, (l.table.waitFor others t time).1 = outcome) ∧
    (∀ t ∈ l.table.waiting, (l.table.wait t).1 = none ∧
      ∀ time, (l.table.waitFor Pending.nobody t time).1 = .error (.timedOut t.id)) ∧
    (∀ reply id, (l.table.deliver reply).1 = .ok id → ∃ t ∈ l.live, t.id = id ∧
      t ∈ l.table.waiting ∧ ((l.table.deliver reply).2.wait t).1 = some (.ok reply)) ∧
    ∀ id, ((l.table.cancel id).1 = true ↔ l.table.contains id = true) ∧
      ((l.table.expire id).1 = true ↔ l.table.contains id = true) ∧
      ∀ reply : Message, reply.layer.isReply = true → reply.requestId = .ok (some id) →
        ((l.table.deliver reply).1 = .ok id ↔ l.table.contains id = true) := by
  intro l
  have h : l.Accounted := accounted_run ops
  have hlive : l.live.Nodup := h.numbered.of_map.sublist h.live
  refine ⟨h.distinct, ⟨h.numbered, ?_⟩, ⟨hlive, h.perm_live⟩, ⟨h.once, h.perm_issued, ?_⟩, ?_, ?_,
    ?_, ?_⟩
  · intro hfew
    apply h.nodup_uint64
    rw [nextNumber_run]
    exact Nat.le_trans (Nat.le_of_eq (Nat.zero_add _)) hfew
  · have hlength := h.perm_issued.length_eq
    rw [List.length_append, List.length_map, ← h.reported] at hlength
    exact hlength
  · intro t hl removal hr
    obtain ⟨outcome, hcause, hout⟩ := h.known t removal hr hl
    refine ⟨outcome, hcause, hout, ?_⟩
    intro others time
    rw [Pending.waitFor_of_outcome? hout]
  · intro t hw
    obtain ⟨hl, hout⟩ := h.held t hw
    refine ⟨hout, ?_⟩
    intro time
    rw [Pending.waitFor_nobody, h.result_waitUntilExpired hl, hout]
    rfl
  · intro reply id hok
    obtain ⟨t, hw, hid, hout⟩ := Pending.outcome?_deliver hok
    exact ⟨t, (h.held t hw).1, hid, hw, hout⟩
  · intro id
    refine ⟨l.table.settle_iff_contains id _, l.table.settle_iff_contains id _, ?_⟩
    intro reply hlayer hid
    exact l.table.deliver_iff_contains hlayer hid

/-- One registration leaves for each reason, and two when everything is cancelled. The reply is what
its ticket yields afterwards, and the id that it came for can be registered again. -/
theorem one_leaves_for_each_reason :
    let reply := (Message.ofStandard .echoReply).setRequestId (some 1)
    let l := start.run [.register 1, .register 1, .complete reply, .complete reply, .register 2,
      .cancel 2, .register 3, .expire 3, .register 4, .drop ⟨4, 4⟩, .register 5,
      .waitFor ⟨5, 5⟩ .zero, .register 1, .register 6, .cancelAll]
    l.removed = [(⟨1, 0⟩, .delivered reply), (⟨2, 2⟩, .cancelled), (⟨3, 3⟩, .expired),
      (⟨4, 4⟩, .withdrawn), (⟨5, 5⟩, .ranOut), (⟨1, 6⟩, .released), (⟨6, 7⟩, .released)] ∧
    l.issued = l.removed.map (·.1) ∧
    (l.table.wait ⟨1, 0⟩).1 = some (.ok reply) ∧
    (l.table.wait ⟨1, 6⟩).1 = some (.error (.cancelled 1)) := by
  intro reply l
  have hremoved : l.removed = [(⟨1, 0⟩, .delivered reply), (⟨2, 2⟩, .cancelled),
      (⟨3, 3⟩, .expired), (⟨4, 4⟩, .withdrawn), (⟨5, 5⟩, .ranOut), (⟨1, 6⟩, .released),
      (⟨6, 7⟩, .released)] := by decide +kernel
  have hlive : ⟨1, 0⟩ ∈ l.live ∧ ⟨1, 6⟩ ∈ l.live := by decide +kernel
  obtain ⟨-, -, -, -, hyields, -⟩ := registrations_leave_once [.register 1, .register 1,
    .complete reply, .complete reply, .register 2, .cancel 2, .register 3, .expire 3, .register 4,
    .drop ⟨4, 4⟩, .register 5, .waitFor ⟨5, 5⟩ .zero, .register 1, .register 6, .cancelAll]
  refine ⟨hremoved, by decide +kernel, ?_, ?_⟩
  · obtain ⟨outcome, hcause, hwait, -⟩ :=
      hyields ⟨1, 0⟩ hlive.1 (.delivered reply) (by rw [hremoved]; simp)
    cases hcause
    exact hwait
  · obtain ⟨outcome, hcause, hwait, -⟩ :=
      hyields ⟨1, 6⟩ hlive.2 .released (by rw [hremoved]; simp)
    cases hcause
    exact hwait

/-- After every history of a table, whoever has a ticket and waits with it, however long, or gives
it up, takes away the registration of that ticket, if it still waits. No other registration, nothing
else found under an id, and no outcome of another ticket changes; nor does any other ticket get used
up. -/
theorem ticket_spares_others (ops : List Operation) {t : Ticket}
    (ht : t ∈ (start.run ops).live) (time : Duration) {op : Operation}
    (hop : op ∈ [.wait t, .waitFor t time, .drop t]) :
    let l := start.run ops
    let l' := l.step op
    l'.table.waiting = l.table.waiting.filter (·.number != t.number) ∧
    (∀ t', t'.number ≠ t.number →
      (t' ∈ l'.table.waiting ↔ t' ∈ l.table.waiting) ∧
        l'.table.outcome? t' = l.table.outcome? t') ∧
    (∀ id t', l.table.find? id = some t' → t'.number ≠ t.number →
      l'.table.find? id = some t') ∧
    l'.live = l.live.filter (· != t) := by
  intro l l'
  have h : l.Accounted := accounted_run ops
  have h' : l'.Accounted := h.step op
  obtain ⟨⟨hwaiting, hout, -⟩, hlive⟩ := h.usedUp_step ht hop
  have hmem : ∀ t', t'.number ≠ t.number →
      (t' ∈ l'.table.waiting ↔ t' ∈ l.table.waiting) := by
    intro t' hn
    rw [hwaiting, List.mem_filter, bne_iff_ne, and_iff_left]
    exact fun he => hn (congrArg Ticket.number he)
  refine ⟨hwaiting.trans (h.filter_number_eq ht).symm, ?_, ?_, hlive⟩
  · intro t' hn
    exact ⟨hmem t' hn, hout t' hn⟩
  · intro id t' hfind hn
    obtain ⟨hw, rfl⟩ := Pending.mem_of_find? hfind
    exact Pending.find?_of_mem h'.distinct ((hmem t' hn).mpr hw)

/-- An id is registered, cancelled and registered again. The first ticket leaves the second
registration alone, and waiting with the second ticket until time is up leaves alone what the first
one yields. -/
theorem reused_id_is_spared :
    let l := start.run [.register 6, .cancel 6, .register 6]
    l.table.find? 6 = some ⟨6, 1⟩ ∧
    (l.step (.drop ⟨6, 0⟩)).table.find? 6 = some ⟨6, 1⟩ ∧
    (l.step (.waitFor ⟨6, 0⟩ .zero)).table.find? 6 = some ⟨6, 1⟩ ∧
    (l.step (.waitFor ⟨6, 1⟩ .zero)).table.outcome? ⟨6, 0⟩ = some (.error (.cancelled 6)) := by
  intro l
  have hstale : (⟨6, 0⟩ : Ticket) ∈ l.live := by decide
  have hlive : (⟨6, 1⟩ : Ticket) ∈ l.live := by decide
  have hfind : l.table.find? 6 = some ⟨6, 1⟩ := by decide
  have hdrop (t : Ticket) : Operation.drop t ∈ [.wait t, .waitFor t .zero, .drop t] := by simp
  have hwait (t : Ticket) : Operation.waitFor t .zero ∈ [.wait t, .waitFor t .zero, .drop t] := by
    simp
  obtain ⟨-, -, hdropped, -⟩ := ticket_spares_others _ hstale .zero (hdrop _)
  obtain ⟨-, -, hwaited, -⟩ := ticket_spares_others _ hstale .zero (hwait _)
  obtain ⟨-, hother, -, -⟩ := ticket_spares_others _ hlive .zero (hwait _)
  refine ⟨hfind, hdropped 6 _ hfind (by decide), hwaited 6 _ hfind (by decide), ?_⟩
  rw [(hother ⟨6, 0⟩ (by decide)).2]
  rfl

end ProxyLink.Ledger
