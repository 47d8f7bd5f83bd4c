import ProxyLink.Proofs.Pending

/-!
# What has become of every registration

A ledger is a table of requests together with what its users can tell from the results of their
operations: which registrations were made, who still has a ticket, and why each registration that
left the table did so. `Accounted` is what ties the table to these books; every operation keeps it,
so it holds after every history.
-/

namespace ProxyLink

/-- What can be done with a table of requests. -/
inductive Operation where
  | nextId
  | register (id : Int64)
  | complete (reply : Message)
  | cancel (id : Int64)
  | expire (id : Int64)
  | cancelAll
  /-- The owner of a ticket asks for its outcome, and is done with the ticket even when there is
  none. To go on waiting is no step of the table. -/
  | wait (t : Ticket)
  /-- The owner of a ticket waits for some time, in which nobody else does anything. -/
  | waitFor (t : Ticket) (time : Duration)
  | drop (t : Ticket)

/-- Whether an operation tries to register an id. -/
def Operation.registers : Operation → Bool
  | .register _ => true
  | _ => false

/-- Why a registration left the table. -/
inductive Removal where
  /-- A reply was accepted for its id. -/
  | delivered (reply : Message)
  /-- Its id was cancelled. -/
  | cancelled
  /-- Its id was let expire. -/
  | expired
  /-- Everything was cancelled. -/
  | released
  /-- The time of its own owner ran out. -/
  | ranOut
  /-- Its own ticket was given up. -/
  | withdrawn
  deriving DecidableEq

/-- What the owner of the ticket learns, if he still has it. -/
def Removal.outcome? (id : Int64) : Removal → Option Outcome
  | .delivered reply => some (.ok reply)
  | .cancelled | .released => some (.error (.cancelled id))
  | .expired | .ranOut => some (.error (.timedOut id))
  | .withdrawn => none

/-- A table, and the books that are kept on it. -/
structure Ledger where
  table : Pending
  /-- The registrations that succeeded. -/
  issued : List Ticket
  /-- The tickets that are not used up. -/
  live : List Ticket
  /-- The registrations that have left the table, and why. -/
  removed : List (Ticket × Removal)
  /-- How many registrations were removed, by the results of the operations. -/
  reported : Nat

namespace Ledger

def start : Ledger := ⟨.empty, [], [], [], 0⟩

/-- The registrations that nothing is known to have removed. -/
def inFlight (l : Ledger) : List Ticket := l.issued.filter fun t => t ∉ l.removed.map (·.1)

/-- The ledger after an operation that reports `count` removals, for one reason, of those in flight
that `who` tells; `live` are the tickets that are still not used up. -/
def leave (l : Ledger) (table : Pending) (live : List Ticket) (who : Ticket → Bool)
    (cause : Removal) (count : Nat) : Ledger where
  table := table
  issued := l.issued
  live := live
  removed := l.removed ++ (l.inFlight.filter who).map (·, cause)
  reported := l.reported + count

/-- The ledger after a ticket is used up. Only a ticket that is not used up yet can be. -/
def useUp (l : Ledger) (t : Ticket) (table : Pending) (cause : Removal) (count : Nat) : Ledger :=
  if t ∈ l.live then l.leave table (l.live.filter (· != t)) (· == t) cause count else l

/-- The ledger after an operation that tells whether it settled the registration under an id. -/
def settled (l : Ledger) (id : Int64) (cause : Removal) : Bool × Pending → Ledger
  | (true, table) => l.leave table l.live (·.id == id) cause 1
  | (false, table) => { l with table }

def step (l : Ledger) : Operation → Ledger
  | .nextId => { l with table := l.table.nextId.2 }
  | .register id =>
    match l.table.register id with
    | (.ok t, table) => { l with table, issued := l.issued ++ [t], live := l.live ++ [t] }
    | (.error _, table) => { l with table }
  | .complete reply =>
    match l.table.deliver reply with
    | (.ok id, table) => l.leave table l.live (·.id == id) (.delivered reply) 1
    | (.error _, table) => { l with table }
  | .cancel id => l.settled id .cancelled (l.table.cancel id)
  | .expire id => l.settled id .expired (l.table.expire id)
  | .cancelAll =>
    let (count, table) := l.table.cancelAll
    l.leave table l.live (fun _ => true) .released count
  | .wait t =>
    let (_, table, events) := l.table.wait t
    l.useUp t table .withdrawn events.length
  | .waitFor t time =>
    let (_, table, _) := l.table.waitFor Pending.nobody t time.nanoseconds
    l.useUp t table .ranOut (if (l.table.outcome? t).isNone then 1 else 0)
  | .drop t =>
    let (table, events) := l.table.drop t
    l.useUp t table .withdrawn events.length

def run (l : Ledger) (ops : List Operation) : Ledger := ops.foldl step l

/-- The books agree with the table. -/
structure Accounted (l : Ledger) : Prop where
  waiting : l.table.waiting = l.inFlight
  distinct : (l.table.waiting.map (·.id)).Nodup
  numbered : (l.issued.map (·.number)).Nodup
  below : ∀ t ∈ l.issued, t.number < l.table.nextNumber
  live : l.live.Sublist l.issued
  /-- Who waits has a ticket and no outcome. -/
  held : ∀ t ∈ l.table.waiting, t ∈ l.live ∧ l.table.outcome? t = none
  /-- Who has a ticket and waits no more has the outcome that the removal brought. -/
  known : ∀ t removal, (t, removal) ∈ l.removed → t ∈ l.live →
    ∃ outcome, removal.outcome? t.id = some outcome ∧ l.table.outcome? t = some outcome
  /-- Nothing is noted for a ticket that is yet to come. -/
  fresh : ∀ t, l.table.nextNumber ≤ t.number → l.table.outcome? t = none
  once : (l.removed.map (·.1)).Nodup
  registered : ∀ t ∈ l.removed.map (·.1), t ∈ l.issued
  reported : l.reported = l.removed.length

variable {l : Ledger}

theorem accounted_start : start.Accounted where
  waiting := rfl
  distinct := .nil
  numbered := .nil
  below := nofun
  live := .refl _
  held := nofun
  known := nofun
  fresh _ _ := rfl
  once := .nil
  registered := nofun
  reported := rfl

theorem mem_inFlight {t : Ticket} :
    t ∈ l.inFlight ↔ t ∈ l.issued ∧ t ∉ l.removed.map (·.1) := by
  rw [inFlight, List.mem_filter, decide_eq_true_iff]

/-- Those who leave are added to those who have left. -/
theorem map_removed_leave (table : Pending) (live : List Ticket) (who : Ticket → Bool)
    (cause : Removal) (count : Nat) :
    (l.leave table live who cause count).removed.map (·.1) =
      l.removed.map (·.1) ++ l.inFlight.filter who := by
  simp only [leave, List.map_append, List.map_map]
  exact congrArg _ (List.map_id _)

/-- Those who leave are in flight no more. -/
theorem inFlight_leave (table : Pending) (live : List Ticket) (who : Ticket → Bool)
    (cause : Removal) (count : Nat) :
    (l.leave table live who cause count).inFlight = l.inFlight.filter (!who ·) := by
  have hfilter : l.inFlight.filter (!who ·) =
      l.issued.filter fun t => !who t && t ∉ l.removed.map (·.1) := List.filter_filter
  rw [hfilter, inFlight, map_removed_leave]
  apply List.filter_congr
  intro t (ht : t ∈ l.issued)
  rw [Bool.eq_iff_iff, Bool.and_eq_true, Bool.not_eq_true', decide_eq_true_iff,
    decide_eq_true_iff, List.mem_append, List.mem_filter, mem_inFlight]
  cases who t <;> simp [ht]

namespace Accounted

/-! ### What follows at once -/

theorem eq_of_number (h : l.Accounted) {t t' : Ticket} (ht : t ∈ l.issued) (ht' : t' ∈ l.issued)
    (hn : t.number = t'.number) : t = t' :=
  List.inj_on_of_nodup_map h.numbered ht ht' hn

theorem eq_of_id (h : l.Accounted) {t t' : Ticket} (ht : t ∈ l.table.waiting)
    (ht' : t' ∈ l.table.waiting) (hid : t.id = t'.id) : t = t' :=
  List.inj_on_of_nodup_map h.distinct ht ht' hid

/-- What waits was registered and has not left. -/
theorem mem_waiting (h : l.Accounted) {t : Ticket} :
    t ∈ l.table.waiting ↔ t ∈ l.issued ∧ t ∉ l.removed.map (·.1) := by
  rw [h.waiting, mem_inFlight]

/-- A ticket without an outcome still waits. -/
theorem owned (h : l.Accounted) {t : Ticket} (ht : t ∈ l.live)
    (hout : l.table.outcome? t = none) : t ∈ l.table.waiting := by
  refine h.mem_waiting.mpr ⟨h.live.subset ht, ?_⟩
  intro hleft
  obtain ⟨e, hr, rfl⟩ := List.mem_map.mp hleft
  obtain ⟨outcome, -, ho⟩ := h.known e.1 e.2 hr ht
  rw [hout] at ho
  cases ho

/-- A ticket waits exactly while it has no outcome. -/
theorem mem_waiting_iff_outcome? (h : l.Accounted) {t : Ticket} (ht : t ∈ l.live) :
    t ∈ l.table.waiting ↔ l.table.outcome? t = none :=
  ⟨fun hw => (h.held t hw).2, h.owned ht⟩

theorem numbered_waiting (h : l.Accounted) : (l.table.waiting.map (·.number)).Nodup := by
  rw [h.waiting]
  exact h.numbered.sublist (List.filter_sublist.map _)

/-- Of what waits, the part that is a given ticket is counted. -/
theorem length_filter_beq (h : l.Accounted) (t : Ticket) :
    (l.table.waiting.filter (· == t)).length = if t ∈ l.table.waiting then 1 else 0 := by
  rw [← List.count_eq_length_filter]
  exact h.distinct.of_map.count

/-! ### Leaving the table -/

/-- Some that wait leave the table for one reason. They have the outcome that it brings, and nobody
else's outcome changes; tickets may be used up at the same time, but not those of who still
waits. -/
theorem leave (h : l.Accounted) {table : Pending} {who : Ticket → Bool} {cause : Removal}
    {count : Nat} {live : List Ticket} (hnext : table.nextNumber = l.table.nextNumber)
    (hwaiting : table.waiting = l.table.waiting.filter (!who ·))
    (hcount : count = (l.table.waiting.filter who).length) (hlive : live.Sublist l.live)
    (hheld : ∀ t ∈ table.waiting, t ∈ live)
    (hfresh : ∀ t, l.table.nextNumber ≤ t.number → table.outcome? t = none)
    (hkeep : ∀ t ∈ live, (t ∈ l.table.waiting → who t = false) →
      table.outcome? t = l.table.outcome? t)
    (hnew : ∀ t ∈ live, t ∈ l.table.waiting → who t = true →
      ∃ outcome, cause.outcome? t.id = some outcome ∧ table.outcome? t = some outcome) :
    (l.leave table live who cause count).Accounted := by
  have hleft : ∀ t, t ∈ l.inFlight.filter who ↔ t ∈ l.table.waiting ∧ who t = true := by
    intro t
    rw [← h.waiting, List.mem_filter]
  refine {
    waiting := ?waiting, distinct := ?distinct, numbered := h.numbered, below := ?below,
    live := hlive.trans h.live, held := ?held, known := ?known, fresh := ?fresh, once := ?once,
    registered := ?registered, reported := ?reported }
  case waiting =>
    rw [inFlight_leave, ← h.waiting]
    exact hwaiting
  case distinct =>
    refine h.distinct.sublist (List.Sublist.map _ ?_)
    exact hwaiting ▸ List.filter_sublist
  case below =>
    intro t ht
    exact Nat.lt_of_lt_of_eq (h.below t ht) hnext.symm
  case held =>
    intro t ht
    have hl := hheld t ht
    rw [show (l.leave table live who cause count).table.waiting = _ from hwaiting,
      List.mem_filter, Bool.not_eq_true'] at ht
    exact ⟨hl, (hkeep t hl fun _ => ht.2).trans (h.held t ht.1).2⟩
  case known =>
    intro t removal hr hl
    rcases List.mem_append.mp hr with hr | hr
    · obtain ⟨outcome, hcause, ho⟩ := h.known t removal hr (hlive.subset hl)
      refine ⟨outcome, hcause, (hkeep t hl ?_).trans ho⟩
      intro hw
      exact absurd (List.mem_map_of_mem hr) (h.mem_waiting.mp hw).2
    · obtain ⟨t, ht, he⟩ := List.mem_map.mp hr
      cases he
      obtain ⟨hw, hwho⟩ := (hleft t).mp ht
      exact hnew t hl hw hwho
  case fresh =>
    intro t ht
    exact hfresh t (hnext ▸ ht)
  case once =>
    rw [map_removed_leave]
    refine List.nodup_append.mpr ⟨h.once, ?_, ?_⟩
    · rw [← h.waiting]
      exact h.distinct.of_map.filter _
    · rintro t hr _ ht rfl
      exact (h.mem_waiting.mp ((hleft t).mp ht).1).2 hr
  case registered =>
    intro t ht
    rw [map_removed_leave, List.mem_append] at ht
    rcases ht with ht | ht
    · exact h.registered t ht
    · exact (h.mem_waiting.mp ((hleft t).mp ht).1).1
  case reported =>
    change l.reported + count = (l.removed ++ (l.inFlight.filter who).map (·, cause)).length
    rw [List.length_append, List.length_map, ← h.waiting, h.reported, hcount]

/-! ### The operations -/

/-- A ticket that is handed out is new, and waits. -/
theorem issue (h : l.Accounted) {id : Int64} (hunused : l.table.contains id = false) {t : Ticket}
    (ht : t = ⟨id, l.table.nextNumber⟩) :
    Accounted { l with
      table := { l.table with
        nextNumber := l.table.nextNumber + 1
        waiting := l.table.waiting ++ [t] }
      issued := l.issued ++ [t]
      live := l.live ++ [t] } := by
  have hnew : t ∉ l.issued := by
    subst ht
    intro hi
    exact Nat.lt_irrefl _ (h.below _ hi)
  have hnone : l.table.outcome? t = none := by
    subst ht
    exact h.fresh _ (Nat.le_refl _)
  refine {
    waiting := ?waiting, distinct := ?distinct, numbered := ?numbered, below := ?below,
    live := h.live.append (.refl _), held := ?held, known := ?known, fresh := ?fresh,
    once := h.once, registered := ?registered, reported := h.reported }
  case waiting =>
    change l.table.waiting ++ [t] =
      (l.issued ++ [t]).filter fun t => t ∉ l.removed.map (·.1)
    have hr : t ∉ l.removed.map (·.1) := fun hr => hnew (h.registered t hr)
    rw [List.filter_append, List.filter_cons_of_pos (by exact decide_eq_true hr), h.waiting]
    rfl
  case distinct =>
    rw [List.map_append]
    refine List.nodup_append.mpr ⟨h.distinct, List.nodup_singleton _, ?_⟩
    rintro _ hw _ hid rfl
    rw [List.mem_singleton.mp hid, ht, ← Pending.contains_iff, hunused] at hw
    cases hw
  case numbered =>
    rw [List.map_append]
    refine List.nodup_append.mpr ⟨h.numbered, List.nodup_singleton _, ?_⟩
    rintro _ hi _ hn rfl
    obtain ⟨t', hi, hn'⟩ := List.mem_map.mp hi
    rw [List.mem_singleton.mp hn, ht] at hn'
    exact Nat.ne_of_lt (h.below t' hi) hn'
  case below =>
    intro t' hi
    rcases List.mem_append.mp hi with hi | hi
    · exact Nat.lt_succ_of_lt (h.below t' hi)
    · rw [List.mem_singleton.mp hi, ht]
      exact Nat.lt_succ_self _
  case held =>
    intro t' hw
    rcases List.mem_append.mp hw with hw | hw
    · exact ⟨List.mem_append_left _ (h.held t' hw).1, (h.held t' hw).2⟩
    · rw [List.mem_singleton.mp hw]
      exact ⟨List.mem_append_right _ (List.mem_singleton_self t), hnone⟩
  case known =>
    intro t' removal hr hl
    rcases List.mem_append.mp hl with hl | hl
    · exact h.known t' removal hr hl
    · rw [List.mem_singleton.mp hl] at hr
      exact absurd (h.registered t (List.mem_map_of_mem hr)) hnew
  case fresh =>
    intro t' hn
    exact h.fresh t' (Nat.le_of_succ_le hn)
  case registered =>
    intro t' hr
    exact List.mem_append_left _ (h.registered t' hr)

/-- A number that is used up for nothing makes no difference. -/
theorem skip (h : l.Accounted) :
    Accounted { l with table := { l.table with nextNumber := l.table.nextNumber + 1 } } :=
  { h with
    below := fun t ht => Nat.lt_succ_of_lt (h.below t ht)
    fresh := fun t hn => h.fresh t (Nat.le_of_succ_le hn) }

/-- Whoever waits under an id is settled, with the outcome that the removal brings. -/
theorem settle (h : l.Accounted) {id : Int64} {outcome : Outcome} {cause : Removal} {t : Ticket}
    (hfind : l.table.find? id = some t) (hcause : cause.outcome? id = some outcome) :
    (l.leave (l.table.settle id outcome).2 l.live (·.id == id) cause 1).Accounted := by
  obtain ⟨ht, rfl⟩ := Pending.mem_of_find? hfind
  have hi := (h.mem_waiting.mp ht).1
  have hwaiting := Pending.waiting_settle hfind outcome
  have hout := Pending.outcome?_settle hfind outcome
  refine h.leave (Pending.nextNumber_settle ..) hwaiting ?_ (.refl _) ?_ ?_ ?_ ?_
  · have hperm := (List.filter_append_perm (·.id == t.id) l.table.waiting).trans
      (Pending.perm_cons_filter_id h.distinct ht)
    have hlength := hperm.length_eq
    rw [List.length_append, List.length_cons, Nat.add_comm] at hlength
    exact (Nat.add_left_cancel hlength).symm
  · intro t' hw
    rw [hwaiting] at hw
    exact (h.held t' (List.mem_filter.mp hw).1).1
  · intro t' hn
    rw [hout, if_neg (Nat.ne_of_gt (Nat.lt_of_lt_of_le (h.below t hi) hn)), h.fresh t' hn]
  · intro t' hl hother
    rw [hout, if_neg]
    intro hn
    have he := h.eq_of_number (h.live.subset hl) hi hn
    subst he
    exact Bool.false_ne_true ((hother ht).symm.trans (beq_self_eq_true _))
  · intro t' hl hw hid
    have he := h.eq_of_id hw ht (beq_iff_eq.mp hid)
    subst he
    exact ⟨outcome, hcause, by rw [hout, if_pos rfl]⟩

/-- Settling an id accounts for whoever waits under it, or changes nothing. -/
theorem settled (h : l.Accounted) {id : Int64} {outcome : Outcome} {cause : Removal}
    (hcause : cause.outcome? id = some outcome) :
    (l.settled id cause (l.table.settle id outcome)).Accounted := by
  obtain ⟨t, hfind, hsettle⟩ | ⟨-, hsettle⟩ := l.table.settle_cases id outcome
  · have hleave := h.settle hfind hcause
    rw [hsettle] at hleave ⊢
    exact hleave
  · rw [hsettle]
    exact h

theorem cancelAll (h : l.Accounted) :
    (l.leave l.table.cancelAll.2 l.live (fun _ => true) .released l.table.size).Accounted := by
  refine h.leave rfl ?_ ?_ (.refl _) nofun ?_ ?_ ?_
  · simp [Pending.cancelAll]
  · simp [Pending.size]
  · intro t hn
    rw [Pending.outcome?_cancelAll_of_number, h.fresh t hn]
    intro w hw he
    exact Nat.not_lt_of_le hn (he ▸ h.below w (h.mem_waiting.mp hw).1)
  · intro t hl hother
    refine Pending.outcome?_cancelAll_of_number ?_
    intro w hw hn
    have he := h.eq_of_number (h.mem_waiting.mp hw).1 (h.live.subset hl) hn
    cases hother (he ▸ hw)
  · intro t hl hw _
    exact ⟨_, rfl, Pending.outcome?_cancelAll_of_mem h.numbered_waiting hw⟩

/-- A ticket is used up. Its registration leaves the table, if it still waits. -/
theorem useUp (h : l.Accounted) {t : Ticket} {table : Pending} (cause : Removal) {count : Nat}
    (hused : t ∈ l.live → l.table.UsedUp t table)
    (hcount : t ∈ l.live → count = if t ∈ l.table.waiting then 1 else 0) :
    (l.useUp t table cause count).Accounted := by
  rw [Ledger.useUp]
  split
  · next hl =>
    obtain ⟨hwaiting, hout, hnext⟩ := hused hl
    have hi := h.live.subset hl
    have hother : ∀ t', t' ∈ l.live.filter (· != t) ↔ t' ∈ l.live ∧ t' ≠ t := by
      intro t'
      rw [List.mem_filter, bne_iff_ne]
    refine h.leave hnext hwaiting ?_ List.filter_sublist ?_ ?_ ?_ ?_
    · rw [h.length_filter_beq]
      exact hcount hl
    · intro t' hw
      rw [hwaiting, List.mem_filter, bne_iff_ne] at hw
      exact (hother t').mpr ⟨(h.held t' hw.1).1, hw.2⟩
    · intro t' hn
      rw [hout t' (Nat.ne_of_gt (Nat.lt_of_lt_of_le (h.below t hi) hn)), h.fresh t' hn]
    · intro t' hl' _
      obtain ⟨hl', hne⟩ := (hother t').mp hl'
      exact hout t' fun hn => hne (h.eq_of_number (h.live.subset hl') hi hn)
    · intro t' hl' _ he
      exact absurd (beq_iff_eq.mp he) ((hother t').mp hl').2
  · exact h

/-- Giving a ticket up withdraws its registration, if it still waits. -/
theorem drop (h : l.Accounted) (t : Ticket) :
    (l.useUp t (l.table.drop t).1 .withdrawn (l.table.drop t).2.length).Accounted := by
  refine h.useUp .withdrawn (fun _ => l.table.usedUp_drop t) ?_
  intro _
  simp only [Pending.drop]
  split <;> rfl

/-- Waiting until time is up yields the outcome that is there, and otherwise that time is up. -/
theorem result_waitUntilExpired (h : l.Accounted) {t : Ticket} (ht : t ∈ l.live) :
    (l.table.waitUntilExpired t).1 = (l.table.outcome? t).getD (.error (.timedOut t.id)) :=
  Pending.result_waitUntilExpired h.distinct (h.owned ht)

/-- Waiting until time is up touches nobody else: a ticket without an outcome still waits, so the
registration that expires under its id is its own. -/
theorem usedUp_waitUntilExpired (h : l.Accounted) {t : Ticket} (ht : t ∈ l.live) :
    l.table.UsedUp t (l.table.waitUntilExpired t).2.1 :=
  Pending.usedUp_waitUntilExpired h.distinct (h.owned ht)

/-- Every operation keeps the books in agreement with the table. -/
theorem step (h : l.Accounted) (op : Operation) : (l.step op).Accounted := by
  cases op with
  | nextId => exact { h with }
  | register id =>
    cases hc : l.table.contains id with
    | true =>
      simp only [Ledger.step, Pending.register_of_contains hc]
      exact h.skip
    | false =>
      simp only [Ledger.step, Pending.register_of_not_contains hc]
      exact h.issue hc rfl
  | complete reply =>
    obtain ⟨id, t, hfind, hdeliver⟩ | ⟨failure, hdeliver⟩ := l.table.deliver_cases reply
    · simp only [Ledger.step, hdeliver]
      exact h.settle hfind rfl
    · simp only [Ledger.step, hdeliver]
      exact h
  | cancel id => exact h.settled rfl
  | expire id => exact h.settled rfl
  | cancelAll => exact h.cancelAll
  | wait t => exact h.drop t
  | waitFor t time =>
    simp only [Ledger.step, Pending.waitFor_nobody]
    refine h.useUp .ranOut h.usedUp_waitUntilExpired ?_
    intro hl
    simp only [h.mem_waiting_iff_outcome? hl, Option.isNone_iff_eq_none]
  | drop t => exact h.drop t

/-- The books agree with the table after every history. -/
theorem run (h : l.Accounted) (ops : List Operation) : (l.run ops).Accounted := by
  induction ops generalizing l with
  | nil => exact h
  | cons op ops ih => exact ih (h.step op)

end Accounted

/-- The books agree with the table after every history of a new table. -/
theorem accounted_run (ops : List Operation) : (start.run ops).Accounted := accounted_start.run ops

/-! ### Numbers -/

private theorem nextNumber_useUp {table : Pending} (h : table.nextNumber = l.table.nextNumber)
    (t : Ticket) (cause : Removal) (count : Nat) :
    (l.useUp t table cause count).table.nextNumber = l.table.nextNumber := by
  rw [useUp]
  split
  · exact h
  · rfl

private theorem nextNumber_settled {id : Int64} {cause : Removal} {result : Bool × Pending}
    (h : result.2.nextNumber = l.table.nextNumber) :
    (l.settled id cause result).table.nextNumber = l.table.nextNumber := by
  rcases result with ⟨_ | _, table⟩ <;> exact h

/-- An operation uses up a number when it tries to register an id, and then only one. -/
theorem nextNumber_step (l : Ledger) (op : Operation) : (l.step op).table.nextNumber =
    l.table.nextNumber + if op.registers then 1 else 0 := by
  cases op with
  | nextId => rfl
  | register id =>
    cases hc : l.table.contains id with
    | true => simp only [step, Pending.register_of_contains hc]; rfl
    | false => simp only [step, Pending.register_of_not_contains hc]; rfl
  | complete reply =>
    obtain ⟨id, t, -, hdeliver⟩ | ⟨failure, hdeliver⟩ := l.table.deliver_cases reply
    · simp only [step, hdeliver]
      exact Pending.nextNumber_settle ..
    · simp only [step, hdeliver]
      rfl
  | cancel id => exact nextNumber_settled (Pending.nextNumber_settle ..)
  | expire id => exact nextNumber_settled (Pending.nextNumber_settle ..)
  | cancelAll => rfl
  | wait t => exact nextNumber_useUp (l.table.usedUp_drop t).nextNumber ..
  | waitFor t time =>
    simp only [step, Pending.waitFor_nobody]
    exact nextNumber_useUp (Pending.nextNumber_waitUntilExpired ..) ..
  | drop t => exact nextNumber_useUp (l.table.usedUp_drop t).nextNumber ..

/-- As many numbers are used up as there are attempts to register an id. -/
theorem nextNumber_run (l : Ledger) (ops : List Operation) : (l.run ops).table.nextNumber =
    l.table.nextNumber + ops.countP Operation.registers := by
  induction ops generalizing l with
  | nil => rfl
  | cons op ops ih =>
    change ((l.step op).run ops).table.nextNumber = _
    rw [ih, nextNumber_step, List.countP_cons]
    omega

end Ledger

end ProxyLink
