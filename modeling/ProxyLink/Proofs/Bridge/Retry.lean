import Mathlib.Data.List.Perm.Subperm
import ProxyLink.Proofs.Bridge.Sending

/-!
# Requests that are sent again

A request without an id is given the next one, which somebody else may have chosen for a request
that still waits. Then it is refused and left without an id, but the id is used up, so that the next
attempt comes to another one. Main statement, which comes last: at most as many attempts fail as
there are requests that wait, and the id that is free in the end is greater than every id that was
handed out before.
-/

namespace ProxyLink

/-! ### The ids that are handed out -/

/-- Whether a message has no request id. One that cannot be read is one. -/
def Message.isUnnamed (m : Message) : Bool :=
  match m.requestId with
  | .ok none => true
  | _ => false

theorem ofNat_lt_ofNat {m n : Nat} (h : m < n) (hn : n < 2 ^ 63) :
    Int64.ofNat m < Int64.ofNat n := by
  rw [Int64.lt_iff_toInt_lt, Int64.toInt_ofNat_of_lt (Nat.lt_trans h hn),
    Int64.toInt_ofNat_of_lt hn]
  exact Int.ofNat_lt.mpr h

/-- Whether an activity takes an id from the table. -/
def Activity.takesId : Activity → Bool
  | .sendRequest request => request.layer.isRequest && request.isUnnamed
  | .useTable .nextId => true
  | _ => false

/-- The ids that the table of a bridge hands out in the course of some activities, first come
first. -/
def Bridge.handedOut (b : Bridge) (link : Link) (side : Side) : List Activity → List Int64
  | [] => []
  | activity :: activities =>
    let h := b.perform link side activity
    (if activity.takesId then [b.pending.nextId.1] else []) ++
      h.bridge.handedOut h.link side activities

namespace Pending

@[simp] theorem lastId_register (p : Pending) (id : Int64) :
    (p.register id).2.lastId = p.lastId := by
  cases hc : p.contains id with
  | true => rw [register_of_contains hc]
  | false => rw [register_of_not_contains hc]

@[simp] theorem lastId_settle (p : Pending) (id : Int64) (outcome : Outcome) :
    (p.settle id outcome).2.lastId = p.lastId := by
  obtain ⟨t, -, hsettle⟩ | ⟨-, hsettle⟩ := p.settle_cases id outcome <;> rw [hsettle]

@[simp] theorem lastId_deliver (p : Pending) (reply : Message) :
    (p.deliver reply).2.lastId = p.lastId := by
  obtain ⟨id, t, -, hdeliver⟩ | ⟨failure, hdeliver⟩ := p.deliver_cases reply
  · rw [hdeliver]
    exact p.lastId_settle id _
  · rw [hdeliver]

/-- An operation of a table hands out the next id if it is asked for one, and otherwise none. -/
theorem lastId_after (p : Pending) (op : Operation) :
    (p.after op).1.lastId =
      if (Activity.useTable op).takesId then p.nextId.1 else p.lastId := by
  cases op with
  | nextId => rfl
  | register id => exact p.lastId_register id
  | complete reply => exact p.lastId_deliver reply
  | cancel id => exact p.lastId_settle id _
  | expire id => exact p.lastId_settle id _
  | waitFor t time =>
    simp only [Pending.after, waitFor_nobody]
    obtain h | h := p.waitUntilExpired_cases t
    · rw [h]
      rfl
    · rw [h]
      exact p.lastId_settle t.id _
  | _ => rfl

end Pending

namespace Bridge

variable {b : Bridge} {link : Link} {side : Side}

theorem lastId_sendUnder (b : Bridge) (link : Link) (side : Side) (id : Int64)
    (request restored : Message) :
    (b.sendUnder link side id request restored).bridge.pending.lastId = b.pending.lastId := by
  cases hc : b.pending.contains id with
  | true => rw [sendUnder_of_contains hc]
  | false =>
    rw [sendUnder, Pending.register_of_not_contains hc]
    simp only [sendRegistered, send]
    split
    · rw [pending_transmit]
    · simp only [pending_transmit, Pending.drop]

/-- A request that can be sent takes an id if it has none. -/
theorem lastId_sendRequest (b : Bridge) (link : Link) (side : Side) (request : Message) :
    (b.sendRequest link side request).bridge.pending.lastId =
      if (Activity.sendRequest request).takesId then b.pending.nextId.1 else b.pending.lastId := by
  by_cases hlayer : request.layer.isRequest = true
  · rw [sendRequest, if_pos hlayer, Activity.takesId, hlayer, Message.isUnnamed]
    cases request.requestId with
    | error e => rfl
    | ok named =>
      cases named with
      | some id => exact lastId_sendUnder ..
      | none => exact lastId_sendUnder ..
  · rw [sendRequest, if_neg hlayer, Activity.takesId, eq_false_of_ne_true hlayer]
    rfl

theorem lastId_receiveFrame (b : Bridge) (elapsed : Int64 → Duration) (frame : List UInt8) :
    (b.receiveFrame elapsed frame).2.1.pending.lastId = b.pending.lastId := by
  cases hdecode : Frame.decode b.registry frame with
  | error failure => rw [receiveFrame_of_error elapsed hdecode]; rfl
  | ok m =>
    cases hlayer : m.layer.isReply with
    | false => rw [receiveFrame_of_not_isReply elapsed hdecode hlayer]; rfl
    | true =>
      rw [(receiveFrame_of_isReply elapsed hdecode hlayer).2]
      exact b.pending.lastId_deliver m

theorem lastId_receiveFrames (b : Bridge) (elapsed : Int64 → Duration)
    (frames : List (List UInt8)) :
    (b.receiveFrames elapsed frames).2.1.pending.lastId = b.pending.lastId := by
  induction frames generalizing b with
  | nil => rfl
  | cons frame frames ih =>
    have hstep : b.receiveFrame elapsed frame = (_, _, _) := rfl
    rw [receiveFrames_cons hstep, ih]
    exact b.lastId_receiveFrame elapsed frame

/-- The id handed out last is another one after an activity that takes one, and only then. -/
theorem lastId_perform (b : Bridge) (link : Link) (side : Side) (activity : Activity) :
    (b.perform link side activity).bridge.pending.lastId =
      if activity.takesId then b.pending.nextId.1 else b.pending.lastId := by
  cases activity with
  | sendRequest request => exact b.lastId_sendRequest link side request
  | sendReply request reply => exact congrArg _ (b.pending_sendReply link side request reply)
  | send m => exact congrArg _ (b.pending_transmit link side .outbound m)
  | forward m => exact congrArg _ (b.pending_transmit link side .forward m.clone)
  | receiveFrame frame elapsed => exact b.lastId_receiveFrame elapsed frame
  | poll elapsed => exact b.lastId_receiveFrames elapsed (link.receiveAll side).1
  | useTable op => exact b.pending.lastId_after op
  | shutdown => rfl
  | relink link => rfl

/-- The ids are handed out one after the other. -/
theorem handedOut_eq (activities : List Activity) (b : Bridge) (link : Link) {n : Nat}
    (hlast : b.pending.lastId = .ofNat n) :
    let issued := b.handedOut link side activities
    issued = (List.range' (n + 1) issued.length).map Int64.ofNat ∧
      (b.run link side activities).bridge.pending.lastId = .ofNat (n + issued.length) := by
  induction activities generalizing b link n with
  | nil => exact ⟨rfl, hlast⟩
  | cons activity activities ih =>
    have hstep := b.lastId_perform link side activity
    cases htakes : activity.takesId with
    | false =>
      rw [htakes] at hstep
      simp only [handedOut, htakes, Bool.false_eq_true, if_false, List.nil_append]
      exact ih _ _ (hstep.trans hlast)
    | true =>
      have hnext : b.pending.nextId.1 = .ofNat (n + 1) := by
        rw [Int64.ofNat_add, ← hlast]
        rfl
      rw [htakes, if_pos rfl, hnext] at hstep
      obtain ⟨hissued, hrun⟩ := ih (b.perform link side activity).bridge
        (b.perform link side activity).link hstep
      simp only [handedOut, htakes, if_true, List.singleton_append, List.length_cons]
      rw [List.range'_succ, List.map_cons, ← hissued, hnext]
      refine ⟨rfl, ?_⟩
      rw [Nat.add_comm _ 1, ← Nat.add_assoc]
      exact hrun

/-! ### Attempts -/

/-- One attempt after the other to send a request, each with what the one before has left of the
request, the bridge and the link. The first attempt has the number zero. -/
def attempt (b : Bridge) (link : Link) (side : Side) (request : Message) :
    Nat → Step (Except Failure Ticket × Message)
  | 0 => b.sendRequest link side request
  | n + 1 =>
    let last := b.attempt link side request n
    last.bridge.sendRequest last.link side last.result.2

/-- The bridge after so many ids and tickets were used up. -/
def afterClashes (b : Bridge) (n : Nat) : Bridge :=
  { b with pending := { b.pending with
      lastId := b.pending.lastId + .ofNat n
      nextNumber := b.pending.nextNumber + n } }

variable {request : Message}

/-- A request without an id is sent under the next one. When that is refused, it has no id again. -/
theorem sendRequest_of_unnamed (b : Bridge) (link : Link) (side : Side)
    (hlayer : request.layer.isRequest = true) (hid : request.requestId = .ok none) :
    b.sendRequest link side request =
      { b with pending := b.pending.nextId.2 }.sendUnder link side b.pending.nextId.1
        (request.setRequestId (some b.pending.nextId.1)) request := by
  rw [sendRequest, if_pos hlayer, hid]
  simp only
  rw [Message.setRequestId_setRequestId_none hid]

/-- An attempt to send a request under an id that waits uses up that id and a ticket. -/
theorem sendRequest_of_clash (hlayer : request.layer.isRequest = true)
    (hid : request.requestId = .ok none) (hclash : b.pending.contains b.pending.nextId.1 = true) :
    b.sendRequest link side request =
      ⟨(.error (.duplicateId b.pending.nextId.1), request), b.afterClashes 1, link, []⟩ := by
  rw [sendRequest_of_unnamed b link side hlayer hid]
  exact sendUnder_of_contains (b := { b with pending := b.pending.nextId.2 }) hclash ..

/-- Clashes add up. -/
theorem afterClashes_afterClashes_one (b : Bridge) (n : Nat) :
    (b.afterClashes n).afterClashes 1 = b.afterClashes (n + 1) := by
  simp only [afterClashes, Int64.ofNat_add, Int64.add_assoc, Nat.add_assoc]

variable {last : Nat}

/-- The id of an attempt behind so many clashes. -/
theorem nextId_afterClashes (hlast : b.pending.lastId = .ofNat last) (n : Nat) :
    (b.afterClashes n).pending.nextId.1 = .ofNat (last + (n + 1)) := by
  show b.pending.lastId + .ofNat n + 1 = _
  rw [hlast, Int64.ofNat_add last, Int64.ofNat_add n, Int64.add_assoc]
  rfl

/-- One more clash behind so many others. -/
theorem sendRequest_afterClashes (hlast : b.pending.lastId = .ofNat last)
    (hlayer : request.layer.isRequest = true) (hid : request.requestId = .ok none) {n : Nat}
    (hclash : b.pending.contains (.ofNat (last + (n + 1))) = true) :
    (b.afterClashes n).sendRequest link side request =
      ⟨(.error (.duplicateId (.ofNat (last + (n + 1)))), request), b.afterClashes (n + 1), link,
        []⟩ := by
  have hnext := nextId_afterClashes hlast n
  rw [sendRequest_of_clash hlayer hid (by rw [hnext]; exact hclash), hnext,
    afterClashes_afterClashes_one]

/-- As long as every id waits, each attempt is the first one of a bridge that has used them up. -/
theorem attempt_of_clashes (hlast : b.pending.lastId = .ofNat last)
    (hlayer : request.layer.isRequest = true) (hid : request.requestId = .ok none) {n : Nat}
    (hclash : ∀ i < n, b.pending.contains (.ofNat (last + (i + 1))) = true) :
    b.attempt link side request n = (b.afterClashes n).sendRequest link side request := by
  -- A clash gives the request back as it was, so that the next attempt is made with the same one.
  induction n with
  | zero =>
    have hnone : b.afterClashes 0 = b := by simp [afterClashes]
    rw [hnone]
    rfl
  | succ n ih =>
    rw [attempt, ih fun i hi => hclash i (Nat.lt_succ_of_lt hi),
      sendRequest_afterClashes hlast hlayer hid (hclash n (Nat.lt_succ_self n))]

/-- An attempt that clashes is refused for its id, and nothing has changed but the ids and the
tickets that are used up. -/
theorem attempt_of_clash (hlast : b.pending.lastId = .ofNat last)
    (hlayer : request.layer.isRequest = true) (hid : request.requestId = .ok none) {n : Nat}
    (hclash : ∀ i ≤ n, b.pending.contains (.ofNat (last + (i + 1))) = true) :
    b.attempt link side request n =
      ⟨(.error (.duplicateId (.ofNat (last + (n + 1)))), request), b.afterClashes (n + 1), link,
        []⟩ := by
  rw [attempt_of_clashes hlast hlayer hid fun i hi => hclash i (Nat.le_of_lt hi)]
  exact sendRequest_afterClashes hlast hlayer hid (hclash n (Nat.le_refl n))

/-- The first attempt whose id does not wait succeeds, if the end that the request goes to is not
gone. -/
theorem attempt_of_free (hlast : b.pending.lastId = .ofNat last)
    (hlayer : request.layer.isRequest = true) (hid : request.requestId = .ok none)
    {frames : List (List UInt8)} (hqueue : link.queue (link.target side) = some frames) {n : Nat}
    (hclash : ∀ i < n, b.pending.contains (.ofNat (last + (i + 1))) = true)
    (hfree : b.pending.contains (.ofNat (last + (n + 1))) = false) :
    let ticket : Ticket := ⟨.ofNat (last + (n + 1)), b.pending.nextNumber + n⟩
    let step := b.attempt link side request n
    step.result = (.ok ticket, request.setRequestId (some ticket.id)) ∧
      step.bridge.pending.waiting = b.pending.waiting ++ [ticket] := by
  intro ticket step
  let fresh : Bridge := { b.afterClashes n with pending := (b.afterClashes n).pending.nextId.2 }
  have hunused : fresh.pending.contains ticket.id = false := hfree
  have hstep : step = _ := attempt_of_clashes hlast hlayer hid hclash
  rw [sendRequest_of_unnamed _ link side hlayer hid, nextId_afterClashes hlast,
    sendUnder_of_not_contains (b := fresh) hunused hqueue] at hstep
  rw [hstep]
  exact ⟨rfl, rfl⟩

/-! ### How many attempts can fail -/

/-- Of some ids, either none is free, or there is a first one that is. -/
theorem first_free (p : Pending) (id : Nat → Int64) (n : Nat) :
    ∃ clashes ≤ n, (∀ i < clashes, p.contains (id i) = true) ∧
      (clashes < n → p.contains (id clashes) = false) := by
  induction n with
  | zero => exact ⟨0, Nat.le_refl 0, nofun, nofun⟩
  | succ n ih =>
    obtain ⟨clashes, hle, hclash, hfree⟩ := ih
    -- A first free id stays the first one; only where there is none, the next id counts.
    rcases Nat.lt_or_eq_of_le hle with hlt | rfl
    · exact ⟨clashes, Nat.le_succ_of_le hle, hclash, fun _ => hfree hlt⟩
    · cases hc : p.contains (id clashes) with
      | false => exact ⟨clashes, Nat.le_succ clashes, hclash, fun _ => hc⟩
      | true =>
        refine ⟨clashes + 1, Nat.le_refl _, ?_, fun hlt => absurd hlt (Nat.lt_irrefl _)⟩
        intro i hi
        rcases Nat.lt_succ_iff_lt_or_eq.mp hi with hi | rfl
        · exact hclash i hi
        · exact hc

/-- Where none of the next ids is free, there are as many registrations that wait. -/
theorem clashes_le_size {p : Pending} {last n : Nat} (hroom : last + n < 2 ^ 63)
    (hclash : ∀ i < n, p.contains (.ofNat (last + (i + 1))) = true) : n ≤ p.size := by
  let ids := (List.range n).map fun i => Int64.ofNat (last + (i + 1))
  have hdistinct : ids.Nodup := by
    apply List.Nodup.map_on _ List.nodup_range
    intro i hi j hj heq
    have hi := List.mem_range.mp hi
    have hj := List.mem_range.mp hj
    have hint := congrArg Int64.toInt heq
    rw [Int64.toInt_ofNat_of_lt (by omega), Int64.toInt_ofNat_of_lt (by omega)] at hint
    omega
  have hwaiting : ids ⊆ p.waiting.map (·.id) := by
    intro id hid
    obtain ⟨i, hi, rfl⟩ := List.mem_map.mp hid
    exact Pending.contains_iff.mp (hclash i (List.mem_range.mp hi))
  have hle := (hdistinct.subperm hwaiting).length_le
  simp only [ids, List.length_map, List.length_range] at hle
  exact hle

/-- From a bridge that has handed out `last` ids, attempts clash with the requests that wait, and
the next one succeeds with the id behind those of the clashes. -/
theorem attempts_get_past_clashes (hlast : b.pending.lastId = .ofNat last)
    (hlayer : request.layer.isRequest = true) (hid : request.requestId = .ok none)
    (hlive : link.queue (link.target side) ≠ none) {n : Nat} (hroom : last + n < 2 ^ 63) :
    let attempt := b.attempt link side request
    ∃ clashes ≤ n, clashes ≤ b.pending.size ∧
      (∀ i < clashes, b.pending.contains (.ofNat (last + (i + 1))) = true ∧
        attempt i = ⟨(.error (.duplicateId (.ofNat (last + (i + 1)))), request),
          b.afterClashes (i + 1), link, []⟩) ∧
      (clashes < n → ∃ ticket : Ticket, ticket.id = .ofNat (last + (clashes + 1)) ∧
        (attempt clashes).result = (.ok ticket, request.setRequestId (some ticket.id)) ∧
        (attempt clashes).bridge.pending.waiting = b.pending.waiting ++ [ticket]) := by
  intro attempt
  obtain ⟨frames, hqueue⟩ := Option.ne_none_iff_exists'.mp hlive
  obtain ⟨clashes, hle, hclash, hfree⟩ :=
    first_free b.pending (fun i => .ofNat (last + (i + 1))) n
  refine ⟨clashes, hle, clashes_le_size (by omega) hclash, ?_, ?_⟩
  · intro i hi
    exact ⟨hclash i hi, attempt_of_clash hlast hlayer hid fun i' hi' =>
      hclash i' (Nat.lt_of_le_of_lt hi' hi)⟩
  · intro hlt
    exact ⟨_, rfl, attempt_of_free hlast hlayer hid hqueue hclash (hfree hlt)⟩

/-- After every history of a bridge, a request without an id is sent again and again with nothing in
between, while the end that it goes to is not gone and as long as there are ids of 63 bits to hand
out. At most as many attempts fail as there are requests that wait. Each of them fails because its
id waits, leaves the request as it was, without an id, and changes nothing but the ids and the
tickets that are used up. The next attempt succeeds, and registers an id that is greater than every
id that was handed out before, in the history or for an attempt. -/
theorem retrying_gets_past_clashes (registry : Registry) (metrics : Option Metrics) (link : Link)
    (side : Side) (activities : List Activity) (request : Message)
    (hlayer : request.layer.isRequest = true) (hid : request.requestId = .ok none) :
    let new := Bridge.new registry metrics
    let h := new.run link side activities
    let issued := new.handedOut link side activities
    let attempt := h.bridge.attempt h.link side request
    h.link.queue (h.link.target side) ≠ none →
    ∀ n, issued.length + n < 2 ^ 63 →
      ∃ clashes, clashes ≤ n ∧ clashes ≤ h.bridge.pending.size ∧
        (∀ i < clashes, ∃ id, (attempt i).result = (.error (.duplicateId id), request) ∧
          h.bridge.pending.contains id = true ∧ (attempt i).link = h.link ∧
          h.bridge.SparedBut 0 (attempt i).bridge) ∧
        (clashes < n → ∃ ticket,
          (attempt clashes).result = (.ok ticket, request.setRequestId (some ticket.id)) ∧
          (attempt clashes).bridge.pending.waiting = h.bridge.pending.waiting ++ [ticket] ∧
          (∀ id ∈ issued, id < ticket.id) ∧
          ∀ i < clashes, ∀ id, (attempt i).result.1 = .error (.duplicateId id) →
            id < ticket.id) := by
  intro new h issued attempt hlive n hroom
  obtain ⟨hissued, hlast⟩ : issued = (List.range' 1 issued.length).map Int64.ofNat ∧
      h.bridge.pending.lastId = .ofNat (0 + issued.length) :=
    handedOut_eq activities new link (n := 0) rfl
  rw [Nat.zero_add] at hlast
  obtain ⟨clashes, hle, hsize, hrefused, hsent⟩ :=
    attempts_get_past_clashes hlast hlayer hid hlive hroom
  refine ⟨clashes, hle, hsize, ?_, ?_⟩
  · intro i hi
    obtain ⟨hwaits, hattempt⟩ : _ ∧ attempt i = _ := hrefused i hi
    rw [hattempt]
    exact ⟨_, rfl, hwaits, rfl, (h.bridge.afterClashes (i + 1)).pending,
      ⟨rfl, rfl, Nat.le_add_right ..⟩, rfl⟩
  · intro hlt
    obtain ⟨ticket, hticket, hresult, hwaiting⟩ := hsent hlt
    refine ⟨ticket, hresult, hwaiting, ?_, ?_⟩
    · intro id hmem
      rw [hissued] at hmem
      obtain ⟨k, hk, rfl⟩ := List.mem_map.mp hmem
      have hk := List.mem_range'_1.mp hk
      rw [hticket]
      exact ofNat_lt_ofNat (by omega) (by omega)
    · intro i hi id hfails
      have hattempt : attempt i = _ := (hrefused i hi).2
      rw [hattempt] at hfails
      cases hfails
      rw [hticket]
      exact ofNat_lt_ofNat (by omega) (by omega)

/-- Two requests wait under the ids that come next, and a third one gets past both. -/
theorem gets_past_chosen_ids :
    let echo := Message.ofStandard .echoRequest
    let activities := [.useTable .nextId, .sendRequest (echo.setRequestId (some 2)),
      .sendRequest (echo.setRequestId (some 3))]
    let h := (Bridge.new .standard none).run .pair .left activities
    h.bridge.pending.size = 2 ∧
      ∃ clashes ≤ 2, ∃ ticket, (h.bridge.attempt h.link .left echo clashes).result =
        (.ok ticket, echo.setRequestId (some ticket.id)) ∧ 1 < ticket.id := by
  intro echo activities h
  have hsize : h.bridge.pending.size = 2 := by decide +kernel
  have hlive : h.link.queue (h.link.target .left) ≠ none := by decide +kernel
  have hissued : (Bridge.new .standard none).handedOut .pair .left activities = [1] := by
    decide +kernel
  obtain ⟨clashes, -, hle, -, hsent⟩ := retrying_gets_past_clashes .standard none .pair .left
    activities echo rfl rfl hlive 3 (by rw [hissued]; decide)
  have hle : clashes ≤ 2 := hsize ▸ hle
  obtain ⟨ticket, hresult, -, hgreater, -⟩ := hsent (Nat.lt_succ_of_le hle)
  exact ⟨hsize, clashes, hle, ticket, hresult, hgreater 1 (by rw [hissued]; decide)⟩

end Bridge

end ProxyLink
