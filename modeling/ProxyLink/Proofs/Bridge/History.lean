import Mathlib.Logic.Relation
import ProxyLink.Proofs.Bridge
import ProxyLink.Proofs.Pending.Ledger

/-!
# Histories of a bridge

Everything that can be done with a bridge, in any order, while others do to its link whatever they
like. A history is what has become of the bridge and the link, and what can be told of them from
outside: the messages that were handed to the link, the frames that were handled and what they
turned out to be, and the log. Whatever happens, the table of requests changes by its own operations
only: `becomes_run`.
-/

namespace ProxyLink

/-- What can happen to a bridge. -/
inductive Activity where
  | sendRequest (request : Message)
  | sendReply (request reply : Message)
  | send (m : Message)
  | forward (m : Message)
  | receiveFrame (frame : List UInt8) (elapsed : Int64 → Duration)
  | poll (elapsed : Int64 → Duration)
  | shutdown
  /-- Whoever has a ticket, or the table itself, makes use of it. -/
  | useTable (op : Operation)
  /-- Others have made another one of the link. -/
  | relink (link : Link)

/-- A bridge and its link after some time, and what could be told of them meanwhile. -/
structure History where
  bridge : Bridge
  link : Link
  /-- How many messages passed all checks and were handed to the link, which may have refused
  them. -/
  attempts : Nat
  /-- How many frames were handled. -/
  handled : Nat
  /-- What the frames turned out to be. -/
  inbound : List (Except Failure Inbound)
  events : List Event

/-- A history, and the one that goes on from it. -/
def History.andThen (h h' : History) : History :=
  ⟨h'.bridge, h'.link, h.attempts + h'.attempts, h.handled + h'.handled, h.inbound ++ h'.inbound,
    h.events ++ h'.events⟩

/-- What an operation that handles no frames comes to, when it hands so many messages to the
link. -/
def Step.history {α : Type} (step : Step α) (attempts : Nat) : History :=
  ⟨step.bridge, step.link, attempts, 0, [], step.events⟩

/-- The table after an operation, and what that notes in the log. -/
def Pending.after (p : Pending) : Operation → Pending × List Event
  | .nextId => (p.nextId.2, [])
  | .register id => ((p.register id).2, [])
  | .complete reply => ((p.deliver reply).2, [])
  | .cancel id => ((p.cancel id).2, [])
  | .expire id => ((p.expire id).2, [])
  | .cancelAll => (p.cancelAll.2, [])
  | .wait t => (p.wait t).2
  | .waitFor t time => (p.waitFor nobody t time.nanoseconds).2
  | .drop t => p.drop t

/-- Whether a request can be registered: it has an id that can be read, or none and is given the
next one, and nobody waits for that id. -/
def Bridge.admitsRequest (b : Bridge) (request : Message) : Bool :=
  request.layer.isRequest &&
    match request.requestId with
    | .error _ => false
    | .ok (some id) => !b.pending.contains id
    | .ok none => !b.pending.contains b.pending.nextId.1

/-- Whether a message can be answered with another one. -/
def Message.admitsReply (request reply : Message) : Bool :=
  request.layer.isRequest && reply.layer.isReply &&
    match request.requestId with
    | .ok (some _) => true
    | _ => false

namespace Bridge

variable {b : Bridge} {link : Link} {side : Side}

/-- What comes of one thing that happens to a bridge. -/
def perform (b : Bridge) (link : Link) (side : Side) : Activity → History
  | .sendRequest request =>
    (b.sendRequest link side request).history (if b.admitsRequest request then 1 else 0)
  | .sendReply request reply =>
    (b.sendReply link side request reply).history (if request.admitsReply reply then 1 else 0)
  | .send m => (b.send link side m).history 1
  | .forward m => (b.forward link side m).history 1
  | .receiveFrame frame elapsed =>
    let (result, bridge, events) := b.receiveFrame elapsed frame
    ⟨bridge, link, 0, 1, [result], events⟩
  | .poll elapsed =>
    let step := b.poll link side elapsed
    ⟨step.bridge, step.link, 0, (link.receiveAll side).1.length, step.result, step.events⟩
  | .shutdown => ⟨b.shutdown.2, link, 0, 0, [], []⟩
  | .useTable op =>
    let (pending, events) := b.pending.after op
    ⟨{ b with pending }, link, 0, 0, [], events⟩
  | .relink link => ⟨b, link, 0, 0, [], []⟩

/-- What comes of everything that happens to a bridge at one end of a link. -/
def run (b : Bridge) (link : Link) (side : Side) : List Activity → History
  | [] => ⟨b, link, 0, 0, [], []⟩
  | activity :: activities =>
    let h := b.perform link side activity
    h.andThen (h.bridge.run h.link side activities)

end Bridge

/-! ### The table of requests -/

namespace Pending

/-- A table can become another one by operations. -/
def Becomes : Pending → Pending → Prop :=
  Relation.ReflTransGen fun p p' => ∃ op, p' = (p.after op).1

theorem becomes_after (p : Pending) (op : Operation) : p.Becomes (p.after op).1 :=
  .single ⟨op, rfl⟩

/-- An operation of the table is noted as a withdrawal, or not at all. -/
theorem events_after (p : Pending) (op : Operation) :
    (p.after op).2 = [] ∨ ∃ id, (p.after op).2 = [.withdrawn id] := by
  cases op with
  | wait t => exact p.events_drop t
  | waitFor t time =>
    simp only [after, waitFor_nobody]
    obtain h | h := p.waitUntilExpired_cases t
    · rw [h]
      exact p.events_drop t
    · rw [h]
      exact events_drop _ t
  | drop t => exact p.events_drop t
  | _ => exact .inl rfl

/-- A property that every operation of a table keeps. Those that use a ticket up are made of the
ones here. -/
structure Invariant (P : Pending → Prop) : Prop where
  nextId : ∀ p, P p → P p.nextId.2
  register : ∀ p id, P p → P (p.register id).2
  settle : ∀ p id outcome, P p → P (p.settle id outcome).2
  cancelAll : ∀ p, P p → P p.cancelAll.2
  drop : ∀ p t, P p → P (p.drop t).1

namespace Invariant

variable {P : Pending → Prop} {p : Pending}

/-- An operation keeps what each part of it keeps. -/
theorem after (h : Invariant P) (hp : P p) (op : Operation) : P (p.after op).1 := by
  cases op with
  | nextId => exact h.nextId p hp
  | register id => exact h.register p id hp
  | complete reply =>
    obtain ⟨id, t, -, hdeliver⟩ | ⟨failure, hdeliver⟩ := p.deliver_cases reply
    · simp only [Pending.after, hdeliver]
      exact h.settle p id _ hp
    · simp only [Pending.after, hdeliver]
      exact hp
  | cancel id => exact h.settle p id _ hp
  | expire id => exact h.settle p id _ hp
  | cancelAll => exact h.cancelAll p hp
  | wait t => exact h.drop p t hp
  | waitFor t time =>
    simp only [Pending.after, waitFor_nobody]
    obtain hwait | hwait := p.waitUntilExpired_cases t
    · rw [hwait]
      exact h.drop p t hp
    · rw [hwait]
      exact h.drop _ t (h.settle p t.id _ hp)
  | drop t => exact h.drop p t hp

/-- Whatever a table becomes, it keeps what every operation keeps. -/
theorem becomes (h : Invariant P) (hp : P p) {p' : Pending} (hbecomes : p.Becomes p') : P p' := by
  induction hbecomes with
  | refl => exact hp
  | tail _ hstep ih =>
    obtain ⟨op, rfl⟩ := hstep
    exact h.after ih op

end Invariant

/-- Every number in a table was handed out. -/
structure Numbered (p : Pending) : Prop where
  waiting : ∀ t ∈ p.waiting, t.number < p.nextNumber
  settled : ∀ e ∈ p.settled, e.1 < p.nextNumber

theorem numbered_empty : Pending.empty.Numbered := ⟨nofun, nofun⟩

namespace Numbered

variable {p : Pending}

/-- Nothing is known of the tickets that are still to come. -/
theorem outcome?_eq_none (h : p.Numbered) (id : Int64) : p.outcome? ⟨id, p.nextNumber⟩ = none := by
  rw [outcome?, List.lookup_eq_none_iff]
  intro e he
  exact bne_iff_ne.mpr (Nat.ne_of_gt (h.settled e he))

/-- Taking some numbers away brings in no other one. -/
theorem of_subset (h : p.Numbered) {p' : Pending} (hwaiting : p'.waiting ⊆ p.waiting)
    (hsettled : p'.settled ⊆ p.settled) (hnext : p'.nextNumber = p.nextNumber) : p'.Numbered where
  waiting t ht := hnext ▸ h.waiting t (hwaiting ht)
  settled e he := hnext ▸ h.settled e (hsettled he)

/-- Registering uses up the next number. -/
theorem register (h : p.Numbered) (id : Int64) : (p.register id).2.Numbered := by
  cases hc : p.contains id with
  | true =>
    rw [register_of_contains hc]
    exact ⟨fun t ht => Nat.lt_succ_of_lt (h.waiting t ht),
      fun e he => Nat.lt_succ_of_lt (h.settled e he)⟩
  | false =>
    rw [register_of_not_contains hc]
    refine ⟨?_, fun e he => Nat.lt_succ_of_lt (h.settled e he)⟩
    intro t ht
    rcases List.mem_append.mp ht with ht | ht
    · exact Nat.lt_succ_of_lt (h.waiting t ht)
    · rw [List.mem_singleton.mp ht]
      exact Nat.lt_succ_self _

/-- An outcome is noted under the number of what has waited. -/
theorem settle (h : p.Numbered) (id : Int64) (outcome : Outcome) :
    (p.settle id outcome).2.Numbered := by
  obtain ⟨t, hfind, hsettle⟩ | ⟨-, hsettle⟩ := p.settle_cases id outcome
  · rw [hsettle]
    refine ⟨fun t' ht' => h.waiting t' (List.mem_of_mem_filter ht'), ?_⟩
    intro e he
    rcases List.mem_cons.mp he with rfl | he
    · exact h.waiting t (mem_of_find? hfind).1
    · exact h.settled e he
  · rw [hsettle]
    exact h

/-- Giving a ticket up only takes numbers away. -/
theorem drop (h : p.Numbered) (t : Ticket) : (p.drop t).1.Numbered :=
  h.of_subset List.filter_sublist.subset List.filter_sublist.subset rfl

theorem cancelAll (h : p.Numbered) : p.cancelAll.2.Numbered := by
  refine ⟨nofun, ?_⟩
  intro e he
  rcases List.mem_append.mp he with he | he
  · obtain ⟨t, ht, rfl⟩ := List.mem_map.mp he
    exact h.waiting t ht
  · exact h.settled e he

end Numbered

/-- No operation brings in a number that was not handed out. -/
theorem invariant_numbered : Invariant Numbered where
  nextId _ h := ⟨h.waiting, h.settled⟩
  register _ id h := h.register id
  settle _ id outcome h := h.settle id outcome
  cancelAll _ h := h.cancelAll
  drop _ t h := h.drop t

end Pending

namespace Bridge

variable {b : Bridge} {link : Link} {side : Side}

@[simp] theorem pending_transmit (b : Bridge) (link : Link) (side : Side) (direction : Direction)
    (m : Message) : (b.transmit link side direction m).bridge.pending = b.pending := by
  rw [transmit]
  cases link.send side m.frame <;> rfl

/-- Sending under an id registers it, and gives the registration up again if sending fails. -/
theorem becomes_sendUnder (b : Bridge) (link : Link) (side : Side) (id : Int64)
    (request restored : Message) :
    b.pending.Becomes (b.sendUnder link side id request restored).bridge.pending := by
  have hregister := b.pending.becomes_after (.register id)
  rw [sendUnder]
  cases hr : b.pending.register id with
  | mk result pending =>
    simp only [Pending.after, hr] at hregister
    cases result with
    | error failure => exact hregister
    | ok ticket =>
      have hsend : (send { b with pending } link side request).bridge.pending = pending :=
        pending_transmit ..
      simp only [sendRegistered]
      split
      · simp only [hsend]
        exact hregister
      · simp only [hsend]
        exact hregister.trans (pending.becomes_after (.drop ticket))

/-- Sending a request takes an id from the table if the request has none, and goes on under it. -/
theorem becomes_sendRequest (b : Bridge) (link : Link) (side : Side) (request : Message) :
    b.pending.Becomes (b.sendRequest link side request).bridge.pending := by
  rw [sendRequest]
  split
  · cases request.requestId with
    | error e => exact .refl
    | ok named =>
      cases named with
      | some id => exact becomes_sendUnder ..
      | none =>
        let fresh : Bridge := { b with pending := b.pending.nextId.2 }
        exact (b.pending.becomes_after .nextId).trans (fresh.becomes_sendUnder ..)
  · exact .refl

theorem pending_sendReply (b : Bridge) (link : Link) (side : Side) (request reply : Message) :
    (b.sendReply link side request reply).bridge.pending = b.pending := by
  rw [sendReply]
  split
  · cases request.requestId with
    | error e => rfl
    | ok named =>
      cases named with
      | none => rfl
      | some id =>
        simp only
        split
        · exact pending_transmit ..
        · rfl
  · rfl

/-- A frame is handed to the table if it is a reply. -/
theorem becomes_receiveFrame (b : Bridge) (elapsed : Int64 → Duration) (frame : List UInt8) :
    b.pending.Becomes (b.receiveFrame elapsed frame).2.1.pending := by
  cases hdecode : Frame.decode b.registry frame with
  | error failure =>
    rw [receiveFrame_of_error elapsed hdecode]
    exact .refl
  | ok m =>
    cases hlayer : m.layer.isReply with
    | false =>
      rw [receiveFrame_of_not_isReply elapsed hdecode hlayer]
      exact .refl
    | true =>
      rw [(receiveFrame_of_isReply elapsed hdecode hlayer).2]
      exact b.pending.becomes_after (.complete m)

theorem becomes_receiveFrames (b : Bridge) (elapsed : Int64 → Duration)
    (frames : List (List UInt8)) :
    b.pending.Becomes (b.receiveFrames elapsed frames).2.1.pending := by
  induction frames generalizing b with
  | nil => exact .refl
  | cons frame frames ih =>
    have hfirst := b.becomes_receiveFrame elapsed frame
    have hstep : b.receiveFrame elapsed frame = (_, _, _) := rfl
    rw [receiveFrames_cons hstep]
    exact hfirst.trans (ih _)

/-- Whatever happens to a bridge, its table changes by operations of the table only. -/
theorem becomes_perform (b : Bridge) (link : Link) (side : Side) (activity : Activity) :
    b.pending.Becomes (b.perform link side activity).bridge.pending := by
  cases activity with
  | sendRequest request => exact b.becomes_sendRequest link side request
  | sendReply request reply =>
    exact (b.pending_sendReply link side request reply).symm ▸ .refl
  | send m => exact (b.pending_transmit link side .outbound m).symm ▸ .refl
  | forward m => exact (b.pending_transmit link side .forward m.clone).symm ▸ .refl
  | receiveFrame frame elapsed => exact b.becomes_receiveFrame elapsed frame
  | poll elapsed => exact b.becomes_receiveFrames elapsed (link.receiveAll side).1
  | shutdown => exact b.pending.becomes_after .cancelAll
  | useTable op => exact b.pending.becomes_after op
  | relink link => exact .refl

/-- In every history of a bridge, its table changes by operations of the table only. -/
theorem becomes_run (b : Bridge) (link : Link) (side : Side) (activities : List Activity) :
    b.pending.Becomes (b.run link side activities).bridge.pending := by
  induction activities generalizing b link with
  | nil => exact .refl
  | cons activity activities ih => exact (b.becomes_perform link side activity).trans (ih _ _)

/-- In every history of a bridge that begins with it, every number in its table was handed out. -/
theorem numbered_run (registry : Registry) (metrics : Option Metrics) (link : Link) (side : Side)
    (activities : List Activity) :
    ((Bridge.new registry metrics).run link side activities).bridge.pending.Numbered :=
  Pending.invariant_numbered.becomes Pending.numbered_empty
    ((Bridge.new registry metrics).becomes_run link side activities)

end Bridge

end ProxyLink
