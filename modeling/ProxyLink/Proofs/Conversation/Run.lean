import Mathlib.Algebra.Group.Nat.Defs
import Mathlib.Logic.Function.Basic
import ProxyLink.Proofs.Bridge

/-!
# Conversations

Two bridges at the two ends of a link, together with what their owners have done and seen: which
requests they have sent and received, how they have answered them, and what their tickets have
yielded. `Reachable` is every conversation that comes about from a fresh one, whatever the owners do
and in whatever order, as long as they answer a request at most once and give up no ticket without
an outcome.
-/

namespace ProxyLink

/-- The request that a frame turned out to be, if it did. -/
def Inbound.request? : Except Failure Inbound → Option Message
  | .ok (.request m) => some m
  | _ => none

/-- One side of a conversation, and what its owner has done and seen. -/
structure Party where
  bridge : Bridge
  /-- The requests that were sent, as they were sent, each with its ticket. -/
  sent : List (Ticket × Message)
  /-- The requests that have arrived. -/
  received : List Message
  /-- The replies that were sent, as they were sent, each with the place of the request that it
  answers among those that have arrived. -/
  answered : List (Nat × Message)
  /-- What was yielded by tickets that are used up, each with the place of the ticket among those of
  the requests that were sent. -/
  collected : List (Nat × Outcome)

/-- Two sides, and the link between them. -/
structure Conversation where
  link : Link
  party : Side → Party

namespace Conversation

/-- A conversation that has not begun, between bridges that know all standard kinds. -/
def start (metrics : Side → Option Metrics) : Conversation where
  link := .pair
  party s := ⟨.new (Registry.empty.registerAll (Family.prototypes Family.all)).2.1 (metrics s),
    [], [], [], []⟩

/-- The conversation after a step of one side. -/
def update (c : Conversation) (s : Side) (link : Link) (p : Party) : Conversation :=
  ⟨link, Function.update c.party s p⟩

def request (c : Conversation) (s : Side) (m : Message) : Conversation :=
  let p := c.party s
  let step := p.bridge.sendRequest c.link s m
  match step.result with
  | (.ok ticket, sent) =>
    c.update s step.link { p with bridge := step.bridge, sent := p.sent ++ [(ticket, sent)] }
  | (.error _, _) => c.update s step.link { p with bridge := step.bridge }

def reply (c : Conversation) (s : Side) (place : Nat) (m : Message) : Conversation :=
  let p := c.party s
  match p.received[place]? with
  | none => c
  | some request =>
    let step := p.bridge.sendReply c.link s request m
    match step.result with
    | (.ok (), sent) =>
      c.update s step.link
        { p with bridge := step.bridge, answered := p.answered ++ [(place, sent)] }
    | (.error _, _) => c.update s step.link { p with bridge := step.bridge }

/-- One side handles the first frame that waits at its end. -/
def receive (c : Conversation) (s : Side) (elapsed : Int64 → Duration) : Conversation :=
  let p := c.party s
  match c.link.receive s with
  | (none, _) => c
  | (some frame, link) =>
    let (result, bridge, _) := p.bridge.receiveFrame elapsed frame
    c.update s link
      { p with bridge, received := p.received ++ [result].filterMap Inbound.request? }

def poll (c : Conversation) (s : Side) (elapsed : Int64 → Duration) : Conversation :=
  let p := c.party s
  let step := p.bridge.poll c.link s elapsed
  c.update s step.link
    { p with
      bridge := step.bridge
      received := p.received ++ step.result.filterMap Inbound.request? }

/-- The owner of one side waits with the ticket of a request that was sent. Nothing happens while it
has no outcome. -/
def collect (c : Conversation) (s : Side) (place : Nat) : Conversation :=
  let p := c.party s
  match p.sent[place]? with
  | none => c
  | some (ticket, _) =>
    match p.bridge.pending.wait ticket with
    | (none, _) => c
    | (some outcome, pending, _) =>
      c.update s c.link
        { p with
          bridge := { p.bridge with pending }
          collected := p.collected ++ [(place, outcome)] }

/-- The conversations that come about. Requests and replies are of standard kinds, the length of
each body that is sent has 32 bits, and no request is answered twice. -/
inductive Reachable : Conversation → Prop where
  | start (metrics : Side → Option Metrics) : Reachable (start metrics)
  | request {c : Conversation} (s : Side) {k : StandardKind} {m : Message} : Reachable c →
    m.OfKind k → (∀ e ∈ ((c.request s m).party s).sent, e.2.body.length < 2 ^ 32) →
      Reachable (c.request s m)
  | reply {c : Conversation} (s : Side) (place : Nat) {k : StandardKind} {m : Message} :
    Reachable c → m.OfKind k → k.layer.isReply = true →
      place ∉ (c.party s).answered.map (·.1) →
      (∀ a ∈ ((c.reply s place m).party s).answered, a.2.body.length < 2 ^ 32) →
        Reachable (c.reply s place m)
  | receive {c : Conversation} (s : Side) (elapsed : Int64 → Duration) :
    Reachable c → Reachable (c.receive s elapsed)
  | poll {c : Conversation} (s : Side) (elapsed : Int64 → Duration) :
    Reachable c → Reachable (c.poll s elapsed)
  | collect {c : Conversation} (s : Side) (place : Nat) :
    Reachable c → Reachable (c.collect s place)

/-- The requests of one side and what has become of them: what that side knows, and what the other
one has received and answered. -/
structure Exchange where
  pending : Pending
  sent : List (Ticket × Message)
  collected : List (Nat × Outcome)
  received : List Message
  answered : List (Nat × Message)

/-- The requests that have arrived and are not answered yet. -/
def Exchange.unanswered (x : Exchange) : List Message :=
  (x.received.zipIdx.filter fun e => e.2 ∉ x.answered.map (·.1)).map (·.1)

/-- The exchange about the requests of one side. -/
def exchange (c : Conversation) (s : Side) : Exchange :=
  let p := c.party s
  let peer := c.party s.other
  ⟨p.bridge.pending, p.sent, p.collected, peer.received, peer.answered⟩

/-- The messages in the frames that wait at one end. -/
def arriving (c : Conversation) (s : Side) : List Message :=
  ((c.link.queue s).getD []).filterMap fun frame =>
    (Frame.decode (c.party s).bridge.registry frame).toOption

/-- The requests among the messages that wait at one end. -/
def requestsAt (c : Conversation) (s : Side) : List Message :=
  (c.arriving s).filter (·.layer.isRequest)

/-- The replies among the messages that wait at one end. -/
def repliesAt (c : Conversation) (s : Side) : List Message :=
  (c.arriving s).filter (·.layer.isReply)

variable {c : Conversation} {s : Side}

/-! ### The sides after a step -/

@[simp] theorem link_update (c : Conversation) (s : Side) (link : Link) (p : Party) :
    (c.update s link p).link = link := rfl

@[simp] theorem party_update_self (c : Conversation) (s : Side) (link : Link) (p : Party) :
    (c.update s link p).party s = p :=
  Function.update_self ..

@[simp] theorem party_update_other (c : Conversation) (s : Side) (link : Link) (p : Party) :
    (c.update s link p).party s.other = c.party s.other :=
  Function.update_of_ne s.other_ne ..

@[simp] theorem update_update (c : Conversation) (s : Side) (link link' : Link) (p p' : Party) :
    (c.update s link p).update s link' p' = c.update s link' p' := by
  simp only [update, Function.update_idem]

@[simp] theorem update_party (c : Conversation) (s : Side) :
    c.update s c.link (c.party s) = c := by
  simp only [update, Function.update_eq_self]

/-- The exchange about the requests of a side depends on that side by its table and its history. -/
theorem exchange_update_self (c : Conversation) (s : Side) (link : Link) (p : Party) :
    (c.update s link p).exchange s = { c.exchange s with
      pending := p.bridge.pending, sent := p.sent, collected := p.collected } := by
  simp only [exchange, party_update_self, party_update_other]

/-- The exchange about the requests of the other side is the same when nothing is received or
answered. -/
theorem exchange_update_other {link : Link} {p : Party}
    (hreceived : p.received = (c.party s).received)
    (hanswered : p.answered = (c.party s).answered) :
    (c.update s link p).exchange s.other = c.exchange s.other := by
  simp only [exchange, Side.other_other, party_update_self, party_update_other, hreceived,
    hanswered]

/-- A request of the other side that is received is added to the exchange about them. -/
theorem exchange_update_other_of_received {link : Link} {p : Party} {m : Message}
    (hreceived : p.received = (c.party s).received ++ [m])
    (hanswered : p.answered = (c.party s).answered) :
    (c.update s link p).exchange s.other = { c.exchange s.other with
      received := (c.exchange s.other).received ++ [m] } := by
  simp only [exchange, Side.other_other, party_update_self, party_update_other, hreceived,
    hanswered]

/-- A request of the other side that is answered is added to the exchange about them. -/
theorem exchange_update_other_of_answered {link : Link} {p : Party} {a : Nat × Message}
    (hreceived : p.received = (c.party s).received)
    (hanswered : p.answered = (c.party s).answered ++ [a]) :
    (c.update s link p).exchange s.other = { c.exchange s.other with
      answered := (c.exchange s.other).answered ++ [a] } := by
  simp only [exchange, Side.other_other, party_update_self, party_update_other, hreceived,
    hanswered]

/-! ### Frames that wait -/

theorem receive_of_queue_nil (h : c.link.queue s = some []) (elapsed : Int64 → Duration) :
    c.receive s elapsed = c := by
  simp only [receive, Link.receive_of_queue_nil h]

/-- The first frame that waits is handled. -/
theorem receive_of_queue_cons {frame : List UInt8} {frames : List (List UInt8)}
    (h : c.link.queue s = some (frame :: frames)) {elapsed : Int64 → Duration}
    {result : Except Failure Inbound} {bridge : Bridge} {events : List Event}
    (hstep : (c.party s).bridge.receiveFrame elapsed frame = (result, bridge, events)) :
    c.receive s elapsed = c.update s (c.link.setQueue s (some frames))
      { c.party s with
        bridge
        received := (c.party s).received ++ [result].filterMap Inbound.request? } := by
  simp only [receive, Link.receive_of_queue_cons h, hstep]

private theorem poll_of_queue {frames : List (List UInt8)} (h : c.link.queue s = some frames)
    (elapsed : Int64 → Duration) :
    c.poll s elapsed = c.update s (c.link.setQueue s (some []))
      { c.party s with
        bridge := ((c.party s).bridge.receiveFrames elapsed frames).2.1
        received := (c.party s).received ++
          ((c.party s).bridge.receiveFrames elapsed frames).1.filterMap Inbound.request? } := by
  simp only [poll, Bridge.poll, Link.receiveAll_of_queue h]

theorem poll_of_queue_nil (h : c.link.queue s = some []) (elapsed : Int64 → Duration) :
    c.poll s elapsed = c := by
  rw [poll_of_queue h, Link.setQueue_of_queue h]
  simp only [Bridge.receiveFrames, List.filterMap_nil, List.append_nil]
  exact update_party c s

/-- Handling every frame is handling the first one, and then the others. -/
theorem poll_of_queue_cons {frame : List UInt8} {frames : List (List UInt8)}
    (h : c.link.queue s = some (frame :: frames)) (elapsed : Int64 → Duration) :
    (c.receive s elapsed).link.queue s = some frames ∧
      c.poll s elapsed = (c.receive s elapsed).poll s elapsed := by
  cases hstep : (c.party s).bridge.receiveFrame elapsed frame with
  | mk result rest =>
    rcases rest with ⟨bridge, events⟩
    rw [receive_of_queue_cons h hstep]
    constructor
    · simp
    · rw [poll_of_queue h, poll_of_queue (Link.queue_setQueue_self ..), update_update,
        party_update_self, link_update, Link.setQueue_setQueue, Bridge.receiveFrames_cons hstep]
      simp only [List.append_assoc, ← List.filterMap_append, List.singleton_append]

end Conversation

end ProxyLink
