import ProxyLink.Frame.Decode
import ProxyLink.Link
import ProxyLink.Metrics
import ProxyLink.Pending

/-!
# Bridges

A bridge is one side of the conversation between two peers. It sends messages over its end of a
link, decodes the frames that arrive there, hands replies to the requests that wait for them, and
gives requests to its owner. It counts what it does, and notes it in the log.
-/

namespace ProxyLink

/-- How many frames a bridge has handled, and how. The numbers are unbounded here: a bridge is taken
never to handle as many as 2⁶⁴ frames. -/
structure Counters where
  sent : Nat
  received : Nat
  /-- Frames that the link refused. -/
  dropped : Nat
  /-- Replies that nobody waited for. -/
  orphaned : Nat
  /-- Frames that could not be decoded. -/
  rejected : Nat
  deriving DecidableEq

/-- One side of the conversation between two peers. -/
structure Bridge where
  registry : Registry
  pending : Pending
  counters : Counters
  /-- Where traffic is measured, if anywhere. -/
  metrics : Option Metrics

/-- What an operation of a bridge comes to: its result, the bridge and the link after it, and what
it notes in the log. -/
structure Step (α : Type) where
  result : α
  bridge : Bridge
  link : Link
  events : List Event

/-- What a frame from the peer turns out to be. -/
inductive Inbound where
  /-- A message for the owner of the bridge. -/
  | request (m : Message)
  /-- A reply that was handed to whoever waited for it. -/
  | reply (id : Int64)

namespace Bridge

/-- A bridge that has done nothing yet. -/
def new (registry : Registry) (metrics : Option Metrics) : Bridge :=
  ⟨registry, .empty, ⟨0, 0, 0, 0, 0⟩, metrics⟩

/-- The bridge with its metrics updated, if it has any. -/
def measure (b : Bridge) (update : Metrics → Metrics) : Bridge :=
  { b with metrics := b.metrics.map update }

def countSent (b : Bridge) : Bridge :=
  { b with counters := { b.counters with sent := b.counters.sent + 1 } }.measure .countSent

def countDropped (b : Bridge) : Bridge :=
  { b with counters := { b.counters with dropped := b.counters.dropped + 1 } }

def countReceived (b : Bridge) : Bridge :=
  { b with counters := { b.counters with received := b.counters.received + 1 } }.measure
    .countReceived

/-- Counts a frame that could not be decoded. -/
def countRejected (b : Bridge) : Bridge :=
  { b with counters := { b.counters with rejected := b.counters.rejected + 1 } }.measure
    .countRejected

/-- Counts a reply that nobody waited for. -/
def countOrphaned (b : Bridge) : Bridge :=
  { b with counters := { b.counters with orphaned := b.counters.orphaned + 1 } }.measure
    .countOrphaned

/-- Encodes a message and hands it to the link. -/
def transmit (b : Bridge) (link : Link) (side : Side) (direction : Direction) (m : Message) :
    Step (Except Failure Unit) :=
  match link.send side m.frame with
  | .ok link => ⟨.ok (), b.countSent, link, [m.traffic direction]⟩
  | .error failure =>
    ⟨.error failure, b.countDropped, link, [m.traffic direction, .sendFailed failure]⟩

/-- Sends a message as it is. -/
def send (b : Bridge) (link : Link) (side : Side) (m : Message) : Step (Except Failure Unit) :=
  b.transmit link side .outbound m

/-- Sends on a copy of a message that came from elsewhere. It keeps its request id, and no reply is
waited for. -/
def forward (b : Bridge) (link : Link) (side : Side) (m : Message) : Step (Except Failure Unit) :=
  b.transmit link side .forward m.clone

/-- Sends a request that is registered under an id. When that fails, the registration is withdrawn;
`restored` is what the request is then left as. -/
def sendRegistered (b : Bridge) (link : Link) (side : Side) (ticket : Ticket)
    (request restored : Message) : Step (Except Failure Ticket × Message) :=
  let step := b.send link side request
  match step.result with
  | .ok () => ⟨(.ok ticket, request), step.bridge, step.link, step.events⟩
  | .error failure =>
    let (pending, events) := step.bridge.pending.drop ticket
    ⟨(.error failure, restored), { step.bridge with pending }, step.link, step.events ++ events⟩

/-- Registers an id and sends a request under it. -/
def sendUnder (b : Bridge) (link : Link) (side : Side) (id : Int64) (request restored : Message) :
    Step (Except Failure Ticket × Message) :=
  match b.pending.register id with
  | (.error failure, pending) => ⟨(.error failure, restored), { b with pending }, link, []⟩
  | (.ok ticket, pending) => { b with pending }.sendRegistered link side ticket request restored

/-- Sends a request and waits for its reply: the ticket to wait with, and the request as it stands
afterwards. A request without an id is given a fresh one, and loses it again when it cannot be sent;
an id that the caller has set is left as it is. -/
def sendRequest (b : Bridge) (link : Link) (side : Side) (request : Message) :
    Step (Except Failure Ticket × Message) :=
  if request.layer.isRequest then
    match request.requestId with
    | .error e => ⟨(.error (.property e), request), b, link, []⟩
    | .ok (some id) => b.sendUnder link side id request request
    | .ok none =>
      let (id, pending) := b.pending.nextId
      let named := request.setRequestId (some id)
      { b with pending }.sendUnder link side id named (named.setRequestId none)
  else ⟨(.error (.notRequest request.type), request), b, link, []⟩

/-- Answers a request: the reply is given the request's id and sent. The second result is the reply
as it stands afterwards. -/
def sendReply (b : Bridge) (link : Link) (side : Side) (request reply : Message) :
    Step (Except Failure Unit × Message) :=
  let refused (failure : Failure) : Step (Except Failure Unit × Message) :=
    ⟨(.error failure, reply), b, link, []⟩
  if request.layer.isRequest then
    match request.requestId with
    | .error e => refused (.property e)
    | .ok none => refused (.missingId request.type)
    | .ok (some id) =>
      if reply.layer.isReply then
        let named := reply.setRequestId (some id)
        let step := b.send link side named
        ⟨(step.result, named), step.bridge, step.link, step.events⟩
      else refused (.notReply reply.type)
  else refused (.notRequest request.type)

/-- Routes a message that was decoded. `elapsed` tells how long each id has waited. -/
def route (b : Bridge) (elapsed : Int64 → Duration) (m : Message) :
    Except Failure Inbound × Bridge × List Event :=
  if m.layer.isReply then
    match b.pending.deliver m with
    | (.ok id, pending) =>
      (.ok (.reply id), { b with pending }.measure (·.observeLatency (elapsed id)), [])
    | (.error (.orphan id type), pending) =>
      (.error (.orphan id type), { b with pending }.countOrphaned, [.orphanReply id type])
    | (.error failure, pending) => (.error failure, { b with pending }, [])
  else (.ok (.request m), b, [])

def receiveFrame (b : Bridge) (elapsed : Int64 → Duration) (frame : List UInt8) :
    Except Failure Inbound × Bridge × List Event :=
  match Frame.decode b.registry frame with
  | .error failure => (.error failure, b.countRejected, [.rejected failure])
  | .ok m =>
    let (result, bridge, events) := b.countReceived.route elapsed m
    (result, bridge, m.traffic .inbound :: events)

/-- Handles frames in the order in which they arrived. -/
def receiveFrames (b : Bridge) (elapsed : Int64 → Duration) :
    List (List UInt8) → List (Except Failure Inbound) × Bridge × List Event
  | [] => ([], b, [])
  | frame :: frames =>
    let (result, b, events) := b.receiveFrame elapsed frame
    let (results, b, more) := b.receiveFrames elapsed frames
    (result :: results, b, events ++ more)

/-- Handles every frame that waits at the bridge's end of the link. -/
def poll (b : Bridge) (link : Link) (side : Side) (elapsed : Int64 → Duration) :
    Step (List (Except Failure Inbound)) :=
  let (frames, link) := link.receiveAll side
  let (results, bridge, events) := b.receiveFrames elapsed frames
  ⟨results, bridge, link, events⟩

/-- Cancels every request that still waits, and returns how many there were. -/
def shutdown (b : Bridge) : Nat × Bridge :=
  let (count, pending) := b.pending.cancelAll
  (count, { b with pending })

end Bridge

end ProxyLink
