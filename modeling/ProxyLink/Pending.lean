import ProxyLink.Event

/-!
# Requests that wait for their replies

A table of the requests in flight. Registering an id hands out a ticket; the entry leaves the table
when a reply is delivered, the request is cancelled or expires, or its ticket is given up, whichever
comes first. What became of an entry is kept for its ticket until the ticket is used up. A ticket
acts by its number, so that it does not touch a later registration of the same id.
-/

namespace ProxyLink

/-- One registration of a request id. -/
structure Ticket where
  id : Int64
  /-- Tells apart registrations of the same id. -/
  number : Nat
  deriving DecidableEq

/-- What became of a request: its reply, or why there is none. -/
abbrev Outcome := Except Failure Message

/-- The requests in flight. -/
structure Pending where
  /-- The id handed out last. -/
  lastId : Int64
  /-- The number of the next ticket. It is unbounded here: a table is taken to be done with before
  it has used up 2⁶⁴ numbers. -/
  nextNumber : Nat
  /-- The registrations without an outcome. -/
  waiting : List Ticket
  /-- The outcomes that no one has asked for yet, by the number of the ticket. -/
  settled : List (Nat × Outcome)

namespace Pending

/-- The table with no request in it; ids start at one. -/
def empty : Pending := ⟨0, 0, [], []⟩

/-- A fresh id. After the greatest id comes the least. -/
def nextId (p : Pending) : Int64 × Pending :=
  let id := p.lastId + 1
  (id, { p with lastId := id })

/-- The registration that waits under an id. -/
def find? (p : Pending) (id : Int64) : Option Ticket := p.waiting.find? fun t => t.id == id

def contains (p : Pending) (id : Int64) : Bool := (p.find? id).isSome

def size (p : Pending) : Nat := p.waiting.length

def isEmpty (p : Pending) : Bool := p.waiting.isEmpty

/-- Starts to wait for the reply to an id. A number is used up even when the id is taken. -/
def register (p : Pending) (id : Int64) : Except Failure Ticket × Pending :=
  let numbered := { p with nextNumber := p.nextNumber + 1 }
  if p.contains id then (.error (.duplicateId id), numbered)
  else
    let ticket := ⟨id, p.nextNumber⟩
    (.ok ticket, { numbered with waiting := p.waiting ++ [ticket] })

/-- Settles the registration that waits under an id; nothing happens when there is none. -/
def settle (p : Pending) (id : Int64) (outcome : Outcome) : Bool × Pending :=
  match p.find? id with
  | none => (false, p)
  | some ticket =>
    (true, { p with
      waiting := p.waiting.filter fun t => t.id != id
      settled := (ticket.number, outcome) :: p.settled })

/-- Hands a reply to whoever waits for its id, and returns the id. -/
def deliver (p : Pending) (reply : Message) : Except Failure Int64 × Pending :=
  if reply.layer.isReply then
    match reply.requestId with
    | .error e => (.error (.property e), p)
    | .ok none => (.error (.missingId reply.type), p)
    | .ok (some id) =>
      match p.settle id (.ok reply) with
      | (true, p) => (.ok id, p)
      | (false, p) => (.error (.orphan id reply.type), p)
  else (.error (.notReply reply.type), p)

/-- Releases whoever waits for an id with a cancellation. -/
def cancel (p : Pending) (id : Int64) : Bool × Pending := p.settle id (.error (.cancelled id))

/-- Releases whoever waits for an id because time is up. -/
def expire (p : Pending) (id : Int64) : Bool × Pending := p.settle id (.error (.timedOut id))

/-- Cancels every request, and returns how many there were. -/
def cancelAll (p : Pending) : Nat × Pending :=
  (p.size, { p with
    waiting := []
    settled := p.waiting.map (fun t => (t.number, .error (.cancelled t.id))) ++ p.settled })

/-- What became of the request of a ticket, if that is known. -/
def outcome? (p : Pending) (ticket : Ticket) : Option Outcome := p.settled.lookup ticket.number

/-- Gives a ticket up. If its registration still waits, it is withdrawn, which is noted. -/
def drop (p : Pending) (ticket : Ticket) : Pending × List Event :=
  ({ p with
      waiting := p.waiting.filter fun t => t != ticket
      settled := p.settled.filter fun s => s.1 != ticket.number },
    if ticket ∈ p.waiting then [.withdrawn ticket.id] else [])

/-- Uses a ticket up: its outcome, or nothing while its request still waits. -/
def wait (p : Pending) (ticket : Ticket) : Option Outcome × Pending × List Event :=
  (p.outcome? ticket, p.drop ticket)

/-- Uses a ticket up after time has passed: its outcome if there is one, and otherwise the request
expires. -/
def waitUntilExpired (p : Pending) (ticket : Ticket) : Outcome × Pending × List Event :=
  match p.outcome? ticket with
  | some outcome => (outcome, p.drop ticket)
  | none =>
    let (_, expired) := p.expire ticket.id
    ((expired.outcome? ticket).getD (.error (.timedOut ticket.id)), expired.drop ticket)

/-- Uses a ticket up after so many nanoseconds at most: its outcome as soon as it is there. As long
as it is not there, others do with the table what they like. When time is up, the request
expires. -/
def waitFor (others : Nat → Pending → Pending) (ticket : Ticket) :
    (time : Nat) → (p : Pending) → Outcome × Pending × List Event
  | 0, p => p.waitUntilExpired ticket
  | time + 1, p =>
    match p.outcome? ticket with
    | some outcome => (outcome, p.drop ticket)
    | none => waitFor others ticket time (others time p)

/-- Nobody else has the table of requests, so that it stays as it is. -/
def nobody (_ : Nat) (p : Pending) : Pending := p

def display (p : Pending) : String := s!"PendingRequests \x7b in_flight: {p.size} \x7d"

end Pending

end ProxyLink
