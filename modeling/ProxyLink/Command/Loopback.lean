import ProxyLink.Command.Failure
import ProxyLink.Config
import ProxyLink.Frame.Stream
import ProxyLink.Pending

/-!
# Exchanges within the program

A caller sends initialize requests, one after the other, over a stream to a responder in the same
program. The responder answers each of them, as a success or with an error. Both ends read and write
frames under the same limit; a responder that cannot write its reply ends, and the caller notices.
-/

namespace ProxyLink.Command

/-- An initialize request for a peer at an address. -/
def initializeRequest (address : String) (port : UInt16) (id : Option Int64) : Message :=
  (((Message.ofStandard .initializeRequest).write .libraryAddress (some address)).write .libraryPort
    (some (Decimal.ofNat port.toNat))).setRequestId id

namespace Loopback

/-- The blank reply to a request, and what it takes over from the request; nothing, when the
responder does not know the request. -/
def blankReply? (request : Message) : Except ProxyLink.Failure (Option Message) :=
  if request.isKind .initializeRequest then .ok (some (.ofStandard .initializeReply))
  else if request.isKind .echoRequest then
    match request.read .payload with
    | .ok payload => .ok (some ((Message.ofStandard .echoReply).write .payload payload))
    | .error e => .error (.property e)
  else .ok none

/-- The reply to a request. It carries the id of the request, and an error if a message for it is
given. -/
def reply? (failWith : Option String) (request : Message) :
    Except ProxyLink.Failure (Option Message) :=
  if request.layer.isRequest then
    match request.requestId with
    | .error e => .error (.property e)
    | .ok id =>
      (blankReply? request).map fun reply => reply.map fun reply =>
        (reply.setRequestId id).setError (failWith.map fun message => ⟨.custom, message, none⟩)
  else .error (.notRequest request.type)

/-- What has arrived at the two ends of the stream and is not read yet, and the requests that wait
for their replies. -/
structure Session where
  atResponder : List UInt8
  atCaller : List UInt8
  pending : Pending

/-- The session before the first request. -/
def Session.start : Session := ⟨[], [], .empty⟩

/-- The responder reads one frame and writes the reply, if there is one. -/
def Session.respond (codec : Frame.Codec) (failWith : Option String) (s : Session) :
    Except ProxyLink.Failure Session :=
  match codec.next s.atResponder with
  | (.error failure, _) => .error failure
  | (.ok none, _) => .ok s
  | (.ok (some request), left) =>
    match reply? failWith request with
    | .error failure => .error failure
    | .ok none => .ok { s with atResponder := left }
    | .ok (some reply) =>
      (codec.append reply s.atCaller).map fun arrived =>
        { s with atResponder := left, atCaller := arrived }

/-- The line about a request and what became of it. -/
def line (id : Int64) (reply : Message) : Except ProxyLink.Failure String :=
  if reply.layer.isReply then
    match reply.error with
    | .error e => .error (.property e)
    | .ok none => .ok s!"request {Decimal.ofInt64 id}: ok\n"
    | .ok (some e) => .ok s!"request {Decimal.ofInt64 id}: {e.display}\n"
  else .error (.notReply reply.type)

/-- The caller reads the reply that has arrived, hands it to the request that waits for it, and
waits with that request for so many seconds at most. -/
def Session.conclude (codec : Frame.Codec) (timeout : Nat) (others : Nat → Pending → Pending)
    (ticket : Ticket) (s : Session) : Except Failure (String × Session) :=
  match codec.next s.atCaller with
  | (.error failure, _) => .error (.exchange failure)
  | (.ok none, _) => .error .responderGone
  | (.ok (some reply), left) =>
    match s.pending.deliver reply with
    | (.error failure, _) => .error (.exchange failure)
    | (.ok _, pending) =>
      let (outcome, pending, _) := pending.waitFor others ticket (1000000000 * timeout)
      match outcome.bind (line ticket.id) with
      | .error failure => .error (.exchange failure)
      | .ok shown => .ok (shown, { s with atCaller := left, pending })

/-- The caller sends one request and waits for its reply. Others may act on the table while it
waits. -/
def Session.exchange (codec : Frame.Codec) (proxy : Config.Proxy)
    (others : Nat → Pending → Pending) (failWith : Option String) (s : Session) :
    Except Failure (String × Session) :=
  let (id, pending) := s.pending.nextId
  match pending.register id with
  | (.error failure, _) => .error (.exchange failure)
  | (.ok ticket, pending) =>
    match codec.append (initializeRequest proxy.address proxy.port (some id)) s.atResponder with
    | .error failure => .error (.exchange failure)
    | .ok arrived =>
      match ({ s with atResponder := arrived, pending } : Session).respond codec failWith with
      | .error _ => .error .responderGone
      | .ok s => s.conclude codec proxy.timeout others ticket

/-- What some exchanges show, after what has been shown before, and why they end early if they
do. -/
def Session.run (codec : Frame.Codec) (proxy : Config.Proxy) (others : Nat → Pending → Pending)
    (failWith : Option String) :
    (count : Nat) → Session → (shown : String) → String × Option Failure
  | 0, _, shown => (shown, none)
  | count + 1, s, shown =>
    match s.exchange codec proxy others failWith with
    | .error failure => (shown, some failure)
    | .ok (more, s) => Session.run codec proxy others failWith count s (shown ++ more)

/-- What a number of exchanges under a configuration shows, and why it ends early if it does. Nobody
but the caller has its table. -/
def run (proxy : Config.Proxy) (count : Nat) (failWith : Option String) :
    String × Option Failure :=
  Session.start.run ⟨.standard, proxy.frameLimit⟩ proxy Pending.nobody failWith count ""

end Loopback

end ProxyLink.Command
