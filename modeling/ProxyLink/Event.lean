import ProxyLink.Failure

/-!
# Events

What a peer notes in its log while it works, as data: a level, a message and named fields.
-/

namespace ProxyLink

/-- Which way a message goes. -/
inductive Direction where
  | outbound
  | inbound
  /-- On to another peer. -/
  | forward
  deriving DecidableEq

def Direction.name : Direction → String
  | .outbound => "Outbound"
  | .inbound => "Inbound"
  | .forward => "Forward"

/-- How much an event matters. -/
inductive Level where
  | debug
  | warn
  deriving DecidableEq

def Level.name : Level → String
  | .debug => "DEBUG"
  | .warn => "WARN"

/-- Something worth noting. -/
inductive Event where
  /-- A message was registered under its type. -/
  | registered (type : MessageType)
  /-- A message with so many properties went in a direction. -/
  | traffic (direction : Direction) (type : MessageType) (id : Option Int64) (properties : Nat)
  /-- A frame could not be sent. -/
  | sendFailed (failure : Failure)
  /-- A frame could not be decoded. -/
  | rejected (failure : Failure)
  /-- Nobody waits for a reply. -/
  | orphanReply (id : Int64) (type : MessageType)
  /-- A caller gave up on a request that was still waiting. -/
  | withdrawn (id : Int64)
  deriving DecidableEq

namespace Event

/-- How much an event matters. -/
def level : Event → Level
  | .registered _ | .traffic .. | .withdrawn _ => .debug
  | .sendFailed _ | .rejected _ | .orphanReply .. => .warn

def message : Event → String
  | .registered _ => "registered message prototype"
  | .traffic .. => "proxy message"
  | .sendFailed _ => "transport send failed"
  | .rejected _ => "rejected inbound frame"
  | .orphanReply .. => "orphan reply"
  | .withdrawn _ => "caller stopped waiting"

/-- An id that may be missing. -/
def showId : Option Int64 → String
  | some id => s!"Some({Decimal.ofInt64 id})"
  | none => "None"

def fields : Event → List (String × String)
  | .registered type => [("message_type", type.display)]
  | .traffic direction type id properties =>
    [("message_type", type.display), ("request_id", showId id),
      ("properties", Decimal.ofNat properties), ("direction", direction.name)]
  | .sendFailed failure => [("transport", linkName), ("error", failure.message)]
  | .rejected failure => [("transport", linkName), ("error", failure.message)]
  | .orphanReply id type =>
    [("request_id", Decimal.ofInt64 id), ("message_type", type.display)]
  | .withdrawn id => [("request_id", Decimal.ofInt64 id)]

end Event

/-- The id that a message shows in the log: none for a message without a layer, and none where the
id cannot be read. -/
def Message.loggedId (m : Message) : Option Int64 :=
  match m.layer, m.requestId with
  | .bare, _ => none
  | _, .ok id => id
  | _, .error _ => none

/-- The event of a message that goes in a direction. -/
def Message.traffic (m : Message) (direction : Direction) : Event :=
  .traffic direction m.type m.loggedId m.bag.size

end ProxyLink
