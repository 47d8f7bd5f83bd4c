import ProxyLink.Frame.Fault
import ProxyLink.Message

/-!
# Failures

Everything that can go wrong between two peers, each with its cause.
-/

namespace ProxyLink

/-- Why an operation failed. -/
inductive Failure where
  /-- No message is registered under a type. -/
  | unknownType (type : MessageType)
  /-- A message is already registered under a type. -/
  | duplicateType (type : MessageType)
  | property (error : PropertyError)
  | malformed (fault : Frame.Fault)
  | frameTooLarge (size limit : Nat)
  | missingId (type : MessageType)
  | notRequest (type : MessageType)
  | notReply (type : MessageType)
  /-- A request id is already waiting for its reply. -/
  | duplicateId (id : Int64)
  /-- Nobody waits for a reply. -/
  | orphan (id : Int64) (type : MessageType)
  | cancelled (id : Int64)
  | timedOut (id : Int64)
  | peerGone
  /-- A stream ends within a frame. -/
  | streamCut
  deriving DecidableEq

/-- The name of the only kind of link there is. -/
def linkName : String := "in_memory"

def Failure.message : Failure → String
  | .unknownType type => s!"unknown message type: {type.display}"
  | .duplicateType type => s!"message type {type.display} is already registered"
  | .property error => error.message
  | .malformed fault => s!"malformed frame: {fault.message}"
  | .frameTooLarge size limit => s!"frame of {size} bytes exceeds the {limit} byte limit"
  | .missingId type => s!"{type.display} message carries no request id"
  | .notRequest type => s!"{type.display} is not a request message"
  | .notReply type => s!"{type.display} is not a reply message"
  | .duplicateId id => s!"request id {Decimal.ofInt64 id} is already pending"
  | .orphan id type => s!"orphan reply for request id {Decimal.ofInt64 id} ({type.display})"
  | .cancelled id => s!"request {Decimal.ofInt64 id} was cancelled"
  | .timedOut id => s!"request {Decimal.ofInt64 id} timed out"
  | .peerGone => s!"transport closed: {linkName} peer dropped"
  | .streamCut => "io error: bytes remaining on stream"

end ProxyLink
