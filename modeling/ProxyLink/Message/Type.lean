/-!
# Message types

A message type is a 32-bit id that travels with every message. The ids from 0 to 8 have names.
-/

namespace ProxyLink

/-- The id that tells what a message is. -/
structure MessageType where
  id : Int32
  deriving DecidableEq

namespace MessageType

/-- The type that no message has. -/
def unspecified : MessageType := ⟨0⟩
def initializeRequest : MessageType := ⟨1⟩
def initializeReply : MessageType := ⟨2⟩
def connectRequest : MessageType := ⟨3⟩
def connectReply : MessageType := ⟨4⟩
def cancelRequest : MessageType := ⟨5⟩
def cancelReply : MessageType := ⟨6⟩
def echoRequest : MessageType := ⟨7⟩
def echoReply : MessageType := ⟨8⟩

def names : List (MessageType × String) :=
  [(unspecified, "Unspecified"), (initializeRequest, "InitializeRequest"),
    (initializeReply, "InitializeReply"), (connectRequest, "ConnectRequest"),
    (connectReply, "ConnectReply"), (cancelRequest, "CancelRequest"),
    (cancelReply, "CancelReply"), (echoRequest, "EchoRequest"), (echoReply, "EchoReply")]

def name? (t : MessageType) : Option String := names.lookup t

/-- The name of a type with its id behind it. -/
def display (t : MessageType) : String :=
  t.name?.getD "MessageType" ++ s!"({t.id.toInt})"

end MessageType

end ProxyLink
