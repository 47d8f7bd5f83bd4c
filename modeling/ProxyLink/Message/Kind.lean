import ProxyLink.Message.Type
import ProxyLink.Property

/-!
# Message kinds

A kind says which fields a message has beyond those of its layer. Eight kinds are known to every
peer; others can be added beside them. A field is a key and the type of its values.
-/

namespace ProxyLink

/-- A typed property. -/
structure Field where
  key : String
  type : ValueType
  deriving DecidableEq

namespace Field

/-- The id that ties a reply to its request. -/
def requestId : Field := ⟨"RequestId", .int64⟩
/-- The error of a failed reply. -/
def error : Field := ⟨"Error", .error⟩
def libraryAddress : Field := ⟨"LibraryAddress", .string⟩
def libraryPort : Field := ⟨"LibraryPort", .string⟩
/-- The endpoints of the cluster, separated by commas. -/
def endpoints : Field := ⟨"Endpoints", .string⟩
/-- The identity that the client shows to the cluster. -/
def identity : Field := ⟨"Identity", .string⟩
/-- How long a call to the cluster may take. -/
def clientTimeout : Field := ⟨"ClientTimeout", .duration⟩
/-- Whether to create the default domain if it is missing. -/
def createDomain : Field := ⟨"CreateDomain", .bool⟩
/-- The id of the request to cancel. -/
def targetRequestId : Field := ⟨"TargetRequestId", .int64⟩
/-- Whether the request was still waiting when it was cancelled. -/
def wasCancelled : Field := ⟨"WasCancelled", .bool⟩
/-- Bytes that an echo sends back. -/
def payload : Field := ⟨"Payload", .bytes⟩

end Field

/-- What a message is beyond its type and properties: a request names the type of its reply. -/
inductive Layer where
  | bare
  | request (replyType : MessageType)
  | reply
  deriving DecidableEq

namespace Layer

def isRequest : Layer → Bool
  | .request _ => true
  | _ => false

def isReply : Layer → Bool
  | .reply => true
  | _ => false

def fields : Layer → List Field
  | .bare => []
  | .request _ => [.requestId]
  | .reply => [.requestId, .error]

end Layer

/-- The kinds known to every peer. -/
inductive StandardKind where
  | initializeRequest
  | initializeReply
  | connectRequest
  | connectReply
  | cancelRequest
  | cancelReply
  | echoRequest
  | echoReply
  deriving DecidableEq

namespace StandardKind

/-- Every kind, in the order of the types. -/
def all : List StandardKind :=
  [.initializeRequest, .initializeReply, .connectRequest, .connectReply, .cancelRequest,
    .cancelReply, .echoRequest, .echoReply]

def messageType : StandardKind → MessageType
  | .initializeRequest => .initializeRequest
  | .initializeReply => .initializeReply
  | .connectRequest => .connectRequest
  | .connectReply => .connectReply
  | .cancelRequest => .cancelRequest
  | .cancelReply => .cancelReply
  | .echoRequest => .echoRequest
  | .echoReply => .echoReply

def layer : StandardKind → Layer
  | .initializeRequest => .request .initializeReply
  | .connectRequest => .request .connectReply
  | .cancelRequest => .request .cancelReply
  | .echoRequest => .request .echoReply
  | .initializeReply | .connectReply | .cancelReply | .echoReply => .reply

/-- The fields that a kind adds to those of its layer. -/
def ownFields : StandardKind → List Field
  | .initializeRequest => [.libraryAddress, .libraryPort]
  | .connectRequest => [.endpoints, .identity, .clientTimeout, .createDomain]
  | .cancelRequest => [.targetRequestId]
  | .cancelReply => [.wasCancelled]
  | .echoRequest | .echoReply => [.payload]
  | .initializeReply | .connectReply => []

def fields (k : StandardKind) : List Field := k.layer.fields ++ k.ownFields

end StandardKind

/-- What a message hands to another message of its kind. -/
inductive Handover where
  /-- The texts of some keys; a key that is absent is removed from the other message. -/
  | keys (keys : List String)
  /-- Every entry that is present. -/
  | present
  deriving DecidableEq

/-- What a message is, apart from its type, its layer and its properties. -/
inductive Kind where
  | standard (kind : StandardKind)
  /-- A further kind, known by its name. -/
  | further (name : String) (handover : Handover)
  deriving DecidableEq

/-- What a message of a kind hands to another message of that kind. -/
def Kind.handover : Kind → Handover
  | .standard kind => .keys (kind.ownFields.map (·.key))
  | .further _ handover => handover

end ProxyLink
