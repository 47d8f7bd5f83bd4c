import ProxyLink.Event

/-!
# Registries

A registry holds one prototype for each message type that a peer can decode. A prototype may carry
properties of its own; a fresh message is a clone of it.
-/

namespace ProxyLink

/-- The prototypes that a peer knows, in the order of registration. -/
structure Registry where
  prototypes : List Message
  deriving DecidableEq

namespace Registry

def empty : Registry := ⟨[]⟩

def find? (r : Registry) (type : MessageType) : Option Message :=
  r.prototypes.find? fun p => p.type == type

/-- The registry with one more prototype; refused when its type is taken. -/
def register (r : Registry) (m : Message) : Except Failure Registry :=
  if (r.find? m.type).isSome then .error (.duplicateType m.type)
  else .ok ⟨r.prototypes ++ [m]⟩

/-- Registers messages one after the other until one is refused; those before it stay. -/
def registerAll (r : Registry) : List Message → Option Failure × Registry × List Event
  | [] => (none, r, [])
  | m :: rest =>
    match r.register m with
    | .error failure => (some failure, r, [])
    | .ok r =>
      let (failure, r, events) := r.registerAll rest
      (failure, r, .registered m.type :: events)

/-- The prototype of a type, or why there is none. -/
def lookup (r : Registry) (type : MessageType) : Except Failure Message :=
  match r.find? type with
  | some prototype => .ok prototype
  | none => .error (.unknownType type)

/-- A fresh message of a type. -/
def instantiate (r : Registry) (type : MessageType) : Except Failure Message :=
  (r.lookup type).map Message.clone

def contains (r : Registry) (type : MessageType) : Bool := (r.find? type).isSome

/-- How many types have a prototype. -/
def size (r : Registry) : Nat := r.prototypes.length

def isEmpty (r : Registry) : Bool := r.prototypes.isEmpty

/-- The registered types in ascending order of their ids. -/
def types (r : Registry) : List MessageType :=
  (r.prototypes.map (·.type)).mergeSort fun a b => decide (a.id.toInt ≤ b.id.toInt)

end Registry

/-- The families of messages: a request and its reply. -/
inductive Family where
  | initialization
  | connect
  | cancel
  | echo
  deriving DecidableEq

namespace Family

def all : List Family := [.initialization, .connect, .cancel, .echo]

/-- The request and the reply of a family. -/
def kinds : Family → List StandardKind
  | .initialization => [.initializeRequest, .initializeReply]
  | .connect => [.connectRequest, .connectReply]
  | .cancel => [.cancelRequest, .cancelReply]
  | .echo => [.echoRequest, .echoReply]

/-- The prototypes of some families, all blank. -/
def prototypes (families : List Family) : List Message :=
  families.flatMap fun family => family.kinds.map Message.ofStandard

end Family

/-- The registry of all standard kinds, with blank prototypes. -/
def Registry.standard : Registry := ⟨Family.prototypes Family.all⟩

end ProxyLink
