import ProxyLink.Bag
import ProxyLink.Message.Kind

/-!
# Messages

A message has a kind, a type, a layer and a bag of properties. Copying one message into another
hands over the fields that both know, and nothing else: a clone is a blank message of the same shape
with everything copied into it, so a property that the kind does not declare is left behind.
-/

namespace ProxyLink

/-- A message of any kind. -/
structure Message where
  kind : Kind
  type : MessageType
  layer : Layer
  bag : Bag
  deriving DecidableEq

namespace Message

/-- A message of a standard kind with no properties. -/
def ofStandard (k : StandardKind) : Message := ⟨.standard k, k.messageType, k.layer, .empty⟩

/-- The message with its properties taken away. -/
def blank (m : Message) : Message := { m with bag := .empty }

def isKind (m : Message) (k : StandardKind) : Bool := m.kind == .standard k

def read (m : Message) (f : Field) : Except PropertyError (Option f.type.Value) :=
  m.bag.get f.type.Value f.key

/-- The message with a field set, or cleared. -/
def write (m : Message) (f : Field) (value : Option f.type.Value) : Message :=
  { m with bag := m.bag.set f.key value }

def insertText (m : Message) (key text : String) : Message :=
  { m with bag := m.bag.insert key text }

/-- The id that ties a reply to its request. -/
def requestId (m : Message) : Except PropertyError (Option Int64) :=
  m.bag.get Int64 Field.requestId.key

/-- The message with its request id set, or cleared. -/
def setRequestId (m : Message) (id : Option Int64) : Message :=
  { m with bag := m.bag.set Field.requestId.key id }

/-- The error of a reply. -/
def error (m : Message) : Except PropertyError (Option PeerError) :=
  m.bag.get PeerError Field.error.key

def setError (m : Message) (e : Option PeerError) : Message :=
  { m with bag := m.bag.set Field.error.key e }

/-- Whether a reply reports success: it has no error, readable or not. -/
def isSuccess (m : Message) : Bool := !m.bag.contains Field.error.key

/-- The bag `target` with the properties of a layer copied from `source`. A request id is copied
only if there is one; the absence of an error is copied, too. -/
def copyLayer (source : Bag) (sourceLayer targetLayer : Layer) (target : Bag) : Bag :=
  let withId := if source.contains Field.requestId.key then
    source.copyKey Field.requestId.key target else target
  match sourceLayer, targetLayer with
  | .request _, .request _ => withId
  | .reply, .reply => source.copyKey Field.error.key withId
  | _, _ => target

/-- The bag `target` with what messages of one kind hand over to each other copied from `source`. -/
def copyOwn (source : Bag) (handover : Handover) (target : Bag) : Bag :=
  match handover with
  | .keys keys => keys.foldl (fun b key => source.copyKey key b) target
  | .present => source.overwrite target

/-- The message `target` with all that it shares with `source` copied from there. -/
def copyInto (source target : Message) : Message :=
  let shared := copyLayer source.bag source.layer target.layer target.bag
  { target with
    bag := if source.kind = target.kind then copyOwn source.bag source.kind.handover shared
      else shared }

/-- A copy of a message, less the properties that its kind does not declare. -/
def clone (m : Message) : Message := m.copyInto m.blank

/-- The message in words: its type, and one line for each property. -/
def display (m : Message) : String := s!"{m.type.display}\n\x7b\n{m.bag.display}\x7d\n"

end Message

end ProxyLink
