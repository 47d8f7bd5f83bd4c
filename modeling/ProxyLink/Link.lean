import ProxyLink.Failure

/-!
# Links

Two ends that send frames to each other, or one end that sends to itself. Each end has a queue of
the frames that wait there. An end that is dropped loses its queue, and nothing more can be sent to
it; what it has sent before stays with the other end.
-/

namespace ProxyLink

/-- An end of a link. -/
inductive Side where
  | left
  | right
  deriving DecidableEq

def Side.other : Side → Side
  | .left => .right
  | .right => .left

/-- The frames that wait at each end; an end that is dropped has no queue. -/
structure Link where
  /-- Whether each end sends to the other one; otherwise each sends to itself. -/
  crossed : Bool
  left : Option (List (List UInt8))
  right : Option (List (List UInt8))

namespace Link

/-- Two ends that send to each other. -/
def pair : Link := ⟨true, some [], some []⟩

/-- One end that sends to itself. -/
def loopback : Link := ⟨false, some [], none⟩

def queue (l : Link) : Side → Option (List (List UInt8))
  | .left => l.left
  | .right => l.right

def setQueue (l : Link) (side : Side) (queue : Option (List (List UInt8))) : Link :=
  match side with
  | .left => { l with left := queue }
  | .right => { l with right := queue }

/-- Where the frames that an end sends arrive. -/
def target (l : Link) (side : Side) : Side := if l.crossed then side.other else side

/-- Sends a frame from one end; refused when the end it goes to is gone. -/
def send (l : Link) (side : Side) (frame : List UInt8) : Except Failure Link :=
  match l.queue (l.target side) with
  | none => .error .peerGone
  | some frames => .ok (l.setQueue (l.target side) (some (frames ++ [frame])))

/-- Takes the first frame that waits at an end. -/
def receive (l : Link) (side : Side) : Option (List UInt8) × Link :=
  match l.queue side with
  | some (frame :: frames) => (some frame, l.setQueue side (some frames))
  | _ => (none, l)

/-- Takes every frame that waits at an end, first come first. -/
def receiveAll (l : Link) (side : Side) : List (List UInt8) × Link :=
  match l.queue side with
  | some frames => (frames, l.setQueue side (some []))
  | none => ([], l)

def drop (l : Link) (side : Side) : Link := l.setQueue side none

end Link

end ProxyLink
