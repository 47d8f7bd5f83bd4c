import ProxyLink.Frame.Decode

/-!
# Frames in a stream

Frames follow each other without a gap. Bytes arrive in pieces of any size, so the reader takes a
frame away from what has arrived only once it is complete. A limit on the length of a body holds in
both directions; a frame that is too long is neither written nor taken away.
-/

namespace ProxyLink.Frame

/-- How much a frame may hold unless something else is asked for. -/
def defaultLimit : Nat := 16 * 1024 * 1024

structure Codec where
  registry : Registry
  /-- The greatest length of a body. -/
  limit : Nat

namespace Codec

/-- Takes the first frame away from what has arrived: the message in it, nothing while it is not
complete, or a failure; and the bytes that are left. -/
def next (codec : Codec) (arrived : List UInt8) :
    Except Failure (Option Message) × List UInt8 :=
  match readWord .bodyLength arrived with
  | .error _ => (.ok none, arrived)
  | .ok (length, rest) =>
    if codec.limit < length then (.error (.frameTooLarge length codec.limit), arrived)
    else if rest.length < length then (.ok none, arrived)
    else ((decodeBody codec.registry (rest.take length)).map some, rest.drop length)

/-- The same at the end of the stream, where an incomplete frame is a failure. -/
def last (codec : Codec) (arrived : List UInt8) :
    Except Failure (Option Message) × List UInt8 :=
  match codec.next arrived with
  | (.ok none, left) => (if left.isEmpty then .ok none else .error .streamCut, left)
  | other => other

/-- Writes the frame of a message behind what a buffer holds. A body that turns out to be too long
is taken away again, with its length. -/
def write (codec : Codec) (m : Message) (buffer : List UInt8) : Except Failure Unit × List UInt8 :=
  let written := m.frameBehind buffer
  let length := written.length - buffer.length - 4
  if codec.limit < length then
    (.error (.frameTooLarge length codec.limit), written.take buffer.length)
  else (.ok (), written)

/-- The bytes to send with the frame of a message after them. -/
def append (codec : Codec) (m : Message) (pending : List UInt8) : Except Failure (List UInt8) :=
  match codec.write m pending with
  | (.ok (), written) => .ok written
  | (.error failure, _) => .error failure

end Codec

end ProxyLink.Frame
