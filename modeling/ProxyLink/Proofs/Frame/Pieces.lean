import ProxyLink.Frame.Stream
import ProxyLink.Proofs.Frame.Grammar

/-!
# A stream in pieces

A reader takes frames out of what has arrived for as long as one is complete, goes on past a frame
that is no message, and stops for good at one that is too long. How the stream is cut into pieces
makes no difference to that, and each frame that is taken away comes to what the frame by itself is
decoded as.
-/

namespace ProxyLink

/-- Whether a failure is a frame that is longer than allowed. -/
def Failure.isFrameTooLarge : Failure → Bool
  | .frameTooLarge _ _ => true
  | _ => false

namespace Frame

/-- What a reader has made of the bytes so far. -/
structure Reading where
  /-- The messages and the failures, in the order of the frames. -/
  results : List (Except Failure Message)
  /-- The bytes that are not taken yet, or nothing once the reader has stopped for good. -/
  left : Option (List UInt8)

namespace Reading

/-- A reader that nothing has reached. -/
def start : Reading := ⟨[], some []⟩

/-- The reading with a result before all the others. -/
def after (reading : Reading) (result : Except Failure Message) : Reading :=
  ⟨result :: reading.results, reading.left⟩

/-- A reading, and the one that goes on from it. -/
def andThen (reading more : Reading) : Reading := ⟨reading.results ++ more.results, more.left⟩

end Reading

namespace Codec

variable {codec : Codec}

/-! ### One call -/

/-- What has arrived either is no complete frame, or starts with one that is too long, or starts
with one that is not. -/
theorem arrived_cases (codec : Codec) (arrived : List UInt8) :
    codec.next arrived = (.ok none, arrived) ∨
      (∃ n size rest, IsWord n size ∧ codec.limit < n ∧ arrived = size ++ rest) ∨
      ∃ size body rest, IsWord body.length size ∧ body.length ≤ codec.limit ∧
        arrived = size ++ (body ++ rest) := by
  unfold next
  cases hw : readWord .bodyLength arrived with
  | error fault => exact .inl rfl
  | ok read =>
    rcases read with ⟨n, tail⟩
    obtain ⟨size, rfl, hsize⟩ := readWord_eq_ok_iff.mp hw
    simp only
    split
    · next hlimit => exact .inr (.inl ⟨n, size, tail, hsize, hlimit, rfl⟩)
    · next hlimit =>
      split
      · exact .inl rfl
      · next hcomplete =>
        have hlength : (tail.take n).length = n := by
          rw [List.length_take]
          omega
        refine .inr (.inr ⟨size, tail.take n, tail.drop n, ?_, ?_, ?_⟩)
        · rw [hlength]
          exact hsize
        · omega
        · rw [List.take_append_drop]

/-- A frame that is too long is refused by its length alone. -/
theorem next_of_lt {n : Nat} {size : List UInt8} (hsize : IsWord n size) (hlimit : codec.limit < n)
    (rest : List UInt8) :
    codec.next (size ++ rest) = (.error (.frameTooLarge n codec.limit), size ++ rest) := by
  have hw : readWord .bodyLength (size ++ rest) = .ok (n, rest) :=
    readWord_eq_ok_iff.mpr ⟨size, rfl, hsize⟩
  rw [next, hw]
  exact if_pos hlimit

/-- A complete frame is taken away, and nothing behind it matters. -/
theorem next_of_complete {size body : List UInt8} (hsize : IsWord body.length size)
    (hlimit : body.length ≤ codec.limit) (rest : List UInt8) :
    codec.next (size ++ (body ++ rest)) =
      ((decode codec.registry (size ++ body)).map some, rest) := by
  have hw : readWord .bodyLength (size ++ (body ++ rest)) = .ok (body.length, body ++ rest) :=
    readWord_eq_ok_iff.mpr ⟨size, rfl, hsize⟩
  rw [next, hw]
  simp only
  rw [if_neg (by omega), if_neg (by simp), List.take_left, List.drop_left, decode_append hsize]

theorem isFrameTooLarge_of_decode {registry : Registry} {bytes : List UInt8} {failure : Failure}
    (h : decode registry bytes = .error failure) : failure.isFrameTooLarge = false := by
  obtain ⟨m, hm⟩ | ⟨type, ht⟩ | ⟨fault, hf⟩ := decode_outcomes registry bytes
  · rw [hm] at h
    cases h
  · rw [ht] at h
    cases h
    rfl
  · rw [hf] at h
    cases h
    rfl

/-- A call that comes to a message, or to a failure other than a frame that is too long, takes
bytes away. -/
private theorem length_left_lt {arrived left : List UInt8}
    {result : Except Failure (Option Message)} (h : codec.next arrived = (result, left))
    (hnone : result ≠ .ok none)
    (hlarge : ∀ failure, result = .error failure → failure.isFrameTooLarge = false) :
    left.length < arrived.length := by
  obtain hwait | ⟨n, size, rest, hsize, hlimit, rfl⟩ | ⟨size, body, rest, hsize, hlimit, rfl⟩ :=
    arrived_cases codec arrived
  · rw [hwait] at h
    cases h
    exact absurd rfl hnone
  · rw [next_of_lt hsize hlimit] at h
    cases h
    cases hlarge _ rfl
  · rw [next_of_complete hsize hlimit] at h
    cases h
    simp only [List.length_append, hsize.length]
    omega

/-! ### All calls -/

/-- Calls the reader until no frame is complete, or for good until one is too long. -/
def drain (codec : Codec) (arrived : List UInt8) : Reading :=
  match h : codec.next arrived with
  | (.ok none, left) => ⟨[], some left⟩
  | (.ok (some m), left) =>
    have _ : left.length < arrived.length := length_left_lt h nofun nofun
    (drain codec left).after (.ok m)
  | (.error failure, left) =>
    if hlarge : failure.isFrameTooLarge then ⟨[.error failure], none⟩
    else
      have _ : left.length < arrived.length :=
        length_left_lt h nofun fun _ hf => by cases hf; exact eq_false_of_ne_true hlarge
      (drain codec left).after (.error failure)
termination_by arrived.length

/-- One more piece arrives, and the reader is called, unless it has stopped for good. -/
def feed (codec : Codec) (reading : Reading) (piece : List UInt8) : Reading :=
  match reading.left with
  | none => reading
  | some left => reading.andThen (codec.drain (left ++ piece))

private theorem feed_after (reading : Reading) (result : Except Failure Message)
    (piece : List UInt8) :
    codec.feed (reading.after result) piece = (codec.feed reading piece).after result := by
  rcases reading with ⟨results, left⟩
  cases left <;> rfl

private theorem drain_eq (codec : Codec) (arrived : List UInt8) :
    codec.drain arrived = match codec.next arrived with
      | (.ok none, left) => ⟨[], some left⟩
      | (.ok (some m), left) => (codec.drain left).after (.ok m)
      | (.error failure, left) =>
        if failure.isFrameTooLarge then ⟨[.error failure], none⟩
        else (codec.drain left).after (.error failure) := by
  rw [drain]
  split
  · next left h => rw [h]
  · next m left h => simp only [h]
  · next failure left h => simp only [h, dite_eq_ite]

/-- Nothing is taken away while no frame is complete. -/
theorem drain_of_next {arrived : List UInt8}
    (h : codec.next arrived = (.ok none, arrived)) : codec.drain arrived = ⟨[], some arrived⟩ := by
  rw [drain_eq, h]

private theorem drain_of_lt {n : Nat} {size : List UInt8} (hsize : IsWord n size)
    (hlimit : codec.limit < n) (rest : List UInt8) :
    codec.drain (size ++ rest) = ⟨[.error (.frameTooLarge n codec.limit)], none⟩ := by
  rw [drain_eq, next_of_lt hsize hlimit]
  rfl

/-- A complete frame is taken away, and the reader goes on behind it. -/
theorem drain_of_complete {size body : List UInt8} (hsize : IsWord body.length size)
    (hlimit : body.length ≤ codec.limit) (rest : List UInt8) :
    codec.drain (size ++ (body ++ rest)) =
      (codec.drain rest).after (decode codec.registry (size ++ body)) := by
  rw [drain_eq, next_of_complete hsize hlimit]
  cases hd : decode codec.registry (size ++ body) with
  | ok m => rfl
  | error failure => exact if_neg (by rw [isFrameTooLarge_of_decode hd]; exact Bool.false_ne_true)

/-- A piece behind what has arrived is read as if it came later. -/
theorem drain_append (codec : Codec) (arrived piece : List UInt8) :
    codec.drain (arrived ++ piece) = codec.feed (codec.drain arrived) piece := by
  -- By the length of what has arrived: a complete frame is taken away and leaves less of it.
  induction h : arrived.length using Nat.strongRecOn generalizing arrived with
  | ind n ih =>
    obtain hwait | ⟨n, size, rest, hsize, hlimit, rfl⟩ | ⟨size, body, rest, hsize, hlimit, rfl⟩ :=
      arrived_cases codec arrived
    · rw [drain_of_next hwait]
      rfl
    · rw [List.append_assoc, drain_of_lt hsize hlimit, drain_of_lt hsize hlimit]
      rfl
    · have hshort : rest.length < n := by
        rw [← h]
        simp only [List.length_append, hsize.length]
        omega
      rw [List.append_assoc, List.append_assoc, drain_of_complete hsize hlimit,
        drain_of_complete hsize hlimit, ih rest.length hshort rest rfl, feed_after]

private theorem foldl_feed_drain (codec : Codec) (arrived : List UInt8)
    (pieces : List (List UInt8)) :
    pieces.foldl codec.feed (codec.drain arrived) = codec.drain (arrived ++ pieces.flatten) := by
  induction pieces generalizing arrived with
  | nil => rw [List.foldl_nil, List.flatten_nil, List.append_nil]
  | cons piece pieces ih =>
    rw [List.foldl_cons, ← drain_append, ih, List.flatten_cons, List.append_assoc]

/-- However a stream is cut into pieces, it comes to the same messages and failures as in one piece,
with the same bytes left over unless a frame is too long. A call either takes nothing away, because
no frame is complete or because the first one is too long, or it takes away the first word and as
many bytes as that says, and comes to what these bytes by themselves are decoded as. -/
theorem feed_flatten (codec : Codec) :
    (∀ pieces : List (List UInt8),
      pieces.foldl codec.feed .start = codec.feed .start pieces.flatten) ∧
    ∀ arrived, match codec.next arrived with
      | (.ok none, left) => left = arrived
      | (.error (.frameTooLarge _ _), left) => left = arrived
      | (result, left) => ∃ size body, IsWord body.length size ∧ arrived = size ++ body ++ left ∧
          result = (decode codec.registry (size ++ body)).map some := by
  constructor
  · intro pieces
    have hstart : codec.drain [] = .start := drain_of_next rfl
    rw [← hstart, foldl_feed_drain, drain_append]
  · intro arrived
    obtain hwait | ⟨n, size, rest, hsize, hlimit, rfl⟩ | ⟨size, body, rest, hsize, hlimit, rfl⟩ :=
      arrived_cases codec arrived
    · rw [hwait]
    · rw [next_of_lt hsize hlimit]
    · rw [next_of_complete hsize hlimit]
      have hbytes : ∃ size' body', IsWord body'.length size' ∧
          size ++ (body ++ rest) = size' ++ body' ++ rest ∧
          (decode codec.registry (size ++ body)).map some =
            (decode codec.registry (size' ++ body')).map some :=
        ⟨size, body, hsize, (List.append_assoc ..).symm, rfl⟩
      obtain ⟨m, hm⟩ | ⟨type, ht⟩ | ⟨fault, hf⟩ :=
        decode_outcomes codec.registry (size ++ body)
      · rw [hm] at hbytes ⊢
        exact hbytes
      · rw [ht] at hbytes ⊢
        exact hbytes
      · rw [hf] at hbytes ⊢
        exact hbytes

end Codec

end Frame

end ProxyLink
