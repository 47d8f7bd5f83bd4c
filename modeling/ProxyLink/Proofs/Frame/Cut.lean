import ProxyLink.Proofs.Frame.Limit

/-!
# A stream that is cut

Messages are written one behind the other, and a reader under the same limit is given the bytes up
to some place, which may lie within a frame or within its length. Main statement, which comes last:
the reader comes to the messages whose frames end before the cut, to no failure, and has the rest
left over; at the end of the stream that is a failure unless nothing is left.
-/

namespace ProxyLink.Frame

/-- Messages, each with the place where its frame ends when they are written one behind the other
from some place on. -/
def ends (start : Nat) : List Message → List (Message × Nat)
  | [] => []
  | m :: rest => (m, start + m.frame.length) :: ends (start + m.frame.length) rest

/-- The places where a frame starts or ends when messages are written one behind the other. -/
def boundaries (messages : List Message) : List Nat := 0 :: (ends 0 messages).map (·.2)

theorem four_le_length_frame (m : Message) : 4 ≤ m.frame.length := by
  rw [Message.frame, ofBody, List.length_append, length_word]
  exact Nat.le_add_right ..

variable {m : Message} {start n : Nat} {rest : List Message}

theorem le_of_mem_ends {e : Message × Nat} (h : e ∈ ends start (m :: rest)) :
    start + m.frame.length ≤ e.2 := by
  induction rest generalizing m start with
  | nil =>
    obtain rfl := List.mem_singleton.mp h
    exact Nat.le_refl _
  | cons next rest ih =>
    rcases List.mem_cons.mp h with rfl | h
    · exact Nat.le_refl _
    · exact Nat.le_trans (Nat.le_add_right ..) (ih h)

/-- No frame has ended where the first one has not. -/
theorem filter_ends_of_lt (h : n < start + m.frame.length) :
    (ends start (m :: rest)).filter (·.2 ≤ n) = [] := by
  apply List.filter_eq_nil_iff.mpr
  intro e he
  rw [decide_eq_true_eq, Nat.not_le]
  exact Nat.lt_of_lt_of_le h (le_of_mem_ends he)

theorem not_mem_ends_of_lt (h : n < start + m.frame.length) :
    n ∉ (ends start (m :: rest)).map (·.2) := by
  intro hmem
  obtain ⟨e, he, rfl⟩ := List.mem_map.mp hmem
  exact Nat.not_le_of_lt h (le_of_mem_ends he)

namespace Codec

variable {codec : Codec}

/-- Messages within the limit are written one behind the other. -/
theorem foldlM_append {messages : List Message}
    (hlimit : ∀ m ∈ messages, m.body.length ≤ codec.limit) (written : List UInt8) :
    messages.foldlM (fun written m => codec.append m written) written =
      .ok (written ++ messages.flatMap Message.frame) := by
  induction messages generalizing written with
  | nil => exact congrArg Except.ok (List.append_nil _).symm
  | cons m rest ih =>
    rw [List.foldlM_cons, append_eq, if_pos (hlimit m List.mem_cons_self), List.flatMap_cons,
      ← List.append_assoc]
    exact ih (fun m hm => hlimit m (List.mem_cons_of_mem _ hm)) (written ++ m.frame)

/-- A message that a reader reads back when it has arrived: it is of a standard kind, and within the
limit, and fresh messages of its kind are blank. -/
structure Reads (codec : Codec) (m : Message) : Prop where
  short : m.body.length < 2 ^ 32
  limit : m.body.length ≤ codec.limit
  kind : ∃ k, m.OfKind k ∧ codec.registry.HasBlank k

/-- The first frame is read as its message, and the reader goes on behind it. -/
theorem Reads.drain_append {m : Message} (h : codec.Reads m) (rest : List UInt8) :
    codec.drain (m.frame ++ rest) = (codec.drain rest).after (.ok m) := by
  obtain ⟨k, hkind, hblank⟩ := h.kind
  have hdrain := drain_of_complete (isWord_word h.short) h.limit rest
  rw [← List.append_assoc] at hdrain
  refine hdrain.trans ?_
  rw [show word m.body.length ++ m.body = m.frame from rfl,
    decode_frame_of_hasBlank hkind hblank h.short]

/-- A complete frame is taken away as its message, whatever follows it. -/
theorem Reads.next_append {m : Message} (h : codec.Reads m) (rest : List UInt8) :
    codec.next (m.frame ++ rest) = (.ok (some m), rest) := by
  obtain ⟨k, hkind, hblank⟩ := h.kind
  have hnext := next_of_complete (isWord_word h.short) h.limit rest
  rw [← List.append_assoc] at hnext
  refine hnext.trans ?_
  rw [show word m.body.length ++ m.body = m.frame from rfl,
    decode_frame_of_hasBlank hkind hblank h.short]
  rfl

/-- While the first frame is not complete, the reader waits. -/
theorem Reads.next_take {m : Message} (h : codec.Reads m) {n : Nat} (hn : n < m.frame.length) :
    codec.next (m.frame.take n) = (.ok none, m.frame.take n) := by
  refine next_of_isPrefix (isWord_word h.short) h.limit (List.take_prefix ..) ?_
  intro hwhole
  have hlength := congrArg List.length hwhole
  rw [List.length_take, show word m.body.length ++ m.body = m.frame from rfl] at hlength
  omega

/-- Of the first `n` bytes of the frames of some messages, a reader takes the frames that end there
away, and waits with the others. Nothing is left exactly where a frame ends or the first one
starts. -/
theorem drain_take {messages : List Message} (h : ∀ m ∈ messages, codec.Reads m) (start : Nat)
    {n : Nat} (hn : n ≤ (messages.flatMap Message.frame).length) :
    let whole := (ends start messages).filter (·.2 ≤ start + n)
    ∃ left, codec.drain ((messages.flatMap Message.frame).take n) =
        ⟨whole.map fun e => .ok e.1, some left⟩ ∧
      codec.next left = (.ok none, left) ∧
      (whole.map (·.1)).flatMap Message.frame ++ left =
        (messages.flatMap Message.frame).take n ∧
      (left = [] ↔ n = 0 ∨ start + n ∈ (ends start messages).map (·.2)) := by
  induction messages generalizing start n with
  | nil =>
    have hzero : n = 0 := Nat.le_zero.mp hn
    subst hzero
    exact ⟨[], drain_of_next rfl, rfl, rfl, iff_of_true rfl (.inl rfl)⟩
  | cons m rest ih =>
    have hm := h m List.mem_cons_self
    have hpos := four_le_length_frame m
    rw [List.flatMap_cons] at hn ⊢
    -- The cut is within the first frame, or in the stream of the others, which starts later.
    by_cases hcut : n < m.frame.length
    · have hbefore : start + n < start + m.frame.length := Nat.add_lt_add_left hcut start
      have hnext := hm.next_take hcut
      rw [filter_ends_of_lt hbefore, List.take_append_of_le_length (Nat.le_of_lt hcut)]
      refine ⟨m.frame.take n, drain_of_next hnext, hnext, rfl, ?_⟩
      rw [or_iff_left (not_mem_ends_of_lt hbefore), List.take_eq_nil_iff]
      exact or_iff_left (List.ne_nil_of_length_pos (by omega))
    · obtain ⟨n, rfl⟩ := Nat.exists_eq_add_of_le (Nat.le_of_not_lt hcut)
      rw [List.length_append] at hn
      obtain ⟨left, hdrain, hnext, hbytes, hleft⟩ :=
        ih (fun m hm => h m (List.mem_cons_of_mem _ hm)) (start + m.frame.length) (n := n)
          (by omega)
      have hwhole : (ends start (m :: rest)).filter (·.2 ≤ start + (m.frame.length + n)) =
          (m, start + m.frame.length) :: (ends (start + m.frame.length) rest).filter
            (·.2 ≤ start + m.frame.length + n) := by
        rw [← Nat.add_assoc]
        exact List.filter_cons_of_pos (decide_eq_true (Nat.le_add_right ..))
      rw [hwhole, List.take_length_add_append, hm.drain_append, hdrain]
      refine ⟨left, rfl, hnext, ?_, ?_⟩
      · rw [List.map_cons, List.flatMap_cons, List.append_assoc, hbytes]
      · rw [hleft, ends, List.map_cons, List.mem_cons, ← Nat.add_assoc, Nat.add_eq_left,
          or_iff_right (show m.frame.length + n ≠ 0 by omega)]

/-- Nothing is the end of a stream, and a part of a frame is none. -/
theorem last_of_next {arrived : List UInt8} (h : codec.next arrived = (.ok none, arrived)) :
    codec.last arrived = (if arrived = [] then .ok none else .error .streamCut, arrived) := by
  rw [last, h]
  simp only [List.isEmpty_iff]

/-- Messages of standard kinds that are within a limit of 32 bits are written one behind the other.
Where a stream of them is cut, a reader under the same limit whose prototypes of these kinds are
blank comes to the messages whose frames end there or before, in their order and unchanged, and to
no failure. It is left with the bytes behind these frames. At the end of the stream there is nothing
to read between two frames, and everywhere else there is the failure that bytes remain. -/
theorem cut_after_whole_frames {codec : Codec} (hshort : codec.limit < 2 ^ 32) (known : Registry)
    {messages : List Message} (hmessages : ∀ m ∈ messages, m.body.length ≤ codec.limit ∧
      ∃ k, m.OfKind k ∧ codec.registry.HasBlank k) :
    let writer : Codec := ⟨known, codec.limit⟩
    let output := messages.flatMap Message.frame
    messages.foldlM (fun written m => writer.append m written) [] = .ok output ∧
      ∀ n ≤ output.length,
        let whole := ((ends 0 messages).filter (·.2 ≤ n)).map (·.1)
        ∃ left, codec.drain (output.take n) = ⟨whole.map .ok, some left⟩ ∧
          output.take n = whole.flatMap Message.frame ++ left ∧
          codec.last left =
            (if n ∈ boundaries messages then .ok none else .error .streamCut, left) ∧
          Failure.streamCut.message = "io error: bytes remaining on stream" := by
  intro writer output
  have hreads : ∀ m ∈ messages, codec.Reads m := by
    intro m hm
    obtain ⟨hlimit, hkind⟩ := hmessages m hm
    exact ⟨Nat.lt_of_le_of_lt hlimit hshort, hlimit, hkind⟩
  refine ⟨foldlM_append (fun m hm => (hreads m hm).limit) [], ?_⟩
  intro n hn whole
  obtain ⟨left, hdrain, hnext, hbytes, hleft⟩ := drain_take hreads 0 hn
  rw [Nat.zero_add] at hdrain hbytes hleft
  refine ⟨left, ?_, hbytes.symm, ?_, rfl⟩
  · rw [List.map_map]
    exact hdrain
  · have hboundary : left = [] ↔ n ∈ boundaries messages := hleft.trans List.mem_cons.symm
    simp only [last_of_next hnext, hboundary]

/-- Of two messages, the second one is cut within its first word. -/
theorem cut_within_second_length :
    let codec : Codec := ⟨.standard, 27⟩
    let first := (Message.ofStandard .echoRequest).setRequestId (some 7)
    let second := Message.ofStandard .connectReply
    let output := first.frame ++ second.frame
    ends 0 [first, second] = [(first, 31), (second, 43)] ∧
      [first, second].foldlM (fun written m => codec.append m written) [] = .ok output ∧
      ∃ left, codec.drain (output.take 33) = ⟨[.ok first], some left⟩ ∧
        output.take 33 = first.frame ++ left ∧ codec.last left = (.error .streamCut, left) := by
  intro codec first second output
  have hends : ends 0 [first, second] = [(first, 31), (second, 43)] := by decide +kernel
  have hmessages : ∀ m ∈ [first, second], m.body.length ≤ codec.limit ∧
      ∃ k, m.OfKind k ∧ codec.registry.HasBlank k := by
    intro m hm
    rcases List.mem_pair.mp hm with rfl | rfl
    · exact ⟨by decide +kernel, .echoRequest, ⟨rfl, rfl, rfl⟩, Registry.hasBlank_standard _⟩
    · exact ⟨by decide +kernel, .connectReply, ⟨rfl, rfl, rfl⟩, Registry.hasBlank_standard _⟩
  have houtput : [first, second].flatMap Message.frame = output := by
    rw [List.flatMap_cons, List.flatMap_singleton]
  obtain ⟨hwrite, hcut⟩ := cut_after_whole_frames (by decide) .standard hmessages
  rw [houtput] at hwrite hcut
  obtain ⟨left, hdrain, hbytes, hlast, -⟩ := hcut 33 (by decide +kernel)
  rw [boundaries] at hlast
  rw [hends] at hdrain hbytes hlast
  exact ⟨hends, hwrite, left, hdrain, hbytes, hlast⟩

end Codec

end ProxyLink.Frame
