import ProxyLink.Config
import ProxyLink.Proofs.Frame.Pieces
import ProxyLink.Proofs.Frame.RoundTrip

/-!
# The limit on frames

A writer appends a frame before it knows how long the body is, and takes it away again if that is
too long. What is left in the buffer is a whole frame or nothing, and a reader under the same limit
never refuses what was written under it.
-/

namespace ProxyLink

namespace Config

/-- A configuration has no flaw when it passes every check. -/
theorem flaw?_eq_none_iff {c : Config} :
    c.flaw? = none ↔ Text.allBlank c.proxy.address = false ∧ c.proxy.port ≠ 0 ∧
      c.proxy.timeout ≠ 0 ∧ 1 ≤ c.proxy.frameLimit ∧ c.proxy.frameLimit ≤ greatestFrameLimit := by
  rw [flaw?]
  by_cases haddress : Text.allBlank c.proxy.address = true
  · simp [haddress]
  by_cases hport : c.proxy.port = 0
  · simp [haddress, hport]
  by_cases htimeout : c.proxy.timeout = 0
  · simp [haddress, hport, htimeout]
  by_cases hlimit : c.proxy.frameLimit = 0 ∨ greatestFrameLimit < c.proxy.frameLimit
  · rw [if_neg haddress, if_neg hport, if_neg htimeout, if_pos hlimit]
    refine iff_of_false nofun ?_
    rintro ⟨-, -, -, hpos, hle⟩
    omega
  · rw [if_neg haddress, if_neg hport, if_neg htimeout, if_neg hlimit]
    exact iff_of_true rfl
      ⟨eq_false_of_ne_true haddress, hport, htimeout, by omega, by omega⟩

/-- The limits of the configurations without a flaw are those that a word of 32 bits can reach. -/
theorem frameLimit_iff {n : Nat} :
    (∃ c : Config, c.flaw? = none ∧ c.proxy.frameLimit = n) ↔ 1 ≤ n ∧ n < 2 ^ 32 := by
  have hgreatest : n ≤ greatestFrameLimit ↔ n < 2 ^ 32 := by
    simp only [greatestFrameLimit]
    omega
  constructor
  · rintro ⟨c, hc, rfl⟩
    obtain ⟨-, -, -, hpos, hle⟩ := flaw?_eq_none_iff.mp hc
    exact ⟨hpos, hgreatest.mp hle⟩
  · rintro ⟨hpos, hlt⟩
    refine ⟨⟨⟨"::1", 1, 1, n⟩, .default⟩, ?_, rfl⟩
    have haddress : Text.allBlank "::1" = false := by decide
    have hport : (1 : UInt16) ≠ 0 := by decide
    exact flaw?_eq_none_iff.mpr ⟨haddress, hport, Nat.one_ne_zero, hpos, hgreatest.mpr hlt⟩

end Config

namespace Frame

/-- What stands in a place is written over by as many other bytes. -/
theorem overwriteAt_append {before place fresh behind : List UInt8}
    (h : place.length = fresh.length) :
    overwriteAt before.length fresh (before ++ place ++ behind) = before ++ fresh ++ behind := by
  rw [overwriteAt, ← h, ← List.length_append, List.drop_left, List.append_assoc before,
    List.take_left]

/-- The frame of a message is written behind what is there, with the right length before it. -/
theorem frameBehind_eq (m : Message) (buffer : List UInt8) :
    m.frameBehind buffer = buffer ++ m.frame := by
  have hlength : (buffer ++ word 0 ++ m.body).length - buffer.length - 4 = m.body.length := by
    simp only [List.length_append, length_word]
    omega
  have hplace : (word 0).length = (word m.body.length).length := rfl
  rw [Message.frameBehind, hlength, overwriteAt_append hplace, List.append_assoc]
  rfl

namespace Codec

variable {codec : Codec}

/-- A frame within the limit is written, and one beyond it leaves no trace. -/
theorem write_eq (codec : Codec) (m : Message) (buffer : List UInt8) :
    codec.write m buffer =
      if m.body.length ≤ codec.limit then (.ok (), buffer ++ m.frame)
      else (.error (.frameTooLarge m.body.length codec.limit), buffer) := by
  have hlength : (buffer ++ m.frame).length - buffer.length - 4 = m.body.length := by
    simp only [Message.frame, ofBody, List.length_append, length_word]
    omega
  simp only [write, frameBehind_eq, hlength, List.take_left]
  by_cases hlimit : m.body.length ≤ codec.limit
  · rw [if_pos hlimit, if_neg (by omega)]
  · rw [if_neg hlimit, if_pos (by omega)]

/-- A frame within the limit is sent behind what is there, and one beyond it is refused. -/
theorem append_eq (codec : Codec) (m : Message) (pending : List UInt8) :
    codec.append m pending = if m.body.length ≤ codec.limit then .ok (pending ++ m.frame)
      else .error (.frameTooLarge m.body.length codec.limit) := by
  rw [append, write_eq]
  by_cases hlimit : m.body.length ≤ codec.limit
  · rw [if_pos hlimit, if_pos hlimit]
  · rw [if_neg hlimit, if_neg hlimit]

/-- A reader takes nothing away while only a part of a frame within its limit has arrived. -/
theorem next_of_isPrefix {size body arrived : List UInt8} (hsize : IsWord body.length size)
    (hlimit : body.length ≤ codec.limit) (hpart : arrived <+: size ++ body)
    (hne : arrived ≠ size ++ body) : codec.next arrived = (.ok none, arrived) := by
  obtain ⟨missing, hwhole⟩ := hpart
  -- Whatever word has arrived is the first word of the frame.
  have hfirst : ∀ n size' rest, IsWord n size' → arrived = size' ++ rest →
      n = body.length ∧ rest ++ missing = body := by
    rintro n size' rest hsize' rfl
    rw [List.append_assoc] at hwhole
    obtain ⟨rfl, hrest⟩ :=
      List.append_inj hwhole (hsize'.length.trans hsize.length.symm)
    exact ⟨hsize'.unique hsize, hrest⟩
  obtain hwait | ⟨n, size', rest, hsize', hlarge, harrived⟩ |
    ⟨size', body', rest, hsize', -, harrived⟩ := arrived_cases codec arrived
  · exact hwait
  · obtain ⟨hn, -⟩ := hfirst n size' rest hsize' harrived
    omega
  · obtain ⟨hn, hrest⟩ := hfirst _ size' _ hsize' harrived
    have hmissing : missing = [] := by
      have hlength := congrArg List.length hrest
      simp only [List.length_append] at hlength
      exact List.length_eq_zero_iff.mp (by omega)
    rw [hmissing, List.append_nil] at hwhole
    exact absurd hwhole hne

/-- Under the limit of any configuration without a flaw, and whatever a buffer holds, a message
whose body is within the limit is written behind it as a frame, and any other message is refused
with the length of its body, and the buffer is what it was. What was written is read as the message,
whatever follows it, by a reader under the same limit whose prototype of the kind is blank; while
only a part of it has arrived, the reader waits. -/
theorem write_within_limit {config : Config} (hconfig : config.flaw? = none) {k : StandardKind}
    {m prototype : Message} (hm : m.OfKind k) (hprototype : prototype.OfKind k)
    (hblank : prototype.bag = .empty) {registry : Registry}
    (hfind : registry.find? m.type = some prototype) (known : Registry) (buffer : List UInt8) :
    let limit := config.proxy.frameLimit
    let writer : Codec := ⟨known, limit⟩
    let reader : Codec := ⟨registry, limit⟩
    (writer.write m buffer = (.ok (), buffer ++ m.frame) ↔ m.body.length ≤ limit) ∧
    (writer.write m buffer = (.error (.frameTooLarge m.body.length limit), buffer) ↔
      limit < m.body.length) ∧
    (m.body.length ≤ limit → (∀ rest, reader.next (m.frame ++ rest) = (.ok (some m), rest)) ∧
      ∀ arrived, arrived <+: m.frame → arrived ≠ m.frame →
        reader.next arrived = (.ok none, arrived)) := by
  intro limit writer reader
  have hrange : 1 ≤ limit ∧ limit < 2 ^ 32 := Config.frameLimit_iff.mp ⟨config, hconfig, rfl⟩
  have hwrite := writer.write_eq m buffer
  refine ⟨?_, ?_, ?_⟩
  · rw [hwrite]
    split
    · next hlimit => exact iff_of_true rfl hlimit
    · next hlimit => exact iff_of_false nofun hlimit
  · rw [hwrite]
    split
    · next hlimit => exact iff_of_false nofun (Nat.not_lt.mpr hlimit)
    · next hlimit => exact iff_of_true rfl (Nat.lt_of_not_le hlimit)
  · intro hlimit
    have hshort : m.body.length < 2 ^ 32 := Nat.lt_of_le_of_lt hlimit hrange.2
    have hsize : IsWord m.body.length (word m.body.length) := isWord_word hshort
    constructor
    · intro rest
      have hnext : reader.next (word m.body.length ++ (m.body ++ rest)) = _ :=
        next_of_complete hsize hlimit rest
      rw [← List.append_assoc] at hnext
      refine hnext.trans ?_
      rw [show word m.body.length ++ m.body = m.frame from rfl,
        decode_frame_of_blank hm hprototype hblank hfind hshort]
      rfl
    · intro arrived hpart hne
      exact next_of_isPrefix hsize hlimit hpart hne

/-- Under a limit of eight bytes, a message without properties just fits. Behind three other bytes
it is written and read back, and a message with a property is not written. -/
theorem write_within_eight_bytes :
    let config : Config := { Config.default with proxy := ⟨"::1", 1, 1, 8⟩ }
    let codec : Codec := ⟨.standard, 8⟩
    let blank := Message.ofStandard .echoRequest
    let long := blank.insertText "é" ""
    config.flaw? = none ∧ codec.write blank [1, 2, 3] = (.ok (), [1, 2, 3] ++ blank.frame) ∧
      codec.next blank.frame = (.ok (some blank), []) ∧
      codec.next (blank.frame.take 11) = (.ok none, blank.frame.take 11) ∧
      codec.write long [1, 2, 3] = (.error (.frameTooLarge 19 8), [1, 2, 3]) := by
  intro config codec blank long
  have hconfig : config.flaw? = none := by decide
  have hkind := Message.ofKind_ofStandard .echoRequest
  have hlong : long.body.length = 19 := by decide +kernel
  obtain ⟨hwrite, -, hread⟩ := write_within_limit hconfig hkind hkind rfl
    (show Registry.standard.find? blank.type = some blank by decide) .standard [1, 2, 3]
  obtain ⟨-, hrefuse, -⟩ := write_within_limit (m := long) hconfig ⟨rfl, rfl, rfl⟩ hkind rfl
    (show Registry.standard.find? long.type = some blank by decide) .standard [1, 2, 3]
  obtain ⟨hwhole, hpart⟩ := hread (by decide)
  have hnext := hwhole []
  rw [List.append_nil] at hnext
  refine ⟨hconfig, hwrite.mpr (by decide), hnext, ?_, ?_⟩
  · exact hpart _ (List.take_prefix ..) (by decide)
  · rw [hlong] at hrefuse
    exact hrefuse.mpr (by decide)

end Codec

end Frame

end ProxyLink
