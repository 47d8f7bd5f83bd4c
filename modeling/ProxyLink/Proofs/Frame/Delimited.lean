import ProxyLink.Proofs.Frame.Grammar

/-!
# Bodies tell where they end

Each part of a body is of a known length, or its length stands before it. So a reader that is given
the beginning of what it would accept runs out of bytes, wherever that was cut, and one that is
given more leaves the rest over. Main statement, which comes last: a body that was cut or padded is
noticed even when the length of the frame was made to fit.
-/

namespace ProxyLink.Frame

/-- The beginning of some bytes, but not all of them. -/
def IsCut (cut whole : List UInt8) : Prop := cut <+: whole ∧ cut ≠ whole

/-- A part needed more bytes than there were. -/
def RanOut {α : Type} (result : Except Fault α) : Prop :=
  ∃ part needed available, available < needed ∧
    result = .error (.truncated part needed available)

/-- A reader that passes the fault of a part on runs out of bytes where the part does. -/
theorem RanOut.passedOn {α β : Type} {part : Except Fault α} {whole : Except Fault β}
    (h : RanOut part) (hpass : ∀ fault, part = .error fault → whole = .error fault) :
    RanOut whole := by
  obtain ⟨p, needed, available, hlt, hread⟩ := h
  exact ⟨p, needed, available, hlt, hpass _ hread⟩

namespace IsCut

variable {cut whole a b : List UInt8} {byte : UInt8}

theorem length_lt (h : IsCut cut whole) : cut.length < whole.length := by
  apply Nat.lt_of_le_of_ne h.1.length_le
  intro hlength
  exact h.2 (h.1.eq_of_length hlength)

/-- Two parts are cut within the first one, or behind all of it within the second one. -/
theorem append_cases (h : IsCut cut (a ++ b)) :
    IsCut cut a ∨ ∃ rest, cut = a ++ rest ∧ IsCut rest b := by
  obtain ⟨hpre, hne⟩ := h
  by_cases hcut : IsCut cut a
  · exact .inl hcut
  · -- What is no cut of the first part holds all of it.
    have hall : a <+: cut := by
      rcases List.prefix_or_prefix_of_prefix hpre (List.prefix_append a b) with hle | hle
      · have heq : cut = a := Decidable.not_not.mp fun hne => hcut ⟨hle, hne⟩
        exact heq ▸ List.prefix_rfl
      · exact hle
    obtain ⟨rest, rfl⟩ := hall
    refine .inr ⟨rest, rfl, (List.prefix_append_right_inj a).mp hpre, ?_⟩
    rintro rfl
    exact hne rfl

/-- Bytes are cut before the first one, or behind it. -/
theorem cons_cases (h : IsCut cut (byte :: b)) :
    cut = [] ∨ ∃ rest, cut = byte :: rest ∧ IsCut rest b := by
  obtain hbyte | ⟨rest, rfl, hrest⟩ := append_cases (a := [byte]) h
  · exact .inl (List.eq_nil_of_length_eq_zero (Nat.lt_one_iff.mp hbyte.length_lt))
  · exact .inr ⟨rest, rfl, hrest⟩

end IsCut

/-! ### A reader that is given too little -/

variable {cut : List UInt8}

theorem readWord_of_isCut {n : Nat} {size : List UInt8} (part : Part) (h : IsWord n size)
    (hcut : IsCut cut size) : RanOut (readWord part cut) := by
  have hshort : cut.length < 4 := h.length ▸ hcut.length_lt
  unfold readWord
  split
  · simp only [List.length_cons] at hshort
    omega
  · exact ⟨part, 4, cut.length, hshort, rfl⟩

/-- A text that was cut is not read, wherever its bytes end. -/
theorem readText_of_isCut {text : String} {bytes : List UInt8} (part : Part)
    (h : IsText text bytes) (hcut : IsCut cut bytes) : RanOut (readText part cut) := by
  obtain ⟨size, hsize, rfl⟩ := h
  obtain hcut | ⟨rest, rfl, hrest⟩ := hcut.append_cases
  · apply (readWord_of_isCut part hsize hcut).passedOn
    intro fault hread
    rw [readText, hread]
  · have hread : readWord part (size ++ rest) = .ok ((Utf8.encode text).length, rest) :=
      readWord_eq_ok_iff.mpr ⟨size, rfl, hsize⟩
    refine ⟨part, (Utf8.encode text).length, rest.length, hrest.length_lt, ?_⟩
    rw [readText, hread]
    exact if_pos hrest.length_lt

/-- An entry whose key was cut is not read. -/
theorem readEntry_of_isCut_key {key : String} {keyBytes : List UInt8} (h : IsText key keyBytes)
    (hcut : IsCut cut keyBytes) : RanOut (readEntry cut) := by
  apply (readText_of_isCut .propertyKey h hcut).passedOn
  intro fault hread
  rw [readEntry, hread]

/-- An entry that ends behind its key is not read. -/
theorem readEntry_of_key {key : String} {keyBytes : List UInt8} (h : IsText key keyBytes) :
    RanOut (readEntry keyBytes) := by
  have hread : readText .propertyKey keyBytes = .ok (key, []) :=
    readText_eq_ok_iff.mpr ⟨keyBytes, (List.append_nil keyBytes).symm, h⟩
  exact ⟨.presenceFlag, 1, 0, Nat.one_pos, by rw [readEntry, hread]⟩

theorem readEntry_of_isCut {e : Entry} {bytes : List UInt8} (h : IsEntry e bytes)
    (hcut : IsCut cut bytes) : RanOut (readEntry cut) := by
  cases h with
  | @present key text keyBytes textBytes hkey htext =>
    obtain hcut | ⟨rest, rfl, hrest⟩ := hcut.append_cases
    · exact readEntry_of_isCut_key hkey hcut
    · obtain rfl | ⟨value, rfl, hvalue⟩ := hrest.cons_cases
      · rw [List.append_nil]
        exact readEntry_of_key hkey
      · have hread : readText .propertyKey (keyBytes ++ 1 :: value) = .ok (key, 1 :: value) :=
          readText_eq_ok_iff.mpr ⟨keyBytes, rfl, hkey⟩
        apply (readText_of_isCut .propertyValue htext hvalue).passedOn
        intro fault htext
        rw [readEntry, hread]
        simp only
        rw [if_pos (by rfl), htext]
  | @absent key keyBytes hkey =>
    obtain hcut | ⟨rest, rfl, hrest⟩ := hcut.append_cases
    · exact readEntry_of_isCut_key hkey hcut
    · obtain rfl : rest = [] := List.eq_nil_of_length_eq_zero (Nat.lt_one_iff.mp hrest.length_lt)
      rw [List.append_nil]
      exact readEntry_of_key hkey

/-- Entries of which any was cut, or is missing, are not read. -/
theorem readEntries_of_isCut {entries : List Entry} {bytes : List UInt8}
    (h : AreEntries entries bytes) (hcut : IsCut cut bytes) (b : Bag) :
    RanOut (readEntries b entries.length cut) := by
  induction h generalizing cut b with
  | nil => exact absurd hcut.length_lt (Nat.not_lt_zero _)
  | @cons e entries head tail he _ ih =>
    -- The cut is within the first entry, or that one is read and the cut is in the others.
    rw [List.length_cons]
    obtain hcut | ⟨rest, rfl, hrest⟩ := hcut.append_cases
    · apply (readEntry_of_isCut he hcut).passedOn
      intro fault hread
      rw [readEntries, hread]
    · have hread : readEntry (head ++ rest) = .ok (e, rest) :=
        readEntry_eq_ok_iff.mpr ⟨head, rfl, he⟩
      rw [readEntries, hread]
      exact ih hrest (applyEntry b e)

/-- Properties that were cut are not read. -/
theorem readBag_of_isCut {entries : List Entry} {count rest : List UInt8}
    (hcount : IsWord entries.length count) (hentries : AreEntries entries rest)
    (hcut : IsCut cut (count ++ rest)) (b : Bag) : RanOut (readBag b cut) := by
  obtain hcut | ⟨rest, rfl, hrest⟩ := hcut.append_cases
  · apply (readWord_of_isCut .propertyCount hcount hcut).passedOn
    intro fault hread
    rw [readBag, hread]
  · have hword : readWord .propertyCount (count ++ rest) = .ok (entries.length, rest) :=
      readWord_eq_ok_iff.mpr ⟨count, rfl, hcount⟩
    apply (readEntries_of_isCut hentries hrest b).passedOn
    intro fault hread
    rw [readBag, hword]
    simp only
    rw [hread]

/-! ### A reader that is given too much -/

/-- What stands behind the properties is counted, and is a fault. -/
theorem readBag_append {entries : List Entry} {count rest extra : List UInt8}
    (hcount : IsWord entries.length count) (hentries : AreEntries entries rest)
    (hextra : extra ≠ []) (b : Bag) :
    readBag b (count ++ rest ++ extra) = .error (.trailing extra.length entries.length) := by
  have hword : readWord .propertyCount (count ++ rest ++ extra) =
      .ok (entries.length, rest ++ extra) :=
    readWord_eq_ok_iff.mpr ⟨count, List.append_assoc .., hcount⟩
  have hread : readEntries b entries.length (rest ++ extra) =
      .ok (entries.foldl applyEntry b, extra) :=
    readEntries_eq_ok_iff.mpr ⟨entries, rest, rfl, rfl, hentries, rfl⟩
  rw [readBag, hword]
  simp only
  rw [hread]
  cases extra with
  | nil => exact absurd rfl hextra
  | cons byte extra => rfl

/-! ### Bodies -/

variable {registry : Registry} {type : MessageType} {prototype : Message} {entries : List Entry}
  {bytes body : List UInt8}

/-- A body of a registered type that has a fault has it in its properties. -/
theorem decodeBody_of_readBag {id : List UInt8} {fault : Fault}
    (hid : IsWord type.id.toUInt32.toNat id) (hfind : registry.find? type = some prototype)
    (hread : readBag prototype.clone.bag bytes = .error fault) :
    decodeBody registry (id ++ bytes) = .error (.malformed fault) := by
  have hword : readWord .messageType (id ++ bytes) = .ok (type.id.toUInt32.toNat, bytes) :=
    readWord_eq_ok_iff.mpr ⟨id, rfl, hid⟩
  rw [decodeBody, hword]
  simp only
  rw [(typeOfWord_eq_iff hid.lt).mpr rfl, Registry.instantiate_of_find? hfind]
  simp only
  rw [hread]

/-- A body that was cut is truncated, also where its type is not whole any more. -/
theorem decodeBody_of_isCut (h : IsBody type entries body)
    (hfind : registry.find? type = some prototype) {cut : List UInt8} (hcut : IsCut cut body) :
    ∃ part needed available, available < needed ∧
      decodeBody registry cut = .error (.malformed (.truncated part needed available)) := by
  obtain ⟨id, count, rest, hid, hcount, hentries, rfl⟩ := h
  obtain hcut | ⟨rest, rfl, hrest⟩ := hcut.append_cases
  · obtain ⟨part, needed, available, hlt, hread⟩ := readWord_of_isCut .messageType hid hcut
    exact ⟨part, needed, available, hlt, by rw [decodeBody, hread]⟩
  · obtain ⟨part, needed, available, hlt, hread⟩ :=
      readBag_of_isCut hcount hentries hrest prototype.clone.bag
    exact ⟨part, needed, available, hlt, decodeBody_of_readBag hid hfind hread⟩

/-- A body with something behind it has trailing bytes. -/
theorem decodeBody_append (h : IsBody type entries body)
    (hfind : registry.find? type = some prototype) {extra : List UInt8} (hextra : extra ≠ []) :
    decodeBody registry (body ++ extra) =
      .error (.malformed (.trailing extra.length entries.length)) := by
  obtain ⟨id, count, rest, hid, hcount, hentries, rfl⟩ := h
  rw [List.append_assoc id]
  exact decodeBody_of_readBag hid hfind (readBag_append hcount hentries hextra _)

/-- The body of a frame that can be decoded tells where it ends. Under the same registry, any
beginning of it that is not all of it is a malformed frame when its length is put before it: a part
is truncated. So is everything of less than 2³² bytes that goes on behind it: as many bytes trail as
are too many, behind as many properties as the frame has. -/
theorem malformed_when_cut_or_padded {frame : List UInt8} {m : Message}
    (h : decode registry frame = .ok m) :
    let body := frame.drop 4
    frame = ofBody body ∧
      (∀ cut, cut <+: body → cut ≠ body → ∃ part needed available, available < needed ∧
        decode registry (ofBody cut) = .error (.malformed (.truncated part needed available))) ∧
      ∃ type entries, IsFrame type entries frame ∧
        ∀ padded, body <+: padded → padded ≠ body → padded.length < 2 ^ 32 →
          decode registry (ofBody padded) =
            .error (.malformed (.trailing (padded.length - body.length) entries.length)) := by
  obtain ⟨type, entries, prototype, hframe, hfind, -⟩ := decode_eq_messageOf_iff.mp h
  obtain ⟨size, body, hsize, hbody, rfl⟩ := id hframe
  rw [List.drop_left' hsize.length]
  refine ⟨by rw [ofBody, hsize.eq_word], ?_, type, entries, hframe, ?_⟩
  · intro cut hpre hne
    have hcut : IsCut cut body := ⟨hpre, hne⟩
    have hshort : cut.length < 2 ^ 32 := Nat.lt_trans hcut.length_lt hsize.lt
    rw [ofBody, decode_append (isWord_word hshort)]
    exact decodeBody_of_isCut hbody hfind hcut
  · rintro padded ⟨extra, rfl⟩ hne hshort
    have hextra : extra ≠ [] := by
      rintro rfl
      exact hne (List.append_nil body)
    rw [ofBody, decode_append (isWord_word hshort), decodeBody_append hbody hfind hextra,
      List.length_append, Nat.add_sub_cancel_left]

/-- The value of a property is cut between the two bytes of its character, and is padded. -/
theorem malformed_within_character :
    let m := (Message.ofStandard .echoRequest).insertText "Note" "é"
    decode .standard m.frame = .ok m ∧
      (∃ part needed available, available < needed ∧
        decode .standard (ofBody (m.body.take 22)) =
          .error (.malformed (.truncated part needed available))) ∧
      ∃ properties, decode .standard (ofBody (m.body ++ [195])) =
        .error (.malformed (.trailing 1 properties)) := by
  intro m
  have hdecode : decode .standard m.frame = .ok m := by decide +kernel
  obtain ⟨-, hcut, type, entries, -, hpadded⟩ := malformed_when_cut_or_padded hdecode
  refine ⟨hdecode, hcut _ (List.take_prefix 22 m.body) (by decide +kernel), entries.length, ?_⟩
  exact hpadded (m.body ++ [195]) (List.prefix_append ..) (by decide +kernel) (by decide +kernel)

end ProxyLink.Frame
