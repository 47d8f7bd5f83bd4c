import ProxyLink.Proofs.Bag.Edit
import ProxyLink.Proofs.Frame.RoundTrip

/-!
# One frame for each message

The grammar of frames is unambiguous, and of the many frames that mean the same message the writer
picks one: the entries are all present, and their keys ascend. Main statements: a frame that is
decoded and written again is unchanged exactly when it is of this form, and what is written again
is read as the same message; and two messages are written alike exactly when they have the same type
and the same texts.
-/

namespace ProxyLink.Frame

/-- Entries as the writer has them: each has a value, and the keys ascend strictly. -/
def Canonical (entries : List Entry) : Prop :=
  (∀ e ∈ entries, e.2.isSome = true) ∧ entries.Pairwise fun a b => keyBefore a.1 b.1

variable {type type' : MessageType} {entries entries' : List Entry} {bytes : List UInt8}

/-! ### Bytes are read in one way -/

/-- Bytes that start with an entry start with no other one. -/
theorem IsEntry.append_inj {e e' : Entry} {head head' rest rest' : List UInt8}
    (h : IsEntry e head) (h' : IsEntry e' head') (heq : head ++ rest = head' ++ rest') :
    e = e' ∧ rest = rest' := by
  have hread : readEntry (head ++ rest) = .ok (e, rest) :=
    readEntry_eq_ok_iff.mpr ⟨head, rfl, h⟩
  rw [heq, readEntry_eq_ok_iff.mpr ⟨head', rfl, h'⟩] at hread
  cases hread
  exact ⟨rfl, rfl⟩

theorem AreEntries.unique (h : AreEntries entries bytes) (h' : AreEntries entries' bytes)
    (hlength : entries.length = entries'.length) : entries = entries' := by
  -- The same first entry is read from the same bytes, and what is left is the same for both.
  induction h generalizing entries' with
  | nil =>
    rw [List.length_nil, eq_comm, List.length_eq_zero_iff] at hlength
    exact hlength.symm
  | @cons e entries head rest he hrest ih =>
    generalize hbytes : head ++ rest = bytes at h'
    cases h' with
    | nil => cases hlength
    | @cons e' entries' head' rest' he' hrest' =>
      obtain ⟨rfl, rfl⟩ := he.append_inj he' hbytes
      rw [ih hrest' (Nat.succ.inj hlength)]

theorem IsBody.unique (h : IsBody type entries bytes) (h' : IsBody type' entries' bytes) :
    type = type' ∧ entries = entries' := by
  obtain ⟨id, count, rest, hid, hcount, hrest, rfl⟩ := h
  obtain ⟨id', count', rest', hid', hcount', hrest', heq⟩ := h'
  obtain ⟨rfl, htail⟩ := List.append_inj heq (by rw [hid.length, hid'.length])
  obtain ⟨rfl, rfl⟩ := List.append_inj htail (by rw [hcount.length, hcount'.length])
  refine ⟨?_, hrest.unique hrest' (hcount.unique hcount')⟩
  rw [← (typeOfWord_eq_iff hid.lt).mpr rfl]
  exact (typeOfWord_eq_iff hid.lt).mpr (hid.unique hid')

/-- Bytes are the frame of one type and one list of entries. -/
theorem IsFrame.unique (h : IsFrame type entries bytes) (h' : IsFrame type' entries' bytes) :
    type = type' ∧ entries = entries' := by
  obtain ⟨size, body, hsize, hbody, rfl⟩ := h
  obtain ⟨size', body', hsize', hbody', heq⟩ := h'
  obtain ⟨-, rfl⟩ := List.append_inj heq (by rw [hsize.length, hsize'.length])
  exact hbody.unique hbody'

/-! ### Canonical entries are written in one way -/

theorem IsText.eq_textField {text : String} (h : IsText text bytes) : bytes = textField text := by
  obtain ⟨size, hsize, rfl⟩ := h
  rw [hsize.eq_word]
  rfl

/-- There is one way to write an entry with a value. -/
theorem IsEntry.eq_entry {key text : String} (h : IsEntry (key, some text) bytes) :
    bytes = entry key text := by
  cases h with
  | present hkey htext =>
    rw [hkey.eq_textField, htext.eq_textField, entry, List.append_assoc]
    rfl

theorem AreEntries.eq_flatMap {texts : List (String × String)}
    (h : AreEntries (texts.map fun e => (e.1, some e.2)) bytes) :
    bytes = texts.flatMap fun e => entry e.1 e.2 := by
  induction texts generalizing bytes with
  | nil =>
    cases h
    rfl
  | cons e texts ih =>
    cases h with
    | cons he hrest => rw [List.flatMap_cons, he.eq_entry, ih hrest]

/-- There is one frame with the entries of a bag. -/
theorem IsFrame.eq_ofBody {b : Bag} (h : IsFrame type (presentEntries b) bytes) :
    bytes = ofBody (bodyOf type b) := by
  obtain ⟨size, body, hsize, ⟨id, count, rest, hid, hcount, hrest, rfl⟩, rfl⟩ := h
  rw [presentEntries, List.length_map] at hcount
  rw [hsize.eq_word, hid.eq_word, hcount.eq_word, hrest.eq_flatMap, ← List.append_assoc]
  rfl

/-! ### The canonical entries are those of a bag -/

theorem canonical_presentEntries (b : Bag) : Canonical (presentEntries b) := by
  constructor
  · intro e he
    obtain ⟨e, -, rfl⟩ := List.mem_map.mp he
    rfl
  · exact List.pairwise_map.mpr b.ascending

/-- A bag is what its entries make of the empty bag. -/
theorem foldl_presentEntries (b : Bag) : (presentEntries b).foldl applyEntry .empty = b :=
  (foldl_applyEntry_some b .empty).trans b.overwrite_empty

/-- Canonical entries are those of the bag that they make of the empty one. -/
theorem Canonical.presentEntries_foldl (h : Canonical entries) :
    presentEntries (entries.foldl applyEntry .empty) = entries := by
  obtain ⟨hpresent, hascending⟩ := h
  obtain ⟨texts, rfl⟩ : ∃ texts : List (String × String),
      entries = texts.map fun e => (e.1, some e.2) := by
    refine ⟨entries.map fun e => (e.1, e.2.getD ""), ?_⟩
    rw [List.map_map]
    refine (List.map_id entries).symm.trans (List.map_congr_left ?_)
    rintro ⟨key, value⟩ he
    obtain ⟨text, rfl⟩ := Option.isSome_iff_exists.mp (hpresent _ he)
    rfl
  rw [List.pairwise_map] at hascending
  let b : Bag := ⟨texts, hascending⟩
  exact congrArg presentEntries (foldl_presentEntries b)

/-! ### Writing again what was read -/

variable {registry : Registry} {m : Message}

/-- Where the frame of a message is a frame of the grammar, the length of its body has 32 bits. -/
theorem IsFrame.length_body_lt (h : IsFrame type entries m.frame) : m.body.length < 2 ^ 32 := by
  obtain ⟨size, body, hsize, -, heq⟩ := h
  obtain ⟨-, rfl⟩ := List.append_inj heq hsize.length.symm
  exact hsize.lt

/-- The frame of a message has its entries and no other ones. -/
theorem IsFrame.eq_presentEntries (h : IsFrame type entries m.frame) :
    entries = presentEntries m.bag :=
  (h.unique (isFrame_frame h.length_body_lt)).2

/-- A bag that entries were written over holds all that it held before. -/
theorem overwrite_foldl_applyEntry (entries : List Entry) (b : Bag) :
    (entries.foldl applyEntry b).overwrite b = entries.foldl applyEntry b := by
  apply Bag.ext
  intro key
  rw [Bag.text?_overwrite, text?_foldl_applyEntry, Option.or_assoc, Option.or_self]

theorem type_messageOf {prototype : Message} (h : registry.find? type = some prototype) :
    (messageOf prototype entries).type = type := by
  rw [← Registry.type_of_find? h]
  rfl

/-- What was decoded and is written again is decoded as the same message. -/
theorem decode_frame_of_decode (h : decode registry bytes = .ok m)
    (hshort : m.body.length < 2 ^ 32) : decode registry m.frame = .ok m := by
  obtain ⟨type, entries, prototype, -, hfind, rfl⟩ := decode_eq_messageOf_iff.mp h
  rw [← type_messageOf hfind] at hfind
  rw [decode_frame_eq hfind hshort]
  simp only [messageOf, overwrite_foldl_applyEntry]

/-- A frame with canonical entries that is decoded from a blank prototype is written again as it
was. -/
theorem frame_of_canonical (h : decode registry bytes = .ok m)
    (hblank : ∀ p ∈ registry.prototypes, p.bag = .empty) (hframe : IsFrame type entries bytes)
    (hcanonical : Canonical entries) : m.frame = bytes := by
  obtain ⟨type', entries', prototype, hframe', hfind, rfl⟩ := decode_eq_messageOf_iff.mp h
  obtain ⟨rfl, rfl⟩ := hframe'.unique hframe
  have hempty : prototype.bag = .empty := hblank _ (List.mem_of_find?_eq_some hfind)
  have hbag : (messageOf prototype entries').bag = entries'.foldl applyEntry .empty := by
    rw [messageOf, Message.clone_of_bag_empty hempty, hempty]
  rw [← hcanonical.presentEntries_foldl, ← hbag] at hframe
  rw [Message.frame, Message.body, type_messageOf hfind]
  exact hframe.eq_ofBody.symm

/-- A frame that is decoded has entries. Where every prototype is blank, the message is written
again as the very frame exactly when all its entries are present and their keys ascend. Whatever the
prototypes are, what is written again is decoded as the same message, so that a frame is put in
order once and for all. -/
theorem frame_eq_iff_canonical (h : decode registry bytes = .ok m) :
    (∃ type entries, IsFrame type entries bytes) ∧
    ((∀ p ∈ registry.prototypes, p.bag = .empty) → ∀ type entries, IsFrame type entries bytes →
      (m.frame = bytes ↔ Canonical entries)) ∧
    (m.body.length < 2 ^ 32 → decode registry m.frame = .ok m) := by
  refine ⟨?_, ?_, decode_frame_of_decode h⟩
  · obtain ⟨type, entries, -, hframe, -⟩ := decode_eq_messageOf_iff.mp h
    exact ⟨type, entries, hframe⟩
  · intro hblank type entries hframe
    constructor
    · rintro rfl
      rw [hframe.eq_presentEntries]
      exact canonical_presentEntries m.bag
    · exact frame_of_canonical h hblank hframe

/-- A key that is written twice, another one before it in order and behind it in the frame, and a
property without a value: the frame is put in order. -/
theorem frame_ne_of_unordered :
    let bytes := ofBody (word 7 ++ (word 4 ++ (entry "b" "1" ++ (entry "a" "2" ++
      (entry "b" "3" ++ (textField "c" ++ [absent]))))))
    ∃ m, decode .standard bytes = .ok m ∧ m.frame ≠ bytes ∧ decode .standard m.frame = .ok m ∧
      m.bag.entries = [("a", "2"), ("b", "3")] := by
  intro bytes
  let m := ((Message.ofStandard .echoRequest).insertText "b" "3").insertText "a" "2"
  have hdecode : decode .standard bytes = .ok m := by decide +kernel
  have hentries : AreEntries [("b", some "1"), ("a", some "2"), ("b", some "3"), ("c", none)]
      (entry "b" "1" ++ (entry "a" "2" ++ (entry "b" "3" ++ (textField "c" ++ [absent])))) := by
    refine .cons (isEntry_entry (by decide)) (.cons (isEntry_entry (by decide))
      (.cons (isEntry_entry (by decide)) ?_))
    rw [← List.append_nil (textField "c" ++ [absent])]
    exact .cons (.absent (isText_textField (by decide))) .nil
  have hframe : IsFrame .echoRequest _ bytes :=
    ⟨_, _, isWord_word (by decide), ⟨_, _, _, isWord_word (by decide), isWord_word (by decide),
      hentries, rfl⟩, rfl⟩
  obtain ⟨-, hiff, hagain⟩ := frame_eq_iff_canonical hdecode
  refine ⟨m, hdecode, ?_, hagain (by decide +kernel), rfl⟩
  rw [Ne, hiff (by decide +kernel) _ _ hframe, Canonical]
  decide +kernel

/-! ### Messages that are written alike -/

/-- Two messages are written alike exactly when they have the same type and the same bag, as long
as the lengths of their bodies have 32 bits. -/
theorem frame_inj {a b : Message} (ha : a.body.length < 2 ^ 32) (hb : b.body.length < 2 ^ 32) :
    a.frame = b.frame ↔ a.type = b.type ∧ a.bag = b.bag := by
  constructor
  · intro h
    obtain ⟨htype, hentries⟩ := (isFrame_frame ha).unique (h ▸ isFrame_frame hb)
    rw [← foldl_presentEntries a.bag, hentries, foldl_presentEntries]
    exact ⟨htype, rfl⟩
  · rintro ⟨htype, hbag⟩
    rw [Message.frame, Message.frame, Message.body, Message.body, htype, hbag]

/-- Two messages are written alike exactly when they have the same type and each key has the same
text in both, as long as the lengths of their bodies have 32 bits. How the bags came about makes no
difference: of two histories of edits, only the text that the last edit of each key left matters. -/
theorem frame_eq_frame_iff {a b : Message} (ha : a.body.length < 2 ^ 32)
    (hb : b.body.length < 2 ^ 32) :
    (a.frame = b.frame ↔ a.type = b.type ∧ ∀ key, a.bag.text? key = b.bag.text? key) ∧
    ∀ edits edits', a.bag = .ofEdits edits → b.bag = .ofEdits edits' →
      (a.frame = b.frame ↔
        a.type = b.type ∧ ∀ key, Bag.lastText key edits = Bag.lastText key edits') := by
  have htexts : a.frame = b.frame ↔
      a.type = b.type ∧ ∀ key, a.bag.text? key = b.bag.text? key := by
    rw [frame_inj ha hb]
    exact and_congr_right fun _ => ⟨fun h key => by rw [h], Bag.ext⟩
  refine ⟨htexts, ?_⟩
  intro edits edits' hedits hedits'
  rw [htexts, hedits, hedits']
  simp only [Bag.text?_ofEdits]

/-- A key that is set and cleared, and another one that is written over, in another order. -/
theorem frame_eq_of_histories :
    let edits : List Edit :=
      [.insertText "b" "1", .set "c" .bool (some true), .set "a" .int64 (some 7),
        .set "c" .bool none]
    let edits' : List Edit :=
      [.insertText "a" "", .insertText "a" "7", .copyKey (.ofEdits edits) "b"]
    let a : Message := { Message.ofStandard .echoRequest with bag := .ofEdits edits }
    let b : Message := { Message.ofStandard .echoRequest with bag := .ofEdits edits' }
    a.body.length < 2 ^ 32 ∧ b.body.length < 2 ^ 32 ∧ a.frame = b.frame := by
  intro edits edits' a b
  have ha : a.body.length < 2 ^ 32 := by decide +kernel
  have hb : b.body.length < 2 ^ 32 := by decide +kernel
  have hbag : Bag.ofEdits edits = Bag.ofEdits edits' := by decide +kernel
  refine ⟨ha, hb, ((frame_eq_frame_iff ha hb).2 edits edits' rfl rfl).mpr ⟨rfl, ?_⟩⟩
  intro key
  rw [← Bag.text?_ofEdits, ← Bag.text?_ofEdits, hbag]

end ProxyLink.Frame
