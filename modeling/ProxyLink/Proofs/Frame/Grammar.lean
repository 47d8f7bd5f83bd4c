import ProxyLink.Proofs.Bag
import ProxyLink.Proofs.Frame.Word
import ProxyLink.Proofs.Registry

/-!
# The grammar of frames

The layout of a frame as a grammar, from which the reader is then derived: `IsFrame` relates bytes
to the type and the entries that they write, and refers to neither the reader nor the writer. The
reader accepts exactly the frames of registered types, takes from them what the grammar says they
mean, and names an unknown type exactly where there is one.
-/

namespace ProxyLink.Frame

/-- An entry of a frame: a key, and its value if it is present. -/
abbrev Entry := String × Option String

/-- Bytes that write a text: the length of its UTF-8 form as a word, and that form. -/
def IsText (text : String) (bytes : List UInt8) : Prop :=
  ∃ size, IsWord (Utf8.encode text).length size ∧ bytes = size ++ Utf8.encode text

/-- Bytes that write an entry: the key, a flag, and behind the flag 1 the value. -/
inductive IsEntry : Entry → List UInt8 → Prop where
  | present {key text : String} {keyBytes textBytes : List UInt8} :
    IsText key keyBytes → IsText text textBytes →
      IsEntry (key, some text) (keyBytes ++ 1 :: textBytes)
  | absent {key : String} {keyBytes : List UInt8} :
    IsText key keyBytes → IsEntry (key, none) (keyBytes ++ [0])

/-- Bytes that write entries one behind the other. -/
inductive AreEntries : List Entry → List UInt8 → Prop where
  | nil : AreEntries [] []
  | cons {e : Entry} {entries : List Entry} {bytes rest : List UInt8} :
    IsEntry e bytes → AreEntries entries rest → AreEntries (e :: entries) (bytes ++ rest)

/-- Bytes that write a body: the id of a type, the number of the entries, and the entries. -/
def IsBody (type : MessageType) (entries : List Entry) (bytes : List UInt8) : Prop :=
  ∃ id count rest, IsWord type.id.toUInt32.toNat id ∧ IsWord entries.length count ∧
    AreEntries entries rest ∧ bytes = id ++ (count ++ rest)

/-- Bytes that write a frame: the length of a body, and the body. -/
def IsFrame (type : MessageType) (entries : List Entry) (bytes : List UInt8) : Prop :=
  ∃ size body, IsWord body.length size ∧ IsBody type entries body ∧ bytes = size ++ body

/-- Bytes whose length agrees with the first word, and whose second word is the id of a type. -/
def Announces (type : MessageType) (bytes : List UInt8) : Prop :=
  ∃ size id rest, IsWord (id ++ rest).length size ∧ IsWord type.id.toUInt32.toNat id ∧
    bytes = size ++ (id ++ rest)

/-- The value of a key in the last of the entries that give it one. -/
def lastValue (key : String) (entries : List Entry) : Option String :=
  (entries.filterMap fun e => if e.1 = key then e.2 else none).getLast?

/-! ### What the entries of a frame make of a bag -/

theorem text?_applyEntry (b : Bag) (e : Entry) (key : String) :
    (applyEntry b e).text? key = (if e.1 = key then e.2 else none).or (b.text? key) := by
  rcases e with ⟨k, value⟩
  cases value with
  | none =>
    simp only [applyEntry, ite_self]
    rfl
  | some text =>
    simp only [applyEntry, Bag.text?_insert]
    by_cases hk : k = key
    · rw [if_pos hk.symm, if_pos hk]
      rfl
    · rw [if_neg (Ne.symm hk), if_neg hk]
      rfl

private theorem lastValue_cons (key : String) (e : Entry) (entries : List Entry) :
    lastValue key (e :: entries) =
      (lastValue key entries).or (if e.1 = key then e.2 else none) := by
  unfold lastValue
  rw [List.filterMap_cons]
  split
  · next hn =>
    rw [hn, Option.or_none]
  · next text hs =>
    rw [hs, List.getLast?_cons]
    cases (entries.filterMap fun e => if e.1 = key then e.2 else none).getLast? <;> rfl

/-- Entries written over a bag give each key its last value, and leave a key without one alone. -/
theorem text?_foldl_applyEntry (entries : List Entry) (b : Bag) (key : String) :
    (entries.foldl applyEntry b).text? key = (lastValue key entries).or (b.text? key) := by
  induction entries generalizing b with
  | nil => rfl
  | cons e entries ih =>
    rw [List.foldl_cons, ih, text?_applyEntry, lastValue_cons, Option.or_assoc]

/-- The entries of a bag, all present, write the bag over another one. -/
theorem foldl_applyEntry_some (source target : Bag) :
    (source.entries.map fun e => (e.1, some e.2)).foldl applyEntry target =
      source.overwrite target := by
  rw [List.foldl_map]
  rfl

/-! ### The readers, part by part -/

/-- A text is read where the bytes start with one. -/
theorem readText_eq_ok_iff {part : Part} {bytes rest : List UInt8} {text : String} :
    readText part bytes = .ok (text, rest) ↔ ∃ head, bytes = head ++ rest ∧ IsText text head := by
  constructor
  · intro h
    unfold readText at h
    cases hw : readWord part bytes with
    | error fault => rw [hw] at h; cases h
    | ok read =>
      rcases read with ⟨length, tail⟩
      obtain ⟨size, rfl, hsize⟩ := readWord_eq_ok_iff.mp hw
      rw [hw] at h
      simp only at h
      split at h
      · cases h
      · next hlong =>
        cases hd : Utf8.decode (tail.take length) with
        | error fault => rw [hd] at h; cases h
        | ok text =>
          rw [hd] at h
          cases h
          have he := Utf8.decode_eq_ok_iff.mp hd
          have hlength : (Utf8.encode text).length = length := by
            rw [← he, List.length_take]
            omega
          refine ⟨size ++ tail.take length, ?_, size, hlength ▸ hsize, by rw [he]⟩
          rw [List.append_assoc, List.take_append_drop]
  · rintro ⟨head, rfl, size, hsize, rfl⟩
    have hw : readWord part (size ++ (Utf8.encode text ++ rest)) =
        .ok ((Utf8.encode text).length, Utf8.encode text ++ rest) :=
      readWord_eq_ok_iff.mpr ⟨size, rfl, hsize⟩
    rw [List.append_assoc, readText, hw]
    simp only
    rw [if_neg (by simp), List.take_left, Utf8.decode_encode, List.drop_left]

/-- An entry is read where the bytes start with one. -/
theorem readEntry_eq_ok_iff {bytes rest : List UInt8} {e : Entry} :
    readEntry bytes = .ok (e, rest) ↔ ∃ head, bytes = head ++ rest ∧ IsEntry e head := by
  constructor
  · intro h
    unfold readEntry at h
    cases hk : readText .propertyKey bytes with
    | error fault => rw [hk] at h; cases h
    | ok read =>
      rcases read with ⟨key, tail⟩
      obtain ⟨keyBytes, rfl, hkey⟩ := readText_eq_ok_iff.mp hk
      rw [hk] at h
      cases tail with
      | nil => cases h
      | cons flag tail =>
        simp only at h
        split at h
        · next hflag =>
          cases ht : readText .propertyValue tail with
          | error fault => rw [ht] at h; cases h
          | ok read =>
            rcases read with ⟨text, tail⟩
            obtain ⟨textBytes, rfl, htext⟩ := readText_eq_ok_iff.mp ht
            rw [ht] at h
            cases h
            rw [hflag]
            exact ⟨keyBytes ++ 1 :: textBytes, by simp [present], .present hkey htext⟩
        · split at h
          · next hflag =>
            cases h
            rw [hflag]
            exact ⟨keyBytes ++ [0], by simp [absent], .absent hkey⟩
          · cases h
  · rintro ⟨head, rfl, he⟩
    cases he with
    | @present key text keyBytes textBytes hkey htext =>
      have hk : readText .propertyKey (keyBytes ++ 1 :: (textBytes ++ rest)) =
          .ok (key, 1 :: (textBytes ++ rest)) :=
        readText_eq_ok_iff.mpr ⟨keyBytes, rfl, hkey⟩
      have ht : readText .propertyValue (textBytes ++ rest) = .ok (text, rest) :=
        readText_eq_ok_iff.mpr ⟨textBytes, rfl, htext⟩
      rw [List.append_assoc, List.cons_append, readEntry, hk]
      simp only
      rw [if_pos (by rfl), ht]
    | @absent key keyBytes hkey =>
      have hk : readText .propertyKey (keyBytes ++ 0 :: rest) = .ok (key, 0 :: rest) :=
        readText_eq_ok_iff.mpr ⟨keyBytes, rfl, hkey⟩
      rw [List.append_assoc, List.cons_append, List.nil_append, readEntry, hk]
      rfl

/-- As many entries are read as are asked for, where the bytes start with them. -/
theorem readEntries_eq_ok_iff {b b' : Bag} {count : Nat} {bytes rest : List UInt8} :
    readEntries b count bytes = .ok (b', rest) ↔ ∃ entries head, bytes = head ++ rest ∧
      entries.length = count ∧ AreEntries entries head ∧ b' = entries.foldl applyEntry b := by
  induction count generalizing b bytes with
  | zero =>
    constructor
    · intro h
      cases h
      exact ⟨[], [], rfl, rfl, .nil, rfl⟩
    · rintro ⟨entries, head, rfl, hlen, hentries, rfl⟩
      rw [List.length_eq_zero_iff] at hlen
      subst hlen
      cases hentries
      rfl
  | succ count ih =>
    constructor
    · intro h
      unfold readEntries at h
      cases he : readEntry bytes with
      | error fault => rw [he] at h; cases h
      | ok read =>
        rcases read with ⟨e, tail⟩
        obtain ⟨head, rfl, hentry⟩ := readEntry_eq_ok_iff.mp he
        rw [he] at h
        obtain ⟨entries, heads, rfl, hlen, hentries, rfl⟩ := ih.mp h
        exact ⟨e :: entries, head ++ heads, (List.append_assoc ..).symm, by simp [hlen],
          .cons hentry hentries, rfl⟩
    · rintro ⟨entries, heads, rfl, hlen, hentries, rfl⟩
      cases hentries with
      | nil => cases hlen
      | @cons e entries head heads hentry hentries =>
        have he : readEntry (head ++ (heads ++ rest)) = .ok (e, heads ++ rest) :=
          readEntry_eq_ok_iff.mpr ⟨head, rfl, hentry⟩
        rw [List.append_assoc, readEntries, he]
        exact ih.mpr ⟨entries, heads, rfl, by simpa using hlen, hentries, rfl⟩

/-- The properties of a body are read where the bytes are a count and that many entries. -/
theorem readBag_eq_ok_iff {b b' : Bag} {bytes : List UInt8} :
    readBag b bytes = .ok b' ↔ ∃ entries count rest, IsWord entries.length count ∧
      AreEntries entries rest ∧ bytes = count ++ rest ∧ b' = entries.foldl applyEntry b := by
  constructor
  · intro h
    unfold readBag at h
    cases hw : readWord .propertyCount bytes with
    | error fault => rw [hw] at h; cases h
    | ok read =>
      rcases read with ⟨length, tail⟩
      obtain ⟨count, rfl, hcount⟩ := readWord_eq_ok_iff.mp hw
      rw [hw] at h
      simp only at h
      cases he : readEntries b length tail with
      | error fault => rw [he] at h; cases h
      | ok read =>
        rcases read with ⟨b'', extra⟩
        rw [he] at h
        cases extra with
        | cons byte extra => cases h
        | nil =>
          cases h
          obtain ⟨entries, head, rfl, rfl, hentries, rfl⟩ := readEntries_eq_ok_iff.mp he
          exact ⟨entries, count, head, hcount, hentries, by rw [List.append_nil], rfl⟩
  · rintro ⟨entries, count, rest, hcount, hentries, rfl, rfl⟩
    have hw : readWord .propertyCount (count ++ rest) = .ok (entries.length, rest) :=
      readWord_eq_ok_iff.mpr ⟨count, rfl, hcount⟩
    have he : readEntries b entries.length rest = .ok (entries.foldl applyEntry b, []) :=
      readEntries_eq_ok_iff.mpr ⟨entries, rest, (List.append_nil _).symm, rfl, hentries, rfl⟩
    rw [readBag, hw]
    simp only
    rw [he]

/-! ### Bodies and frames -/

open Registry (type_of_find? instantiate_of_find? instantiate_of_find?_none)

/-- The message that entries make of a prototype. -/
def messageOf (prototype : Message) (entries : List Entry) : Message :=
  { prototype.clone with bag := entries.foldl applyEntry prototype.clone.bag }

/-- What entries make of a prototype is a message of its kind, type and layer, in which each key has
its last value, or the text that it has in the clone. -/
theorem eq_messageOf_iff {prototype m : Message} {entries : List Entry} :
    m = messageOf prototype entries ↔ m.kind = prototype.kind ∧ m.type = prototype.type ∧
      m.layer = prototype.layer ∧ ∀ key,
        m.bag.text? key = (lastValue key entries).or (prototype.clone.bag.text? key) := by
  constructor
  · rintro rfl
    exact ⟨rfl, rfl, rfl, text?_foldl_applyEntry entries prototype.clone.bag⟩
  · rintro ⟨hkind, htype, hlayer, htext⟩
    have hbag : m.bag = entries.foldl applyEntry prototype.clone.bag := by
      apply Bag.ext
      intro key
      rw [htext, text?_foldl_applyEntry]
    rcases m with ⟨kind, type, layer, bag⟩
    cases hkind
    cases htype
    cases hlayer
    cases hbag
    rfl

/-- A message is read from a body exactly when it is what the entries of that body make of the
prototype of its type. -/
theorem decodeBody_eq_ok_iff {registry : Registry} {bytes : List UInt8} {m : Message} :
    decodeBody registry bytes = .ok m ↔ ∃ type entries prototype, IsBody type entries bytes ∧
      registry.find? type = some prototype ∧ m = messageOf prototype entries := by
  constructor
  · intro h
    unfold decodeBody at h
    cases hw : readWord .messageType bytes with
    | error fault => rw [hw] at h; cases h
    | ok read =>
      rcases read with ⟨n, tail⟩
      obtain ⟨id, rfl, hid⟩ := readWord_eq_ok_iff.mp hw
      rw [hw] at h
      simp only at h
      cases hf : registry.find? (typeOfWord n) with
      | none => rw [instantiate_of_find?_none hf] at h; cases h
      | some prototype =>
        rw [instantiate_of_find? hf] at h
        simp only at h
        cases hb : readBag prototype.clone.bag tail with
        | error fault => rw [hb] at h; cases h
        | ok b =>
          rw [hb] at h
          cases h
          obtain ⟨entries, count, rest, hcount, hentries, rfl, rfl⟩ := readBag_eq_ok_iff.mp hb
          refine ⟨typeOfWord n, entries, prototype, ⟨id, count, rest, ?_, hcount, hentries, rfl⟩,
            hf, rfl⟩
          rw [← (typeOfWord_eq_iff hid.lt).mp rfl]
          exact hid
  · rintro ⟨type, entries, prototype, ⟨id, count, rest, hid, hcount, hentries, rfl⟩, hf, rfl⟩
    have hw : readWord .messageType (id ++ (count ++ rest)) =
        .ok (type.id.toUInt32.toNat, count ++ rest) :=
      readWord_eq_ok_iff.mpr ⟨id, rfl, hid⟩
    have ht : typeOfWord type.id.toUInt32.toNat = type := (typeOfWord_eq_iff hid.lt).mpr rfl
    have hb : readBag prototype.clone.bag (count ++ rest) =
        .ok (entries.foldl applyEntry prototype.clone.bag) :=
      readBag_eq_ok_iff.mpr ⟨entries, count, rest, hcount, hentries, rfl, rfl⟩
    rw [decodeBody, hw]
    simp only
    rw [ht, instantiate_of_find? hf]
    simp only
    rw [hb]
    rfl

/-- Reading a body fails with an unknown type exactly when the first word is the id of a type
without a prototype. -/
theorem decodeBody_eq_unknownType_iff {registry : Registry} {bytes : List UInt8}
    {type : MessageType} :
    decodeBody registry bytes = .error (.unknownType type) ↔
      registry.find? type = none ∧ ∃ id rest, IsWord type.id.toUInt32.toNat id ∧
        bytes = id ++ rest := by
  constructor
  · intro h
    unfold decodeBody at h
    cases hw : readWord .messageType bytes with
    | error fault => rw [hw] at h; cases h
    | ok read =>
      rcases read with ⟨n, tail⟩
      obtain ⟨id, rfl, hid⟩ := readWord_eq_ok_iff.mp hw
      rw [hw] at h
      simp only at h
      cases hf : registry.find? (typeOfWord n) with
      | none =>
        rw [instantiate_of_find?_none hf] at h
        cases h
        exact ⟨hf, id, tail, (typeOfWord_eq_iff hid.lt).mp rfl ▸ hid, rfl⟩
      | some prototype =>
        rw [instantiate_of_find? hf] at h
        simp only at h
        cases hb : readBag prototype.clone.bag tail with
        | error fault => rw [hb] at h; cases h
        | ok b => rw [hb] at h; cases h
  · rintro ⟨hf, id, rest, hid, rfl⟩
    have hw : readWord .messageType (id ++ rest) = .ok (type.id.toUInt32.toNat, rest) :=
      readWord_eq_ok_iff.mpr ⟨id, rfl, hid⟩
    rw [decodeBody, hw]
    simp only
    rw [(typeOfWord_eq_iff hid.lt).mpr rfl, instantiate_of_find?_none hf]

/-- Reading a body fails for no other reason than an unknown type or bytes that are no body. -/
theorem decodeBody_cases (registry : Registry) (bytes : List UInt8) :
    (∃ m, decodeBody registry bytes = .ok m) ∨
      (∃ type, decodeBody registry bytes = .error (.unknownType type)) ∨
      ∃ fault, decodeBody registry bytes = .error (.malformed fault) := by
  unfold decodeBody
  cases readWord .messageType bytes with
  | error fault => exact .inr (.inr ⟨fault, rfl⟩)
  | ok read =>
    cases hf : registry.find? (typeOfWord read.1) with
    | none =>
      simp only [instantiate_of_find?_none hf]
      exact .inr (.inl ⟨_, rfl⟩)
    | some prototype =>
      simp only [instantiate_of_find? hf]
      cases readBag prototype.clone.bag read.2 with
      | error fault => exact .inr (.inr ⟨fault, rfl⟩)
      | ok b => exact .inl ⟨_, rfl⟩

/-- A frame is decoded as its body when its first word is the length of that body. -/
theorem decode_append {registry : Registry} {size body : List UInt8}
    (h : IsWord body.length size) : decode registry (size ++ body) = decodeBody registry body := by
  have hw : readWord .bodyLength (size ++ body) = .ok (body.length, body) :=
    readWord_eq_ok_iff.mpr ⟨size, rfl, h⟩
  rw [decode, hw]
  exact if_pos rfl

/-- Bytes either are a word and as many bytes as it says, or are malformed. -/
theorem decode_cases (registry : Registry) (bytes : List UInt8) :
    (∃ size body, IsWord body.length size ∧ bytes = size ++ body) ∨
      ∃ fault, decode registry bytes = .error (.malformed fault) := by
  unfold decode
  cases hw : readWord .bodyLength bytes with
  | error fault => exact .inr ⟨fault, rfl⟩
  | ok read =>
    rcases read with ⟨length, body⟩
    obtain ⟨size, rfl, hsize⟩ := readWord_eq_ok_iff.mp hw
    simp only
    split
    · next hl => exact .inl ⟨size, body, hl ▸ hsize, rfl⟩
    · exact .inr ⟨_, rfl⟩

/-- A message is decoded from bytes exactly when it is what the entries of a frame make of the
prototype of its type. -/
theorem decode_eq_messageOf_iff {registry : Registry} {bytes : List UInt8} {m : Message} :
    decode registry bytes = .ok m ↔ ∃ type entries prototype, IsFrame type entries bytes ∧
      registry.find? type = some prototype ∧ m = messageOf prototype entries := by
  constructor
  · intro h
    obtain ⟨size, body, hsize, rfl⟩ | ⟨fault, hf⟩ := decode_cases registry bytes
    · rw [decode_append hsize] at h
      obtain ⟨type, entries, prototype, hbody, hf, rfl⟩ := decodeBody_eq_ok_iff.mp h
      exact ⟨type, entries, prototype, ⟨size, body, hsize, hbody, rfl⟩, hf, rfl⟩
    · rw [hf] at h
      cases h
  · rintro ⟨type, entries, prototype, ⟨size, body, hsize, hbody, rfl⟩, hf, rfl⟩
    rw [decode_append hsize]
    exact decodeBody_eq_ok_iff.mpr ⟨type, entries, prototype, hbody, hf, rfl⟩

/-- Decoding fails with an unknown type exactly when the bytes announce a type without a
prototype, whatever follows. -/
theorem decode_eq_unknownType_iff {registry : Registry} {bytes : List UInt8}
    {type : MessageType} :
    decode registry bytes = .error (.unknownType type) ↔
      Announces type bytes ∧ registry.find? type = none := by
  constructor
  · intro h
    obtain ⟨size, body, hsize, rfl⟩ | ⟨fault, hf⟩ := decode_cases registry bytes
    · rw [decode_append hsize] at h
      obtain ⟨hf, id, rest, hid, rfl⟩ := decodeBody_eq_unknownType_iff.mp h
      exact ⟨⟨size, id, rest, hsize, hid, rfl⟩, hf⟩
    · rw [hf] at h
      cases h
  · rintro ⟨⟨size, id, rest, hsize, hid, rfl⟩, hf⟩
    rw [decode_append hsize]
    exact decodeBody_eq_unknownType_iff.mpr ⟨hf, id, rest, hid, rfl⟩

/-- Decoding fails for no other reason than an unknown type or bytes that are no frame. -/
theorem decode_outcomes (registry : Registry) (bytes : List UInt8) :
    (∃ m, decode registry bytes = .ok m) ∨
      (∃ type, decode registry bytes = .error (.unknownType type)) ∨
      ∃ fault, decode registry bytes = .error (.malformed fault) := by
  obtain ⟨size, body, hsize, rfl⟩ | hf := decode_cases registry bytes
  · rw [decode_append hsize]
    exact decodeBody_cases registry body
  · exact .inr (.inr hf)

/-- Decoding succeeds exactly on the frames of registered types. The message is then of the kind,
type and layer of the prototype, and the text of each key is the last value that an entry gives it,
or what the clone of the prototype holds when none does. Otherwise the failure is an unknown type
exactly when the first word is the length of the rest and the second one the id of a type that is
not registered, whatever follows; in every other case the bytes are malformed. -/
theorem decode_grammar (registry : Registry) (bytes : List UInt8) :
    ((∃ m, decode registry bytes = .ok m) ↔
      ∃ type entries, IsFrame type entries bytes ∧ registry.contains type = true) ∧
    (∀ m, decode registry bytes = .ok m ↔ ∃ type entries prototype,
      IsFrame type entries bytes ∧ registry.find? type = some prototype ∧
      m.kind = prototype.kind ∧ m.type = type ∧ m.layer = prototype.layer ∧
      ∀ key, m.bag.text? key = (lastValue key entries).or (prototype.clone.bag.text? key)) ∧
    (∀ type, decode registry bytes = .error (.unknownType type) ↔
      Announces type bytes ∧ registry.contains type = false) ∧
    ((∃ m, decode registry bytes = .ok m) ∨
      (∃ type, decode registry bytes = .error (.unknownType type)) ∨
      ∃ fault, decode registry bytes = .error (.malformed fault)) := by
  refine ⟨?_, ?_, ?_, decode_outcomes registry bytes⟩
  · constructor
    · rintro ⟨m, hm⟩
      obtain ⟨type, entries, prototype, hframe, hf, -⟩ := decode_eq_messageOf_iff.mp hm
      exact ⟨type, entries, hframe, by rw [Registry.contains, hf]; rfl⟩
    · rintro ⟨type, entries, hframe, hc⟩
      obtain ⟨prototype, hf⟩ := Option.isSome_iff_exists.mp hc
      exact ⟨_, decode_eq_messageOf_iff.mpr ⟨type, entries, prototype, hframe, hf, rfl⟩⟩
  · intro m
    rw [decode_eq_messageOf_iff]
    constructor
    · rintro ⟨type, entries, prototype, hframe, hf, hm⟩
      obtain ⟨hkind, htype, hlayer, htext⟩ := eq_messageOf_iff.mp hm
      exact ⟨type, entries, prototype, hframe, hf, hkind, htype.trans (type_of_find? hf), hlayer,
        htext⟩
    · rintro ⟨type, entries, prototype, hframe, hf, hkind, htype, hlayer, htext⟩
      exact ⟨type, entries, prototype, hframe, hf, eq_messageOf_iff.mpr
        ⟨hkind, htype.trans (type_of_find? hf).symm, hlayer, htext⟩⟩
  · intro type
    rw [decode_eq_unknownType_iff, Registry.contains, Option.isSome_eq_false_iff,
      Option.isNone_iff_eq_none]

end ProxyLink.Frame
