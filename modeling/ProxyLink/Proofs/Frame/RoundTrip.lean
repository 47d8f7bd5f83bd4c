import ProxyLink.Proofs.Frame.Grammar
import ProxyLink.Proofs.Message

/-!
# Messages survive the wire

The writer stays within the grammar of frames as long as a body has fewer than 2³² bytes, so what it
writes is read back: the main statement, which comes last.
-/

namespace ProxyLink.Frame

/-- The entries of a bag as a frame has them: all present. -/
def presentEntries (b : Bag) : List Entry := b.entries.map fun e => (e.1, some e.2)

/-- A written text is a text of the grammar while its length has 32 bits. -/
theorem isText_textField {text : String} (h : (Utf8.encode text).length < 2 ^ 32) :
    IsText text (textField text) :=
  ⟨_, isWord_word h, rfl⟩

@[simp] theorem length_textField (text : String) :
    (textField text).length = 4 + (Utf8.encode text).length := by
  rw [textField, List.length_append, length_word]

@[simp] theorem length_entry (key text : String) :
    (entry key text).length = 9 + (Utf8.encode key).length + (Utf8.encode text).length := by
  simp only [entry, List.length_append, length_textField, List.length_cons, List.length_nil]
  omega

/-- A written property is an entry of the grammar while its lengths have 32 bits. -/
theorem isEntry_entry {key text : String} (h : (entry key text).length < 2 ^ 32) :
    IsEntry (key, some text) (entry key text) := by
  rw [length_entry] at h
  have hkey : IsText key (textField key) := isText_textField (by omega)
  have htext : IsText text (textField text) := isText_textField (by omega)
  rw [entry, List.append_assoc]
  exact .present hkey htext

/-- Written properties are entries of the grammar while all their bytes together can be counted
with 32 bits. -/
theorem areEntries_flatMap {entries : List (String × String)}
    (h : (entries.flatMap fun e => entry e.1 e.2).length < 2 ^ 32) :
    AreEntries (entries.map fun e => (e.1, some e.2))
      (entries.flatMap fun e => entry e.1 e.2) := by
  induction entries with
  | nil => exact .nil
  | cons e entries ih =>
    rw [List.flatMap_cons, List.length_append] at h
    rw [List.flatMap_cons, List.map_cons]
    exact .cons (isEntry_entry (by omega)) (ih (by omega))

theorem length_le_length_flatMap (entries : List (String × String)) :
    entries.length ≤ (entries.flatMap fun e => entry e.1 e.2).length := by
  induction entries with
  | nil => exact Nat.le_refl _
  | cons e entries ih =>
    rw [List.flatMap_cons, List.length_append, length_entry, List.length_cons]
    omega

/-- A written body is a body of the grammar while its length has 32 bits. -/
theorem isBody_body {m : Message} (h : m.body.length < 2 ^ 32) :
    IsBody m.type (presentEntries m.bag) m.body := by
  have hsize := length_le_length_flatMap m.bag.entries
  simp only [Message.body, bodyOf, List.length_append, length_word] at h
  refine ⟨word m.type.id.toUInt32.toNat, word m.bag.size, _, isWord_word (UInt32.toNat_lt _), ?_,
    areEntries_flatMap (by omega), List.append_assoc ..⟩
  rw [presentEntries, List.length_map]
  apply isWord_word
  omega

/-- A written frame is a frame of the grammar while the length of its body has 32 bits. -/
theorem isFrame_frame {m : Message} (h : m.body.length < 2 ^ 32) :
    IsFrame m.type (presentEntries m.bag) m.frame :=
  ⟨_, m.body, isWord_word h, isBody_body h, rfl⟩

/-- A frame is read as the message of the prototype's clone, with every property written over it. -/
theorem decode_frame_eq {registry : Registry} {m prototype : Message}
    (hfind : registry.find? m.type = some prototype) (hshort : m.body.length < 2 ^ 32) :
    decode registry m.frame =
      .ok { prototype.clone with bag := m.bag.overwrite prototype.clone.bag } := by
  apply decode_eq_messageOf_iff.mpr
  refine ⟨m.type, presentEntries m.bag, prototype, isFrame_frame hshort, hfind, ?_⟩
  rw [messageOf, presentEntries, foldl_applyEntry_some]

/-- Where the prototype of its type is blank, a message of a standard kind is read back as it is. -/
theorem decode_frame_of_blank {registry : Registry} {k : StandardKind} {m prototype : Message}
    (hm : m.OfKind k) (hprototype : prototype.OfKind k) (hblank : prototype.bag = .empty)
    (hfind : registry.find? m.type = some prototype) (hshort : m.body.length < 2 ^ 32) :
    decode registry m.frame = .ok m := by
  have hbag : m.bag.overwrite prototype.clone.bag = m.bag := by
    rw [Message.clone_of_bag_empty hblank, hblank, Bag.overwrite_empty]
  have hkind : { prototype.clone with bag := m.bag }.OfKind k :=
    ⟨hprototype.kind, hprototype.type, hprototype.layer⟩
  rw [decode_frame_eq hfind hshort, hbag, hkind.eq_of_bag hm rfl]

/-- Where a registry makes blank messages of its kind, a message is read back as it is. -/
theorem decode_frame_of_hasBlank {registry : Registry} {k : StandardKind} {m : Message}
    (hm : m.OfKind k) (hblank : registry.HasBlank k) (hshort : m.body.length < 2 ^ 32) :
    decode registry m.frame = .ok m := by
  obtain ⟨prototype, hprototype, hempty, hfind⟩ := hblank
  rw [← hm.type] at hfind
  exact decode_frame_of_blank hm hprototype hempty hfind hshort

/-- Every message of a standard kind survives the wire: where a registry has a prototype of its kind
under its type, its frame is decoded as a message of the same kind, type and layer. Each of its keys
has the text that it was sent with, whether or not that text can be read, and any other key has what
the clone of the prototype holds. With a blank prototype nothing is changed, so every typed read
comes to what it comes to before. -/
theorem decode_frame {registry : Registry} {k : StandardKind} {m prototype : Message}
    (hm : m.OfKind k) (hprototype : prototype.OfKind k)
    (hfind : registry.find? m.type = some prototype) (hshort : m.body.length < 2 ^ 32) :
    ∃ decoded, decode registry m.frame = .ok decoded ∧ decoded.kind = m.kind ∧
      decoded.type = m.type ∧ decoded.layer = m.layer ∧
      decoded.bag = m.bag.overwrite prototype.clone.bag ∧
      (∀ key, decoded.bag.text? key = (m.bag.text? key).or (prototype.clone.bag.text? key)) ∧
      (prototype.bag = .empty → decoded.bag = m.bag ∧ ∀ f, decoded.read f = m.read f) := by
  refine ⟨_, decode_frame_eq hfind hshort, ?_, ?_, ?_, rfl, ?_, ?_⟩
  · exact hprototype.kind.trans hm.kind.symm
  · exact hprototype.type.trans hm.type.symm
  · exact hprototype.layer.trans hm.layer.symm
  · exact Bag.text?_overwrite m.bag prototype.clone.bag
  · intro hblank
    have hbag : m.bag.overwrite prototype.clone.bag = m.bag := by
      rw [Message.clone_of_bag_empty hblank, hblank, Bag.overwrite_empty]
    refine ⟨hbag, ?_⟩
    intro f
    exact Bag.get_congr (congrArg (Bag.text? · f.key) hbag)

/-- An undeclared key without a name, and a text that no boolean has, next to a property of the
prototype. -/
theorem decode_frame_beside_prototype :
    let prototype := (Message.ofStandard .connectRequest).insertText "Identity" "worker"
    let m :=
      ((Message.ofStandard .connectRequest).insertText "CreateDomain" "yes").insertText "" "é"
    m.body.length < 2 ^ 32 ∧ ∃ decoded, decode ⟨[prototype]⟩ m.frame = .ok decoded ∧
      decoded.bag.text? "" = some "é" ∧ decoded.bag.text? "CreateDomain" = some "yes" ∧
      decoded.bag.text? "Identity" = some "worker" := by
  intro prototype m
  have hshort : m.body.length < 2 ^ 32 := by decide +kernel
  obtain ⟨decoded, hd, -, -, -, -, htext, -⟩ :=
    decode_frame (k := .connectRequest) ⟨rfl, rfl, rfl⟩ ⟨rfl, rfl, rfl⟩
      (show (Registry.mk [prototype]).find? m.type = some prototype from rfl) hshort
  refine ⟨hshort, decoded, hd, ?_, ?_, ?_⟩
  · rw [htext]
    decide +kernel
  · rw [htext]
    decide +kernel
  · rw [htext]
    decide +kernel

end ProxyLink.Frame
