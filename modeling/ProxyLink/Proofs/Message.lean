import ProxyLink.Message
import ProxyLink.Proofs.Bag

/-!
# Messages of standard kinds

`OfKind` says what every message of a standard kind is, whatever properties it holds. The request id
is read back after it is set. A message that another one is copied into takes over what both kinds
have in common, and so a clone has the texts of the fields of its kind, and no other ones; a message
without properties is its own clone.
-/

namespace ProxyLink

namespace StandardKind

/-- Whether a message of a kind, when it is copied into one of a kind `k'`, hands over the text of a
key. A request id that is there is handed over between requests and between replies, the error or
its absence between replies, and the fields of a kind or their absence to messages of that kind. -/
def HandsOver (k k' : StandardKind) (source : Bag) (key : String) : Prop :=
  (key = Field.requestId.key ∧ source.contains key = true ∧
    (k.layer.isRequest = true ∧ k'.layer.isRequest = true ∨
      k.layer.isReply = true ∧ k'.layer.isReply = true)) ∨
  (key = Field.error.key ∧ k.layer.isReply = true ∧ k'.layer.isReply = true) ∨
  (k = k' ∧ key ∈ k.ownFields.map (·.key))

instance (k k' : StandardKind) (source : Bag) (key : String) :
    Decidable (k.HandsOver k' source key) :=
  inferInstanceAs (Decidable (_ ∨ _ ∨ _))

/-- The keys of a kind are those of the request id, of the error of a reply, and of its own
fields. -/
theorem mem_keys_iff (k : StandardKind) {key : String} : key ∈ k.fields.map (·.key) ↔
    key = Field.requestId.key ∨ key = Field.error.key ∧ k.layer.isReply = true ∨
      key ∈ k.ownFields.map (·.key) := by
  rw [fields, List.map_append, List.mem_append]
  cases k <;> simp [layer, Layer.fields, Layer.isReply, or_assoc]

end StandardKind

namespace Message

/-- A message of a standard kind: it has the type and the layer of that kind. -/
structure OfKind (m : Message) (k : StandardKind) : Prop where
  kind : m.kind = .standard k
  type : m.type = k.messageType
  layer : m.layer = k.layer

theorem ofKind_ofStandard (k : StandardKind) : (ofStandard k).OfKind k := ⟨rfl, rfl, rfl⟩

/-- Messages of one standard kind differ in nothing but their properties. -/
theorem OfKind.eq_of_bag {a b : Message} {k : StandardKind} (ha : a.OfKind k) (hb : b.OfKind k)
    (h : a.bag = b.bag) : a = b := by
  rcases a with ⟨kind, type, layer, bag⟩
  rcases ha with ⟨rfl, rfl, rfl⟩
  rcases b with ⟨kind, type, layer, bag⟩
  rcases hb with ⟨rfl, rfl, rfl⟩
  cases h
  rfl

/-- Setting the request id leaves the kind, the type and the layer alone. -/
theorem OfKind.setRequestId {m : Message} {k : StandardKind} (h : m.OfKind k)
    (id : Option Int64) : (m.setRequestId id).OfKind k := ⟨h.kind, h.type, h.layer⟩

@[simp] theorem layer_setRequestId (m : Message) (id : Option Int64) :
    (m.setRequestId id).layer = m.layer := rfl

/-- A request id that is set is read. -/
@[simp] theorem requestId_setRequestId_some (m : Message) (id : Int64) :
    (m.setRequestId (some id)).requestId = .ok (some id) :=
  m.bag.get_set Field.requestId.key (some id : Option (ValueType.Value .int64))

@[simp] theorem requestId_setError (m : Message) (e : Option PeerError) :
    (m.setError e).requestId = m.requestId := by
  apply Bag.get_congr
  rw [setError, Bag.text?_set, if_neg (by decide)]

@[simp] theorem error_setError (m : Message) (e : Option PeerError) :
    (m.setError e).error = .ok e :=
  @Bag.get_set .error m.bag Field.error.key e

/-- A message that has an id has a text for it, and so all of its texts at hand. -/
theorem text?_or_of_requestId_some {m : Message} {id : Int64} (h : m.requestId = .ok (some id))
    (text : Option String) (key : String) :
    m.bag.text? key = (m.bag.text? key).or (if key = Field.requestId.key then text else none) := by
  by_cases hkey : key = Field.requestId.key
  · cases ht : m.bag.text? key with
    | some own => rfl
    | none =>
      have hnone : m.requestId = .ok none := Bag.get_eq_none_iff.mpr (hkey ▸ ht)
      rw [h] at hnone
      cases hnone
  · rw [if_neg hkey, Option.or_none]

/-- A message without an id that is given one keeps all of its texts. -/
theorem text?_setRequestId_of_none {m : Message} (h : m.requestId = .ok none) (id : Int64)
    (key : String) : (m.setRequestId (some id)).bag.text? key = (m.bag.text? key).or
      (if key = Field.requestId.key then some (Decimal.ofInt64 id) else none) := by
  have habsent : m.bag.text? Field.requestId.key = none := Bag.get_eq_none_iff.mp h
  rw [setRequestId, Bag.text?_set]
  by_cases hkey : key = Field.requestId.key
  · rw [if_pos hkey, if_pos hkey, hkey, habsent]
    rfl
  · rw [if_neg hkey, if_neg hkey, Option.or_none]

/-- A message without an id, given one and then none, is what it was. -/
theorem setRequestId_setRequestId_none {m : Message} (h : m.requestId = .ok none) (id : Int64) :
    (m.setRequestId (some id)).setRequestId none = m := by
  have habsent : m.bag.text? Field.requestId.key = none := Bag.get_eq_none_iff.mp h
  have hbag : ((m.setRequestId (some id)).setRequestId none).bag = m.bag := by
    apply Bag.ext
    intro key
    simp only [setRequestId, Bag.text?_set]
    by_cases hkey : key = Field.requestId.key
    · rw [if_pos hkey, hkey, habsent]
      rfl
    · rw [if_neg hkey, if_neg hkey]
  calc (m.setRequestId (some id)).setRequestId none
      = { m with bag := ((m.setRequestId (some id)).setRequestId none).bag } := rfl
    _ = m := by rw [hbag]

/-! ### Clones of messages without properties -/

private theorem copyLayer_empty (source target : Layer) :
    copyLayer .empty source target .empty = .empty := by
  cases source <;> cases target <;> rfl

private theorem copyOwn_empty (handover : Handover) : copyOwn .empty handover .empty = .empty := by
  cases handover with
  | present => rfl
  | keys keys =>
    simp only [copyOwn]
    induction keys with
    | nil => rfl
    | cons key keys ih => exact ih

/-- A message without properties is its own clone. -/
theorem clone_of_bag_empty {m : Message} (h : m.bag = .empty) : m.clone = m := by
  have hblank : m.blank = m := by rw [blank, ← h]
  rw [clone, hblank, copyInto, h, copyLayer_empty, copyOwn_empty, ite_self, ← h]

theorem OfKind.clone {m : Message} {k : StandardKind} (h : m.OfKind k) : m.clone.OfKind k :=
  ⟨h.kind, h.type, h.layer⟩

/-! ### Copies of messages with properties -/

/-- Copying keys carries the text of each of them, and of no other one. -/
theorem text?_foldl_copyKey (source target : Bag) (keys : List String) (key : String) :
    (keys.foldl (fun b key => source.copyKey key b) target).text? key =
      if key ∈ keys then source.text? key else target.text? key := by
  induction keys generalizing target with
  | nil => rfl
  | cons first rest ih =>
    rw [List.foldl_cons, ih, Bag.text?_copyKey]
    by_cases hrest : key ∈ rest
    · rw [if_pos hrest, if_pos (List.mem_cons_of_mem _ hrest)]
    · rw [if_neg hrest]
      by_cases hfirst : key = first
      · rw [if_pos hfirst, if_pos (hfirst ▸ List.mem_cons_self), hfirst]
      · rw [if_neg hfirst, if_neg (fun h => (List.mem_cons.mp h).elim hfirst hrest)]

/-- Copying a layer carries the request id if there is one, between requests and between replies,
and the error or its absence between replies. -/
theorem text?_copyLayer (source target : Bag) (layer layer' : Layer) (key : String) :
    (copyLayer source layer layer' target).text? key =
      if (key = Field.requestId.key ∧ source.contains key = true ∧
            (layer.isRequest = true ∧ layer'.isRequest = true ∨
              layer.isReply = true ∧ layer'.isReply = true)) ∨
          (key = Field.error.key ∧ layer.isReply = true ∧ layer'.isReply = true)
        then source.text? key else target.text? key := by
  have hid : (if source.contains Field.requestId.key then
        source.copyKey Field.requestId.key target else target).text? key =
      if key = Field.requestId.key ∧ source.contains key = true then source.text? key
        else target.text? key := by
    by_cases hpresent : source.contains Field.requestId.key = true
    · rw [if_pos hpresent, Bag.text?_copyKey]
      by_cases hkey : key = Field.requestId.key
      · rw [if_pos hkey, if_pos ⟨hkey, hkey ▸ hpresent⟩, hkey]
      · rw [if_neg hkey, if_neg (fun h => hkey h.1)]
    · rw [if_neg hpresent, if_neg]
      rintro ⟨rfl, h⟩
      exact hpresent h
  -- Layers that differ have nothing in common.
  cases layer <;> cases layer' <;>
    simp only [copyLayer, Layer.isRequest, Layer.isReply, Bool.false_eq_true, and_false, or_false,
      and_true, if_false, or_true]
  · exact hid
  · rw [Bag.text?_copyKey, hid]
    by_cases hkey : key = Field.error.key
    · rw [if_pos hkey, if_pos (.inr hkey), hkey]
    · simp only [hkey, or_false, if_false]

/-- A message is handed what its kind has in common with the kind of the other message, and keeps
every other text. -/
theorem OfKind.text?_copyInto {s t : Message} {k k' : StandardKind} (hs : s.OfKind k)
    (ht : t.OfKind k') (key : String) : (s.copyInto t).bag.text? key =
      if k.HandsOver k' s.bag key then s.bag.text? key else t.bag.text? key := by
  have hlayer := text?_copyLayer s.bag t.bag k.layer k'.layer key
  have hsame : (Kind.standard k = Kind.standard k') = (k = k') := Kind.standard.injEq ..
  rw [copyInto, hs.kind, ht.kind, hs.layer, ht.layer]
  simp only [hsame, StandardKind.HandsOver, ← or_assoc]
  by_cases hkind : k = k'
  · subst hkind
    have hown := text?_foldl_copyKey s.bag (copyLayer s.bag k.layer k.layer t.bag)
      (k.ownFields.map (·.key)) key
    by_cases hkey : key ∈ k.ownFields.map (·.key)
    · rw [if_pos rfl, if_pos (.inr ⟨rfl, hkey⟩)]
      exact hown.trans (if_pos hkey)
    · simp only [if_true, hkey, and_false, or_false, ← hlayer]
      exact hown.trans (if_neg hkey)
  · simp only [hkind, if_false, false_and, or_false, hlayer]

/-- The clone of a message of a standard kind has the texts of the fields of that kind, and no other
ones. -/
theorem OfKind.text?_clone {m : Message} {k : StandardKind} (h : m.OfKind k) (key : String) :
    m.clone.bag.text? key = if key ∈ k.fields.map (·.key) then m.bag.text? key else none := by
  have hblank : m.blank.OfKind k := ⟨h.kind, h.type, h.layer⟩
  have hlayer : k.layer.isRequest = true ∨ k.layer.isReply = true := by cases k <;> decide
  rw [Message.clone, h.text?_copyInto hblank, blank, Bag.text?_empty]
  simp only [k.mem_keys_iff]
  by_cases hkeys : key = Field.requestId.key ∨
      key = Field.error.key ∧ k.layer.isReply = true ∨ key ∈ k.ownFields.map (·.key)
  · rw [if_pos hkeys]
    split
    · rfl
    · next hnot =>
      obtain hkey | ⟨hkey, hreply⟩ | hown := hkeys
      · -- An id that is not handed over is absent.
        have habsent : ¬m.bag.contains key = true := by
          intro hpresent
          exact hnot (.inl ⟨hkey, hpresent, hlayer.imp (fun h => ⟨h, h⟩) (fun h => ⟨h, h⟩)⟩)
        exact (Option.not_isSome_iff_eq_none.mp habsent).symm
      · exact absurd (.inr (.inl ⟨hkey, hreply, hreply⟩)) hnot
      · exact absurd (.inr (.inr ⟨rfl, hown⟩)) hnot
  · rw [if_neg hkeys, if_neg]
    rintro (⟨hkey, -⟩ | ⟨hkey, hreply, -⟩ | ⟨-, hown⟩)
    · exact hkeys (.inl hkey)
    · exact hkeys (.inr (.inl ⟨hkey, hreply⟩))
    · exact hkeys (.inr (.inr hown))

/-- A field of its kind reads in the clone of a message as in the message. -/
theorem OfKind.read_clone {m : Message} {k : StandardKind} (h : m.OfKind k) {f : Field}
    (hf : f ∈ k.fields) : m.clone.read f = m.read f := by
  apply Bag.get_congr
  rw [h.text?_clone, if_pos (List.mem_map_of_mem hf)]

end Message

end ProxyLink
