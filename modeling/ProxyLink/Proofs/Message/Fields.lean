import Mathlib.Data.List.Induction
import ProxyLink.Proofs.Frame.RoundTrip

/-!
# Fields hold what was set last

The fields of a kind are set and cleared, in any order and as often as one likes. Main statement,
which comes last: each field then reads as the value that it was set to last, and still does so in a
clone and behind the wire.
-/

namespace ProxyLink

/-- The keys of the fields of a kind tell them apart. -/
theorem StandardKind.eq_of_key {k : StandardKind} {f g : Field} (hf : f ∈ k.fields)
    (hg : g ∈ k.fields) (h : f.key = g.key) : f = g := by
  have hkeys : ∀ f ∈ k.fields, ∀ g ∈ k.fields, f.key = g.key → f = g := by
    cases k <;> decide
  exact hkeys f hf g hg h

theorem StandardKind.requestId_mem_fields (k : StandardKind) : Field.requestId ∈ k.fields := by
  cases k <;> decide

theorem StandardKind.error_mem_fields {k : StandardKind} (h : k.layer.isReply = true) :
    Field.error ∈ k.fields := by
  revert h
  cases k <;> decide

/-- A field of a kind is set to a value, or cleared. -/
structure Setting (k : StandardKind) where
  field : Field
  declared : field ∈ k.fields
  value : Option field.type.Value

namespace Setting

variable {k : StandardKind}

/-- What a setting gives a field, if it is a setting of that field. -/
def value? (s : Setting k) (f : Field) : Option (Option f.type.Value) :=
  if h : s.field = f then some (h ▸ s.value) else none

/-- What the last setting of a field has given it: none if that has cleared the field, and none if
the field was never set. -/
def last (f : Field) (settings : List (Setting k)) : Option f.type.Value :=
  (settings.filterMap (·.value? f)).getLast?.join

/-- A setting of a field that comes last is the last one of that field. -/
theorem last_append_self (settings : List (Setting k)) (s : Setting k) :
    last s.field (settings ++ [s]) = s.value := by
  have hvalue : s.value? s.field = some s.value := dif_pos rfl
  have hsingle : [s].filterMap (·.value? s.field) = [s.value] := by
    simp only [List.filterMap_cons, hvalue, List.filterMap_nil]
  rw [last, List.filterMap_append, hsingle, List.getLast?_concat, Option.join_some]

/-- A setting of another field does not concern a field. -/
theorem last_append_of_ne (settings : List (Setting k)) {s : Setting k} {f : Field}
    (h : s.field ≠ f) : last f (settings ++ [s]) = last f settings := by
  have hvalue : s.value? f = none := dif_neg h
  have hsingle : [s].filterMap (·.value? f) = [] := by
    simp only [List.filterMap_cons, hvalue, List.filterMap_nil]
  rw [last, List.filterMap_append, hsingle, List.append_nil, last]

end Setting

namespace Message

/-! ### One field -/

/-- A field reads as what it was set to. -/
theorem read_write_self (m : Message) (f : Field) (value : Option f.type.Value) :
    (m.write f value).read f = .ok value :=
  m.bag.get_set f.key value

/-- A field with another key reads as before. -/
theorem read_write_of_ne (m : Message) {f g : Field} (value : Option f.type.Value)
    (h : g.key ≠ f.key) : (m.write f value).read g = m.read g := by
  apply Bag.get_congr
  rw [write, Bag.text?_set, if_neg h]

/-! ### Histories of settings -/

variable {k : StandardKind}

/-- What settings make of the blank message of a kind. -/
def ofSettings (settings : List (Setting k)) : Message :=
  settings.foldl (fun m s => m.write s.field s.value) (.ofStandard k)

/-- The request id and the error are fields like the others. -/
example (m : Message) (id : Option Int64) (e : Option PeerError) :
    m.setRequestId id = m.write .requestId id ∧ m.setError e = m.write .error e := ⟨rfl, rfl⟩

/-- A message has, in each field of its kind, what the last setting of that field has given it. -/
structure Holds (m : Message) (settings : List (Setting k)) : Prop where
  read : ∀ f ∈ k.fields, m.read f = .ok (Setting.last f settings)
  requestId : m.requestId = .ok (Setting.last .requestId settings)
  error : k.layer.isReply = true → m.error = .ok (Setting.last .error settings)

theorem ofSettings_append (settings : List (Setting k)) (s : Setting k) :
    ofSettings (settings ++ [s]) = (ofSettings settings).write s.field s.value :=
  List.foldl_append

theorem ofKind_ofSettings (settings : List (Setting k)) : (ofSettings settings).OfKind k := by
  induction settings using List.reverseRecOn with
  | nil => exact ofKind_ofStandard k
  | append_singleton settings s ih =>
    rw [ofSettings_append]
    exact ⟨ih.kind, ih.type, ih.layer⟩

/-- Each field reads as what the last setting has given it. -/
theorem read_ofSettings (settings : List (Setting k)) {f : Field} (hf : f ∈ k.fields) :
    (ofSettings settings).read f = .ok (Setting.last f settings) := by
  induction settings using List.reverseRecOn with
  | nil => rfl
  | append_singleton settings s ih =>
    rw [ofSettings_append]
    -- The last setting is of this field, or else of one with another key.
    by_cases hfield : s.field = f
    · subst hfield
      rw [read_write_self, Setting.last_append_self]
    · have hkey : f.key ≠ s.field.key := fun h =>
        hfield (StandardKind.eq_of_key hf s.declared h).symm
      rw [read_write_of_ne _ _ hkey, Setting.last_append_of_ne _ hfield, ih]

/-- The id and the error are read like the other fields. -/
theorem Holds.of_read {m : Message} {settings : List (Setting k)}
    (h : ∀ f ∈ k.fields, m.read f = .ok (Setting.last f settings)) : m.Holds settings where
  read := h
  requestId := h .requestId k.requestId_mem_fields
  error hreply := h .error (StandardKind.error_mem_fields hreply)

/-- Whatever the fields of a blank message of a standard kind are set to, and in whatever order,
each field reads as the value that it was set to last, and as absent if it was cleared last or never
set: no value is lost, be it empty, and none becomes unreadable. So it does in a clone, and, where
the message is not too long for the wire, in what is decoded from its frame. -/
theorem holds_last_settings (settings : List (Setting k)) {registry : Registry}
    {prototype : Message} (hprototype : prototype.OfKind k) (hblank : prototype.bag = .empty)
    (hfind : registry.find? k.messageType = some prototype) :
    let m := ofSettings settings
    m.Holds settings ∧ m.clone.Holds settings ∧
      (m.body.length < 2 ^ 32 →
        ∃ decoded, Frame.decode registry m.frame = .ok decoded ∧ decoded.Holds settings) := by
  intro m
  have hm : m.OfKind k := ofKind_ofSettings settings
  have hread : ∀ f ∈ k.fields, m.read f = .ok (Setting.last f settings) := fun f hf =>
    read_ofSettings settings hf
  refine ⟨.of_read hread, .of_read ?_, ?_⟩
  · intro f hf
    rw [hm.read_clone hf, hread f hf]
  · intro hshort
    exact ⟨m, Frame.decode_frame_of_blank hm hprototype hblank (hm.type ▸ hfind) hshort,
      .of_read hread⟩

/-- A reply with the least id, an error with a control character in its message and no character in
its details, and a payload that is emptied after it was set. -/
theorem holds_least_id_and_no_bytes :
    let e : PeerError := ⟨.panic, "\"\x01é", some ""⟩
    let settings : List (Setting .echoReply) :=
      [⟨.payload, by decide, some [0, 255]⟩, ⟨.requestId, by decide, some Int64.minValue⟩,
        ⟨.error, by decide, some e⟩, ⟨.payload, by decide, some []⟩]
    let m := ofSettings settings
    m.body.length < 2 ^ 32 ∧ m.clone.error = .ok (some e) ∧
      ∃ decoded, Frame.decode .standard m.frame = .ok decoded ∧
        decoded.requestId = .ok (some Int64.minValue) ∧ decoded.error = .ok (some e) ∧
        decoded.read .payload = .ok (some []) := by
  intro e settings m
  have hshort : m.body.length < 2 ^ 32 := by decide +kernel
  obtain ⟨-, hclone, hwire⟩ := holds_last_settings settings (ofKind_ofStandard .echoReply) rfl
    (show Registry.standard.find? MessageType.echoReply = some (.ofStandard .echoReply) from rfl)
  obtain ⟨decoded, hdecode, hholds⟩ := hwire hshort
  exact ⟨hshort, hclone.error rfl, decoded, hdecode, hholds.requestId, hholds.error rfl,
    hholds.read .payload (by decide)⟩

end Message

end ProxyLink
