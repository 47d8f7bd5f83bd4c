import ProxyLink.Bag
import ProxyLink.Proofs.Lookup
import ProxyLink.Proofs.Property
import ProxyLink.Proofs.Text.Utf8

/-!
# What a bag holds after each operation

The text of a key is the stable view of a bag: `ext` says that it determines the bag, and each
operation has one law that says what it does to the view. Nothing else is known of the entries
outside this module, apart from their order.
-/

namespace ProxyLink

/-! ### The order of keys -/

theorem keyBefore_irrefl (a : String) : ¬keyBefore a a := List.lt_irrefl _

theorem eq_of_not_keyBefore {a b : String} (hab : ¬keyBefore a b) (hba : ¬keyBefore b a) :
    a = b :=
  Utf8.encode_inj.mp (List.le_antisymm hba hab)

/-- Writing an entry gives its key the new text and leaves every other key alone. -/
theorem lookup_putEntry (key text k : String) (entries : List (String × String)) :
    (putEntry key text entries).lookup k = if k = key then some text else entries.lookup k := by
  induction entries with
  | nil => exact lookup_cons_ite (key, text) [] k
  | cons e rest ih =>
    simp only [putEntry]
    split
    · exact lookup_cons_ite (key, text) (e :: rest) k
    · next hbefore =>
      split
      · next hafter =>
        have hne : e.1 ≠ key := fun he => keyBefore_irrefl _ (he ▸ hafter)
        rw [lookup_cons_ite, lookup_cons_ite, ih]
        by_cases hk : k = e.1
        · rw [if_pos hk, if_neg (hk ▸ hne), if_pos hk]
        · rw [if_neg hk, if_neg hk]
      · next hafter =>
        have he : key = e.1 := eq_of_not_keyBefore hbefore hafter
        rw [lookup_cons_ite, lookup_cons_ite, he]
        split <;> rfl

/-- An entry whose key comes after every other one is written at the end. -/
theorem putEntry_of_before {key : String} (text : String) {entries : List (String × String)}
    (h : ∀ e ∈ entries, keyBefore e.1 key) :
    putEntry key text entries = entries ++ [(key, text)] := by
  induction entries with
  | nil => rfl
  | cons e rest ih =>
    obtain ⟨he, hrest⟩ := List.forall_mem_cons.mp h
    have hnot : ¬keyBefore key e.1 := fun hbefore => keyBefore_irrefl _ (keyBefore_trans hbefore he)
    rw [putEntry, if_neg hnot, if_pos he, ih hrest, List.cons_append]

/-- Among ascending entries, an entry is found under its key. -/
theorem Ascending.mem_iff {entries : List (String × String)} (h : Ascending entries)
    {key text : String} : (key, text) ∈ entries ↔ entries.lookup key = some text := by
  induction entries with
  | nil => simp
  | cons e rest ih =>
    obtain ⟨hfirst, hrest⟩ := List.pairwise_cons.mp h
    rw [List.mem_cons, lookup_cons_ite]
    by_cases hk : key = e.1
    · subst hk
      have hn : (e.1, text) ∉ rest := fun hm =>
        keyBefore_irrefl e.1 (hfirst (e.1, text) hm)
      simp [hn, Prod.ext_iff, eq_comm]
    · rw [if_neg hk, ← ih hrest]
      simp [hk, Prod.ext_iff]

private theorem Ascending.nodup {entries : List (String × String)} (h : Ascending entries) :
    entries.Nodup := by
  refine List.Pairwise.imp ?_ h
  intro a b hab he
  exact keyBefore_irrefl _ (he ▸ hab)

namespace Bag

/-! ### The text of a key -/

@[simp] theorem text?_empty (key : String) : Bag.empty.text? key = none := rfl

/-- A bag holds an entry exactly when its key has that text. -/
theorem mem_entries_iff {b : Bag} {key text : String} :
    (key, text) ∈ b.entries ↔ b.text? key = some text :=
  b.ascending.mem_iff

/-- Bags in which each key has the same text are equal. -/
theorem ext {a b : Bag} (h : ∀ key, a.text? key = b.text? key) : a = b := by
  have he : a.entries = b.entries := by
    refine List.Perm.eq_of_pairwise (fun x y _ _ hxy hyx => ?_) a.ascending b.ascending
      ((List.perm_ext_iff_of_nodup a.ascending.nodup b.ascending.nodup).mpr ?_)
    · exact absurd (keyBefore_trans hxy hyx) (keyBefore_irrefl _)
    · rintro ⟨key, text⟩
      rw [mem_entries_iff, mem_entries_iff, h]
  cases a
  cases b
  cases he
  rfl

@[simp] theorem text?_insert (b : Bag) (key text k : String) :
    (b.insert key text).text? k = if k = key then some text else b.text? k :=
  lookup_putEntry key text k b.entries

@[simp] theorem text?_erase (b : Bag) (key k : String) :
    (b.erase key).text? k = if k = key then none else b.text? k :=
  lookup_filter_ne b.entries key k

@[simp] theorem text?_put (b : Bag) (key k : String) (text : Option String) :
    (b.put key text).text? k = if k = key then text else b.text? k := by
  cases text with
  | none => exact text?_erase b key k
  | some text => exact text?_insert b key text k

@[simp] theorem text?_copyKey (source target : Bag) (key k : String) :
    (source.copyKey key target).text? k = if k = key then source.text? key else target.text? k :=
  text?_put target key k (source.text? key)

private theorem text?_foldl_insert {entries : List (String × String)} (h : Ascending entries)
    (target : Bag) (k : String) :
    (entries.foldl (fun b e => b.insert e.1 e.2) target).text? k =
      (entries.lookup k).or (target.text? k) := by
  induction entries generalizing target with
  | nil => rfl
  | cons e rest ih =>
    obtain ⟨hfirst, hrest⟩ := List.pairwise_cons.mp h
    rw [List.foldl_cons, ih hrest, text?_insert, lookup_cons_ite]
    by_cases hk : k = e.1
    · -- The keys ascend, so no later entry has this key.
      have hn : rest.lookup k = none := by
        rw [List.lookup_eq_none_iff]
        rintro ⟨key, text⟩ hm
        have hb : keyBefore e.1 key := hfirst _ hm
        simp only [bne_iff_ne]
        rintro rfl
        exact keyBefore_irrefl _ (hk ▸ hb)
      rw [hn, if_pos hk, if_pos hk]
      rfl
    · rw [if_neg hk, if_neg hk]

@[simp] theorem text?_overwrite (source target : Bag) (k : String) :
    (source.overwrite target).text? k = (source.text? k).or (target.text? k) :=
  text?_foldl_insert source.ascending target k

theorem overwrite_empty (b : Bag) : b.overwrite .empty = b := by
  apply ext
  intro key
  rw [text?_overwrite, text?_empty, Option.or_none]

/-! ### Typed values -/

@[simp] theorem text?_set {α : Type} [Property α] (b : Bag) (key k : String) (value : Option α) :
    (b.set key value).text? k = if k = key then value.map Property.toText else b.text? k :=
  text?_put b key k _

theorem get_eq_none_iff {α : Type} [Property α] {b : Bag} {key : String} :
    b.get α key = .ok none ↔ b.text? key = none := by
  rw [get]
  cases b.text? key with
  | none => exact iff_of_true rfl rfl
  | some text =>
    simp only
    cases (Property.ofText? text : Option α) <;> exact iff_of_false nofun nofun

theorem get_eq_some_iff {α : Type} [Property α] {b : Bag} {key : String} {value : α} :
    b.get α key = .ok (some value) ↔
      ∃ text, b.text? key = some text ∧ Property.ofText? text = some value := by
  rw [get]
  cases b.text? key with
  | none => simp
  | some text => cases h : (Property.ofText? text : Option α) <;> simp [h]

/-- A text that cannot be read is reported with its key and the type asked for. -/
theorem get_of_ofText?_none {α : Type} [Property α] {b : Bag} {key text : String}
    (htext : b.text? key = some text) (hnone : (Property.ofText? text : Option α) = none) :
    b.get α key = .error ⟨key, Property.typeName α, text⟩ := by
  simp only [get, htext, hnone]

theorem get_congr {α : Type} [Property α] {a b : Bag} {key : String}
    (h : a.text? key = b.text? key) : a.get α key = b.get α key := by
  rw [get, get, h]

/-- What is set for a key is read back, a value as that value and none as none. -/
theorem get_set {type : ValueType} (b : Bag) (key : String) (value : Option type.Value) :
    (b.set key value).get type.Value key = .ok value := by
  have ht : (b.set key value).text? key = value.map Property.toText := by
    rw [text?_set, if_pos rfl]
  cases value with
  | none => exact get_eq_none_iff.mpr ht
  | some value =>
    rw [get, ht]
    simp only [Option.map_some, ofText?_toText]

end Bag

end ProxyLink
