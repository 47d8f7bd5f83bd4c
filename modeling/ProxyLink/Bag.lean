import ProxyLink.Property
import ProxyLink.Text.Utf8

/-!
# Property bags

A bag maps keys to texts. Its entries stand in strictly ascending order of the bytes of their keys,
so that two bags with the same content are equal, and written alike. A key that is absent is never
confused with a key whose text is empty.
-/

namespace ProxyLink

/-- Whether the bytes of one key come before those of another. -/
def keyBefore (a b : String) : Prop := Utf8.encode a < Utf8.encode b

instance (a b : String) : Decidable (keyBefore a b) :=
  inferInstanceAs (Decidable (Utf8.encode a < Utf8.encode b))

theorem keyBefore_trans {a b c : String} (hab : keyBefore a b) (hbc : keyBefore b c) :
    keyBefore a c :=
  List.lt_trans hab hbc

/-- Entries with one entry written among them, in place of one with the same key. -/
def putEntry (key text : String) : List (String × String) → List (String × String)
  | [] => [(key, text)]
  | e :: rest =>
    if keyBefore key e.1 then (key, text) :: e :: rest
    else if keyBefore e.1 key then e :: putEntry key text rest
    else (key, text) :: rest

/-- Writing an entry brings in no other entry. -/
theorem mem_putEntry {key text : String} {entries : List (String × String)} {e : String × String}
    (h : e ∈ putEntry key text entries) : e = (key, text) ∨ e ∈ entries := by
  induction entries with
  | nil => exact .inl (List.mem_singleton.1 h)
  | cons first rest ih =>
    simp only [putEntry] at h
    split at h
    · exact (List.mem_cons.1 h)
    · split at h
      · rcases List.mem_cons.1 h with h | h
        · exact .inr (h ▸ List.mem_cons_self)
        · exact (ih h).imp id (List.mem_cons_of_mem _)
      · exact (List.mem_cons.1 h).imp id (List.mem_cons_of_mem _)

/-- Entries whose keys ascend strictly. -/
def Ascending (entries : List (String × String)) : Prop :=
  entries.Pairwise fun a b => keyBefore a.1 b.1

instance (entries : List (String × String)) : Decidable (Ascending entries) :=
  inferInstanceAs (Decidable (entries.Pairwise _))

/-- What comes before a key that no key is before or after also comes before that key. -/
theorem keyBefore_of_not_keyBefore {a b c : String} (hac : keyBefore a c) (hba : ¬keyBefore b a)
    (hab : ¬keyBefore a b) : keyBefore b c := by
  have h : Utf8.encode a = Utf8.encode b := List.le_antisymm hba hab
  unfold keyBefore
  rw [← h]
  exact hac

theorem ascending_putEntry {key text : String} {entries : List (String × String)}
    (h : Ascending entries) : Ascending (putEntry key text entries) := by
  induction entries with
  | nil => exact List.pairwise_singleton _ _
  | cons first rest ih =>
    obtain ⟨hfirst, hrest⟩ := List.pairwise_cons.1 h
    simp only [putEntry]
    split
    · next hlt =>
      refine List.pairwise_cons.2 ⟨fun e he => ?_, h⟩
      rcases List.mem_cons.1 he with rfl | he
      · exact hlt
      · exact keyBefore_trans hlt (hfirst e he)
    · next hlt =>
      split
      · next hgt =>
        refine List.pairwise_cons.2 ⟨fun e he => ?_, ih hrest⟩
        rcases mem_putEntry he with rfl | he
        · exact hgt
        · exact hfirst e he
      · next hgt =>
        exact List.pairwise_cons.2
          ⟨fun e he => keyBefore_of_not_keyBefore (hfirst e he) hlt hgt, hrest⟩

/-- A map from keys to texts. -/
structure Bag where
  entries : List (String × String)
  ascending : Ascending entries

namespace Bag

instance : DecidableEq Bag := fun a b =>
  decidable_of_iff (a.entries = b.entries)
    ⟨fun h => by cases a; cases b; cases h; rfl, fun h => h ▸ rfl⟩

def empty : Bag := ⟨[], List.Pairwise.nil⟩

def size (b : Bag) : Nat := b.entries.length

def isEmpty (b : Bag) : Bool := b.entries.isEmpty

/-- The text of a key, as stored. -/
def text? (b : Bag) (key : String) : Option String := b.entries.lookup key

def contains (b : Bag) (key : String) : Bool := (b.text? key).isSome

/-- The bag with a text stored for a key. -/
def insert (b : Bag) (key text : String) : Bag :=
  ⟨putEntry key text b.entries, ascending_putEntry b.ascending⟩

/-- The bag without a key. -/
def erase (b : Bag) (key : String) : Bag :=
  ⟨b.entries.filter fun e => e.1 != key, b.ascending.filter _⟩

/-- The bag with a text stored for a key, or without the key. -/
def put (b : Bag) (key : String) : Option String → Bag
  | some text => b.insert key text
  | none => b.erase key

/-- The bag `target` with the text that `source` has for a key, or without the key when `source` has
none. The text is carried as it stands, whether or not it can be read. -/
def copyKey (source : Bag) (key : String) (target : Bag) : Bag :=
  target.put key (source.text? key)

/-- The bag `target` with every entry of `source` written over it. -/
def overwrite (source target : Bag) : Bag :=
  source.entries.foldl (fun b e => b.insert e.1 e.2) target

/-- Reads the value of a key; an absent key has none. -/
def get (α : Type) [Property α] (b : Bag) (key : String) : Except PropertyError (Option α) :=
  match b.text? key with
  | none => .ok none
  | some text =>
    match Property.ofText? text with
    | some value => .ok (some value)
    | none => .error ⟨key, Property.typeName α, text⟩

/-- The bag with a value written for a key, or without the key. -/
def set {α : Type} [Property α] (b : Bag) (key : String) (value : Option α) : Bag :=
  b.put key (value.map Property.toText)

/-- One line for each entry. -/
def display (b : Bag) : String :=
  String.join (b.entries.map fun e => s!"    {e.1}: {e.2}\n")

end Bag

end ProxyLink
