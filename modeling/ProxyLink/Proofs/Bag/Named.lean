import Mathlib.Data.Set.Card
import ProxyLink.Proofs.Bag.Edit

/-!
# Bags under names

Any number of bags, each under a name, and the operations that change one of them. Main statement,
which comes last: whatever was done to them, each bag is the map in which a key has the text that
the last operation which wrote or cleared it there has left, and whatever a bag is asked is answered
from that map.
-/

namespace ProxyLink

namespace Bag

/-- The bag is a given map from keys to texts, whichever way it is looked at. -/
structure Represents (b : Bag) (texts : String → Option String) : Prop where
  text : ∀ key, b.text? key = texts key
  contains : ∀ key, b.contains key = (texts key).isSome
  size : b.size = {key | texts key ≠ none}.ncard
  isEmpty : b.isEmpty = true ↔ ∀ key, texts key = none
  get_absent : ∀ (α : Type) [Property α] key, texts key = none → b.get α key = .ok none
  get_readable : ∀ (α : Type) [Property α] key text (value : α), texts key = some text →
    Property.ofText? text = some value → b.get α key = .ok (some value)
  get_unreadable : ∀ (α : Type) [Property α] key text, texts key = some text →
    (Property.ofText? text : Option α) = none →
    b.get α key = .error ⟨key, Property.typeName α, text⟩
  mem_entries : ∀ key text, (key, text) ∈ b.entries ↔ texts key = some text
  ascending : b.entries.Pairwise fun e e' => Utf8.encode e.1 < Utf8.encode e'.1
  keys_nodup : (b.entries.map (·.1)).Nodup

theorem nodup_keys (b : Bag) : (b.entries.map (·.1)).Nodup := by
  refine List.pairwise_map.mpr (b.ascending.imp ?_)
  intro e e' hbefore hkey
  exact keyBefore_irrefl _ (hkey ▸ hbefore)

/-- A bag has as many entries as keys with a text. -/
theorem size_eq_ncard (b : Bag) : b.size = {key | b.text? key ≠ none}.ncard := by
  have hkeys : {key | b.text? key ≠ none} = ↑(b.entries.map (·.1)).toFinset := by
    ext key
    rw [Set.mem_ofPred_eq, Option.ne_none_iff_exists', List.coe_toFinset, Set.mem_ofPred_eq,
      List.mem_map]
    constructor
    · rintro ⟨text, htext⟩
      exact ⟨(key, text), mem_entries_iff.mpr htext, rfl⟩
    · rintro ⟨⟨key, text⟩, he, rfl⟩
      exact ⟨text, mem_entries_iff.mp he⟩
  rw [hkeys, Set.ncard_coe_finset, List.toFinset_card_of_nodup b.nodup_keys, List.length_map]
  rfl

theorem isEmpty_iff (b : Bag) : b.isEmpty = true ↔ ∀ key, b.text? key = none := by
  rw [isEmpty, List.isEmpty_iff]
  constructor
  · intro hnil key
    rw [text?, hnil, List.lookup_nil]
  · intro hnone
    apply List.eq_nil_iff_forall_not_mem.mpr
    rintro ⟨key, text⟩ he
    rw [mem_entries_iff, hnone] at he
    cases he

/-- A bag is the map from its keys to their texts. -/
theorem represents_text? (b : Bag) : b.Represents b.text? where
  text _ := rfl
  contains _ := rfl
  size := b.size_eq_ncard
  isEmpty := b.isEmpty_iff
  get_absent _ _ _ habsent := get_eq_none_iff.mpr habsent
  get_readable _ _ _ text _ htext hvalue := get_eq_some_iff.mpr ⟨text, htext, hvalue⟩
  get_unreadable _ _ _ _ htext hnone := get_of_ofText?_none htext hnone
  mem_entries _ _ := mem_entries_iff
  ascending := b.ascending
  keys_nodup := b.nodup_keys

end Bag

/-- Bags under names. -/
abbrev Shelf (ι : Type) := ι → Bag

namespace Shelf

/-- An operation that changes one of the bags. -/
inductive Operation (ι : Type) where
  /-- A value is written, or the key is cleared. -/
  | set (target : ι) (key : String) (type : ValueType) (value : Option type.Value)
  /-- A text is stored as it stands. -/
  | insertText (target : ι) (key text : String)
  /-- The text is copied from a bag, or the key is cleared when it has none there. -/
  | copyKey (source : ι) (key : String) (target : ι)
  /-- A bag becomes a copy of another one. -/
  | clone (source target : ι)

namespace Operation

variable {ι : Type}

def target : Operation ι → ι
  | .set target _ _ _ | .insertText target _ _ | .copyKey _ _ target | .clone _ target => target

/-- An operation writes or clears a key of a bag: one key of its target, or all of them. -/
def Concerns (name : ι) (key : String) : Operation ι → Prop
  | .set target k _ _ | .insertText target k _ | .copyKey _ k target => name = target ∧ key = k
  | .clone _ target => name = target

/-- An operation concerns no key of a bag that is not its target. -/
theorem Concerns.eq_target {name : ι} {key : String} {op : Operation ι}
    (h : op.Concerns name key) : name = op.target := by
  cases op with
  | set | insertText | copyKey => exact h.1
  | clone => exact h

instance [DecidableEq ι] (name : ι) (key : String) (op : Operation ι) :
    Decidable (op.Concerns name key) :=
  match op with
  | .set .. | .insertText .. | .copyKey .. => inferInstanceAs (Decidable (_ ∧ _))
  | .clone _ target => inferInstanceAs (Decidable (name = target))

/-- The text that an operation leaves for a key, if any, where `texts` says what each bag holds at
that moment. -/
def leaves (texts : ι → String → Option String) (key : String) : Operation ι → Option String
  | .set _ _ _ value => value.map Property.toText
  | .insertText _ _ text => some text
  | .copyKey source k _ => texts source k
  | .clone source _ => texts source key

end Operation

variable {ι : Type} [DecidableEq ι]

/-- What an operation makes of its target. -/
def changed (s : Shelf ι) : Operation ι → Bag
  | .set target key type value => (s target).edit (.set key type value)
  | .insertText target key text => (s target).edit (.insertText key text)
  | .copyKey source key target => (s target).edit (.copyKey (s source) key)
  | .clone source _ => s source

def perform (s : Shelf ι) (op : Operation ι) : Shelf ι :=
  Function.update s op.target (s.changed op)

/-- What operations make of bags that are all empty. -/
def ofHistory (operations : List (Operation ι)) : Shelf ι :=
  operations.foldl perform fun _ => .empty

/-- What the last operation that wrote or cleared a key of a bag has left there. The operations
stand in reverse, the last one first, so that a copy looks back from its own place. -/
def lastText : List (Operation ι) → ι → String → Option String
  | [], _, _ => none
  | op :: earlier, name, key =>
    if op.Concerns name key then op.leaves (lastText earlier) key else lastText earlier name key

/-! ### One operation -/

/-- An operation leaves every bag but its target as it was. -/
theorem perform_of_ne (s : Shelf ι) {op : Operation ι} {name : ι} (h : name ≠ op.target) :
    s.perform op name = s name :=
  Function.update_of_ne h _ s

/-- An operation leaves its text under the keys that it concerns, and no other text changes. -/
theorem text?_perform (s : Shelf ι) (op : Operation ι) (name : ι) (key : String) :
    (s.perform op name).text? key =
      if op.Concerns name key then op.leaves (fun name => (s name).text?) key
      else (s name).text? key := by
  by_cases hname : name = op.target
  · subst hname
    rw [perform, Function.update_self]
    cases op with
    | set | insertText | copyKey =>
      exact (Bag.text?_edit _ _ key).trans (if_congr (and_iff_right rfl).symm rfl rfl)
    | clone => exact (if_pos rfl).symm
  · rw [perform_of_ne s hname, if_neg fun h => hname h.eq_target]

/-! ### Histories -/

theorem ofHistory_concat (operations : List (Operation ι)) (op : Operation ι) :
    ofHistory (operations ++ [op]) = (ofHistory operations).perform op :=
  List.foldl_append

/-- After any operations, each key of each bag has the text that the last operation which concerns
it has left there. -/
theorem text?_ofHistory (operations : List (Operation ι)) (name : ι) :
    (ofHistory operations name).text? = lastText operations.reverse name := by
  -- From the end of the history, where `lastText` looks first.
  induction operations using List.reverseRecOn generalizing name with
  | nil => rfl
  | append_singleton operations op ih =>
    funext key
    rw [ofHistory_concat, text?_perform, List.reverse_concat, lastText, ih name, funext ih]

/-- Operations that do not concern a key of a bag leave its text as it was. -/
theorem text?_ofHistory_append (operations : List (Operation ι)) {later : List (Operation ι)}
    {name : ι} {key : String} (h : ∀ op ∈ later, ¬op.Concerns name key) :
    (ofHistory (operations ++ later) name).text? key = (ofHistory operations name).text? key := by
  induction later using List.reverseRecOn with
  | nil => rw [List.append_nil]
  | append_singleton later op ih =>
    have hop : ¬op.Concerns name key := h op (List.mem_append_right _ List.mem_cons_self)
    rw [← List.append_assoc, ofHistory_concat, text?_perform, if_neg hop]
    exact ih fun op hmem => h op (List.mem_append_left _ hmem)

/-- Whatever was done to bags that were all empty:

* each of them is the map that the operations tell of, in which a key has the text that the last
  operation which wrote or cleared it in that bag has left there, and whatever the bag is asked is
  answered from this map, by entries in ascending order of the bytes of their keys;
* that operation is followed by none that concerns the key of that bag, and what it has left is what
  it writes or what its source held at that moment; a key that no operation concerns is absent;
* one more operation changes no bag but its target;
* two bags, of one history or of two, are equal exactly when they are the same map. -/
theorem bags_are_maps (operations : List (Operation ι)) :
    (∀ name, (ofHistory operations name).Represents (lastText operations.reverse name)) ∧
    (∀ before op later name key, operations = before ++ op :: later → op.Concerns name key →
      (∀ other ∈ later, ¬other.Concerns name key) →
      (ofHistory operations name).text? key =
        op.leaves (fun source => (ofHistory before source).text?) key) ∧
    (∀ name key, (∀ op ∈ operations, ¬op.Concerns name key) →
      (ofHistory operations name).text? key = none) ∧
    (∀ (op : Operation ι) name, name ≠ op.target →
      ofHistory (operations ++ [op]) name = ofHistory operations name) ∧
    ∀ (others : List (Operation ι)) name name',
      ofHistory operations name = ofHistory others name' ↔
        ∀ key, lastText operations.reverse name key = lastText others.reverse name' key := by
  refine ⟨?_, ?_, ?_, ?_, ?_⟩
  · intro name
    rw [← text?_ofHistory]
    exact (ofHistory operations name).represents_text?
  · rintro before op later name key rfl hop hlater
    rw [List.append_cons, text?_ofHistory_append _ hlater, ofHistory_concat, text?_perform,
      if_pos hop]
  · intro name key hnone
    exact text?_ofHistory_append [] hnone
  · intro op name hname
    rw [ofHistory_concat, perform_of_ne _ hname]
  · intro others name name'
    rw [← text?_ofHistory, ← text?_ofHistory]
    exact ⟨fun h key => congrArg (Bag.text? · key) h, Bag.ext⟩

/-- A clone keeps the key that is cleared in its source afterwards. -/
example :
    let s : Shelf Nat := ofHistory [.insertText 0 "b" "2", .set 0 "a" .bool (some true), .clone 0 1,
      .copyKey 2 "a" 0]
    (s 0).entries = [("b", "2")] ∧ (s 1).entries = [("a", "true"), ("b", "2")] := by
  decide +kernel

end Shelf

end ProxyLink
