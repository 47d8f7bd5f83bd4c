import Mathlib.Data.List.Induction
import ProxyLink.Proofs.Bag

/-!
# Histories of a bag

The operations that change a bag, as data. Whatever the history of a bag, the text of each key is
what the last edit of that key left there: `text?_ofEdits`.
-/

namespace ProxyLink

/-- An operation that changes one key of a bag. -/
inductive Edit where
  /-- A value is written, or the key is cleared. -/
  | set (key : String) (type : ValueType) (value : Option type.Value)
  /-- A text is stored as it stands. -/
  | insertText (key text : String)
  /-- The text is copied from another bag, or the key is cleared when it has none there. -/
  | copyKey (source : Bag) (key : String)

namespace Edit

def key : Edit → String
  | .set key _ _ => key
  | .insertText key _ => key
  | .copyKey _ key => key

/-- The text that an edit leaves for its key, if it leaves any. -/
def text? : Edit → Option String
  | .set _ _ value => value.map Property.toText
  | .insertText _ text => some text
  | .copyKey source key => source.text? key

end Edit

namespace Bag

def edit (b : Bag) : Edit → Bag
  | .set key _ value => b.set key value
  | .insertText key text => b.insert key text
  | .copyKey source key => source.copyKey key b

/-- The bag that edits make of the empty one. -/
def ofEdits (edits : List Edit) : Bag := edits.foldl edit .empty

/-- The text that the last edit of a key leaves there. -/
def lastText (key : String) (edits : List Edit) : Option String :=
  (edits.filter (·.key == key)).getLast?.bind Edit.text?

theorem text?_edit (b : Bag) (e : Edit) (k : String) :
    (b.edit e).text? k = if k = e.key then e.text? else b.text? k := by
  cases e with
  | set key type value => exact text?_put b key k (value.map Property.toText)
  | insertText key text => exact text?_insert b key text k
  | copyKey source key => exact text?_copyKey source b key k

/-- After any edits, each key has the text that the last edit of it left there. -/
theorem text?_ofEdits (edits : List Edit) (k : String) :
    (ofEdits edits).text? k = lastText k edits := by
  induction edits using List.reverseRecOn with
  | nil => rfl
  | append_singleton edits e ih =>
    have hlast : ofEdits (edits ++ [e]) = (ofEdits edits).edit e := List.foldl_append
    rw [hlast, text?_edit, lastText, List.filter_append]
    by_cases hk : k = e.key
    · rw [if_pos hk, List.filter_cons_of_pos (by simp [hk])]
      simp
    · rw [if_neg hk, List.filter_cons_of_neg (by simp [Ne.symm hk]), List.filter_nil,
        List.append_nil, ih]
      rfl

end Bag

end ProxyLink
