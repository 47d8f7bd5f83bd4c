import ProxyLink.Message
import ProxyLink.Proofs.Bag

/-!
# Bytes have one text

Bytes are read from the text that is written for them and from no other one, so a text that is read
as bytes can be written again without a change. Main statement: `bytes_have_one_text`.
-/

namespace ProxyLink

/-- Bytes that are read for a key are written for any bag as the same text. -/
theorem Bag.text?_set_of_get_bytes {b : Bag} {key : String} {bytes : List UInt8}
    (h : b.get (List UInt8) key = .ok (some bytes)) (target : Bag) :
    (target.set key (some bytes)).text? key = b.text? key := by
  obtain ⟨text, htext, hread⟩ := get_eq_some_iff.mp h
  have hlist : text.toList = Base64.encode bytes := Base64.eq_encode_of_decode? hread
  rw [text?_set, if_pos rfl, htext, Option.map_some, ← String.ofList_toList (s := text), hlist]
  rfl

/-- Bytes that are read for a key can be set for it again without a change. -/
theorem Bag.set_of_get_bytes {b : Bag} {key : String} {bytes : List UInt8}
    (h : b.get (List UInt8) key = .ok (some bytes)) : b.set key (some bytes) = b := by
  apply Bag.ext
  intro k
  by_cases hk : k = key
  · subst hk
    exact text?_set_of_get_bytes h b
  · rw [text?_set, if_neg hk]

/-- A text is read as bytes exactly when it is the text that is written for them. So the texts that
are read at all are those with characters of the alphabet only, the padding that fills the last
group, two at most, and no bit set that is part of no byte; and a payload that is read from a
message is the same text when it is set in that message again, or in any other one. -/
theorem bytes_have_one_text (text : String) :
    (∀ bytes : List UInt8, Property.ofText? text = some bytes ↔ text = Property.toText bytes) ∧
    ((∃ bytes : List UInt8, Property.ofText? text = some bytes) ↔
      Base64.IsCanonical text.toList) ∧
    ∀ (m : Message) (bytes : List UInt8), m.read .payload = .ok (some bytes) →
      m.write .payload (some bytes) = m ∧
      ∀ other : Message, (other.write .payload (some bytes)).bag.text? Field.payload.key =
        m.bag.text? Field.payload.key := by
  refine ⟨?_, Base64.exists_decode?_iff, ?_⟩
  · intro bytes
    change Base64.decode? text.toList = some bytes ↔ text = String.ofList (Base64.encode bytes)
    rw [Base64.decode?_eq_some_iff]
    constructor
    · intro h
      rw [← h, String.ofList_toList]
    · rintro rfl
      exact String.toList_ofList
  · intro m bytes h
    refine ⟨?_, fun other => Bag.text?_set_of_get_bytes h other.bag⟩
    have hbag : m.bag.set Field.payload.key (some bytes) = m.bag := Bag.set_of_get_bytes h
    rw [Message.write]
    exact congrArg (fun bag => { m with bag }) hbag

/-- A text without its padding, and one whose spare bits are set, are read as no bytes. -/
example :
    (Property.ofText? "aGk=" : Option (List UInt8)) = some [104, 105] ∧
      (Property.ofText? "aGk" : Option (List UInt8)) = none ∧
      (Property.ofText? "aGl=" : Option (List UInt8)) = none := by
  decide

end ProxyLink
