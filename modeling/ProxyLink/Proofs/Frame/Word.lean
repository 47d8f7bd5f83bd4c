import Mathlib.Algebra.Group.Nat.Defs
import ProxyLink.Frame.Decode

/-!
# Words of 32 bits

A word is four bytes, least significant byte first. `IsWord` says so without the writer or the
reader, and both are measured by it: `isWord_word` for the writer and `readWord_eq_ok_iff` for the
reader.
-/

namespace ProxyLink.Frame

/-- Four bytes write a number, least significant byte first. -/
def IsWord (n : Nat) (bytes : List UInt8) : Prop :=
  bytes.length = 4 ∧ bytes.foldr (fun b n => b.toNat + 256 * n) 0 = n

/-- The four bytes of a word, one by one. -/
theorem isWord_iff {n : Nat} {bytes : List UInt8} :
    IsWord n bytes ↔ ∃ a b c d, bytes = [a, b, c, d] ∧ wordValue a b c d = n := by
  constructor
  · rintro ⟨hlen, hvalue⟩
    obtain ⟨a, b, c, d, rfl⟩ : ∃ a b c d, bytes = [a, b, c, d] := by
      match bytes, hlen with
      | [a, b, c, d], _ => exact ⟨a, b, c, d, rfl⟩
    refine ⟨a, b, c, d, rfl, ?_⟩
    simp only [List.foldr_cons, List.foldr_nil] at hvalue
    simp only [wordValue]
    omega
  · rintro ⟨a, b, c, d, rfl, hvalue⟩
    refine ⟨rfl, ?_⟩
    simp only [List.foldr_cons, List.foldr_nil]
    simp only [wordValue] at hvalue
    omega

theorem IsWord.length {n : Nat} {bytes : List UInt8} (h : IsWord n bytes) : bytes.length = 4 :=
  h.1

/-- A word writes one number. -/
theorem IsWord.unique {m n : Nat} {bytes : List UInt8} (hm : IsWord m bytes)
    (hn : IsWord n bytes) : m = n :=
  hm.2.symm.trans hn.2

theorem IsWord.lt {n : Nat} {bytes : List UInt8} (h : IsWord n bytes) : n < 2 ^ 32 := by
  obtain ⟨a, b, c, d, -, rfl⟩ := isWord_iff.mp h
  have ha := a.toNat_lt
  have hb := b.toNat_lt
  have hc := c.toNat_lt
  have hd := d.toNat_lt
  simp only [wordValue]
  omega

/-- The word that is written for a number of 32 bits writes that number. -/
theorem isWord_word {n : Nat} (h : n < 2 ^ 32) : IsWord n (word n) := by
  apply isWord_iff.mpr
  refine ⟨_, _, _, _, rfl, ?_⟩
  simp only [wordValue, UInt8.toNat_ofNat']
  omega

theorem IsWord.eq_word {n : Nat} {bytes : List UInt8} (h : IsWord n bytes) : bytes = word n := by
  obtain ⟨a, b, c, d, rfl, rfl⟩ := isWord_iff.mp h
  have hbyte (m : Nat) (x : UInt8) (hm : m % 256 = x.toNat) : UInt8.ofNat m = x := by
    apply UInt8.toNat_inj.mp
    rw [UInt8.toNat_ofNat']
    exact hm
  have ha := a.toNat_lt
  have hb := b.toNat_lt
  have hc := c.toNat_lt
  have hd := d.toNat_lt
  simp only [word, wordValue]
  rw [hbyte _ a (by omega), hbyte _ b (by omega), hbyte _ c (by omega), hbyte _ d (by omega)]

@[simp] theorem length_word (n : Nat) : (word n).length = 4 := rfl

/-- A word is read where the bytes start with one, and nothing else is taken. -/
theorem readWord_eq_ok_iff {part : Part} {bytes rest : List UInt8} {n : Nat} :
    readWord part bytes = .ok (n, rest) ↔ ∃ size, bytes = size ++ rest ∧ IsWord n size := by
  constructor
  · intro h
    unfold readWord at h
    split at h
    · next a b c d tail =>
      cases h
      exact ⟨[a, b, c, d], rfl, isWord_iff.mpr ⟨a, b, c, d, rfl, rfl⟩⟩
    · cases h
  · rintro ⟨size, rfl, hw⟩
    obtain ⟨a, b, c, d, rfl, rfl⟩ := isWord_iff.mp hw
    rfl

/-- The type that a word holds is the one whose id the word writes. -/
theorem typeOfWord_eq_iff {n : Nat} (h : n < 2 ^ 32) {type : MessageType} :
    typeOfWord n = type ↔ n = type.id.toUInt32.toNat := by
  constructor
  · rintro rfl
    rw [typeOfWord, UInt32.toUInt32_toInt32, UInt32.toNat_ofNat']
    exact (Nat.mod_eq_of_lt h).symm
  · rintro rfl
    rw [typeOfWord, UInt32.ofNat_toNat, Int32.toInt32_toUInt32]

end ProxyLink.Frame
