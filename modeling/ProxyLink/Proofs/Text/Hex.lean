import ProxyLink.Proofs.Text.Utf8
import ProxyLink.Text.Blank
import ProxyLink.Text.Hex

/-!
# Hexadecimal text read back

Main statement: `decode_of_restyled`. The digits of a byte sequence read as that sequence, however
they are spaced and whatever the case of their letters.
-/

namespace ProxyLink.Hex

/-- A text is another one with blanks put in anywhere and the case of letters changed anywhere. -/
inductive Restyled : List Char → List Char → Prop where
  | nil : Restyled [] []
  | blank {c : Char} {plain text : List Char} :
    Text.isBlank c = true → Restyled plain text → Restyled plain (c :: text)
  | keep {c d : Char} {plain text : List Char} :
    d.toLower = c.toLower → Restyled plain text → Restyled (c :: plain) (d :: text)

theorem restyled_nil_iff {plain : List Char} : Restyled plain [] ↔ plain = [] :=
  ⟨fun h => by cases h; rfl, fun h => h ▸ .nil⟩

/-- The empty text is restyled into nothing but blanks. -/
theorem nil_restyled_cons_iff {d : Char} {text : List Char} :
    Restyled [] (d :: text) ↔ Text.isBlank d = true ∧ Restyled [] text :=
  ⟨fun h => by cases h with | blank hblank h => exact ⟨hblank, h⟩, fun h => .blank h.1 h.2⟩

/-- A first character is a blank put in, or the first character of the text in some case. -/
theorem cons_restyled_cons_iff {c d : Char} {plain text : List Char} :
    Restyled (c :: plain) (d :: text) ↔ Text.isBlank d = true ∧ Restyled (c :: plain) text ∨
      d.toLower = c.toLower ∧ Restyled plain text := by
  constructor
  · rintro (_ | ⟨hblank, h⟩ | ⟨hcase, h⟩)
    · exact .inl ⟨hblank, h⟩
    · exact .inr ⟨hcase, h⟩
  · rintro (⟨hblank, h⟩ | ⟨hcase, h⟩)
    · exact .blank hblank h
    · exact .keep hcase h

instance decidableRestyled : (plain text : List Char) → Decidable (Restyled plain text)
  | _, [] => decidable_of_iff _ restyled_nil_iff.symm
  | [], _ :: text =>
    have := decidableRestyled [] text
    decidable_of_iff _ nil_restyled_cons_iff.symm
  | c :: plain, _ :: text =>
    have := decidableRestyled (c :: plain) text
    have := decidableRestyled plain text
    decidable_of_iff _ cons_restyled_cons_iff.symm

/-! ### Digits in either case -/

/-- The lower case of a character is that character, unless it is one of the ASCII capitals. -/
theorem toNat_toLower (c : Char) : c.toLower.toNat = c.toNat ∨
    65 ≤ c.toNat ∧ c.toNat ≤ 90 ∧ c.toLower.toNat = c.toNat + 32 := by
  unfold Char.toLower
  split
  · next h =>
    have hlow : 65 ≤ c.toNat := UInt32.le_iff_toNat_le.mp h.1
    have hhigh : c.toNat ≤ 90 := UInt32.le_iff_toNat_le.mp h.2
    refine .inr ⟨hlow, hhigh, ?_⟩
    simp only [Char.toNat] at hlow hhigh ⊢
    rw [UInt32.toNat_add]
    change (c.val.toNat + 32) % 2 ^ 32 = _
    omega
  · exact .inl rfl

theorem toNat_digit_lt {n : Nat} (hn : n < 16) : (digit n).toNat < 128 := by
  have hall : ∀ n < 16, (digit n).toNat < 128 := by decide +kernel
  exact hall n hn

/-- The digit for a value, in either case, is an ASCII character, is no blank and no hyphen, and
reads as that value. -/
theorem of_toLower_eq_digit {n : Nat} (hn : n < 16) {d : Char}
    (h : d.toLower = (digit n).toLower) :
    d.toNat < 128 ∧ Text.isBlank d = false ∧ d ≠ '-' ∧ digitValue? d = some n := by
  have hd : d.toNat < 128 := by
    have hcode := congrArg Char.toNat h
    have hdigit := toNat_digit_lt hn
    rcases toNat_toLower d with hsame | ⟨-, hle, -⟩
    · rcases toNat_toLower (digit n) with hsame' | ⟨-, hle', hsum'⟩ <;> omega
    · omega
  have hall : ∀ m < 128, ∀ n < 16, (Char.ofNat m).toLower = (digit n).toLower →
      Text.isBlank (Char.ofNat m) = false ∧ Char.ofNat m ≠ '-' ∧
        digitValue? (Char.ofNat m) = some n := by
    decide +kernel
  have hread := hall d.toNat hd n hn
  rw [Char.ofNat_toNat] at hread
  exact ⟨hd, hread h⟩

/-! ### Spaced digits -/

/-- The values of the digits of a byte sequence. -/
def halves (bytes : List UInt8) : List Nat :=
  bytes.flatMap fun b => [b.toNat / 16, b.toNat % 16]

/-- A byte sequence is written with the digits for its halves. -/
theorem encode_eq_map_halves (bytes : List UInt8) : encode bytes = (halves bytes).map digit := by
  rw [encode, halves, List.map_flatMap]
  rfl

theorem lt_of_mem_halves {bytes : List UInt8} {n : Nat} (h : n ∈ halves bytes) : n < 16 := by
  obtain ⟨b, -, hn⟩ := List.mem_flatMap.mp h
  have hb := b.toNat_lt
  simp only [List.mem_cons, List.not_mem_nil, or_false] at hn
  rcases hn with rfl | rfl <;> omega

theorem length_halves (bytes : List UInt8) : (halves bytes).length = 2 * bytes.length := by
  induction bytes with
  | nil => rfl
  | cons b rest ih =>
    have hpair : halves (b :: rest) = [b.toNat / 16, b.toNat % 16] ++ halves rest :=
      List.flatMap_cons
    rw [hpair, List.length_append, ih, List.length_cons, List.length_cons, List.length_cons]
    change 2 + _ = _
    omega

/-- A character of a restyled text is a blank put in, or one that was there in some case. -/
theorem Restyled.of_mem {plain text : List Char} (h : Restyled plain text) {d : Char}
    (hd : d ∈ text) : Text.isBlank d = true ∨ ∃ c ∈ plain, d.toLower = c.toLower := by
  induction h with
  | nil => cases hd
  | blank hblank _ ih =>
    rcases List.mem_cons.mp hd with rfl | hd
    · exact .inl hblank
    · exact ih hd
  | keep hcase _ ih =>
    rcases List.mem_cons.mp hd with rfl | hd
    · exact .inr ⟨_, List.mem_cons_self, hcase⟩
    · obtain hblank | ⟨c, hc, hcase⟩ := ih hd
      · exact .inl hblank
      · exact .inr ⟨c, List.mem_cons_of_mem _ hc, hcase⟩

variable {numbers : List Nat} {text : List Char}

/-- A character among spaced digits is a blank or a digit in some case. -/
theorem Restyled.digit_of_mem (h : Restyled (numbers.map digit) text)
    (hnumbers : ∀ n ∈ numbers, n < 16) {d : Char} (hd : d ∈ text) :
    Text.isBlank d = true ∨ ∃ n < 16, d.toLower = (digit n).toLower := by
  obtain hblank | ⟨c, hc, hcase⟩ := h.of_mem hd
  · exact .inl hblank
  · obtain ⟨n, hn, rfl⟩ := List.mem_map.mp hc
    exact .inr ⟨n, hnumbers n hn, hcase⟩

/-- There is no hyphen among spaced digits. -/
theorem Restyled.hyphen_notMem (h : Restyled (numbers.map digit) text)
    (hnumbers : ∀ n ∈ numbers, n < 16) : '-' ∉ text := by
  intro hmem
  obtain hblank | ⟨n, hn, hcase⟩ := h.digit_of_mem hnumbers hmem
  · exact absurd hblank (by decide)
  · exact (of_toLower_eq_digit hn hcase).2.2.1 rfl

/-- What is no blank among spaced digits is an ASCII character. -/
theorem Restyled.toNat_lt (h : Restyled (numbers.map digit) text)
    (hnumbers : ∀ n ∈ numbers, n < 16) {d : Char} (hd : d ∈ text.filter fun c => !Text.isBlank c) :
    d.toNat < 128 := by
  obtain ⟨hmem, hvisible⟩ := List.mem_filter.mp hd
  obtain hblank | ⟨n, hn, hcase⟩ := h.digit_of_mem hnumbers hmem
  · rw [hblank] at hvisible
    cases hvisible
  · exact (of_toLower_eq_digit hn hcase).1

/-- Digits keep their values when they are spaced or their case is changed. -/
theorem Restyled.map_digitValue? (h : Restyled (numbers.map digit) text)
    (hnumbers : ∀ n ∈ numbers, n < 16) :
    (text.filter fun c => !Text.isBlank c).map digitValue? = numbers.map some := by
  -- A blank that was put in is filtered out; every other character is a digit in some case.
  generalize hplain : numbers.map digit = plain at h
  induction h generalizing numbers with
  | nil =>
    rw [List.map_eq_nil_iff.mp hplain]
    rfl
  | blank hblank _ ih =>
    rw [List.filter_cons_of_neg (by rw [hblank]; decide)]
    exact ih hnumbers hplain
  | keep hcase _ ih =>
    obtain ⟨n, rest, rfl, rfl, hrest⟩ := List.map_eq_cons_iff.mp hplain
    obtain ⟨hn, hrest'⟩ := List.forall_mem_cons.mp hnumbers
    obtain ⟨-, hblank, -, hvalue⟩ := of_toLower_eq_digit hn hcase
    rw [List.filter_cons_of_pos (by rw [hblank]; rfl), List.map_cons, List.map_cons, hvalue,
      ih hrest' hrest]

/-! ### Pairs of digits -/

/-- A high and a low half make a byte. -/
theorem ofNat_halves (b : UInt8) : UInt8.ofNat (16 * (b.toNat / 16) + b.toNat % 16) = b := by
  rw [Nat.div_add_mod, UInt8.ofNat_toNat]

/-- Characters with the values of the halves of some bytes are read as these bytes. -/
theorem decodePairs_of_values {bytes written : List UInt8}
    (h : (written.map fun b => value? b.toNat) = (halves bytes).map some) (position : Nat) :
    decodePairs position written = .ok bytes := by
  induction bytes generalizing written position with
  | nil =>
    rw [List.map_eq_nil_iff.mp h]
    rfl
  | cons b rest ih =>
    obtain ⟨high, written, rfl, hhigh, h⟩ := List.map_eq_cons_iff.mp h
    obtain ⟨low, written, rfl, hlow, h⟩ := List.map_eq_cons_iff.mp h
    simp only [decodePairs, hhigh, hlow, ih h, ofNat_halves]
    rfl

/-- The digits of some bytes read as these bytes, wherever blanks stand among them and whatever the
case of their letters. -/
theorem decode_of_restyled {bytes : List UInt8} {text : String}
    (h : Restyled (encode bytes) text.toList) :
    decode (String.ofList (Text.withoutBlanks text)) = .ok bytes := by
  rw [encode_eq_map_halves] at h
  have hvalues := h.map_digitValue? fun n => lt_of_mem_halves
  have hascii : ∀ c ∈ Text.withoutBlanks text, c.toNat < 128 :=
    fun c => h.toNat_lt fun n => lt_of_mem_halves
  have hencode : Utf8.encode (String.ofList (Text.withoutBlanks text)) =
      (Text.withoutBlanks text).map fun c => UInt8.ofNat c.toNat :=
    Utf8.encode_ofList_of_lt hascii
  have hread : ((Text.withoutBlanks text).map fun c => UInt8.ofNat c.toNat).map
      (fun b => value? b.toNat) = (halves bytes).map some := by
    rw [← hvalues, List.map_map]
    apply List.map_congr_left
    intro c hc
    have hbyte : (UInt8.ofNat c.toNat).toNat = c.toNat := by
      rw [UInt8.toNat_ofNat']
      exact Nat.mod_eq_of_lt (Nat.lt_trans (hascii c hc) (by decide))
    rw [Function.comp_apply, hbyte, digitValue?]
  have heven : (Utf8.encode (String.ofList (Text.withoutBlanks text))).length % 2 ≠ 1 := by
    have hlength := congrArg List.length hread
    simp only [List.length_map, length_halves] at hlength
    rw [hencode, List.length_map, hlength]
    omega
  rw [decode, if_neg heven, hencode, decodePairs_of_values hread]

/-- A blank may stand within a byte, and a byte may have letters of both cases. -/
example : Restyled (encode [10, 255]) "\u20030 A\nfF".toList := by decide +kernel

end ProxyLink.Hex
