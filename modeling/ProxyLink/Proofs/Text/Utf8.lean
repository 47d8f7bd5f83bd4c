import ProxyLink.Text.Utf8

/-!
# UTF-8 reads back what it writes

Main statement: `decode_eq_ok_iff`. A byte sequence reads as a text exactly when it is what the text
is written as, so the well-formed byte sequences are the images of `encode`, and each of them has
one reading.
-/

namespace ProxyLink.Utf8

/-! ### What a first byte announces -/

private theorem lead_single_iff {a : Nat} : lead a = .single ↔ a < 0x80 := by
  grind [lead]

private theorem lead_double_iff {a : Nat} : lead a = .double ↔ 0xC2 ≤ a ∧ a < 0xE0 := by
  grind [lead]

private theorem lead_triple_iff {a low high : Nat} :
    lead a = .triple low high ↔ (0xE0 ≤ a ∧ a < 0xF0) ∧
      low = (if a = 0xE0 then 0xA0 else 0x80) ∧ high = (if a = 0xED then 0x9F else 0xBF) := by
  constructor
  · intro h
    have ha : 0xE0 ≤ a ∧ a < 0xF0 := by grind [lead]
    simp only [lead] at h
    rw [if_neg (by omega), if_neg (by omega), if_neg (by omega), if_pos ha.2] at h
    cases h
    exact ⟨ha, rfl, rfl⟩
  · rintro ⟨ha, rfl, rfl⟩
    simp only [lead]
    rw [if_neg (by omega), if_neg (by omega), if_neg (by omega), if_pos ha.2]

private theorem lead_quadruple_iff {a low high : Nat} :
    lead a = .quadruple low high ↔ (0xF0 ≤ a ∧ a < 0xF5) ∧
      low = (if a = 0xF0 then 0x90 else 0x80) ∧ high = (if a = 0xF4 then 0x8F else 0xBF) := by
  constructor
  · intro h
    have ha : 0xF0 ≤ a ∧ a < 0xF5 := by grind [lead]
    simp only [lead] at h
    rw [if_neg (by omega), if_neg (by omega), if_neg (by omega), if_neg (by omega),
      if_pos ha.2] at h
    cases h
    exact ⟨ha, rfl, rfl⟩
  · rintro ⟨ha, rfl, rfl⟩
    simp only [lead]
    rw [if_neg (by omega), if_neg (by omega), if_neg (by omega), if_neg (by omega), if_pos ha.2]

private theorem continues_iff {b : UInt8} : continues b ↔ 0x80 ≤ b.toNat ∧ b.toNat ≤ 0xBF := by
  simp [continues]

/-! ### Scalar values from their bytes -/

theorem toNat_ofNat_of_isValidChar {n : Nat} (h : n.isValidChar) :
    (Char.ofNat n).val.toNat = n := by
  rw [Char.ofNat, dif_pos h]
  rfl

private theorem byte_eq {n : Nat} {b : UInt8} (h : n = b.toNat) : UInt8.ofNat n = b := by
  rw [h, UInt8.ofNat_toNat]

private theorem encodeChar_assemble_single {a : UInt8} (ha : a.toNat < 0x80) :
    String.utf8EncodeChar (assemble a.toNat []) = [a] := by
  have hv : a.toNat.isValidChar := .inl (by omega)
  simp only [assemble, List.foldl_nil, String.utf8EncodeChar, toNat_ofNat_of_isValidChar hv]
  rw [if_pos (by omega), byte_eq rfl]

private theorem encodeChar_assemble_double {a b : UInt8} (ha : 0xC2 ≤ a.toNat ∧ a.toNat < 0xE0)
    (hb : continues b) : String.utf8EncodeChar (assemble (a.toNat - 0xC0) [b]) = [a, b] := by
  rw [continues_iff] at hb
  have hv : (64 * (a.toNat - 0xC0) + (b.toNat - 0x80)).isValidChar := .inl (by omega)
  simp only [assemble, List.foldl_cons, List.foldl_nil, String.utf8EncodeChar,
    toNat_ofNat_of_isValidChar hv]
  rw [if_neg (by omega), if_pos (by omega), byte_eq (b := a) (by omega),
    byte_eq (b := b) (by omega)]

private theorem encodeChar_assemble_triple {a b c : UInt8} {low high : Nat}
    (ha : lead a.toNat = .triple low high) (hb : low ≤ b.toNat ∧ b.toNat ≤ high)
    (hc : continues c) :
    String.utf8EncodeChar (assemble (a.toNat - 0xE0) [b, c]) = [a, b, c] := by
  obtain ⟨ha, rfl, rfl⟩ := lead_triple_iff.mp ha
  rw [continues_iff] at hc
  -- The bounds of the second byte keep out shorter forms and surrogates.
  have hb' : 0x80 ≤ b.toNat ∧ b.toNat ≤ 0xBF ∧ (a.toNat = 0xE0 → 0xA0 ≤ b.toNat) ∧
      (a.toNat = 0xED → b.toNat ≤ 0x9F) := by
    grind
  have hv : (64 * (64 * (a.toNat - 0xE0) + (b.toNat - 0x80)) + (c.toNat - 0x80)).isValidChar := by
    simp only [Nat.isValidChar]
    omega
  simp only [assemble, List.foldl_cons, List.foldl_nil, String.utf8EncodeChar,
    toNat_ofNat_of_isValidChar hv]
  rw [if_neg (by omega), if_neg (by omega), if_pos (by omega), byte_eq (b := a) (by omega),
    byte_eq (b := b) (by omega), byte_eq (b := c) (by omega)]

private theorem encodeChar_assemble_quadruple {a b c d : UInt8} {low high : Nat}
    (ha : lead a.toNat = .quadruple low high) (hb : low ≤ b.toNat ∧ b.toNat ≤ high)
    (hc : continues c) (hd : continues d) :
    String.utf8EncodeChar (assemble (a.toNat - 0xF0) [b, c, d]) = [a, b, c, d] := by
  obtain ⟨ha, rfl, rfl⟩ := lead_quadruple_iff.mp ha
  rw [continues_iff] at hc hd
  have hb' : 0x80 ≤ b.toNat ∧ b.toNat ≤ 0xBF ∧ (a.toNat = 0xF0 → 0x90 ≤ b.toNat) ∧
      (a.toNat = 0xF4 → b.toNat ≤ 0x8F) := by
    grind
  have hv : (64 * (64 * (64 * (a.toNat - 0xF0) + (b.toNat - 0x80)) + (c.toNat - 0x80)) +
      (d.toNat - 0x80)).isValidChar := by
    simp only [Nat.isValidChar]
    omega
  simp only [assemble, List.foldl_cons, List.foldl_nil, String.utf8EncodeChar,
    toNat_ofNat_of_isValidChar hv]
  rw [if_neg (by omega), if_neg (by omega), if_neg (by omega), byte_eq (b := a) (by omega),
    byte_eq (b := b) (by omega), byte_eq (b := c) (by omega), byte_eq (b := d) (by omega)]

/-- Bytes that read as scalar values are what these are written as. -/
theorem eq_flatMap_of_decodeFrom {position : Nat} {bytes : List UInt8} {chars : List Char}
    (h : decodeFrom position bytes = .ok chars) :
    bytes = chars.flatMap String.utf8EncodeChar := by
  fun_induction decodeFrom position bytes generalizing chars with
  | case1 => cases h; rfl
  | case3 position a rest ha ih =>
    cases hr : decodeFrom (position + 1) rest with
    | error fault => rw [hr] at h; cases h
    | ok chars' =>
      rw [hr] at h
      cases h
      rw [List.flatMap_cons, encodeChar_assemble_single (lead_single_iff.mp ha), ← ih hr]
      rfl
  | case5 position a ha b rest hb ih =>
    cases hr : decodeFrom (position + 2) rest with
    | error fault => rw [hr] at h; cases h
    | ok chars' =>
      rw [hr] at h
      cases h
      rw [List.flatMap_cons, encodeChar_assemble_double (lead_double_iff.mp ha) hb, ← ih hr]
      rfl
  | case9 position a low high ha b hb c rest hc ih =>
    cases hr : decodeFrom (position + 3) rest with
    | error fault => rw [hr] at h; cases h
    | ok chars' =>
      rw [hr] at h
      cases h
      rw [List.flatMap_cons, encodeChar_assemble_triple ha hb hc, ← ih hr]
      rfl
  | case15 position a low high ha b hb c hc d rest hd ih =>
    cases hr : decodeFrom (position + 4) rest with
    | error fault => rw [hr] at h; cases h
    | ok chars' =>
      rw [hr] at h
      cases h
      rw [List.flatMap_cons, encodeChar_assemble_quadruple ha hb hc hd, ← ih hr]
      rfl
  | _ => cases h

/-! ### Bytes from their scalar values -/

private theorem decodeFrom_single {position : Nat} {a : UInt8} {rest : List UInt8}
    (ha : a.toNat < 0x80) :
    decodeFrom position (a :: rest) =
      (decodeFrom (position + 1) rest).map (assemble a.toNat [] :: ·) := by
  rw [decodeFrom.eq_def]
  simp only [lead_single_iff.mpr ha]

private theorem decodeFrom_double {position : Nat} {a b : UInt8} {rest : List UInt8}
    (ha : 0xC2 ≤ a.toNat ∧ a.toNat < 0xE0) (hb : continues b) :
    decodeFrom position (a :: b :: rest) =
      (decodeFrom (position + 2) rest).map (assemble (a.toNat - 0xC0) [b] :: ·) := by
  rw [decodeFrom.eq_def]
  simp only [lead_double_iff.mpr ha]
  rw [if_pos hb]

private theorem decodeFrom_triple {position : Nat} {a b c : UInt8} {rest : List UInt8}
    (ha : 0xE0 ≤ a.toNat ∧ a.toNat < 0xF0) (hb : continues b)
    (hlow : a.toNat = 0xE0 → 0xA0 ≤ b.toNat) (hhigh : a.toNat = 0xED → b.toNat ≤ 0x9F)
    (hc : continues c) :
    decodeFrom position (a :: b :: c :: rest) =
      (decodeFrom (position + 3) rest).map (assemble (a.toNat - 0xE0) [b, c] :: ·) := by
  rw [continues_iff] at hb
  have hbounds : (if a.toNat = 0xE0 then 0xA0 else 0x80) ≤ b.toNat ∧
      b.toNat ≤ (if a.toNat = 0xED then 0x9F else 0xBF) := by
    grind
  rw [decodeFrom.eq_def]
  simp only [lead_triple_iff.mpr ⟨ha, rfl, rfl⟩]
  rw [if_pos hbounds, if_pos hc]

private theorem decodeFrom_quadruple {position : Nat} {a b c d : UInt8} {rest : List UInt8}
    (ha : 0xF0 ≤ a.toNat ∧ a.toNat < 0xF5) (hb : continues b)
    (hlow : a.toNat = 0xF0 → 0x90 ≤ b.toNat) (hhigh : a.toNat = 0xF4 → b.toNat ≤ 0x8F)
    (hc : continues c) (hd : continues d) :
    decodeFrom position (a :: b :: c :: d :: rest) =
      (decodeFrom (position + 4) rest).map (assemble (a.toNat - 0xF0) [b, c, d] :: ·) := by
  rw [continues_iff] at hb
  have hbounds : (if a.toNat = 0xF0 then 0x90 else 0x80) ≤ b.toNat ∧
      b.toNat ≤ (if a.toNat = 0xF4 then 0x8F else 0xBF) := by
    grind
  rw [decodeFrom.eq_def]
  simp only [lead_quadruple_iff.mpr ⟨ha, rfl, rfl⟩]
  rw [if_pos hbounds, if_pos hc, if_pos hd]

private theorem toNat_byte {n : Nat} (h : n < 256) : (UInt8.ofNat n).toNat = n := by
  rw [UInt8.toNat_ofNat']
  exact Nat.mod_eq_of_lt h

private theorem continues_low {n : Nat} : continues (UInt8.ofNat (n % 64 + 0x80)) := by
  rw [continues_iff, toNat_byte (by omega)]
  omega

private theorem char_eq {n : Nat} {c : Char} (h : n = c.val.toNat) : Char.ofNat n = c := by
  rw [h]
  exact Char.ofNat_toNat c

/-- Reading what a scalar value is written as gives it back and goes on behind it. -/
theorem decodeFrom_encodeChar_append (position : Nat) (c : Char) (rest : List UInt8) :
    decodeFrom position (String.utf8EncodeChar c ++ rest) =
      (decodeFrom (position + (String.utf8EncodeChar c).length) rest).map (c :: ·) := by
  have hv : c.val.toNat < 0xD800 ∨ 0xDFFF < c.val.toNat ∧ c.val.toNat < 0x110000 := c.valid
  unfold String.utf8EncodeChar
  simp only
  -- One case for each number of bytes.
  split
  · next h =>
    have ha := toNat_byte (n := c.val.toNat) (by omega)
    change decodeFrom position (_ :: rest) = _
    rw [decodeFrom_single (by omega), ha]
    simp only [assemble, List.foldl_nil]
    rw [char_eq rfl]
    rfl
  split
  · next h =>
    have ha := toNat_byte (n := c.val.toNat / 64 % 32 + 0xC0) (by omega)
    have hb := toNat_byte (n := c.val.toNat % 64 + 0x80) (by omega)
    change decodeFrom position (_ :: _ :: rest) = _
    rw [decodeFrom_double (by omega) continues_low]
    simp only [assemble, List.foldl_cons, List.foldl_nil, ha, hb]
    rw [char_eq (c := c) (by omega)]
    rfl
  split
  · next h =>
    have ha := toNat_byte (n := c.val.toNat / 4096 % 16 + 0xE0) (by omega)
    have hb := toNat_byte (n := c.val.toNat / 64 % 64 + 0x80) (by omega)
    have hc := toNat_byte (n := c.val.toNat % 64 + 0x80) (by omega)
    change decodeFrom position (_ :: _ :: _ :: rest) = _
    rw [decodeFrom_triple (by omega) continues_low (by omega) (by omega) continues_low]
    simp only [assemble, List.foldl_cons, List.foldl_nil, ha, hb, hc]
    rw [char_eq (c := c) (by omega)]
    rfl
  · next h =>
    have ha := toNat_byte (n := c.val.toNat / 262144 % 8 + 0xF0) (by omega)
    have hb := toNat_byte (n := c.val.toNat / 4096 % 64 + 0x80) (by omega)
    have hc := toNat_byte (n := c.val.toNat / 64 % 64 + 0x80) (by omega)
    have hd := toNat_byte (n := c.val.toNat % 64 + 0x80) (by omega)
    change decodeFrom position (_ :: _ :: _ :: _ :: rest) = _
    rw [decodeFrom_quadruple (by omega) continues_low (by omega) (by omega) continues_low
      continues_low]
    simp only [assemble, List.foldl_cons, List.foldl_nil, ha, hb, hc, hd]
    rw [char_eq (c := c) (by omega)]
    rfl

/-- Reading what scalar values are written as gives them back. -/
theorem decodeFrom_flatMap (position : Nat) (chars : List Char) :
    decodeFrom position (chars.flatMap String.utf8EncodeChar) = .ok chars := by
  induction chars generalizing position with
  | nil => rfl
  | cons c chars ih =>
    rw [List.flatMap_cons, decodeFrom_encodeChar_append, ih]
    rfl

/-- A written text reads as itself. -/
theorem decode_encode (text : String) : decode (encode text) = .ok text := by
  rw [decode, encode, decodeFrom_flatMap]
  change Except.ok (String.ofList text.toList) = _
  rw [String.ofList_toList]

/-- A byte sequence reads as a text exactly when the text is written as that sequence. -/
theorem decode_eq_ok_iff {bytes : List UInt8} {text : String} :
    decode bytes = .ok text ↔ bytes = encode text := by
  constructor
  · intro h
    unfold decode at h
    cases hc : decodeFrom 0 bytes with
    | error fault => rw [hc] at h; cases h
    | ok chars =>
      rw [hc] at h
      cases h
      rw [encode, String.toList_ofList]
      exact eq_flatMap_of_decodeFrom hc
  · rintro rfl
    exact decode_encode text

theorem encode_inj {s t : String} : encode s = encode t ↔ s = t := by
  constructor
  · intro h
    have hs := decode_encode s
    rw [h, decode_encode] at hs
    exact (Except.ok.inj hs).symm
  · exact congrArg encode

/-- A text of characters below 128 is written with one byte for each of them. -/
theorem encode_ofList_of_lt {chars : List Char} (h : ∀ c ∈ chars, c.toNat < 128) :
    encode (String.ofList chars) = chars.map fun c => UInt8.ofNat c.toNat := by
  rw [encode, String.toList_ofList]
  induction chars with
  | nil => rfl
  | cons c rest ih =>
    have hc : c.val.toNat ≤ 127 := Nat.lt_succ_iff.mp (h c List.mem_cons_self)
    have hbyte : String.utf8EncodeChar c = [UInt8.ofNat c.toNat] := by
      rw [String.utf8EncodeChar]
      exact if_pos hc
    rw [List.flatMap_cons, hbyte, ih fun d hd => h d (List.mem_cons_of_mem _ hd)]
    rfl

end ProxyLink.Utf8
