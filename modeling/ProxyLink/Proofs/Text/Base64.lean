import Mathlib.Algebra.Group.Nat.Defs
import ProxyLink.Text.Base64

/-!
# Base64 read back

The characters of a byte sequence read as that sequence, whatever is left over when it is cut into
groups of three, and no other text reads as it. Main statements: `decode?_eq_some_iff`, and
`exists_decode?_iff`, which says what the texts look like that are read at all.
-/

namespace ProxyLink.Base64

theorem value?_digit : ∀ n < 64, value? (digit n) = some n := by decide

theorem digit_ne_pad : ∀ n < 64, digit n ≠ '=' := by decide

/-! ### One group -/

private theorem value?_first (a : UInt8) :
    value? (digit (a.toNat / 4)) = some (a.toNat / 4) := by
  have ha := a.toNat_lt
  exact value?_digit _ (by omega)

private theorem value?_second (a b : UInt8) :
    value? (digit (a.toNat % 4 * 16 + b.toNat / 16)) = some (a.toNat % 4 * 16 + b.toNat / 16) := by
  have hb := b.toNat_lt
  exact value?_digit _ (by omega)

private theorem join_first (a b : UInt8) :
    a.toNat / 4 * 4 + (a.toNat % 4 * 16 + b.toNat / 16) / 16 = a.toNat := by
  have hb := b.toNat_lt
  omega

/-- The four characters of three bytes read as these bytes. -/
theorem three?_digit (a b c : UInt8) :
    three? (digit (a.toNat / 4)) (digit (a.toNat % 4 * 16 + b.toNat / 16))
      (digit (b.toNat % 16 * 4 + c.toNat / 64)) (digit (c.toNat % 64)) = some [a, b, c] := by
  have hb := b.toNat_lt
  have hc := c.toNat_lt
  have hthird : value? (digit (b.toNat % 16 * 4 + c.toNat / 64)) =
      some (b.toNat % 16 * 4 + c.toNat / 64) := value?_digit _ (by omega)
  have hfourth : value? (digit (c.toNat % 64)) = some (c.toNat % 64) := value?_digit _ (by omega)
  have hjoin : (a.toNat % 4 * 16 + b.toNat / 16) % 16 * 16 +
      (b.toNat % 16 * 4 + c.toNat / 64) / 4 = b.toNat := by omega
  have hjoin' : (b.toNat % 16 * 4 + c.toNat / 64) % 4 * 64 + c.toNat % 64 = c.toNat := by omega
  simp only [three?, value?_first, value?_second, hthird, hfourth, Option.bind_eq_bind,
    Option.bind_some, join_first, hjoin, hjoin', UInt8.ofNat_toNat]

theorem lastOne?_digit (a : UInt8) :
    lastOne? (digit (a.toNat / 4)) (digit (a.toNat % 4 * 16)) = some [a] := by
  have hsecond : value? (digit (a.toNat % 4 * 16)) = some (a.toNat % 4 * 16) :=
    value?_digit _ (by omega)
  have hspare : a.toNat % 4 * 16 % 16 = 0 := by omega
  have hjoin : a.toNat / 4 * 4 + a.toNat % 4 * 16 / 16 = a.toNat := by omega
  simp only [lastOne?, value?_first, hsecond, Option.bind_eq_bind, Option.bind_some, hspare, hjoin,
    UInt8.ofNat_toNat, if_true]

theorem lastTwo?_digit (a b : UInt8) :
    lastTwo? (digit (a.toNat / 4)) (digit (a.toNat % 4 * 16 + b.toNat / 16))
      (digit (b.toNat % 16 * 4)) = some [a, b] := by
  have hb := b.toNat_lt
  have hthird : value? (digit (b.toNat % 16 * 4)) = some (b.toNat % 16 * 4) :=
    value?_digit _ (by omega)
  have hspare : b.toNat % 16 * 4 % 4 = 0 := by omega
  have hjoin : (a.toNat % 4 * 16 + b.toNat / 16) % 16 * 16 + b.toNat % 16 * 4 / 4 = b.toNat := by
    omega
  simp only [lastTwo?, value?_first, value?_second, hthird, Option.bind_eq_bind, Option.bind_some,
    hspare, join_first, hjoin, UInt8.ofNat_toNat, if_true]

/-! ### All groups -/

/-- Four characters of which the last is no padding are a group of three bytes. -/
theorem decode?_cons {p q r s : Char} (hs : s ≠ '=') (rest : List Char) :
    decode? (p :: q :: r :: s :: rest) = (do
      let head ← three? p q r s
      let tail ← decode? rest
      some (head ++ tail)) := by
  rw [decode?]
  · rintro - rfl
    exact absurd rfl hs
  · rintro rfl
    exact absurd rfl hs

/-- The characters of a byte sequence read as it. -/
theorem decode?_encode (bytes : List UInt8) : decode? (encode bytes) = some bytes := by
  fun_induction encode bytes with
  | case1 => rfl
  | case2 a => exact lastOne?_digit a
  | case3 a b =>
    have hr : digit (b.toNat % 16 * 4) ≠ '=' := digit_ne_pad _ (by omega)
    rw [decode?, lastTwo?_digit]
    exact hr
  | case4 a b c rest ih =>
    have hs : digit (c.toNat % 64) ≠ '=' := digit_ne_pad _ (Nat.mod_lt _ (by decide))
    rw [decode?_cons hs, three?_digit, ih]
    rfl

/-! ### No other text is read -/

/-- A character that is read as a value is the one that is written for it. -/
theorem eq_digit_of_value? {c : Char} {n : Nat} (h : value? c = some n) : n < 64 ∧ c = digit n := by
  simp only [value?] at h
  split at h
  · next hupper =>
    cases h
    refine ⟨by omega, ?_⟩
    rw [digit, if_pos (by omega), Nat.sub_add_cancel hupper.1, Char.ofNat_toNat]
  split at h
  · next hlower =>
    cases h
    refine ⟨by omega, ?_⟩
    rw [digit, if_neg (by omega), if_pos (by omega), Nat.sub_add_cancel (by omega),
      Char.ofNat_toNat]
  split at h
  · next hnumber =>
    cases h
    refine ⟨by omega, ?_⟩
    rw [digit, if_neg (by omega), if_neg (by omega), if_pos (by omega), Nat.add_sub_cancel,
      Char.ofNat_toNat]
  split at h
  · next hplus =>
    cases h
    exact ⟨by omega, hplus⟩
  split at h
  · next hslash =>
    cases h
    exact ⟨by omega, hslash⟩
  · cases h

private theorem toNat_ofNat {n : Nat} (h : n < 256) : (UInt8.ofNat n).toNat = n :=
  UInt8.toNat_ofNat_of_lt' h

private theorem toNat_firstByte {l m : Nat} (hl : l < 64) (hm : m < 64) :
    (UInt8.ofNat (l * 4 + m / 16)).toNat = l * 4 + m / 16 := toNat_ofNat (by omega)

private theorem toNat_secondByte {m n : Nat} (hn : n < 64) :
    (UInt8.ofNat (m % 16 * 16 + n / 4)).toNat = m % 16 * 16 + n / 4 := toNat_ofNat (by omega)

/-- Two characters that are read as a last byte are those that are written for it. -/
theorem eq_digits_of_lastOne? {p q : Char} {bytes : List UInt8} (h : lastOne? p q = some bytes) :
    [p, q, '=', '='] = encode bytes := by
  simp only [lastOne?, Option.bind_eq_bind, Option.bind_eq_some_iff,
    Option.ite_none_right_eq_some] at h
  obtain ⟨m, hm, n, hn, hspare, hbytes⟩ := h
  obtain ⟨hmlt, rfl⟩ := eq_digit_of_value? hm
  obtain ⟨hnlt, rfl⟩ := eq_digit_of_value? hn
  cases hbytes
  have hfirst : (m * 4 + n / 16) / 4 = m := by omega
  have hsecond : (m * 4 + n / 16) % 4 * 16 = n := by omega
  rw [encode, toNat_firstByte hmlt hnlt, hfirst, hsecond]

/-- Three characters that are read as two last bytes are those that are written for them. -/
theorem eq_digits_of_lastTwo? {p q r : Char} {bytes : List UInt8}
    (h : lastTwo? p q r = some bytes) : [p, q, r, '='] = encode bytes := by
  simp only [lastTwo?, Option.bind_eq_bind, Option.bind_eq_some_iff,
    Option.ite_none_right_eq_some] at h
  obtain ⟨l, hl, m, hm, n, hn, hspare, hbytes⟩ := h
  obtain ⟨hllt, rfl⟩ := eq_digit_of_value? hl
  obtain ⟨hmlt, rfl⟩ := eq_digit_of_value? hm
  obtain ⟨hnlt, rfl⟩ := eq_digit_of_value? hn
  cases hbytes
  have hfirst : (l * 4 + m / 16) / 4 = l := by omega
  have hsecond : (l * 4 + m / 16) % 4 * 16 + (m % 16 * 16 + n / 4) / 16 = m := by omega
  have hthird : (m % 16 * 16 + n / 4) % 16 * 4 = n := by omega
  rw [encode, toNat_firstByte hllt hmlt, toNat_secondByte hnlt, hfirst, hsecond, hthird]

/-- Four characters that are read as three bytes are those that are written for them, before
whatever follows. -/
theorem eq_digits_of_three? {p q r s : Char} {bytes : List UInt8}
    (h : three? p q r s = some bytes) (rest : List UInt8) :
    p :: q :: r :: s :: encode rest = encode (bytes ++ rest) := by
  simp only [three?, Option.bind_eq_bind, Option.bind_eq_some_iff] at h
  obtain ⟨l, hl, m, hm, n, hn, o, ho, hbytes⟩ := h
  obtain ⟨hllt, rfl⟩ := eq_digit_of_value? hl
  obtain ⟨hmlt, rfl⟩ := eq_digit_of_value? hm
  obtain ⟨hnlt, rfl⟩ := eq_digit_of_value? hn
  obtain ⟨holt, rfl⟩ := eq_digit_of_value? ho
  cases hbytes
  have hbyte : (UInt8.ofNat (n % 4 * 64 + o)).toNat = n % 4 * 64 + o := toNat_ofNat (by omega)
  have hfirst : (l * 4 + m / 16) / 4 = l := by omega
  have hsecond : (l * 4 + m / 16) % 4 * 16 + (m % 16 * 16 + n / 4) / 16 = m := by omega
  have hthird : (m % 16 * 16 + n / 4) % 16 * 4 + (n % 4 * 64 + o) / 64 = n := by omega
  have hfourth : (n % 4 * 64 + o) % 64 = o := by omega
  simp only [List.cons_append, List.nil_append, encode, toNat_firstByte hllt hmlt,
    toNat_secondByte hnlt, hbyte, hfirst, hsecond, hthird, hfourth]

/-- A text that is read is the one that is written for what is read. -/
theorem eq_encode_of_decode? {text : List Char} {bytes : List UInt8}
    (h : decode? text = some bytes) : text = encode bytes := by
  fun_induction decode? text generalizing bytes with
  | case1 =>
    cases h
    rfl
  | case2 p q => exact eq_digits_of_lastOne? h
  | case3 p q r => exact eq_digits_of_lastTwo? h
  | case4 p q r s rest _ _ ih =>
    simp only [Option.bind_eq_bind, Option.bind_eq_some_iff] at h
    obtain ⟨head, hhead, tail, htail, hbytes⟩ := h
    cases hbytes
    rw [ih htail, eq_digits_of_three? hhead]
  | case5 => cases h

/-- Bytes are read from the text that is written for them, and from no other one. -/
theorem decode?_eq_some_iff {text : List Char} {bytes : List UInt8} :
    decode? text = some bytes ↔ text = encode bytes :=
  ⟨eq_encode_of_decode?, fun h => h ▸ decode?_encode bytes⟩

/-! ### What readable texts look like -/

/-- The characters that stand for the values below 64, in the order of the values. -/
def alphabet : List Char :=
  ['A', 'B', 'C', 'D', 'E', 'F', 'G', 'H', 'I', 'J', 'K', 'L', 'M',
    'N', 'O', 'P', 'Q', 'R', 'S', 'T', 'U', 'V', 'W', 'X', 'Y', 'Z',
    'a', 'b', 'c', 'd', 'e', 'f', 'g', 'h', 'i', 'j', 'k', 'l', 'm',
    'n', 'o', 'p', 'q', 'r', 's', 't', 'u', 'v', 'w', 'x', 'y', 'z',
    '0', '1', '2', '3', '4', '5', '6', '7', '8', '9', '+', '/']

/-- Characters of the alphabet and as much padding as fills the last group of four, two at most. Of
the last character before the padding, the bits that are part of no byte are zero. -/
def IsCanonical (text : List Char) : Prop :=
  ∃ digits padding, text = digits ++ List.replicate padding '=' ∧ (∀ c ∈ digits, c ∈ alphabet) ∧
    padding ≤ 2 ∧ text.length % 4 = 0 ∧ ∀ c ∈ digits.getLast?, alphabet.idxOf c % 4 ^ padding = 0

theorem value?_of_mem_alphabet : ∀ c ∈ alphabet, value? c = some (alphabet.idxOf c) := by
  have hall : alphabet.all fun c => value? c == some (alphabet.idxOf c) := by decide +kernel
  intro c hc
  exact eq_of_beq (List.all_eq_true.mp hall c hc)

/-- The character for a value has that position in the alphabet. -/
theorem idxOf_digit : ∀ n < 64, digit n ∈ alphabet ∧ alphabet.idxOf (digit n) = n := by
  decide +kernel

theorem pad_notMem_alphabet : '=' ∉ alphabet := by decide

/-- A group of four characters of the alphabet before a text of the right shape keeps that shape. -/
theorem IsCanonical.cons {p q r s : Char} {text : List Char} (h : IsCanonical text)
    (hgroup : ∀ c ∈ [p, q, r, s], c ∈ alphabet) : IsCanonical (p :: q :: r :: s :: text) := by
  obtain ⟨digits, padding, rfl, hdigits, hpadding, hlength, hspare⟩ := h
  refine ⟨[p, q, r, s] ++ digits, padding, rfl, ?_, hpadding, ?_, ?_⟩
  · intro c hc
    exact (List.mem_append.mp hc).elim (hgroup c) (hdigits c)
  · simp only [List.length_cons]
    omega
  · cases digits with
    | nil =>
      -- Nothing but the padding follows, so there is none.
      simp only [List.nil_append, List.length_replicate] at hlength
      obtain rfl : padding = 0 := by omega
      exact fun c _ => Nat.mod_one _
    | cons d digits => simpa using hspare

/-- Bytes are written as a text of the right shape. -/
theorem isCanonical_encode (bytes : List UInt8) : IsCanonical (encode bytes) := by
  fun_induction encode bytes with
  | case1 => exact ⟨[], 0, rfl, by simp, by simp, rfl, by simp⟩
  | case2 a =>
    have ha := a.toNat_lt
    have hfirst := idxOf_digit (a.toNat / 4) (by omega)
    have hsecond := idxOf_digit (a.toNat % 4 * 16) (by omega)
    refine ⟨[digit (a.toNat / 4), digit (a.toNat % 4 * 16)], 2, rfl, ?_, by simp, by simp, ?_⟩
    · simp [hfirst.1, hsecond.1]
    · simp [hsecond.2]
  | case3 a b =>
    have ha := a.toNat_lt
    have hb := b.toNat_lt
    have hfirst := idxOf_digit (a.toNat / 4) (by omega)
    have hsecond := idxOf_digit (a.toNat % 4 * 16 + b.toNat / 16) (by omega)
    have hthird := idxOf_digit (b.toNat % 16 * 4) (by omega)
    refine ⟨[digit (a.toNat / 4), digit (a.toNat % 4 * 16 + b.toNat / 16),
      digit (b.toNat % 16 * 4)], 1, rfl, ?_, by simp, by simp, ?_⟩
    · simp [hfirst.1, hsecond.1, hthird.1]
    · simp [hthird.2]
  | case4 a b c rest ih =>
    have ha := a.toNat_lt
    have hb := b.toNat_lt
    have hc := c.toNat_lt
    have hfirst := idxOf_digit (a.toNat / 4) (by omega)
    have hsecond := idxOf_digit (a.toNat % 4 * 16 + b.toNat / 16) (by omega)
    have hthird := idxOf_digit (b.toNat % 16 * 4 + c.toNat / 64) (by omega)
    have hfourth := idxOf_digit (c.toNat % 64) (by omega)
    apply ih.cons
    simp [hfirst.1, hsecond.1, hthird.1, hfourth.1]

/-- Characters of the alphabet with the padding that they need are read. -/
theorem exists_decode? (digits : List Char) {padding : Nat} (hdigits : ∀ c ∈ digits, c ∈ alphabet)
    (hpadding : padding ≤ 2) (hlength : (digits.length + padding) % 4 = 0)
    (hspare : ∀ c ∈ digits.getLast?, alphabet.idxOf c % 4 ^ padding = 0) :
    ∃ bytes, decode? (digits ++ List.replicate padding '=') = some bytes := by
  match digits with
  | [] =>
    obtain rfl : padding = 0 := by simp at hlength; omega
    exact ⟨[], rfl⟩
  | [p] => simp at hlength; omega
  | [p, q] =>
    obtain rfl : padding = 2 := by simp at hlength; omega
    have hp := value?_of_mem_alphabet p (hdigits p (by simp))
    have hq := value?_of_mem_alphabet q (hdigits q (by simp))
    have hzero : alphabet.idxOf q % 16 = 0 := hspare q rfl
    apply Exists.intro
    change lastOne? p q = _
    rw [lastOne?, hp, hq]
    exact if_pos hzero
  | [p, q, r] =>
    obtain rfl : padding = 1 := by simp at hlength; omega
    have hp := value?_of_mem_alphabet p (hdigits p (by simp))
    have hq := value?_of_mem_alphabet q (hdigits q (by simp))
    have hr := value?_of_mem_alphabet r (hdigits r (by simp))
    have hzero : alphabet.idxOf r % 4 = 0 := hspare r rfl
    have hne : r ≠ '=' := fun h => pad_notMem_alphabet (h ▸ hdigits r (by simp))
    apply Exists.intro
    change decode? [p, q, r, '='] = _
    rw [decode?, lastTwo?, hp, hq, hr]
    · exact if_pos hzero
    · exact hne
  | p :: q :: r :: s :: digits =>
    have hp := value?_of_mem_alphabet p (hdigits p (by simp))
    have hq := value?_of_mem_alphabet q (hdigits q (by simp))
    have hr := value?_of_mem_alphabet r (hdigits r (by simp))
    have hs := value?_of_mem_alphabet s (hdigits s (by simp))
    have hne : s ≠ '=' := fun h => pad_notMem_alphabet (h ▸ hdigits s (by simp))
    have hrest : ∃ bytes, decode? (digits ++ List.replicate padding '=') = some bytes := by
      apply exists_decode? digits (fun c hc => hdigits c (by simp [hc])) hpadding
      · simp only [List.length_cons] at hlength
        omega
      · intro c hc
        cases digits with
        | nil => cases hc
        | cons d digits => exact hspare c (by simpa using hc)
    obtain ⟨tail, htail⟩ := hrest
    apply Exists.intro
    simp only [List.cons_append]
    rw [decode?_cons hne, three?, hp, hq, hr, hs, htail]
    rfl

/-- The texts that are read are those of the right shape. -/
theorem exists_decode?_iff {text : List Char} :
    (∃ bytes, decode? text = some bytes) ↔ IsCanonical text := by
  constructor
  · rintro ⟨bytes, h⟩
    rw [eq_encode_of_decode? h]
    exact isCanonical_encode bytes
  · rintro ⟨digits, padding, rfl, hdigits, hpadding, hlength, hspare⟩
    rw [List.length_append, List.length_replicate] at hlength
    exact exists_decode? digits hdigits hpadding hlength hspare

end ProxyLink.Base64
