import Mathlib.Algebra.Group.Int.Defs
import Mathlib.Data.List.Induction
import ProxyLink.Property
import ProxyLink.Proofs.Text.Decimal

/-!
# Numbers read exactly

The texts that are read as numbers, described without the reader: `IsNumeral` relates a run of
digits to the number that it writes, and `IsUnsigned` and `IsSigned` allow a sign before it. A span
and a 64-bit integer are read from such a text exactly when the number is in range, and from no
other one. What is then written for the value differs from the text in a plus sign, leading zeros
and the sign of zero at most (`Trims`). Main statement: `numbers_read_exactly`.
-/

namespace ProxyLink

namespace Decimal

/-- Decimal digits, at least one, and the number that they write, most significant digit first. -/
inductive IsNumeral : List Char → Nat → Prop where
  | digit {d : Nat} : d < 10 → IsNumeral [Nat.digitChar d] d
  | append {digits : List Char} {n d : Nat} :
    IsNumeral digits n → d < 10 → IsNumeral (digits ++ [Nat.digitChar d]) (10 * n + d)

/-- A numeral, perhaps with a plus sign before it. -/
inductive IsUnsigned : List Char → Nat → Prop where
  | plain {digits : List Char} {n : Nat} : IsNumeral digits n → IsUnsigned digits n
  | plus {digits : List Char} {n : Nat} : IsNumeral digits n → IsUnsigned ('+' :: digits) n

/-- A numeral, perhaps with a sign before it. -/
inductive IsSigned : List Char → Int → Prop where
  | plain {digits : List Char} {n : Nat} : IsNumeral digits n → IsSigned digits n
  | plus {digits : List Char} {n : Nat} : IsNumeral digits n → IsSigned ('+' :: digits) n
  | minus {digits : List Char} {n : Nat} : IsNumeral digits n → IsSigned ('-' :: digits) (-n)

/-- A text, and what is left of it without a plus sign, leading zeros or the sign of zero. -/
inductive Trims : List Char → List Char → Prop where
  | plain (zeros : Nat) (digits : List Char) : Trims (List.replicate zeros '0' ++ digits) digits
  | plus (zeros : Nat) (digits : List Char) :
    Trims ('+' :: (List.replicate zeros '0' ++ digits)) digits
  | minus (zeros : Nat) (digits : List Char) :
    Trims ('-' :: (List.replicate zeros '0' ++ digits)) ('-' :: digits)
  | minusZero (zeros : Nat) : Trims ('-' :: (List.replicate zeros '0' ++ ['0'])) ['0']

variable {text digits : List Char} {n : Nat}

/-! ### Digits -/

theorem IsNumeral.isDigit (h : IsNumeral digits n) : ∀ c ∈ digits, c.isDigit = true := by
  induction h with
  | digit hd => simpa [Nat.isDigit_digitChar] using hd
  | append _ hd ih =>
    intro c hc
    rcases List.mem_append.mp hc with hc | hc
    · exact ih c hc
    · rw [List.mem_singleton.mp hc, Nat.isDigit_digitChar]
      exact decide_eq_true hd

theorem IsNumeral.ne_nil (h : IsNumeral digits n) : digits ≠ [] := by
  cases h <;> simp

/-- A digit behind others adds its value to ten times theirs. -/
theorem value_append_digit (digits : List Char) (c : Char) :
    value (digits ++ [c]) = 10 * value digits + (c.toNat - 48) := by
  simp [value]

/-- The reader of digits gives a numeral its number. -/
theorem IsNumeral.value_eq (h : IsNumeral digits n) : value digits = n := by
  induction h with
  | digit hd => simp [value, Nat.toNat_digitChar_of_lt_ten hd]
  | append _ hd ih =>
    rw [value_append_digit, ih, Nat.toNat_digitChar_of_lt_ten hd]
    omega

theorem isNumeral_value (hne : digits ≠ []) (hdigits : ∀ c ∈ digits, c.isDigit = true) :
    IsNumeral digits (value digits) := by
  induction digits using List.reverseRecOn with
  | nil => exact absurd rfl hne
  | append_singleton rest c ih =>
    obtain ⟨hlt, hc⟩ := digitChar_of_isDigit (hdigits c (by simp))
    rw [value_append_digit]
    by_cases hnil : rest = []
    · subst hnil
      simpa [value, hc] using IsNumeral.digit hlt
    · have hrest := ih hnil fun c hc => hdigits c (by simp [hc])
      simpa only [hc] using hrest.append hlt

/-- A number is read from its numerals and from nothing else. -/
theorem natural?_eq_some_iff : natural? text = some n ↔ IsNumeral text n := by
  unfold natural?
  constructor
  · intro h
    split at h
    · next hdigits =>
      cases h
      exact isNumeral_value hdigits.1 (List.all_eq_true.mp hdigits.2)
    · cases h
  · intro h
    rw [if_pos ⟨h.ne_nil, List.all_eq_true.mpr h.isDigit⟩, h.value_eq]

/-! ### Signs -/

/-- What starts with a sign is no numeral. -/
theorem not_isNumeral_cons {c : Char} (hc : c.isDigit = false) : ¬IsNumeral (c :: digits) n := by
  intro h
  have hdigit := h.isDigit c (by simp)
  simp [hc] at hdigit

/-- A number is read from its numerals with and without a plus sign, and from nothing else. -/
theorem unsigned?_eq_some_iff : unsigned? text = some n ↔ IsUnsigned text n := by
  unfold unsigned?
  split
  · next digits =>
    rw [natural?_eq_some_iff]
    constructor
    · exact .plus
    · intro h
      cases h with
      | plain h => exact absurd h (not_isNumeral_cons (by decide))
      | plus h => exact h
  · next hplus =>
    rw [natural?_eq_some_iff]
    constructor
    · exact .plain
    · intro h
      cases h with
      | plain h => exact h
      | plus h => exact absurd rfl (hplus _)

/-- An integer is read from its numerals with the signs that they may have, and from nothing
else. -/
theorem signed?_eq_some_iff {n : Int} : signed? text = some n ↔ IsSigned text n := by
  unfold signed?
  split
  · next digits =>
    simp only [Option.map_eq_some_iff, natural?_eq_some_iff]
    constructor
    · rintro ⟨n, h, rfl⟩
      exact .plus h
    · intro h
      cases h with
      | plain h => exact absurd h (not_isNumeral_cons (by decide))
      | plus h => exact ⟨_, h, rfl⟩
  · next digits =>
    simp only [Option.map_eq_some_iff, Option.bind_eq_bind, Option.bind_eq_some_iff,
      natural?_eq_some_iff, Option.pure_def, Option.some.injEq]
    constructor
    · rintro ⟨_, ⟨n, h, rfl⟩, rfl⟩
      exact .minus h
    · intro h
      cases h with
      | plain h => exact absurd h (not_isNumeral_cons (by decide))
      | minus h => exact ⟨_, ⟨_, h, rfl⟩, rfl⟩
  · next hplus hminus =>
    simp only [Option.map_eq_some_iff, natural?_eq_some_iff]
    constructor
    · rintro ⟨n, h, rfl⟩
      exact .plain h
    · intro h
      cases h with
      | plain h => exact ⟨_, h, rfl⟩
      | plus h => exact absurd rfl (hplus _)
      | minus h => exact absurd rfl (hminus _)

/-- A 64-bit integer is read from the numerals of its number. -/
theorem int64?_eq_some_iff {i : Int64} : int64? text = some i ↔ IsSigned text i.toInt := by
  rw [int64?, ← signed?_eq_some_iff]
  simp only [Option.bind_eq_some_iff, Option.ite_none_right_eq_some, Option.some.injEq]
  constructor
  · rintro ⟨n, h, ⟨hlow, hhigh⟩, rfl⟩
    rw [Int64.toInt_ofInt_of_le hlow hhigh, h]
  · intro h
    exact ⟨i.toInt, h, ⟨i.le_toInt, i.toInt_lt⟩, Int64.ofInt_toInt i⟩

/-! ### Numerals written again -/

/-- A numeral is that of its number behind zeros. -/
theorem IsNumeral.eq_zeros_append (h : IsNumeral digits n) :
    ∃ zeros, digits = List.replicate zeros '0' ++ Nat.toDigits 10 n := by
  induction h with
  | digit hd => exact ⟨0, by simp [Nat.toDigits_of_lt_base hd]⟩
  | @append digits n d _ hd ih =>
    obtain ⟨zeros, rfl⟩ := ih
    by_cases hn : n = 0
    · -- All digits before are zeros, and stay before a number of one digit.
      subst hn
      refine ⟨zeros + 1, ?_⟩
      rw [Nat.toDigits_of_lt_base (by decide : 0 < 10), Nat.mul_zero, Nat.zero_add,
        Nat.toDigits_of_lt_base hd, List.replicate_succ']
      rfl
    · refine ⟨zeros, ?_⟩
      rw [← Nat.toDigits_append_toDigits (by decide) (Nat.pos_of_ne_zero hn) hd,
        Nat.toDigits_of_lt_base hd, List.append_assoc]

/-- The numeral that is written for a number is a text of it, trimmed. -/
theorem IsUnsigned.trims (h : IsUnsigned text n) : Trims text (ofNat n).toList := by
  rw [toList_ofNat]
  cases h with
  | plain h =>
    obtain ⟨zeros, rfl⟩ := h.eq_zeros_append
    exact .plain zeros _
  | plus h =>
    obtain ⟨zeros, rfl⟩ := h.eq_zeros_append
    exact .plus zeros _

/-- The numeral that is written for an integer is a text of it, trimmed. -/
theorem IsSigned.trims {n : Int} (h : IsSigned text n) : Trims text (ofInt n).toList := by
  cases h with
  | plain h => exact (IsUnsigned.plain h).trims
  | plus h => exact (IsUnsigned.plus h).trims
  | @minus digits n h =>
    obtain ⟨zeros, rfl⟩ := h.eq_zeros_append
    cases n with
    | zero => exact .minusZero zeros
    | succ n =>
      change Trims _ ("-" ++ ofNat (n + 1)).toList
      rw [String.toList_append, toList_ofNat]
      exact .minus zeros _

end Decimal

open Decimal

/-! ### Spans and integers -/

/-- A span is made of a number of nanoseconds exactly when its seconds have 64 bits, and nothing is
lost: the quotient and the rest of the division are its seconds and what it has beyond them. -/
theorem Duration.ofNat?_eq_some_iff {n : Nat} {d : Duration} :
    Duration.ofNat? n = some d ↔ n ≤ 18446744073709551615999999999 ∧
      d.seconds = n / 1000000000 ∧ d.subsecond = n % 1000000000 := by
  rw [Duration.ofNat?, Duration.seconds, Duration.subsecond]
  constructor
  · intro h
    split at h
    · cases h
      refine ⟨?_, rfl, rfl⟩
      omega
    · cases h
  · rintro ⟨hn, hseconds, hsubsecond⟩
    rw [dif_pos (by omega)]
    cases d
    simp only at hseconds hsubsecond
    simp only [Option.some.injEq, Duration.mk.injEq]
    omega

theorem Duration.eq_of_ofNat? {n : Nat} {d : Duration} (h : Duration.ofNat? n = some d) :
    n = d.nanoseconds := by
  obtain ⟨-, hseconds, hsubsecond⟩ := Duration.ofNat?_eq_some_iff.mp h
  simp only [Duration.seconds, Duration.subsecond] at hseconds hsubsecond
  omega

/-- A span is read from a text exactly when the text is a numeral, perhaps with a plus sign before
it, of at most as many nanoseconds as 64 bits of seconds and less than one more make up, and the
span has the seconds and nanoseconds of that number; a 64-bit integer exactly when the text is a
numeral, perhaps with a sign before it, of a number with 64 bits, and it is that number. In both
cases any number of digits is read. What is written for the value is the text without a plus sign,
leading zeros and the sign of zero. -/
theorem numbers_read_exactly (text : String) :
    ((∃ d : Duration, Property.ofText? text = some d) ↔
      ∃ n, IsUnsigned text.toList n ∧ n ≤ 18446744073709551615999999999) ∧
    (∀ d : Duration, Property.ofText? text = some d ↔
      ∃ n, IsUnsigned text.toList n ∧ n ≤ 18446744073709551615999999999 ∧
        d.seconds = n / 1000000000 ∧ d.subsecond = n % 1000000000) ∧
    ((∃ i : Int64, Property.ofText? text = some i) ↔
      ∃ n, IsSigned text.toList n ∧ -2 ^ 63 ≤ n ∧ n ≤ 2 ^ 63 - 1) ∧
    (∀ i : Int64, Property.ofText? text = some i ↔ IsSigned text.toList i.toInt) ∧
    (∀ d : Duration, Property.ofText? text = some d →
      Trims text.toList (Property.toText d).toList) ∧
    ∀ i : Int64, Property.ofText? text = some i → Trims text.toList (Property.toText i).toList := by
  have hduration : ∀ d : Duration, Property.ofText? text = some d ↔
      ∃ n, IsUnsigned text.toList n ∧ Duration.ofNat? n = some d := by
    intro d
    change (unsigned? text.toList).bind Duration.ofNat? = some d ↔ _
    simp only [Option.bind_eq_some_iff, unsigned?_eq_some_iff]
  have hint64 : ∀ i : Int64, Property.ofText? text = some i ↔ IsSigned text.toList i.toInt :=
    fun i => int64?_eq_some_iff
  refine ⟨?_, ?_, ?_, hint64, ?_, ?_⟩
  · constructor
    · rintro ⟨d, hd⟩
      obtain ⟨n, hn, hd⟩ := (hduration d).mp hd
      exact ⟨n, hn, (Duration.ofNat?_eq_some_iff.mp hd).1⟩
    · rintro ⟨n, hn, hle⟩
      let d : Duration := ⟨n, by omega⟩
      exact ⟨d, (hduration d).mpr ⟨n, hn, Duration.ofNat?_eq_some_iff.mpr ⟨hle, rfl, rfl⟩⟩⟩
  · intro d
    simp only [hduration, Duration.ofNat?_eq_some_iff]
  · constructor
    · rintro ⟨i, hi⟩
      have hhigh := i.toInt_lt
      exact ⟨i.toInt, (hint64 i).mp hi, i.le_toInt, by omega⟩
    · rintro ⟨n, hn, hlow, hhigh⟩
      have hvalue : (Int64.ofInt n).toInt = n := Int64.toInt_ofInt_of_le hlow (by omega)
      exact ⟨Int64.ofInt n, (hint64 _).mpr (hvalue.symm ▸ hn)⟩
  · intro d hd
    obtain ⟨n, hn, hd⟩ := (hduration d).mp hd
    rw [Duration.eq_of_ofNat? hd] at hn
    exact hn.trims
  · intro i hi
    exact ((hint64 i).mp hi).trims

/-- The longest span, with a plus sign and leading zeros, and one nanosecond more. -/
example :
    (Property.ofText? "+0018446744073709551615999999999" : Option Duration).map
        (fun d => (d.seconds, d.subsecond)) = some (18446744073709551615, 999999999) ∧
      (Property.ofText? "18446744073709551616000000000" : Option Duration) = none := by
  decide

end ProxyLink
