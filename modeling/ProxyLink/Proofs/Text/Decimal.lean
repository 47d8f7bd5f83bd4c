import ProxyLink.Text.Decimal

/-!
# Decimal numerals read back

Main statements: `int64?_ofInt64` and `unsigned?_ofNat`. The numeral of a number reads as that
number.
-/

namespace ProxyLink.Decimal

/-- A digit is the character for its value. -/
theorem digitChar_of_isDigit {c : Char} (h : c.isDigit = true) :
    c.toNat - 48 < 10 ∧ Nat.digitChar (c.toNat - 48) = c := by
  obtain ⟨hlow, hhigh⟩ := Char.isDigit_iff_toNat.mp h
  simp only [Char.reduceToNat] at hlow hhigh
  have hlt : c.toNat - 48 < 10 := by omega
  refine ⟨hlt, Char.toNat_inj.mp ?_⟩
  rw [Nat.toNat_digitChar_of_lt_ten hlt]
  omega

theorem toList_ofNat (n : Nat) : (ofNat n).toList = Nat.toDigits 10 n := by
  rw [ofNat, Nat.toString_eq_repr, Nat.toList_repr]

theorem natural?_toDigits (n : Nat) : natural? (Nat.toDigits 10 n) = some n := by
  have hd : (Nat.toDigits 10 n).all Char.isDigit := by
    rw [List.all_eq_true]
    intro c hc
    exact Nat.isDigit_of_mem_toDigits (by decide) (by decide) hc
  have hv : value (Nat.toDigits 10 n) = n := by
    rw [value]
    exact Nat.ofDigitChars_eq_foldl.symm.trans Nat.ofDigitChars_ten_toDigits
  rw [natural?, if_pos ⟨Nat.toDigits_ne_nil, hd⟩, hv]

/-- No digit of a natural number is a sign. -/
theorem ne_sign_of_mem_toDigits {n : Nat} {c : Char} (hc : c ∈ Nat.toDigits 10 n) :
    c ≠ '+' ∧ c ≠ '-' := by
  have hd := Nat.isDigit_of_mem_toDigits (by decide) (by decide) hc
  constructor
  · rintro rfl
    revert hd
    decide
  · rintro rfl
    revert hd
    decide

private theorem signed?_toDigits (n : Nat) : signed? (Nat.toDigits 10 n) = some (n : Int) := by
  unfold signed?
  split
  · next digits he => exact absurd rfl (ne_sign_of_mem_toDigits (he ▸ List.mem_cons_self)).1
  · next digits he => exact absurd rfl (ne_sign_of_mem_toDigits (he ▸ List.mem_cons_self)).2
  · rw [natural?_toDigits]
    rfl

/-- The numeral of a natural number reads as it. -/
theorem unsigned?_ofNat (n : Nat) : unsigned? (ofNat n).toList = some n := by
  rw [toList_ofNat]
  unfold unsigned?
  split
  · next digits he => exact absurd rfl (ne_sign_of_mem_toDigits (he ▸ List.mem_cons_self)).1
  · exact natural?_toDigits n

theorem signed?_ofInt (n : Int) : signed? (ofInt n).toList = some n := by
  cases n with
  | ofNat n =>
    rw [ofInt, toList_ofNat, signed?_toDigits]
    rfl
  | negSucc n =>
    have hl : (ofInt (.negSucc n)).toList = '-' :: Nat.toDigits 10 (n + 1) := by
      rw [ofInt, String.toList_append, toList_ofNat]
      rfl
    rw [hl, signed?, natural?_toDigits]
    rfl

theorem int64?_ofInt64 (n : Int64) : int64? (ofInt64 n).toList = some n := by
  have hl := n.le_toInt
  have hu := n.toInt_lt
  rw [int64?, ofInt64, signed?_ofInt]
  change (if FitsInt64 n.toInt then _ else _) = _
  rw [if_pos ⟨hl, hu⟩, Int64.ofInt_toInt]

end ProxyLink.Decimal
