import ProxyLink.Proofs.Json.Grammar

/-!
# Literals keep to the grammar

A text is written as a literal one character at a time, each as one part. Main statement:
`isString_literal`.
-/

namespace ProxyLink.Json

/-- The part that a character of a text is written as: a unit if it is a control character for which
there is no letter. -/
def Piece.ofChar (c : Char) : Piece :=
  if c.toNat < 0x20 ∧ c ∉ ['\x08', '\x0c', '\n', '\r', '\t'] then .unit c.toNat else .char c

/-- What is written for a character is its part. -/
theorem isPiece_escape (c : Char) : IsPiece (.ofChar c) (escape c) := by
  unfold escape
  split
  · next h => subst h; exact .letter (by decide)
  split
  · next h => subst h; exact .letter (by decide)
  split
  · next h => subst h; exact .letter (by decide)
  split
  · next h => subst h; exact .letter (by decide)
  split
  · next h => subst h; exact .letter (by decide)
  split
  · next h => subst h; exact .letter (by decide)
  split
  · next h => subst h; exact .letter (by decide)
  next hquote hbackslash hb hf hn hr ht =>
  split
  · next hcontrol =>
    have hdigit : ∀ n < 16, IsHexDigit (Nat.digitChar n) n := fun n hn => ⟨hn, .inl rfl⟩
    have hunit := IsPiece.unit (hdigit 0 (by decide)) (hdigit 0 (by decide))
      (hdigit (c.toNat / 16) (by omega)) (hdigit (c.toNat % 16) (by omega))
    have hcode : 16 * (16 * (16 * 0 + 0) + c.toNat / 16) + c.toNat % 16 = c.toNat := by omega
    rw [hcode] at hunit
    rw [Piece.ofChar, if_pos ⟨hcontrol, by simp [hb, hf, hn, hr, ht]⟩]
    exact hunit
  · next hplain =>
    rw [Piece.ofChar, if_neg (fun h => hplain h.1)]
    exact .plain hquote hbackslash (by omega)

theorem arePieces_escape (text : List Char) :
    ArePieces (text.map Piece.ofChar) (text.flatMap escape) := by
  induction text with
  | nil => exact .nil
  | cons c rest ih => exact .cons (isPiece_escape c) ih

/-- The parts that a text is written as denote that text. -/
theorem denotes_ofChar (text : List Char) : Denotes (text.map Piece.ofChar) text := by
  induction text with
  | nil => exact .nil
  | cons c rest ih =>
    rw [List.map_cons, Piece.ofChar]
    split
    · exact .unit (by omega) ih
    · exact .char ih

/-- The literal of a text denotes that text. -/
theorem isString_literal (text : String) : IsString (some text) (literal text) :=
  .whole (arePieces_escape text.toList) (denotes_ofChar text.toList)

end ProxyLink.Json
