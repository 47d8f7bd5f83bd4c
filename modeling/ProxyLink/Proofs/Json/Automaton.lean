import ProxyLink.Proofs.Json.Grammar
import ProxyLink.Proofs.Text.Decimal
import ProxyLink.Proofs.Text.Utf8

/-!
# Tokens read from their texts

The automaton takes a text apart as the grammar puts it together. `Moves` says what a text does to
it within a token. `Completes` says that a text completes some tokens whatever follows it, and
`Closes` that it does so before anything but more of a number, so that what is written one after the
other is read one after the other. Main statements: `IsNumber.closes` and `IsString.completes`.
-/

namespace ProxyLink.Json

/-! ### Texts that complete tokens -/

namespace Scan

variable {state next last : Scan} {c : Char} {text text' : List Char}

/-- A character moves the automaton, and completes tokens before all others. -/
theorem run_step {toks : List Token} (h : state.step c = some (next, toks)) (rest : List Char) :
    state.run (c :: rest) = (next.run rest).map (toks ++ ·) := by
  rw [run, h]
  exact Option.map_eq_bind.symm

theorem run_cons (h : state.step c = some (next, [])) (rest : List Char) :
    state.run (c :: rest) = next.run rest :=
  (run_step h rest).trans Option.map_id'

/-- A text moves the automaton from one state to another and completes no token, whatever
follows. -/
def Moves (state : Scan) (text : List Char) (next : Scan) : Prop :=
  ∀ rest, state.run (text ++ rest) = next.run rest

theorem Moves.refl (state : Scan) : state.Moves [] state := fun _ => rfl

theorem Moves.cons (h : state.step c = some (next, [])) (h' : next.Moves text last) :
    state.Moves (c :: text) last :=
  fun rest => (run_cons h (text ++ rest)).trans (h' rest)

theorem Moves.append (h : state.Moves text next) (h' : next.Moves text' last) :
    state.Moves (text ++ text') last := by
  intro rest
  rw [List.append_assoc, h, h']

end Scan

/-- A text completes tokens: between tokens, it is read as these, whatever follows. -/
def Completes (text : List Char) (toks : List Token) : Prop :=
  ∀ rest, Scan.between.run (text ++ rest) = (Scan.between.run rest).map (toks ++ ·)

/-- No number goes on with a text. -/
def Ends (rest : List Char) : Prop :=
  ∀ c ∈ rest.head?, c.isDigit = false ∧ c ∉ ['.', 'e', 'E']

/-- A text completes tokens if no number goes on behind it. -/
def Closes (text : List Char) (toks : List Token) : Prop :=
  ∀ rest, Ends rest → Scan.between.run (text ++ rest) = (Scan.between.run rest).map (toks ++ ·)

section Tokens

variable {text text' : List Char} {toks toks' : List Token} {c : Char}

/-- Tokens before others, and then more before these, are all of them before the others. -/
theorem map_append_append (toks toks' : List Token) (read : Option (List Token)) :
    (read.map (toks' ++ ·)).map (toks ++ ·) = read.map (toks ++ toks' ++ ·) := by
  rw [Option.map_map]
  congr 1
  funext more
  exact (List.append_assoc ..).symm

theorem Completes.append (h : Completes text toks) (h' : Completes text' toks') :
    Completes (text ++ text') (toks ++ toks') := by
  intro rest
  rw [List.append_assoc, h, h', map_append_append]

theorem Completes.closes (h : Completes text toks) : Closes text toks := fun rest _ => h rest

theorem Completes.append_closes (h : Completes text toks) (h' : Closes text' toks') :
    Closes (text ++ text') (toks ++ toks') := by
  intro rest hrest
  rw [List.append_assoc, h, h' rest hrest, map_append_append]

theorem Closes.append (h : Closes text toks) (h' : Closes text' toks')
    (hends : ∀ rest, Ends rest → Ends (text' ++ rest)) :
    Closes (text ++ text') (toks ++ toks') := by
  intro rest hrest
  rw [List.append_assoc, h _ (hends rest hrest), h' rest hrest, map_append_append]

theorem Closes.append_completes (h : Closes text toks) (h' : Completes text' toks')
    (hends : ∀ rest, Ends (text' ++ rest)) : Completes (text ++ text') (toks ++ toks') := by
  intro rest
  rw [List.append_assoc, h _ (hends rest), h', map_append_append]

/-- A text that closes tokens has these tokens. -/
theorem Closes.tokens_eq (h : Closes text toks) : tokens text = some toks := by
  have hrun := h [] (by simp [Ends])
  rw [List.append_nil] at hrun
  rw [tokens, hrun]
  exact congrArg some (List.append_nil toks)

/-- A text that moves the automaton into a token which one more character completes. -/
theorem Scan.Moves.completes {state : Scan} (h : Scan.between.Moves text state)
    (hlast : state.step c = some (.between, toks)) : Completes (text ++ [c]) toks := by
  intro rest
  rw [List.append_assoc, h]
  exact Scan.run_step hlast rest

/-- A sign that is a token by itself completes that token. -/
theorem completes_sign {tok : Token} (h : Scan.between.step c = some (.between, [tok])) :
    Completes [c] [tok] := Scan.run_step h

theorem completes_blanks (h : AreBlanks text) : Completes text [] := by
  have hstep : ∀ c ∈ [' ', '\t', '\n', '\r'], Scan.between.step c = some (.between, []) := by
    simp [Scan.step, Scan.start, isSpace]
  have hmoves : Scan.between.Moves text .between := by
    induction text with
    | nil => exact .refl _
    | cons c rest ih =>
      apply Scan.Moves.cons (hstep c (h c (by simp)))
      exact ih fun d hd => h d (by simp [hd])
  intro rest
  rw [hmoves]
  exact Option.map_id'.symm

/-- No number goes on with a character that is no part of any. -/
theorem ends_cons (h : c.isDigit = false ∧ c ∉ ['.', 'e', 'E']) (rest : List Char) :
    Ends (c :: rest) := by
  intro d hd
  cases hd
  exact h

theorem ends_blanks (h : AreBlanks text) {rest : List Char} (hrest : Ends rest) :
    Ends (text ++ rest) := by
  cases text with
  | nil => exact hrest
  | cons c more =>
    have hends : ∀ c ∈ [' ', '\t', '\n', '\r'], c.isDigit = false ∧ c ∉ ['.', 'e', 'E'] := by
      simp
    exact ends_cons (hends c (h c (by simp))) (more ++ rest)

theorem completes_null : Completes ['n', 'u', 'l', 'l'] [.null] :=
  (Scan.Moves.cons rfl (.cons rfl (.cons rfl (.refl _)))).completes rfl

theorem completes_true : Completes ['t', 'r', 'u', 'e'] [.bool true] :=
  (Scan.Moves.cons rfl (.cons rfl (.cons rfl (.refl _)))).completes rfl

theorem completes_false : Completes ['f', 'a', 'l', 's', 'e'] [.bool false] :=
  (Scan.Moves.cons rfl (.cons rfl (.cons rfl (.cons rfl (.refl _))))).completes rfl

end Tokens

/-! ### Numbers -/

section Numbers

variable {phase next : NumberPhase} {text : List Char} {c : Char}

/-- A number goes on with a character. -/
theorem step_number (h : phase.next c = some next) :
    (Scan.number phase).step c = some (.number next, []) := by
  simp only [Scan.step, h]

/-- Digits keep a number in a phase that each of them keeps. -/
theorem moves_digits (hdigits : ∀ c ∈ text, c.isDigit = true)
    (h : ∀ c, c.isDigit = true → phase.next c = some phase) :
    (Scan.number phase).Moves text (.number phase) := by
  induction text with
  | nil => exact .refl _
  | cons c rest ih =>
    apply Scan.Moves.cons (step_number (h c (hdigits c (by simp))))
    exact ih fun d hd => hdigits d (by simp [hd])

/-- Digits move a number on to the phase to which the first one moves it. -/
theorem AreDigits.moves (hdigits : AreDigits text)
    (hfirst : ∀ c, c.isDigit = true → phase.next c = some next)
    (hrest : ∀ c, c.isDigit = true → next.next c = some next) :
    (Scan.number phase).Moves text (.number next) := by
  obtain ⟨hne, hdigits⟩ := hdigits
  cases text with
  | nil => exact absurd rfl hne
  | cons c rest =>
    apply Scan.Moves.cons (step_number (hfirst c (hdigits c (by simp))))
    exact moves_digits (fun d hd => hdigits d (by simp [hd])) hrest

/-- A digit other than zero starts the whole part of a number. -/
theorem start_of_isDigit (hc : c.isDigit = true) (hne : c ≠ '0') :
    Scan.start c = some (.number .whole, []) ∧ NumberPhase.minus.next c = some .whole := by
  have hstart : ∀ d < 10, d ≠ 0 →
      Scan.start (Nat.digitChar d) = some (.number .whole, []) ∧
        NumberPhase.minus.next (Nat.digitChar d) = some .whole := by decide
  obtain ⟨hlt, hchar⟩ := Decimal.digitChar_of_isDigit hc
  rw [← hchar]
  apply hstart _ hlt
  intro hzero
  rw [hzero] at hchar
  exact hne hchar.symm

/-- The whole part of a number is read between tokens and behind a minus sign alike. -/
theorem IsWhole.moves (h : IsWhole text) :
    ∃ phase ∈ [NumberPhase.zero, .whole],
      Scan.between.Moves text (.number phase) ∧
        (Scan.number .minus).Moves text (.number phase) := by
  cases h with
  | zero => exact ⟨.zero, by simp, .cons rfl (.refl _), .cons rfl (.refl _)⟩
  | digits hdigits hzero =>
    obtain ⟨hne, hdigits⟩ := hdigits
    cases text with
    | nil => exact absurd rfl hne
    | cons c rest =>
      obtain ⟨hstart, hminus⟩ :=
        start_of_isDigit (hdigits c (by simp)) fun hc => hzero (congrArg some hc)
      have hrest : (Scan.number .whole).Moves rest (.number .whole) := by
        apply moves_digits fun d hd => hdigits d (by simp [hd])
        intro d hd
        exact if_pos hd
      exact ⟨.whole, by simp, .cons hstart hrest, .cons (step_number hminus) hrest⟩

/-- The fraction of a number is read behind its whole part. -/
theorem IsFraction.moves (h : IsFraction text) (hphase : phase ∈ [NumberPhase.zero, .whole]) :
    ∃ next ∈ [NumberPhase.zero, .whole, .fraction],
      (Scan.number phase).Moves text (.number next) := by
  cases h with
  | missing =>
    have hmem : phase ∈ [NumberPhase.zero, .whole, .fraction] := by
      revert phase
      decide
    exact ⟨phase, hmem, .refl _⟩
  | digits hdigits =>
    have hpoint : phase.next '.' = some .point := by
      revert phase
      decide
    have hmoves : (Scan.number .point).Moves _ (.number .fraction) :=
      hdigits.moves (fun c hc => if_pos hc) fun c hc => if_pos hc
    exact ⟨.fraction, by simp, .cons (step_number hpoint) hmoves⟩

/-- The exponent of a number is read behind its fraction. -/
theorem IsExponent.moves (h : IsExponent text)
    (hphase : phase ∈ [NumberPhase.zero, .whole, .fraction]) :
    ∃ next : NumberPhase, next.complete = true ∧ (Scan.number phase).Moves text (.number next) := by
  cases h with
  | missing =>
    have hcomplete : phase.complete = true := by
      revert phase
      decide
    exact ⟨phase, hcomplete, .refl _⟩
  | @digits mark sign digits hmark hsign hdigits =>
    have hmarked : phase.next mark = some .exponentMark := by
      simp only [List.mem_cons, List.not_mem_nil, or_false] at hmark hphase
      rcases hmark with rfl | rfl
      all_goals rcases hphase with rfl | rfl | rfl
      all_goals rfl
    have hfirst : ∀ c : Char, c.isDigit = true →
        NumberPhase.exponentMark.next c = some .exponent := by
      intro c hc
      have hne : ¬(c = '+' ∨ c = '-') := by rintro (rfl | rfl) <;> simp at hc
      exact (if_neg hne).trans (if_pos hc)
    have hbehind : (Scan.number .exponentSign).Moves digits (.number .exponent) :=
      hdigits.moves (fun c hc => if_pos hc) fun c hc => if_pos hc
    have hsigned : (Scan.number .exponentMark).Moves (sign ++ digits) (.number .exponent) := by
      simp only [List.mem_cons, List.not_mem_nil, or_false] at hsign
      rcases hsign with rfl | rfl | rfl
      · exact hdigits.moves hfirst fun c hc => if_pos hc
      · exact .cons rfl hbehind
      · exact .cons rfl hbehind
    exact ⟨.exponent, rfl, .cons (step_number hmarked) hsigned⟩

/-- A number is complete where no more of it follows. -/
theorem run_number (hcomplete : phase.complete = true) {rest : List Char} (hrest : Ends rest) :
    (Scan.number phase).run rest = (Scan.between.run rest).map ([.number] ++ ·) := by
  cases rest with
  | nil => simp [Scan.run, Scan.finish, hcomplete]
  | cons c rest =>
    obtain ⟨hdigit, hsigns⟩ := hrest c rfl
    simp only [List.mem_cons, List.not_mem_nil, or_false, not_or] at hsigns
    have hnext : phase.next c = none := by
      cases phase <;> simp_all [NumberPhase.next, NumberPhase.complete]
    have hstep : (Scan.number phase).step c =
        (Scan.between.step c).map fun next => (next.1, .number :: next.2) := by
      simp only [Scan.step, hnext, hcomplete, if_true]
    cases hstart : Scan.between.step c with
    | none =>
      rw [Scan.run, Scan.run, hstep, hstart]
      rfl
    | some next =>
      rw [hstart, Option.map_some] at hstep
      rw [Scan.run_step hstep, Scan.run_step hstart, map_append_append]
      rfl

/-- A number is read as its token where no other number goes on. -/
theorem IsNumber.closes (h : IsNumber text) : Closes text [.number] := by
  obtain ⟨sign, whole, fraction, exponent, hsign, hwhole, hfraction, hexponent, rfl⟩ := h
  obtain ⟨first, hfirst, hbetween, hminus⟩ := hwhole.moves
  obtain ⟨second, hsecond, hfraction⟩ := hfraction.moves hfirst
  obtain ⟨last, hlast, hexponent⟩ := hexponent.moves hsecond
  have hmoves : Scan.between.Moves (sign ++ (whole ++ (fraction ++ exponent))) (.number last) := by
    rcases List.mem_cons.mp hsign with rfl | hsign
    · exact hbetween.append (hfraction.append hexponent)
    · rw [List.mem_singleton.mp hsign]
      exact .cons rfl (hminus.append (hfraction.append hexponent))
  intro rest hrest
  rw [hmoves, run_number hlast hrest]

end Numbers

/-! ### Strings -/

section Strings

variable {piece : Piece} {pieces before : List Piece} {text : List Char}

theorem IsHexDigit.digitValue?_eq {c : Char} {n : Nat} (h : IsHexDigit c n) :
    Hex.digitValue? c = some n := by
  have hboth : ∀ n < 16, Hex.digitValue? (Nat.digitChar n) = some n ∧
      Hex.digitValue? (Nat.digitChar n).toUpper = some n := by decide
  obtain ⟨hlt, rfl | rfl⟩ := h
  · exact (hboth n hlt).1
  · exact (hboth n hlt).2

/-- A part of a literal is read behind those that stand before it. -/
theorem IsPiece.moves (h : IsPiece piece text) :
    (Scan.literal before).Moves text (.literal (piece :: before)) := by
  cases h with
  | @plain c hquote hbackslash hcontrol =>
    have hstep : (Scan.literal before).step c = some (.literal (.char c :: before), []) := by
      rw [Scan.step, if_neg hquote, if_neg hbackslash, if_neg (by omega)]
    exact .cons hstep (.refl _)
  | @letter letter c hmem =>
    have hvalues : ∀ l ∈ letters, l.1 ≠ 'u' ∧ escapeValue? l.1 = some l.2 := by decide
    obtain ⟨hunit, hvalue⟩ := hvalues _ hmem
    have hstep : (Scan.escape before).step letter = some (.literal (.char c :: before), []) := by
      rw [Scan.step, if_neg hunit, hvalue]
      rfl
    exact .cons rfl (.cons hstep (.refl _))
  | @unit a b c d p q r s ha hb hc hd =>
    have hdigit : ∀ {digit : Char} {n : Nat}, IsHexDigit digit n → ∀ missing value,
        (Scan.unit before missing value).step digit =
          some (if missing ≤ 1 then (.literal (.unit (16 * value + n) :: before), [])
            else (.unit before (missing - 1) (16 * value + n), [])) := by
      intro digit n h missing value
      rw [Scan.step, h.digitValue?_eq]
      rfl
    have hfirst := hdigit ha 4 0
    rw [Nat.mul_zero, Nat.zero_add] at hfirst
    exact .cons rfl (.cons rfl (.cons hfirst (.cons (hdigit hb 3 p)
      (.cons (hdigit hc 2 (16 * p + q)) (.cons (hdigit hd 1 (16 * (16 * p + q) + r)) (.refl _))))))

/-- The parts of a literal are read one after the other. -/
theorem ArePieces.moves (h : ArePieces pieces text) :
    (Scan.literal before).Moves text (.literal (pieces.reverse ++ before)) := by
  induction h generalizing before with
  | nil => exact .refl _
  | cons hpiece _ ih =>
    rw [List.reverse_cons, List.append_assoc]
    exact hpiece.moves.append ih

theorem ArePieces.unit_lt (h : ArePieces pieces text) {n : Nat} (hn : .unit n ∈ pieces) :
    n < 0x10000 := by
  induction h with
  | nil => exact absurd hn List.not_mem_nil
  | cons hpiece _ ih =>
    rcases List.mem_cons.mp hn with rfl | hn
    · cases hpiece with
      | unit ha hb hc hd =>
        have := ha.1
        have := hb.1
        have := hc.1
        have := hd.1
        omega
    · exact ih hn

/-- What the parts of a literal denote is what joining them yields. -/
theorem Denotes.joinPieces_eq (h : Denotes pieces text) : joinPieces pieces = some text := by
  induction h with
  | nil => rfl
  | char _ ih =>
    rw [joinPieces, ih]
    rfl
  | @unit c _ _ hlt _ ih =>
    -- No character has the code of half a pair.
    have hwhole : c.toNat < 0xD800 ∨ 0xDFFF < c.toNat := c.valid.imp_right And.left
    unfold joinPieces
    rw [if_pos hwhole, ih, Char.ofNat_toNat]
    rfl
  | @pair c _ _ hle _ ih =>
    have hlt : c.toNat < 0x110000 := by
      have hvalid : c.toNat < 0xD800 ∨ 0xDFFF < c.toNat ∧ c.toNat < 0x110000 := c.valid
      omega
    have hcode : (0xD800 + (c.toNat - 0x10000) / 0x400 - 0xD800) * 0x400 +
        (0xDC00 + (c.toNat - 0x10000) % 0x400 - 0xDC00) + 0x10000 = c.toNat := by omega
    unfold joinPieces
    rw [if_neg (by omega)]
    simp only
    rw [if_pos (by omega), ih, hcode, Char.ofNat_toNat]
    rfl

/-- What joining the parts of a literal yields is what they denote. -/
theorem denotes_of_joinPieces (hunits : ∀ n, .unit n ∈ pieces → n < 0x10000)
    (h : joinPieces pieces = some text) : Denotes pieces text := by
  fun_induction joinPieces pieces generalizing text with
  | case1 =>
    cases h
    exact .nil
  | case2 c rest ih =>
    obtain ⟨more, hmore, rfl⟩ := Option.map_eq_some_iff.mp h
    exact .char (ih (fun n hn => hunits n (by simp [hn])) hmore)
  | case3 n rest hwhole ih =>
    obtain ⟨more, hmore, rfl⟩ := Option.map_eq_some_iff.mp h
    have hlt : n < 0x10000 := hunits n (by simp)
    have hcode : (Char.ofNat n).toNat = n :=
      Utf8.toNat_ofNat_of_isValidChar (hwhole.imp_right fun h => ⟨h, by omega⟩)
    have hrest := ih (fun n hn => hunits n (by simp [hn])) hmore
    have hunit := Denotes.unit (c := Char.ofNat n) (by omega) hrest
    rwa [hcode] at hunit
  | case4 n hhalf m rest hpair ih =>
    obtain ⟨more, hmore, rfl⟩ := Option.map_eq_some_iff.mp h
    generalize hcode : (n - 0xD800) * 0x400 + (m - 0xDC00) + 0x10000 = code
    have hchar : (Char.ofNat code).toNat = code :=
      Utf8.toNat_ofNat_of_isValidChar (.inr ⟨by omega, by omega⟩)
    have hrest := ih (fun n hn => hunits n (by simp [hn])) hmore
    have hunits' := Denotes.pair (c := Char.ofNat code) (by omega) hrest
    have hhigh : 0xD800 + (code - 0x10000) / 0x400 = n := by omega
    have hlow : 0xDC00 + (code - 0x10000) % 0x400 = m := by omega
    rwa [hchar, hhigh, hlow] at hunits'
  | case5 => cases h
  | case6 => cases h

/-- A string literal is read as its token. -/
theorem IsString.completes {s : Option String} (h : IsString s text) :
    Completes text [.string s] := by
  have hliteral : ∀ {pieces : List Piece} {body : List Char}, ArePieces pieces body →
      Completes ('"' :: (body ++ ['"'])) [.string ((joinPieces pieces).map String.ofList)] := by
    intro pieces body hpieces
    have hclose : (Scan.literal (pieces.reverse ++ [])).step '"' =
        some (.between, [.string ((joinPieces pieces).map String.ofList)]) := by
      rw [List.append_nil, Scan.step, if_pos rfl, List.reverse_reverse]
    exact (Scan.Moves.cons rfl hpieces.moves).completes hclose
  cases h with
  | whole hpieces hdenotes =>
    have hread := hliteral hpieces
    rwa [hdenotes.joinPieces_eq, Option.map_some, String.ofList_toList] at hread
  | @broken pieces _ hpieces hnone =>
    have hjoin : joinPieces pieces = none := by
      rw [Option.eq_none_iff_forall_ne_some]
      intro text htext
      exact hnone text (denotes_of_joinPieces (fun _ => hpieces.unit_lt) htext)
    have hread := hliteral hpieces
    rwa [hjoin] at hread

end Strings

end ProxyLink.Json
