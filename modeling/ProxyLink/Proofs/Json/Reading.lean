import ProxyLink.Proofs.Json.Automaton

/-!
# Every JSON text is read

The reader accepts all that the grammar allows and reads it as the value that it writes, however it
is laid out: the tokens of a phrase are read as what the phrase writes, one rule of the grammar
after the other. Main statement: `parse?_of_writes`.
-/

namespace ProxyLink.Json

/-- Tokens are read as a value, whatever stands behind them. -/
def ReadsAs (toks : List Token) (v : Json) : Prop :=
  ∀ steps rest, 2 * toks.length ≤ steps → valueWithin steps (toks ++ rest) = some (v, rest)

/-- The tokens of a phrase are read as what it writes, up to what closes the phrase. -/
def Phrase.Reads (toks : List Token) : Phrase → Prop
  | .value v => ReadsAs toks v
  | .elements vs => ∀ steps rest, 2 * toks.length < steps →
    elementsWithin steps (toks ++ .closeBracket :: rest) = some (vs, rest)
  | .member (name, v) =>
    ∃ valueToks, toks = .string name :: .colon :: valueToks ∧ ReadsAs valueToks v
  | .members ms => ∀ steps rest, 2 * toks.length < steps →
    membersWithin steps (toks ++ .closeBrace :: rest) = some (ms, rest)

section Values

variable {steps : Nat} {toks rest : List Token} {v : Json} {vs : List Json}
  {m : Option String × Json} {ms : List (Option String × Json)}

/-- A value that is read in one step. -/
theorem readsAs_of_step (hne : toks ≠ [])
    (h : ∀ steps rest, valueWithin (steps + 1) (toks ++ rest) = some (v, rest)) :
    ReadsAs toks v := by
  intro steps rest hsteps
  have hpos := List.length_pos_iff.mpr hne
  obtain ⟨steps, rfl⟩ : ∃ n, steps = n + 1 := ⟨steps - 1, by omega⟩
  exact h steps rest

theorem elementsWithin_closeBracket (steps : Nat) (rest : List Token) :
    elementsWithin steps (.closeBracket :: rest) = none := by
  cases steps with
  | zero => rw [elementsWithin]
  | succ steps => cases steps <;> simp [elementsWithin, valueWithin]

theorem membersWithin_closeBrace (steps : Nat) (rest : List Token) :
    membersWithin steps (.closeBrace :: rest) = none := by
  cases steps <;> simp [membersWithin]

/-- Elements within brackets are an array. -/
theorem Phrase.Reads.array (h : (Phrase.elements vs).Reads toks) :
    ReadsAs (.openBracket :: (toks ++ [.closeBracket])) (.array vs) := by
  intro steps rest hsteps
  simp only [List.length_cons, List.length_append, List.length_nil] at hsteps
  obtain ⟨steps, rfl⟩ : ∃ n, steps = n + 1 := ⟨steps - 1, by omega⟩
  have helements := h steps rest (by omega)
  rw [List.cons_append, List.append_assoc, List.singleton_append]
  rw [valueWithin, helements]
  · rfl
  · intro more hmore
    rw [hmore, elementsWithin_closeBracket] at helements
    cases helements

/-- Members within braces are an object. -/
theorem Phrase.Reads.object (h : (Phrase.members ms).Reads toks) :
    ReadsAs (.openBrace :: (toks ++ [.closeBrace])) (.object ms) := by
  intro steps rest hsteps
  simp only [List.length_cons, List.length_append, List.length_nil] at hsteps
  obtain ⟨steps, rfl⟩ : ∃ n, steps = n + 1 := ⟨steps - 1, by omega⟩
  have hmembers := h steps rest (by omega)
  rw [List.cons_append, List.append_assoc, List.singleton_append]
  rw [valueWithin, hmembers]
  · rfl
  · intro more hmore
    rw [hmore, membersWithin_closeBrace] at hmembers
    cases hmembers

theorem ReadsAs.lastElement (h : ReadsAs toks v) :
    (Phrase.elements [v]).Reads toks := by
  intro steps rest hsteps
  obtain ⟨steps, rfl⟩ : ∃ n, steps = n + 1 := ⟨steps - 1, by omega⟩
  rw [elementsWithin, h steps _ (by omega)]

/-- A value, a comma and other elements. -/
theorem ReadsAs.elements {more : List Token} (h : ReadsAs toks v)
    (hmore : (Phrase.elements vs).Reads more) :
    (Phrase.elements (v :: vs)).Reads (toks ++ .comma :: more) := by
  intro steps rest hsteps
  rw [List.length_append, List.length_cons] at hsteps
  obtain ⟨steps, rfl⟩ : ∃ n, steps = n + 1 := ⟨steps - 1, by omega⟩
  rw [List.append_assoc, List.cons_append, elementsWithin, h steps _ (by omega)]
  simp only
  rw [hmore steps rest (by omega)]
  rfl

theorem Phrase.Reads.lastMember (h : (Phrase.member m).Reads toks) :
    (Phrase.members [m]).Reads toks := by
  obtain ⟨valueToks, rfl, hvalue⟩ := h
  intro steps rest hsteps
  simp only [List.length_cons] at hsteps
  obtain ⟨steps, rfl⟩ : ∃ n, steps = n + 1 := ⟨steps - 1, by omega⟩
  rw [List.cons_append, List.cons_append, membersWithin, hvalue steps _ (by omega)]

/-- A member, a comma and other members. -/
theorem Phrase.Reads.members {more : List Token} (h : (Phrase.member m).Reads toks)
    (hmore : (Phrase.members ms).Reads more) :
    (Phrase.members (m :: ms)).Reads (toks ++ .comma :: more) := by
  obtain ⟨valueToks, rfl, hvalue⟩ := h
  intro steps rest hsteps
  simp only [List.length_cons, List.length_append] at hsteps
  obtain ⟨steps, rfl⟩ : ∃ n, steps = n + 1 := ⟨steps - 1, by omega⟩
  rw [List.cons_append, List.cons_append, List.cons_append, List.cons_append, List.append_assoc,
    List.cons_append, membersWithin, hvalue steps _ (by omega)]
  simp only
  rw [hmore steps rest (by omega)]
  rfl

end Values

/-- A text that writes a phrase has tokens that are read as that phrase. -/
theorem Writes.reads {phrase : Phrase} {text : List Char} (h : Writes phrase text) :
    ∃ toks, Closes text toks ∧ phrase.Reads toks := by
  have hatom : ∀ {tok : Token} {v : Json},
      (∀ steps rest, valueWithin (steps + 1) (tok :: rest) = some (v, rest)) → ReadsAs [tok] v :=
    fun h => readsAs_of_step (List.cons_ne_nil _ _) h
  -- Each rule puts the tokens of its parts together as it does their texts.
  induction h with
  | null => exact ⟨_, completes_null.closes, hatom fun _ _ => rfl⟩
  | trueWord => exact ⟨_, completes_true.closes, hatom fun _ _ => rfl⟩
  | falseWord => exact ⟨_, completes_false.closes, hatom fun _ _ => rfl⟩
  | number h => exact ⟨_, h.closes, hatom fun _ _ => rfl⟩
  | string h => exact ⟨_, h.completes.closes, hatom fun _ _ => rfl⟩
  | emptyArray h =>
    have hclose := (completes_blanks h).append (completes_sign (c := ']') rfl)
    exact ⟨_, ((completes_sign rfl).append hclose).closes,
      readsAs_of_step (List.cons_ne_nil _ _) fun _ _ => rfl⟩
  | array _ ih =>
    obtain ⟨toks, hcloses, hreads⟩ := ih
    have hclose := hcloses.append_completes (completes_sign (c := ']') rfl) (ends_cons (by decide))
    exact ⟨_, ((completes_sign rfl).append hclose).closes, hreads.array⟩
  | emptyObject h =>
    have hclose := (completes_blanks h).append (completes_sign (c := '\x7d') rfl)
    exact ⟨_, ((completes_sign rfl).append hclose).closes,
      readsAs_of_step (List.cons_ne_nil _ _) fun _ _ => rfl⟩
  | object _ ih =>
    obtain ⟨toks, hcloses, hreads⟩ := ih
    have hclose :=
      hcloses.append_completes (completes_sign (c := '\x7d') rfl) (ends_cons (by decide))
    exact ⟨_, ((completes_sign rfl).append hclose).closes, hreads.object⟩
  | blanks hbefore _ hafter ih =>
    obtain ⟨toks, hcloses, hreads⟩ := ih
    have hbehind := hcloses.append (completes_blanks hafter).closes fun _ => ends_blanks hafter
    rw [List.append_nil] at hbehind
    exact ⟨toks, (completes_blanks hbefore).append_closes hbehind, hreads⟩
  | lastElement _ ih =>
    obtain ⟨toks, hcloses, hreads⟩ := ih
    exact ⟨toks, hcloses, hreads.lastElement⟩
  | elements _ _ ih ihs =>
    obtain ⟨toks, hcloses, hreads⟩ := ih
    obtain ⟨more, hmore, hreadsMore⟩ := ihs
    have hcomma := (completes_sign (c := ',') rfl).append_closes hmore
    exact ⟨_, hcloses.append hcomma fun _ _ => ends_cons (by decide) _, hreads.elements hreadsMore⟩
  | member hbefore hname hafter _ ih =>
    obtain ⟨toks, hcloses, hreads⟩ := ih
    have hcolon := (completes_sign (c := ':') rfl).append_closes hcloses
    have hbehind := hname.completes.append_closes ((completes_blanks hafter).append_closes hcolon)
    exact ⟨_, (completes_blanks hbefore).append_closes hbehind, _, rfl, hreads⟩
  | lastMember _ ih =>
    obtain ⟨toks, hcloses, hreads⟩ := ih
    exact ⟨toks, hcloses, hreads.lastMember⟩
  | members _ _ ih ihs =>
    obtain ⟨toks, hcloses, hreads⟩ := ih
    obtain ⟨more, hmore, hreadsMore⟩ := ihs
    have hcomma := (completes_sign (c := ',') rfl).append_closes hmore
    exact ⟨_, hcloses.append hcomma fun _ _ => ends_cons (by decide) _, hreads.members hreadsMore⟩

/-- A text that writes a value is read as that value. -/
theorem parse?_of_writes {v : Json} {text : List Char} (h : Writes (.value v) text) :
    parse? text = some v := by
  obtain ⟨toks, hcloses, hreads⟩ := h.reads
  have hvalue := hreads (2 * toks.length + 1) [] (by omega)
  rw [List.append_nil] at hvalue
  rw [parse?, hcloses.tokens_eq, Option.bind_eq_bind, Option.bind_some, hvalue]

end ProxyLink.Json
