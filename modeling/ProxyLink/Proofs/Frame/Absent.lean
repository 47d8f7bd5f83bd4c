import ProxyLink.Proofs.Frame.RoundTrip

/-!
# Entries without a value

An entry marked absent is passed over: it takes nothing away that an earlier entry or the prototype
has given its key. So a key whose last entry is absent may still have a text. Main statement: such a
key is missing from the message exactly when no earlier entry gives it a value and the prototype
does not hold it as one of the fields of its kind.
-/

namespace ProxyLink.Frame

variable {key : String} {entries : List Entry}

/-- A key has no last value exactly when no entry gives it one. -/
theorem lastValue_eq_none_iff :
    lastValue key entries = none ↔ ∀ e ∈ entries, e.1 = key → e.2 = none := by
  rw [lastValue, List.getLast?_eq_none_iff, List.filterMap_eq_nil_iff]
  simp only [ite_eq_right_iff]

/-- Of entries one behind the other, the later ones give a key its last value if they give it
one. -/
theorem lastValue_append (key : String) (before after : List Entry) :
    lastValue key (before ++ after) = (lastValue key after).or (lastValue key before) := by
  simp only [lastValue, List.filterMap_append, List.getLast?_append]

/-- An absent entry behind which a key does not occur leaves the key its earlier value. -/
theorem lastValue_of_last_absent (before : List Entry) {after : List Entry}
    (hafter : ∀ e ∈ after, e.1 ≠ key) :
    lastValue key (before ++ (key, none) :: after) = lastValue key before := by
  have hnone : lastValue key ((key, none) :: after) = none := by
    apply lastValue_eq_none_iff.mpr
    intro e he hkey
    rcases List.mem_cons.mp he with rfl | he
    · rfl
    · exact absurd hkey (hafter e he)
  rw [lastValue_append, hnone, Option.none_or]

variable {registry : Registry} {k : StandardKind} {prototype : Message} {type : MessageType}
  {before after : List Entry} {bytes : List UInt8}

/-- A frame in which the last entry of a key is absent is decoded, for a prototype of a standard
kind, as a message in which the key has its last value of the entries before, or else its text in
the clone of the prototype. So the key is missing exactly when none of these entries has a value for
it and the prototype does not hold it as a field of the kind. -/
theorem missing_iff_never_given (hprototype : prototype.OfKind k)
    (hfind : registry.find? type = some prototype)
    (hframe : IsFrame type (before ++ (key, none) :: after) bytes)
    (hafter : ∀ e ∈ after, e.1 ≠ key) :
    ∃ m, decode registry bytes = .ok m ∧
      m.bag.text? key = (lastValue key before).or (prototype.clone.bag.text? key) ∧
      (m.bag.contains key = false ↔
        (∀ e ∈ before, e.1 = key → e.2 = none) ∧
        (key ∈ k.fields.map (·.key) → prototype.bag.contains key = false)) := by
  let m := messageOf prototype (before ++ (key, none) :: after)
  have hdecode : decode registry bytes = .ok m :=
    decode_eq_messageOf_iff.mpr ⟨type, _, prototype, hframe, hfind, rfl⟩
  have htext : m.bag.text? key =
      (lastValue key before).or (prototype.clone.bag.text? key) := by
    rw [← lastValue_of_last_absent before hafter]
    exact text?_foldl_applyEntry _ prototype.clone.bag key
  refine ⟨m, hdecode, htext, ?_⟩
  rw [← lastValue_eq_none_iff, Bag.contains, Bag.contains, Option.isSome_eq_false_iff,
    Option.isSome_eq_false_iff, Option.isNone_iff_eq_none, Option.isNone_iff_eq_none, htext,
    Option.or_eq_none_iff, hprototype.text?_clone, ite_eq_right_iff]

/-- Behind an absent address stands a port, and the blank prototype holds neither. -/
theorem missing_of_single_absent :
    let bytes := ofBody (word 1 ++ (word 2 ++ (textField "LibraryAddress" ++ [absent] ++
      entry "LibraryPort" "7933")))
    ∃ m, decode .standard bytes = .ok m ∧ m.bag.contains "LibraryAddress" = false ∧
      m.bag.text? "LibraryPort" = some "7933" := by
  intro bytes
  have hentries : AreEntries ([] ++ ("LibraryAddress", none) :: [("LibraryPort", some "7933")])
      (textField "LibraryAddress" ++ [absent] ++ entry "LibraryPort" "7933") := by
    apply AreEntries.cons (.absent (isText_textField (by decide)))
    rw [← List.append_nil (entry "LibraryPort" "7933")]
    exact .cons (isEntry_entry (by decide)) .nil
  have hframe : IsFrame .initializeRequest _ bytes :=
    ⟨_, _, isWord_word (by decide), ⟨_, _, _, isWord_word (by decide), isWord_word (by decide),
      hentries, rfl⟩, rfl⟩
  obtain ⟨m, hdecode, -, hmissing⟩ := missing_iff_never_given
    (Message.ofKind_ofStandard .initializeRequest) (Registry.find?_standard .initializeRequest)
    hframe (by decide)
  refine ⟨m, hdecode, hmissing.mpr ⟨by simp, fun _ => rfl⟩, ?_⟩
  have hport : (decode .standard bytes).toOption.bind (·.bag.text? "LibraryPort") =
      some "7933" := by
    decide +kernel
  rw [hdecode] at hport
  exact hport

/-- An absent last entry does not make a key missing: here it stands behind a port. -/
theorem kept_behind_absent_entry :
    ¬∀ (registry : Registry) (type : MessageType) (before after : List Entry) (key : String)
      (bytes : List UInt8) (m : Message), (∀ p ∈ registry.prototypes, ∃ k, p.OfKind k) →
      IsFrame type (before ++ (key, none) :: after) bytes → (∀ e ∈ after, e.1 ≠ key) →
      decode registry bytes = .ok m → m.bag.contains key = false := by
  intro hclaim
  let bytes := ofBody (word 1 ++ (word 2 ++ (entry "LibraryPort" "7933" ++
    (textField "LibraryPort" ++ [absent]))))
  let m := (Message.ofStandard .initializeRequest).insertText "LibraryPort" "7933"
  have hstandard : ∀ p ∈ Registry.standard.prototypes, ∃ k, p.OfKind k := by
    intro p hp
    simp only [Registry.standard, Family.prototypes, List.mem_flatMap, List.mem_map] at hp
    obtain ⟨_, -, k, -, rfl⟩ := hp
    exact ⟨k, Message.ofKind_ofStandard k⟩
  have hentries : AreEntries ([("LibraryPort", some "7933")] ++ ("LibraryPort", none) :: [])
      (entry "LibraryPort" "7933" ++ (textField "LibraryPort" ++ [absent])) := by
    apply AreEntries.cons (isEntry_entry (by decide))
    rw [← List.append_nil (textField "LibraryPort" ++ [absent])]
    exact .cons (.absent (isText_textField (by decide))) .nil
  have hframe : IsFrame .initializeRequest _ bytes :=
    ⟨_, _, isWord_word (by decide), ⟨_, _, _, isWord_word (by decide), isWord_word (by decide),
      hentries, rfl⟩, rfl⟩
  have hdecode : decode .standard bytes = .ok m := by decide +kernel
  have hmissing := hclaim _ _ _ _ _ _ m hstandard hframe (by simp) hdecode
  exact absurd hmissing (by decide)

end ProxyLink.Frame
