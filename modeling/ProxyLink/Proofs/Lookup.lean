/-!
# Look-ups in lists of pairs

What is found under a key after a pair is put in front, or pairs are taken away by their keys.
-/

namespace ProxyLink

variable {α β : Type} [BEq α] [LawfulBEq α] [DecidableEq α]

/-- A pair in front is found under its key, and hides nothing else. -/
theorem lookup_cons_ite (e : α × β) (rest : List (α × β)) (k : α) :
    (e :: rest).lookup k = if k = e.1 then some e.2 else rest.lookup k := by
  rw [List.lookup_cons]
  by_cases hk : k = e.1
  · simp [hk]
  · rw [beq_eq_false_iff_ne.mpr hk, if_neg hk]

/-- When only pairs with certain keys are kept, these keys are found as before and no other one. -/
theorem lookup_filter (entries : List (α × β)) (p : α → Bool) (k : α) :
    (entries.filter fun e => p e.1).lookup k = if p k then entries.lookup k else none := by
  induction entries with
  | nil => simp
  | cons e rest ih =>
    rw [List.filter_cons, lookup_cons_ite]
    by_cases hk : k = e.1
    · rw [if_pos hk, ← hk]
      split
      · next hp => rw [lookup_cons_ite, if_pos hk]
      · next hp => rw [ih, if_neg hp]
    · rw [if_neg hk, ← ih]
      split
      · rw [lookup_cons_ite, if_neg hk]
      · rfl

/-- When all pairs with one key are taken away, that key alone is found no more. -/
theorem lookup_filter_ne (entries : List (α × β)) (key k : α) :
    (entries.filter fun e => e.1 != key).lookup k =
      if k = key then none else entries.lookup k := by
  rw [lookup_filter entries (· != key)]
  by_cases hk : k = key
  · rw [if_pos hk, if_neg (by simp [hk])]
  · rw [if_neg hk, if_pos (bne_iff_ne.mpr hk)]

/-- Where keys differ, what stands under a key is found there. -/
theorem lookup_of_mem {entries : List (α × β)} (h : (entries.map (·.1)).Nodup) {e : α × β}
    (he : e ∈ entries) : entries.lookup e.1 = some e.2 := by
  induction entries with
  | nil => cases he
  | cons first rest ih =>
    obtain ⟨hfirst, hrest⟩ := List.nodup_cons.mp h
    rw [lookup_cons_ite]
    rcases List.mem_cons.mp he with rfl | he
    · exact if_pos rfl
    · have hne : e.1 ≠ first.1 := by
        intro hk
        exact hfirst (List.mem_map.mpr ⟨e, he, hk⟩)
      rw [if_neg hne, ih hrest he]

/-- Where keys differ, it makes no difference in which order the pairs stand. -/
theorem lookup_perm {entries others : List (α × β)} (hperm : entries.Perm others)
    (h : (entries.map (·.1)).Nodup) (k : α) : entries.lookup k = others.lookup k := by
  induction hperm with
  | nil => rfl
  | cons e _ ih => rw [lookup_cons_ite, lookup_cons_ite, ih (List.nodup_cons.mp h).2]
  | swap e e' rest =>
    have hne : e'.1 ≠ e.1 := by
      intro he
      exact (List.nodup_cons.mp h).1 (List.mem_map.mpr ⟨e, List.mem_cons_self, he.symm⟩)
    simp only [lookup_cons_ite]
    by_cases hk : k = e.1
    · rw [if_neg (fun hk' => hne (hk'.symm.trans hk)), if_pos hk, if_pos hk]
    · rw [if_neg hk, if_neg hk]
  | trans hfirst _ ih ih' => exact (ih h).trans (ih' ((hfirst.map _).nodup_iff.mp h))

end ProxyLink
