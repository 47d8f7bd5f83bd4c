import Mathlib.Data.List.Dedup
import Mathlib.Data.List.Induction
import ProxyLink.Proofs.Message
import ProxyLink.Registry

/-!
# The history of a registry

Prototypes are offered to a registry one after the other, and one whose type is taken is refused.
Main statement, which comes last: whatever was offered, and in whatever order, the first prototype
of each type is kept, all that a registry can be asked is answered from these, and prototypes that
are registered together stay up to the first one that is refused.
-/

namespace ProxyLink.Registry

variable {r : Registry} {type : MessageType} {m : Message}

/-! ### Prototypes that are found -/

theorem type_of_find? {prototype : Message} (h : r.find? type = some prototype) :
    prototype.type = type := by
  have hp := List.find?_some h
  exact beq_iff_eq.mp hp

/-- A fresh message is a clone of the prototype. -/
theorem instantiate_of_find? {prototype : Message} (h : r.find? type = some prototype) :
    r.instantiate type = .ok prototype.clone := by
  rw [instantiate, lookup, h]
  rfl

theorem instantiate_of_find?_none (h : r.find? type = none) :
    r.instantiate type = .error (.unknownType type) := by
  rw [instantiate, lookup, h]
  rfl

/-- The types that are taken are those of the prototypes. -/
theorem contains_iff : r.contains type = true ↔ type ∈ r.prototypes.map (·.type) := by
  rw [contains, find?, List.find?_isSome, List.mem_map]
  simp only [beq_iff_eq]

/-- The types that are listed are those that are taken. -/
theorem mem_types_iff : type ∈ r.types ↔ r.contains type = true := by
  rw [contains_iff, types]
  exact (List.mergeSort_perm ..).mem_iff

/-- Types that differ are listed in strictly ascending order of their ids. -/
theorem ascending_types (h : (r.prototypes.map (·.type)).Nodup) :
    r.types.Pairwise fun a b => a.id.toInt < b.id.toInt := by
  have hdistinct : r.types.Nodup := (List.mergeSort_perm ..).nodup_iff.mpr h
  have hsorted : r.types.Pairwise fun a b => a.id.toInt ≤ b.id.toInt := by
    have htrans : ∀ a b c : MessageType, decide (a.id.toInt ≤ b.id.toInt) = true →
        decide (b.id.toInt ≤ c.id.toInt) = true → decide (a.id.toInt ≤ c.id.toInt) = true := by
      simp only [decide_eq_true_eq]
      exact fun a b c => Int.le_trans
    have htotal : ∀ a b : MessageType,
        (decide (a.id.toInt ≤ b.id.toInt) || decide (b.id.toInt ≤ a.id.toInt)) = true := by
      simp only [Bool.or_eq_true, decide_eq_true_eq]
      exact fun a b => Int.le_total ..
    have hsort := List.pairwise_mergeSort htrans htotal (r.prototypes.map (·.type))
    exact hsort.imp of_decide_eq_true
  refine (List.pairwise_and_iff.mpr ⟨hsorted, hdistinct⟩).imp ?_
  rintro ⟨a⟩ ⟨b⟩ ⟨hle, hne⟩
  have hid : a.toInt ≠ b.toInt := fun h => hne (congrArg MessageType.mk (Int32.toInt_inj.mp h))
  simp only at hle ⊢
  omega

/-! ### Blank prototypes -/

/-- A registry makes blank messages of a standard kind. -/
def HasBlank (r : Registry) (k : StandardKind) : Prop :=
  ∃ prototype : Message, prototype.OfKind k ∧ prototype.bag = .empty ∧
    r.find? k.messageType = some prototype

/-- The registry of all standard kinds has a blank prototype of each of them. -/
theorem find?_standard (k : StandardKind) :
    Registry.standard.find? k.messageType = some (Message.ofStandard k) := by
  cases k <;> rfl

/-- The registry of all standard kinds makes blank messages of each of them. -/
theorem hasBlank_standard (k : StandardKind) : Registry.standard.HasBlank k :=
  ⟨.ofStandard k, Message.ofKind_ofStandard k, rfl, find?_standard k⟩

/-! ### Prototypes that are offered -/

/-- The registry after a prototype was offered to it, whether or not it was refused. -/
def offer (r : Registry) (m : Message) : Registry :=
  match r.register m with
  | .ok r => r
  | .error _ => r

/-- The registry to which prototypes were offered one after the other, past every refusal. -/
def ofHistory (offered : List Message) : Registry := offered.foldl offer .empty

theorem register_of_contains (h : r.contains m.type = true) :
    r.register m = .error (.duplicateType m.type) :=
  if_pos h

/-- A prototype is registered behind the others when its type is not taken. -/
theorem register_of_not_contains (h : r.contains m.type = false) :
    r.register m = .ok ⟨r.prototypes ++ [m]⟩ :=
  if_neg (ne_true_of_eq_false h)

theorem offer_of_contains (h : r.contains m.type = true) : r.offer m = r := by
  rw [offer, register_of_contains h]

theorem offer_of_not_contains (h : r.contains m.type = false) :
    r.offer m = ⟨r.prototypes ++ [m]⟩ := by
  rw [offer, register_of_not_contains h]

/-- A prototype that is offered is found under its type, unless another one was found there. -/
theorem find?_offer (r : Registry) (m : Message) (type : MessageType) :
    (r.offer m).find? type = (r.find? type).or (if m.type = type then some m else none) := by
  cases hc : r.contains m.type with
  | true =>
    rw [offer_of_contains hc]
    by_cases htype : m.type = type
    · rw [contains, htype] at hc
      exact (Option.or_of_isSome hc).symm
    · rw [if_neg htype, Option.or_none]
  | false =>
    rw [offer_of_not_contains hc, find?, List.find?_append, ← find?, List.find?_singleton]
    simp only [beq_iff_eq]

theorem nodup_offer (h : (r.prototypes.map (·.type)).Nodup) (m : Message) :
    ((r.offer m).prototypes.map (·.type)).Nodup := by
  cases hc : r.contains m.type with
  | true =>
    rw [offer_of_contains hc]
    exact h
  | false =>
    have hnew : m.type ∉ r.prototypes.map (·.type) := by
      rw [← contains_iff, hc]
      exact Bool.false_ne_true
    rw [offer_of_not_contains hc, List.map_append]
    exact List.nodup_append'.mpr ⟨h, List.nodup_singleton _, by simpa using hnew⟩

/-! ### Histories -/

theorem ofHistory_append (offered more : List Message) :
    ofHistory (offered ++ more) = more.foldl offer (ofHistory offered) :=
  List.foldl_append

/-- The prototype of a type is the first one of that type that was offered. -/
theorem find?_ofHistory (offered : List Message) (type : MessageType) :
    (ofHistory offered).find? type = offered.find? (·.type == type) := by
  induction offered using List.reverseRecOn with
  | nil => rfl
  | append_singleton offered m ih =>
    rw [ofHistory_append, List.foldl_cons, List.foldl_nil, find?_offer, ih, List.find?_append,
      List.find?_singleton]
    simp only [beq_iff_eq]

theorem contains_ofHistory {offered : List Message} :
    (ofHistory offered).contains type = true ↔ type ∈ offered.map (·.type) := by
  rw [contains, find?_ofHistory, List.find?_isSome, List.mem_map]
  simp only [beq_iff_eq]

/-- Whatever was offered, no two prototypes have the same type. -/
theorem nodup_ofHistory (offered : List Message) :
    ((ofHistory offered).prototypes.map (·.type)).Nodup := by
  induction offered using List.reverseRecOn with
  | nil => exact List.nodup_nil
  | append_singleton offered m ih =>
    rw [ofHistory_append]
    exact nodup_offer ih m

/-- There are as many prototypes as types were offered. -/
theorem size_ofHistory (offered : List Message) :
    (ofHistory offered).size = (offered.map (·.type)).dedup.length := by
  have hperm : ((ofHistory offered).prototypes.map (·.type)).Perm (offered.map (·.type)).dedup := by
    refine (List.perm_ext_iff_of_nodup (nodup_ofHistory offered) (List.nodup_dedup _)).mpr ?_
    intro type
    rw [List.mem_dedup, ← contains_iff, contains_ofHistory]
  rw [size, ← List.length_map (·.type)]
  exact hperm.length_eq

theorem isEmpty_ofHistory (offered : List Message) :
    (ofHistory offered).isEmpty = offered.isEmpty := by
  cases offered with
  | nil => rfl
  | cons m rest =>
    have hc : (ofHistory (m :: rest)).contains m.type = true :=
      contains_ofHistory.mpr List.mem_cons_self
    obtain ⟨prototype, hprototype, -⟩ := List.mem_map.mp (contains_iff.mp hc)
    exact List.isEmpty_eq_false_iff.mpr (List.ne_nil_of_mem hprototype)

/-- A type was offered by a first prototype, or not at all. -/
theorem find?_cases (offered : List Message) (type : MessageType) :
    (∃ before prototype after, offered = before ++ prototype :: after ∧
      type ∉ before.map (·.type) ∧ prototype.type = type ∧
      offered.find? (·.type == type) = some prototype) ∨
    type ∉ offered.map (·.type) ∧ offered.find? (·.type == type) = none := by
  cases hfind : offered.find? (·.type == type) with
  | none =>
    refine .inr ⟨?_, rfl⟩
    simpa using hfind
  | some prototype =>
    obtain ⟨htype, before, after, hoffered, hbefore⟩ := List.find?_eq_some_iff_append.mp hfind
    refine .inl ⟨before, prototype, after, hoffered, ?_, beq_iff_eq.mp htype, rfl⟩
    simpa using hbefore

/-- Prototypes that are registered together are registered up to the first one that is refused. -/
theorem registerAll_cases (r : Registry) (more : List Message) :
    let failure := (r.registerAll more).1
    let r' := (r.registerAll more).2.1
    (failure = none ∧ r' = more.foldl offer r ∧ r'.prototypes = r.prototypes ++ more) ∨
    ∃ before m after, more = before ++ m :: after ∧ failure = some (.duplicateType m.type) ∧
      r' = before.foldl offer r ∧ r'.prototypes = r.prototypes ++ before ∧
      r'.contains m.type = true := by
  induction more generalizing r with
  | nil => exact .inl ⟨rfl, rfl, (List.append_nil _).symm⟩
  | cons m more ih =>
    cases hc : r.contains m.type with
    | true =>
      -- Registration stops at the first type that is taken; nothing behind it is looked at.
      simp only [registerAll, register_of_contains hc]
      exact .inr ⟨[], m, more, rfl, rfl, rfl, (List.append_nil _).symm, hc⟩
    | false =>
      have hrest := ih (r.offer m)
      rw [offer_of_not_contains hc] at hrest
      simp only [registerAll, register_of_not_contains hc]
      obtain ⟨hnone, hr, hall⟩ | ⟨before, m', after, rfl, hsome, hr, hall, htaken⟩ := hrest
      · refine .inl ⟨hnone, ?_, ?_⟩
        · rw [List.foldl_cons, offer_of_not_contains hc]
          exact hr
        · rw [hall, List.append_assoc]
          rfl
      · refine .inr ⟨m :: before, m', after, rfl, hsome, ?_, ?_, htaken⟩
        · rw [List.foldl_cons, offer_of_not_contains hc]
          exact hr
        · rw [hall, List.append_assoc]
          rfl

/-- Whatever prototypes were offered to a registry, repeated types included:

* a prototype is refused exactly when one of its type was offered before, and then nothing changes;
* a type that was offered is that of the first prototype of this type, which is found under it, and
  of which fresh messages are made; of any other type nothing is found or made;
* so many types are listed as were offered, in strictly ascending order of their ids;
* of prototypes that are registered together, as those of a family are, all are registered or those
  before the first one that is refused. -/
theorem first_offered_is_kept (offered : List Message) :
    let r := ofHistory offered
    (∀ m, (m.type ∈ offered.map (·.type) ∧ r.register m = .error (.duplicateType m.type) ∧
        r.offer m = r) ∨
      m.type ∉ offered.map (·.type) ∧ r.register m = .ok (r.offer m) ∧
        (r.offer m).prototypes = r.prototypes ++ [m]) ∧
    (∀ type, (∃ before prototype after, offered = before ++ prototype :: after ∧
        type ∉ before.map (·.type) ∧ prototype.type = type ∧ r.lookup type = .ok prototype ∧
        r.contains type = true ∧ type ∈ r.types ∧ ∃ fresh, r.instantiate type = .ok fresh ∧
          fresh.kind = prototype.kind ∧ fresh.type = type ∧ fresh.layer = prototype.layer) ∨
      type ∉ offered.map (·.type) ∧ r.lookup type = .error (.unknownType type) ∧
        r.contains type = false ∧ type ∉ r.types ∧
        r.instantiate type = .error (.unknownType type)) ∧
    r.size = (offered.map (·.type)).dedup.length ∧ r.isEmpty = offered.isEmpty ∧
    r.types.length = r.size ∧ (r.types.Pairwise fun a b => a.id.toInt < b.id.toInt) ∧
    ∀ more,
      let failure := (r.registerAll more).1
      let r' := (r.registerAll more).2.1
      (failure = none ∧ r' = ofHistory (offered ++ more) ∧
        r'.prototypes = r.prototypes ++ more) ∨
      ∃ before m after, more = before ++ m :: after ∧ failure = some (.duplicateType m.type) ∧
        r' = ofHistory (offered ++ before) ∧ r'.prototypes = r.prototypes ++ before ∧
        m.type ∈ (offered ++ before).map (·.type) := by
  intro r
  refine ⟨?_, ?_, size_ofHistory offered, isEmpty_ofHistory offered, ?_,
    ascending_types (nodup_ofHistory offered), ?_⟩
  · intro m
    cases hc : r.contains m.type with
    | true =>
      exact .inl ⟨contains_ofHistory.mp hc, register_of_contains hc, offer_of_contains hc⟩
    | false =>
      refine .inr ⟨?_, ?_, ?_⟩
      · rw [← contains_ofHistory, show (ofHistory offered).contains m.type = false from hc]
        exact Bool.false_ne_true
      · rw [register_of_not_contains hc, offer_of_not_contains hc]
      · rw [offer_of_not_contains hc]
  · intro type
    have hfound := find?_ofHistory offered type
    obtain ⟨before, prototype, after, hoffered, hfirst, htype, hfind⟩ | ⟨hnever, hfind⟩ :=
      find?_cases offered type
    · rw [hfind] at hfound
      have hc : r.contains type = true := by rw [contains, hfound]; rfl
      refine .inl ⟨before, prototype, after, hoffered, hfirst, htype, ?_, hc,
        mem_types_iff.mpr hc, prototype.clone, instantiate_of_find? hfound, rfl, htype, rfl⟩
      rw [lookup, hfound]
    · rw [hfind] at hfound
      have hc : r.contains type = false := by rw [contains, hfound]; rfl
      refine .inr ⟨hnever, ?_, hc, ?_, instantiate_of_find?_none hfound⟩
      · rw [lookup, hfound]
      · rw [mem_types_iff, hc]
        exact Bool.false_ne_true
  · rw [types, List.length_mergeSort, List.length_map, size]
  · intro more
    obtain ⟨hnone, hr, hall⟩ | ⟨before, m, after, hmore, hsome, hr, hall, htaken⟩ :=
      r.registerAll_cases more
    · exact .inl ⟨hnone, hr.trans (ofHistory_append offered more).symm, hall⟩
    · have hr' := hr.trans (ofHistory_append offered before).symm
      refine .inr ⟨before, m, after, hmore, hsome, hr', hall, ?_⟩
      rw [hr'] at htaken
      exact contains_ofHistory.mp htaken

/-- Of a family whose reply is taken, the request is registered. -/
example :
    let r := ofHistory [.ofStandard .echoRequest, .ofStandard .connectReply]
    let (failure, r', _) := r.registerAll (Family.prototypes [.connect])
    failure = some (.duplicateType .connectReply) ∧
      r'.prototypes.map (·.type) = [.echoRequest, .connectReply, .connectRequest] := by
  decide

end ProxyLink.Registry
