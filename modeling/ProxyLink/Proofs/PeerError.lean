import ProxyLink.PeerError
import ProxyLink.Proofs.Json.Literal
import ProxyLink.Proofs.Json.Reading

/-!
# Errors read back

An error is written as an object whose members each hold a string or nothing. Such an object is read
back member by member, whatever characters its strings have (`parse?_objectText`), and an error is
read from it whatever the order of its members (`ofJson?_object`). Main statement:
`Rendering.ofText?_write`, for the text of a property and for the record alike.
-/

namespace ProxyLink

namespace ErrorKind

/-- A kind is called the same in records as everywhere else. -/
theorem recordName_eq_name (kind : ErrorKind) : kind.recordName = kind.name := by
  cases kind <;> rfl

/-- The name of a kind is the name of no other kind. -/
theorem ofName?_name (kind : ErrorKind) : ofName? kind.name = some kind := by
  cases kind <;> rfl

end ErrorKind

namespace PeerError

open Json

/-! ### Objects of strings -/

section Object

variable (members : List (String × Option String))

def detailsJson : Option String → Json
  | some text => .string (some text)
  | none => .null

theorem writes_detailsText (details : Option String) :
    Writes (.value (detailsJson details)) (detailsText details) := by
  cases details with
  | none => exact .null
  | some text => exact .string (isString_literal text)

/-- A name, a colon and the text of the details are a member. -/
theorem writes_member (name : String) (details : Option String) :
    Writes (.member (some name, detailsJson details))
      (literal name ++ [':'] ++ detailsText details) := by
  have hblank : AreBlanks [] := by simp [AreBlanks]
  rw [List.append_assoc]
  exact .member hblank (isString_literal name) hblank (writes_detailsText details)

/-- Members with commas between them are the members of an object. -/
theorem writes_members (hne : members ≠ []) :
    Writes (.members (members.map fun m => (some m.1, detailsJson m.2)))
      ([','].intercalate (members.map fun m => literal m.1 ++ [':'] ++ detailsText m.2)) := by
  induction members with
  | nil => exact absurd rfl hne
  | cons m rest ih =>
    have hm := writes_member m.1 m.2
    cases rest with
    | nil => simpa only [List.map_singleton, List.intercalate_singleton] using hm.lastMember
    | cons next more =>
      have hmore := ih (List.cons_ne_nil _ _)
      simp only [List.map_cons] at hmore ⊢
      rw [List.intercalate_cons_cons]
      rw [List.append_assoc]
      exact hm.members hmore

theorem parse?_objectText (hne : members ≠ []) :
    parse? (objectText (members.map fun m => (m.1, detailsText m.2))) =
      some (.object (members.map fun m => (some m.1, detailsJson m.2))) := by
  apply parse?_of_writes
  rw [objectText, List.map_map]
  exact .object (writes_members members hne)

end Object

/-! ### Errors -/

/-- An error is read from an object that has one member for each of its fields, unless it has no
details and no member for them, and perhaps other members. -/
theorem ofJson?_object {members : List (Option String × Json)} {e : PeerError}
    (hnames : ∀ m ∈ members, m.1.isSome)
    (htype : named "type" members = [.string (some e.kind.name)])
    (hmessage : named "message" members = [.string (some e.message)])
    (hdetails : named "details" members = [detailsJson e.details] ∨
      e.details = none ∧ named "details" members = []) :
    ofJson? (.object members) = some e := by
  have hkind : kindOfJson? (.string (some e.kind.name)) = some e.kind :=
    ErrorKind.ofName?_name e.kind
  have hread : detailsOfJson? (detailsJson e.details) = some e.details := by
    cases e.details <;> rfl
  rw [ofJson?, if_pos (List.all_eq_true.mpr hnames), htype, hmessage]
  rcases hdetails with hdetails | ⟨hnone, hdetails⟩
  · rw [hdetails]
    simp only
    rw [hkind, hread]
    rfl
  · rw [hdetails]
    simp only
    rw [hkind, ← hnone]
    rfl

/-- The texts that an error is written as. -/
inductive Rendering where
  | property
  | record

namespace Rendering

def write : Rendering → PeerError → String
  | .property => toText
  | .record => toRecord

/-- The members of an error, in the order in which they stand in its text. -/
def members (e : PeerError) : Rendering → List (String × Option String)
  | .property => [("details", e.details), ("message", some e.message), ("type", some e.kind.name)]
  | .record => [("type", some e.kind.name), ("message", some e.message), ("details", e.details)]

/-- The text of an error is an object of its members. -/
theorem write_eq (rendering : Rendering) (e : PeerError) : rendering.write e =
    String.ofList (objectText ((rendering.members e).map fun m => (m.1, detailsText m.2))) := by
  cases rendering with
  | property => rfl
  | record => rw [write, toRecord, ErrorKind.recordName_eq_name]; rfl

/-- The text of an error is read as the object of its members. -/
theorem parse?_write (rendering : Rendering) (e : PeerError) :
    parse? (rendering.write e).toList =
      some (.object ((rendering.members e).map fun m => (some m.1, detailsJson m.2))) := by
  have hne : rendering.members e ≠ [] := by cases rendering <;> exact List.cons_ne_nil _ _
  rw [write_eq, String.toList_ofList, parse?_objectText _ hne]

/-- The text of an error is read as that error. -/
theorem ofText?_write (rendering : Rendering) (e : PeerError) :
    ofText? (rendering.write e) = some e := by
  rw [ofText?, parse?_write, Option.bind_some]
  apply ofJson?_object
  · rw [List.forall_mem_map]
    exact fun _ _ => rfl
  · cases rendering <;> rfl
  · cases rendering <;> rfl
  · apply Or.inl
    cases rendering <;> rfl

end Rendering

theorem ofText?_toText (e : PeerError) : ofText? e.toText = some e :=
  Rendering.property.ofText?_write e

/-- Both texts of an error are JSON objects of its members, and are read as that error. So two
errors have no text in common, and an error without details is not written as one with empty
details. -/
theorem Rendering.write_faithful (rendering : Rendering) (e : PeerError) :
    parse? (rendering.write e).toList =
      some (.object ((rendering.members e).map fun m => (some m.1, detailsJson m.2))) ∧
    ofText? (rendering.write e) = some e ∧
    (∀ (other : Rendering) (e' : PeerError), other.write e' = rendering.write e → e' = e) ∧
    ∀ other : Rendering,
      other.write { e with details := none } ≠ rendering.write { e with details := some "" } := by
  have happart : ∀ (other : Rendering) (e₁ e₂ : PeerError),
      other.write e₁ = rendering.write e₂ → e₁ = e₂ := by
    intro other e₁ e₂ heq
    have hread := other.ofText?_write e₁
    rw [heq, rendering.ofText?_write e₂] at hread
    exact (Option.some.inj hread).symm
  refine ⟨rendering.parse?_write e, rendering.ofText?_write e,
    fun other e' => happart other e' e, fun other heq => ?_⟩
  have hdetails := congrArg PeerError.details (happart other _ _ heq)
  cases hdetails

end PeerError

end ProxyLink
