import ProxyLink.Proofs.Bag
import ProxyLink.Proofs.PeerError

/-!
# Errors read from any layout

A peer may lay out the object of an error as it likes: the members in any order and among others of
any kind, with blanks anywhere, and with the characters of a string escaped in any way. The error is
the same. An object that leaves out the kind or the message, or repeats a field, describes none,
however it is laid out. Main statement: `read_from_any_layout`.
-/

namespace ProxyLink.PeerError

open Json

/-- The names of the members that an error is read from. -/
def fieldNames : List String := ["type", "message", "details"]

/-- The members of an object describe an error: in any order, there is one for its kind and one for
its message, one for its details unless it has none, and any number of others. -/
def Describes (e : PeerError) (members : List (Option String × Json)) : Prop :=
  ∃ details others : List (Option String × Json),
    members.Perm ([(some "type", .string (some e.kind.name)),
      (some "message", .string (some e.message))] ++ (details ++ others)) ∧
    (details = [(some "details", detailsJson e.details)] ∨ e.details = none ∧ details = []) ∧
    ∀ m ∈ others, ∃ name, m.1 = some name ∧ name ∉ fieldNames

/-- The names of an object leave out the kind or the message of an error, or repeat a field. -/
def Unreadable (names : List (Option String)) : Prop :=
  some "type" ∉ names ∨ some "message" ∉ names ∨
    ∃ name ∈ fieldNames, 2 ≤ names.count (some name)

variable {members members' : List (Option String × Json)} {name : String} {e : PeerError}

/-! ### The members of a name -/

theorem named_perm (name : String) (h : members.Perm members') :
    (named name members).Perm (named name members') := (h.filter _).map _

theorem named_append (name : String) (members members' : List (Option String × Json)) :
    named name (members ++ members') = named name members ++ named name members' := by
  rw [named, List.filter_append, List.map_append]
  rfl

/-- There is a value of a name for each time that the name stands in the object. -/
theorem length_named (name : String) (members : List (Option String × Json)) :
    (named name members).length = (members.map Prod.fst).count (some name) := by
  rw [named, List.length_map, List.count, List.countP_map, List.countP_eq_length_filter]
  rfl

theorem named_eq_nil_iff : named name members = [] ↔ some name ∉ members.map Prod.fst := by
  rw [← List.length_eq_zero_iff, length_named, List.count_eq_zero]

/-! ### Objects that describe an error, and objects that do not -/

/-- An error is read from the members that describe it. -/
theorem Describes.ofJson?_eq (h : Describes e members) : ofJson? (.object members) = some e := by
  obtain ⟨details, others, hperm, hdetails, hothers⟩ := h
  have hnone : ∀ name ∈ fieldNames, named name others = [] := by
    intro name hname
    rw [named_eq_nil_iff, List.mem_map]
    rintro ⟨m, hm, hfst⟩
    obtain ⟨other, hother, hnot⟩ := hothers m hm
    cases hfst.symm.trans hother
    exact hnot hname
  have hnames : ∀ m ∈ members, m.1.isSome := by
    intro m hm
    rcases List.mem_append.mp (hperm.mem_iff.mp hm) with hm | hm
    · simp only [List.mem_cons, List.not_mem_nil, or_false] at hm
      rcases hm with rfl | rfl
      · rfl
      · rfl
    rcases List.mem_append.mp hm with hm | hm
    · rcases hdetails with rfl | ⟨-, rfl⟩
      · rw [List.mem_singleton.mp hm]
        rfl
      · exact absurd hm List.not_mem_nil
    · obtain ⟨name, hname, -⟩ := hothers m hm
      rw [hname]
      rfl
  -- The other members have no part in the values of a field.
  have hfields : ∀ name ∈ fieldNames, (named name members).Perm
      (named name [(some "type", .string (some e.kind.name)),
        (some "message", .string (some e.message))] ++ named name details) := by
    intro name hname
    have hall := named_perm name hperm
    rwa [named_append, named_append, hnone name hname, List.append_nil] at hall
  have htype := hfields "type" (by decide)
  have hmessage := hfields "message" (by decide)
  have hdetails' := hfields "details" (by decide)
  rcases hdetails with rfl | ⟨hdetails, rfl⟩
  · exact ofJson?_object hnames (List.perm_singleton.mp htype) (List.perm_singleton.mp hmessage)
      (.inl (List.perm_singleton.mp hdetails'))
  · exact ofJson?_object hnames (List.perm_singleton.mp htype) (List.perm_singleton.mp hmessage)
      (.inr ⟨hdetails, List.perm_nil.mp hdetails'⟩)

/-- An object that an error is read from has one member for the kind, one for the message and at
most one for the details. -/
theorem count_of_ofJson? (h : ofJson? (.object members) = some e) :
    (members.map Prod.fst).count (some "type") = 1 ∧
      (members.map Prod.fst).count (some "message") = 1 ∧
      (members.map Prod.fst).count (some "details") ≤ 1 := by
  simp only [← length_named]
  rw [ofJson?] at h
  split at h
  · split at h
    · next htype hmessage hdetails => simp [htype, hmessage, hdetails]
    · next htype hmessage hdetails => simp [htype, hmessage, hdetails]
    · cases h
  · cases h

/-- No error is read from an object that leaves out the kind or the message, or repeats a field. -/
theorem Unreadable.ofJson?_eq (h : Unreadable (members.map Prod.fst)) :
    ofJson? (.object members) = none := by
  rw [Option.eq_none_iff_forall_ne_some]
  intro e he
  obtain ⟨htype, hmessage, hdetails⟩ := count_of_ofJson? he
  rcases h with h | h | ⟨name, hname, h⟩
  · rw [← List.count_eq_zero] at h
    omega
  · rw [← List.count_eq_zero] at h
    omega
  · simp only [fieldNames, List.mem_cons, List.not_mem_nil, or_false] at hname
    rcases hname with rfl | rfl | rfl
    all_goals omega

/-- Whatever text an object is written as, the error that its members describe is read from it; and
if the members leave out the kind or the message or repeat a field, the text is reported as no
error, with the key that it stands for. -/
theorem read_from_any_layout {text : String} {members : List (Option String × Json)}
    (h : Writes (.value (.object members)) text.toList) :
    (∀ e : PeerError, Describes e members → Property.ofText? text = some e ∧
      ∀ (b : Bag) (key : String), b.text? key = some text →
        b.get PeerError key = .ok (some e)) ∧
    (Unreadable (members.map Prod.fst) → (Property.ofText? text : Option PeerError) = none ∧
      ∀ (b : Bag) (key : String), b.text? key = some text →
        b.get PeerError key = .error ⟨key, "error", text⟩) := by
  have hread : (Property.ofText? text : Option PeerError) = ofJson? (.object members) := by
    change (parse? text.toList).bind ofJson? = _
    rw [parse?_of_writes h]
    rfl
  constructor
  · intro e he
    rw [he.ofJson?_eq] at hread
    exact ⟨hread, fun b key hkey => Bag.get_eq_some_iff.mpr ⟨text, hkey, hread⟩⟩
  · intro hnames
    rw [hnames.ofJson?_eq] at hread
    exact ⟨hread, fun b key hkey => Bag.get_of_ofText?_none hkey hread⟩

/-- An error without details, with blanks, escapes and a member of another name; and an object that
has the same name twice, once with an escape. -/
theorem read_between_other_members :
    Property.ofText? (" \x7b\"trace\":[-1.5e3,\x7b\"\":null\x7d],\n\"t\\u0079pe\" :\"timeout\"," ++
        "\"message\":\"\\uD83D\\ude00\"\x7d") = some (⟨.timeout, "😀", none⟩ : PeerError) ∧
      (Bag.empty.insert "Error" "\x7b\"type\":null,\"t\\u0079pe\":null\x7d").get PeerError "Error" =
        .error ⟨"Error", "error", "\x7b\"type\":null,\"t\\u0079pe\":null\x7d"⟩ := by
  have hnone : AreBlanks [] := by simp [AreBlanks]
  have hspace : AreBlanks [' '] := by simp [AreBlanks]
  have hline : AreBlanks ['\n'] := by simp [AreBlanks]
  have hdigit : ∀ n < 16, IsHexDigit (Nat.digitChar n) n := fun n hn => ⟨hn, .inl rfl⟩
  have hcapital : ∀ n < 16, IsHexDigit (Nat.digitChar n).toUpper n := fun n hn => ⟨hn, .inr rfl⟩
  have htype : IsString (some "type") "\"t\\u0079pe\"".toList :=
    .whole (.cons (.plain (c := 't') (by decide) (by decide) (by decide))
        (.cons (.unit (hdigit 0 (by decide)) (hdigit 0 (by decide)) (hdigit 7 (by decide))
          (hdigit 9 (by decide))) (arePieces_escape ['p', 'e'])))
      (.char (.unit (c := 'y') (by decide) (denotes_ofChar ['p', 'e'])))
  have hmessage : IsString (some "😀") "\"\\uD83D\\ude00\"".toList :=
    .whole (.cons (.unit (hcapital 13 (by decide)) (hdigit 8 (by decide)) (hdigit 3 (by decide))
          (hcapital 13 (by decide)))
        (.cons (.unit (hdigit 13 (by decide)) (hdigit 14 (by decide)) (hdigit 0 (by decide))
          (hdigit 0 (by decide))) .nil))
      (.pair (c := '😀') (by decide) .nil)
  have hnumber : IsNumber "-1.5e3".toList :=
    ⟨['-'], ['1'], ['.', '5'], ['e', '3'], by simp, .digits (by simp [AreDigits]) (by simp),
      .digits (by simp [AreDigits]),
      @IsExponent.digits 'e' [] ['3'] (by simp) (by simp) (by simp [AreDigits]), rfl⟩
  have htrace := Writes.member hnone (isString_literal "trace") hnone
    (.array (.elements (.number hnumber) (.lastElement (.object (.lastMember
      (.member hnone (isString_literal "") hnone .null))))))
  have hscattered := Writes.blanks hspace (.object (.members htrace
    (.members (.member hline htype hspace (.string (isString_literal "timeout")))
      (.lastMember (.member hnone (isString_literal "message") hnone (.string hmessage)))))) hnone
  have hrepeated := Writes.object (.members (.member hnone (isString_literal "type") hnone .null)
    (.lastMember (.member hnone htype hnone .null)))
  have hdescribes : Describes ⟨.timeout, "😀", none⟩
      [(some "trace", .array [.number, .object [(some "", .null)]]),
        (some "type", .string (some "timeout")), (some "message", .string (some "😀"))] :=
    ⟨[], [_], @List.perm_append_comm _ [_] [_, _], .inr ⟨rfl, rfl⟩, by simp [fieldNames]⟩
  have hrepeats : Unreadable ([(some "type", Json.null), (some "type", .null)].map Prod.fst) :=
    .inr (.inr ⟨"type", by decide, by decide⟩)
  constructor
  · exact ((read_from_any_layout hscattered).1 _ hdescribes).1
  · exact ((read_from_any_layout hrepeated).2 hrepeats).2 _ "Error" rfl

end ProxyLink.PeerError
