import ProxyLink.Proofs.Message

/-!
# Copying one message into another

A message of any standard kind is copied into one of the same kind or of another one. Strings are
read and set, other fields are copied as they stand, which comes to the same. Main statement, which
comes last: exactly the texts that the two kinds have in common are handed over, and copying once
more changes nothing.
-/

namespace ProxyLink

/-- The bag `target` with a field taken over from `source`: a string is read there and set here, and
any other text is copied without being read. -/
def Field.takeOver (f : Field) (source target : Bag) : Bag :=
  match f.type with
  | .string => target.set f.key (source.text? f.key)
  | _ => source.copyKey f.key target

/-- Whether or not it is read on the way, the text of a field is taken over as it stands. -/
theorem Field.takeOver_eq_copyKey (f : Field) (source target : Bag) :
    f.takeOver source target = source.copyKey f.key target := by
  rw [takeOver]
  split
  · rw [Bag.set, Bag.copyKey]
    congr 1
    exact Option.map_id'
  · rfl

namespace Message

variable {s t : Message} {k k' : StandardKind}

theorem OfKind.copyInto (ht : t.OfKind k') (s : Message) : (s.copyInto t).OfKind k' :=
  ⟨ht.kind, ht.type, ht.layer⟩

/-- A message takes over the fields of its kind one by one. -/
theorem OfKind.bag_copyInto (hs : s.OfKind k) (ht : t.OfKind k) :
    (s.copyInto t).bag =
      k.ownFields.foldl (fun b f => f.takeOver s.bag b)
        (copyLayer s.bag s.layer t.layer t.bag) := by
  have hkeys : k.ownFields.foldl (fun b f => f.takeOver s.bag b)
        (copyLayer s.bag s.layer t.layer t.bag) =
      (k.ownFields.map (·.key)).foldl (fun b key => s.bag.copyKey key b)
        (copyLayer s.bag s.layer t.layer t.bag) := by
    simp only [Field.takeOver_eq_copyKey, List.foldl_map]
  rw [hkeys, Message.copyInto, hs.kind, ht.kind]
  exact if_pos rfl

/-- Copying once more changes nothing. -/
theorem OfKind.copyInto_copyInto (hs : s.OfKind k) (ht : t.OfKind k') :
    s.copyInto (s.copyInto t) = s.copyInto t := by
  have hcopied := ht.copyInto s
  refine (hcopied.copyInto s).eq_of_bag hcopied (Bag.ext ?_)
  intro key
  rw [hs.text?_copyInto hcopied, hs.text?_copyInto ht]
  split <;> rfl

/-- Whatever two messages of standard kinds hold, undeclared keys and texts that cannot be read
included, copying one into the other leaves the kind, the type and the layer of the other one alone.
It hands over a request id if there is one and both are requests or both are replies, the error or
its absence if both are replies, and each field of the kind or its absence if both are of that kind;
every other text of the other message stays. Copying once more changes nothing. Between messages of
one kind, strings may be read and set or copied as they stand. -/
theorem copied_in_common (hs : s.OfKind k) (ht : t.OfKind k') :
    let t' := s.copyInto t
    (t'.kind = t.kind ∧ t'.type = t.type ∧ t'.layer = t.layer) ∧
    (∀ key, t'.bag.text? key =
      if k.HandsOver k' s.bag key then s.bag.text? key else t.bag.text? key) ∧
    s.copyInto t' = t' ∧
    (k = k' → t'.bag = k.ownFields.foldl (fun b f => f.takeOver s.bag b)
      (copyLayer s.bag s.layer t.layer t.bag)) := by
  intro t'
  refine ⟨⟨rfl, rfl, rfl⟩, hs.text?_copyInto ht, hs.copyInto_copyInto ht, ?_⟩
  rintro rfl
  exact hs.bag_copyInto ht

/-- From the reply to a cancellation, the reply to an echo takes over an id with a sign and an error
that cannot be read, and no other text. -/
theorem copied_between_replies :
    let s := ((((ofStandard .cancelReply).insertText "RequestId" "+7").insertText "Error"
      "not json").insertText "WasCancelled" "yes").insertText "Extra" "1"
    let t := ((ofStandard .echoReply).insertText "Payload" "?").insertText "WasCancelled" "true"
    let t' := s.copyInto t
    t'.kind = .standard .echoReply ∧ t'.bag.text? "RequestId" = some "+7" ∧
    t'.bag.text? "Error" = some "not json" ∧ t'.bag.text? "Payload" = some "?" ∧
    t'.bag.text? "WasCancelled" = some "true" ∧ t'.bag.text? "Extra" = none ∧
    s.copyInto t' = t' := by
  intro s t t'
  have hs : s.OfKind .cancelReply := ⟨rfl, rfl, rfl⟩
  have ht : t.OfKind .echoReply := ⟨rfl, rfl, rfl⟩
  obtain ⟨⟨hkind, -, -⟩, htext, hagain, -⟩ := copied_in_common hs ht
  refine ⟨hkind, ?_, ?_, ?_, ?_, ?_, hagain⟩ <;>
    · rw [htext]
      decide +kernel

end Message

end ProxyLink
