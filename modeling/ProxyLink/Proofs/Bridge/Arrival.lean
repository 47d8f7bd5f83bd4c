import ProxyLink.Proofs.Bridge.History

/-!
# What arrives at a bridge

A frame cannot be decoded, or it is a message for the owner of the bridge, or it is a reply, which
names a request or does not. `Arrives` tells these apart, and only a reply to a request that waits
makes another table of the table of requests. Main statement: `arrival_settles_the_addressee`.
-/

namespace ProxyLink

namespace Pending

variable {p : Pending}

/-! ### Registrations that wait and are known apart -/

/-- A table in which each registration that waits has an id and a number of its own, and no outcome
yet. -/
structure Coherent (p : Pending) : Prop extends p.Numbered where
  ids : (p.waiting.map (·.id)).Nodup
  numbers : (p.waiting.map (·.number)).Nodup
  unsettled : ∀ t ∈ p.waiting, p.outcome? t = none

theorem coherent_empty : Pending.empty.Coherent :=
  ⟨numbered_empty, List.nodup_nil, List.nodup_nil, nofun⟩

namespace Coherent

/-- Taking registrations away keeps a table coherent, if no outcome comes in for those that are
left. -/
theorem of_sublist (h : p.Coherent) {p' : Pending} (hnumbered : p'.Numbered)
    (hwaiting : p'.waiting.Sublist p.waiting)
    (hunsettled : ∀ t ∈ p'.waiting, p.outcome? t = none → p'.outcome? t = none) : p'.Coherent where
  toNumbered := hnumbered
  ids := h.ids.sublist (hwaiting.map _)
  numbers := h.numbers.sublist (hwaiting.map _)
  unsettled t ht := hunsettled t ht (h.unsettled t (hwaiting.subset ht))

/-- A registration that is not the one under an id has another number, too. -/
theorem number_ne (h : p.Coherent) {id : Int64} {t t' : Ticket} (hfind : p.find? id = some t)
    (ht' : t' ∈ p.waiting) (hid : t'.id ≠ id) : t'.number ≠ t.number := by
  obtain ⟨ht, rfl⟩ := mem_of_find? hfind
  intro hnumber
  exact hid (congrArg Ticket.id (List.inj_on_of_nodup_map h.numbers ht' ht hnumber))

/-- A registration is made under an id that does not wait and with the next number. -/
theorem register (h : p.Coherent) (id : Int64) : (p.register id).2.Coherent := by
  have hnumbered := h.toNumbered.register id
  cases hc : p.contains id with
  | true =>
    rw [register_of_contains hc] at hnumbered ⊢
    exact ⟨hnumbered, h.ids, h.numbers, h.unsettled⟩
  | false =>
    rw [register_of_not_contains hc] at hnumbered ⊢
    refine ⟨hnumbered, ?_, ?_, ?_⟩
    · rw [List.map_append, List.map_singleton, ← List.concat_eq_append]
      refine h.ids.concat fun hid => ?_
      rw [contains_iff.mpr hid] at hc
      cases hc
    · rw [List.map_append, List.map_singleton, ← List.concat_eq_append]
      refine h.numbers.concat fun hnumber => ?_
      obtain ⟨t, ht, heq⟩ := List.mem_map.mp hnumber
      exact Nat.ne_of_lt (h.waiting t ht) heq
    · intro t ht
      rcases List.mem_append.mp ht with ht | ht
      · exact h.unsettled t ht
      · rw [List.mem_singleton.mp ht]
        exact h.outcome?_eq_none id

/-- The outcome that an id is settled with concerns nobody who still waits. -/
theorem settle (h : p.Coherent) (id : Int64) (outcome : Outcome) :
    (p.settle id outcome).2.Coherent := by
  have hnumbered := h.toNumbered.settle id outcome
  obtain ⟨t, hfind, hsettle⟩ | ⟨-, hsettle⟩ := p.settle_cases id outcome
  · rw [hsettle] at hnumbered ⊢
    refine h.of_sublist hnumbered List.filter_sublist ?_
    intro t' ht' hnone
    obtain ⟨hmem, hid⟩ := List.mem_filter.mp ht'
    rw [outcome?_note, if_neg (h.number_ne hfind hmem (bne_iff_ne.mp hid))]
    exact hnone
  · rw [hsettle]
    exact h

theorem cancelAll (h : p.Coherent) : p.cancelAll.2.Coherent :=
  h.of_sublist h.toNumbered.cancelAll (List.nil_sublist _) nofun

/-- Giving a ticket up only takes away. -/
theorem drop (h : p.Coherent) (t : Ticket) : (p.drop t).1.Coherent := by
  refine h.of_sublist (h.toNumbered.drop t) List.filter_sublist ?_
  intro t' _ hnone
  rw [outcome?_drop, hnone, ite_self]

end Coherent

theorem invariant_coherent : Invariant Coherent where
  nextId _ h := ⟨⟨h.waiting, h.settled⟩, h.ids, h.numbers, h.unsettled⟩
  register _ id h := h.register id
  settle _ id outcome h := h.settle id outcome
  cancelAll _ h := h.cancelAll
  drop _ t h := h.drop t

/-! ### A reply that is handed over -/

/-- What a table becomes when a reply is handed to a registration: the registration has waited, and
is gone now; the reply is its outcome, and it had none before. Nothing else is different. -/
structure HandedOver (p : Pending) (t : Ticket) (reply : Message) (p' : Pending) : Prop where
  waiting : p.waiting.Perm (t :: p'.waiting)
  gone : p'.contains t.id = false
  unsettled : p.outcome? t = none
  outcome : p'.outcome? t = some (.ok reply)
  others : ∀ t', t'.number ≠ t.number → p'.outcome? t' = p.outcome? t'
  lastId : p'.lastId = p.lastId
  nextNumber : p'.nextNumber = p.nextNumber

/-- A reply is handed to the registration that waits under its id. -/
theorem Coherent.handedOver (h : p.Coherent) {id : Int64} {t : Ticket}
    (hfind : p.find? id = some t) (reply : Message) :
    p.HandedOver t reply (p.settle id (.ok reply)).2 := by
  obtain ⟨ht, rfl⟩ := mem_of_find? hfind
  have hwaiting := waiting_settle hfind (.ok reply)
  refine ⟨?_, ?_, h.unsettled t ht, ?_, ?_, ?_, p.nextNumber_settle t.id _⟩
  · rw [hwaiting]
    exact perm_cons_filter_id h.ids ht
  · rw [← Bool.not_eq_true, contains_iff, hwaiting]
    intro hmem
    obtain ⟨w, hw, hid⟩ := List.mem_map.mp hmem
    exact bne_iff_ne.mp (List.mem_filter.mp hw).2 hid
  · exact (outcome?_settle hfind _ t).trans (if_pos rfl)
  · intro t' hnumber
    exact (outcome?_settle hfind _ t').trans (if_neg hnumber)
  · rw [Pending.settle, hfind]

end Pending

namespace Bridge

variable {b : Bridge} {frame : List UInt8}

/-! ### What a frame turns out to be -/

/-- A frame with a reply in it, and the text of the reply's request id, if there is one. -/
structure HoldsReply (b : Bridge) (frame : List UInt8) (m : Message) (text : Option String) :
    Prop where
  decode : Frame.decode b.registry frame = .ok m
  layer : m.layer.isReply = true
  text : m.bag.text? Field.requestId.key = text

/-- What a frame turns out to be, and the table of requests after it. -/
inductive Arrives (b : Bridge) (frame : List UInt8) : Except Failure Inbound → Pending → Prop where
  /-- The frame cannot be decoded. -/
  | undecodable {failure : Failure} (hdecode : Frame.decode b.registry frame = .error failure) :
    Arrives b frame (.error failure) b.pending
  /-- The message is no reply, and is for the owner of the bridge as it is. -/
  | request {m : Message} (hdecode : Frame.decode b.registry frame = .ok m)
      (hlayer : m.layer.isReply = false) :
    Arrives b frame (.ok (.request m)) b.pending
  /-- The reply has no request id. -/
  | unnamed {m : Message} (hreply : b.HoldsReply frame m none) :
    Arrives b frame (.error (.missingId m.type)) b.pending
  /-- The request id of the reply cannot be read. -/
  | unreadable {m : Message} {text : String} (hreply : b.HoldsReply frame m (some text))
      (hread : (Property.ofText? text : Option Int64) = none) :
    Arrives b frame (.error (.property ⟨Field.requestId.key, Property.typeName Int64, text⟩))
      b.pending
  /-- Nobody waits for the reply. -/
  | orphan {m : Message} {text : String} {id : Int64} (hreply : b.HoldsReply frame m (some text))
      (hread : Property.ofText? text = some id) (hfree : b.pending.contains id = false) :
    Arrives b frame (.error (.orphan id m.type)) b.pending
  /-- The reply is handed to whoever waits for it. -/
  | reply {m : Message} {text : String} {t : Ticket} {p' : Pending}
      (hreply : b.HoldsReply frame m (some text)) (hread : Property.ofText? text = some t.id)
      (hhanded : b.pending.HandedOver t m p') :
    Arrives b frame (.ok (.reply t.id)) p'

/-- A frame that holds a reply to a request that waits. -/
def Answers (b : Bridge) (frame : List UInt8) (m : Message) (id : Int64) : Prop :=
  ∃ text, b.HoldsReply frame m (some text) ∧ Property.ofText? text = some id ∧
    b.pending.contains id = true

theorem HoldsReply.unique {m m' : Message} {text text' : Option String}
    (h : b.HoldsReply frame m text) (h' : b.HoldsReply frame m' text') : m = m' :=
  Except.ok.inj (h.decode.symm.trans h'.decode)

/-- Whoever a reply was handed to has waited for it. -/
theorem Answers.of_handedOver {m : Message} {text : String} {t : Ticket} {p' : Pending}
    (hreply : b.HoldsReply frame m (some text)) (hread : Property.ofText? text = some t.id)
    (hhanded : b.pending.HandedOver t m p') : b.Answers frame m t.id := by
  refine ⟨text, hreply, hread, Pending.contains_iff.mpr ?_⟩
  exact List.mem_map_of_mem (hhanded.waiting.mem_iff.mpr List.mem_cons_self)

/-- Handling a frame with a reply for a request comes to whether that request waits. -/
theorem HoldsReply.result_eq {m : Message} {text : String} {id : Int64}
    (hreply : b.HoldsReply frame m (some text)) (hread : Property.ofText? text = some id)
    (elapsed : Int64 → Duration) :
    (b.receiveFrame elapsed frame).1 =
      if b.pending.contains id then .ok (.reply id) else .error (.orphan id m.type) := by
  rw [(receiveFrame_of_isReply elapsed hreply.decode hreply.layer).1, Pending.deliver_eq,
    Message.addressee_of_text? hreply.layer hreply.text, hread, Pending.contains]
  obtain ⟨t, hfind, hsettle⟩ | ⟨hnone, hsettle⟩ := b.pending.settle_cases id (.ok m)
  · simp only [hfind, hsettle]
    rfl
  · simp only [hnone, hsettle]
    rfl

/-- What a frame turns out to be is what handling it comes to, so it is one thing only. -/
theorem Arrives.result_eq {result : Except Failure Inbound} {p' : Pending}
    (harrives : b.Arrives frame result p') (elapsed : Int64 → Duration) :
    (b.receiveFrame elapsed frame).1 = result := by
  cases harrives with
  | undecodable hdecode => rw [receiveFrame_of_error elapsed hdecode]
  | request hdecode hlayer => rw [receiveFrame_of_not_isReply elapsed hdecode hlayer]
  | unnamed hreply =>
    rw [(receiveFrame_of_isReply elapsed hreply.decode hreply.layer).1, Pending.deliver_eq,
      Message.addressee_of_text?_none hreply.layer hreply.text]
    rfl
  | unreadable hreply hread =>
    rw [(receiveFrame_of_isReply elapsed hreply.decode hreply.layer).1, Pending.deliver_eq,
      Message.addressee_of_text? hreply.layer hreply.text, hread]
    rfl
  | orphan hreply hread hfree =>
    rw [hreply.result_eq hread elapsed, if_neg (by rw [hfree]; exact Bool.false_ne_true)]
  | reply hreply hread hhanded =>
    obtain ⟨-, -, -, hwaits⟩ := Answers.of_handedOver hreply hread hhanded
    rw [hreply.result_eq hread elapsed, if_pos hwaits]

/-- A reply that somebody waits for is handed over to whoever waits for it. -/
theorem Arrives.of_answers {result : Except Failure Inbound} {p' : Pending}
    (harrives : b.Arrives frame result p') {m : Message} {id : Int64}
    (hanswers : b.Answers frame m id) :
    result = .ok (.reply id) ∧ ∃ t, t.id = id ∧ b.pending.HandedOver t m p' := by
  obtain ⟨text, hreply, hread, hwaits⟩ := hanswers
  let elapsed : Int64 → Duration := fun _ => .zero
  obtain rfl : result = .ok (.reply id) := by
    rw [← harrives.result_eq elapsed, hreply.result_eq hread elapsed, if_pos hwaits]
  cases harrives with
  | reply hreply' hread' hhanded =>
    obtain rfl := hreply.unique hreply'
    exact ⟨rfl, _, rfl, hhanded⟩

/-- A frame is handed over exactly if it holds a reply that somebody waits for. -/
theorem Arrives.reply_iff {result : Except Failure Inbound} {p' : Pending}
    (harrives : b.Arrives frame result p') (id : Int64) :
    result = .ok (.reply id) ↔ ∃ m, b.Answers frame m id := by
  constructor
  · rintro rfl
    cases harrives with
    | reply hreply hread hhanded => exact ⟨_, .of_handedOver hreply hread hhanded⟩
  · rintro ⟨m, hanswers⟩
    exact (harrives.of_answers hanswers).1

/-- A frame that is not handed to whoever waits for it leaves the table alone. -/
theorem Arrives.pending_eq {result : Except Failure Inbound} {p' : Pending}
    (harrives : b.Arrives frame result p') (hresult : ∀ id, result ≠ .ok (.reply id)) :
    p' = b.pending := by
  cases harrives with
  | reply => exact absurd rfl (hresult _)
  | _ => rfl

/-- Handling a frame makes of it what it turns out to be. -/
theorem arrives_receiveFrame (hcoherent : b.pending.Coherent) (elapsed : Int64 → Duration)
    (frame : List UInt8) :
    b.Arrives frame (b.receiveFrame elapsed frame).1
      (b.receiveFrame elapsed frame).2.1.pending := by
  cases hdecode : Frame.decode b.registry frame with
  | error failure =>
    rw [receiveFrame_of_error elapsed hdecode]
    exact .undecodable hdecode
  | ok m =>
    cases hlayer : m.layer.isReply with
    | false =>
      rw [receiveFrame_of_not_isReply elapsed hdecode hlayer]
      exact .request hdecode hlayer
    | true =>
      obtain ⟨hresult, hpending⟩ := receiveFrame_of_isReply elapsed hdecode hlayer
      rw [hresult, hpending, Pending.deliver_eq]
      cases htext : m.bag.text? Field.requestId.key with
      | none =>
        rw [Message.addressee_of_text?_none hlayer htext]
        exact .unnamed ⟨hdecode, hlayer, htext⟩
      | some text =>
        have hreply : b.HoldsReply frame m (some text) := ⟨hdecode, hlayer, htext⟩
        rw [Message.addressee_of_text? hlayer htext]
        cases hread : (Property.ofText? text : Option Int64) with
        | none => exact .unreadable hreply hread
        | some id =>
          obtain ⟨t, hfind, hsettle⟩ | ⟨hnone, hsettle⟩ := b.pending.settle_cases id (.ok m)
          · have hhanded := hcoherent.handedOver hfind m
            obtain ⟨-, rfl⟩ := Pending.mem_of_find? hfind
            simp only [hsettle] at hhanded ⊢
            exact .reply hreply hread hhanded
          · simp only [hsettle]
            refine .orphan hreply hread ?_
            rw [Pending.contains, hnone, Option.isSome_none]

/-- In every history of a bridge, its table is coherent. -/
theorem coherent_run (registry : Registry) (metrics : Option Metrics) (link : Link) (side : Side)
    (activities : List Activity) :
    ((Bridge.new registry metrics).run link side activities).bridge.pending.Coherent :=
  Pending.invariant_coherent.becomes Pending.coherent_empty
    ((Bridge.new registry metrics).becomes_run link side activities)

/-- Whatever has happened to a bridge, a frame that it handles turns out to be one thing. The frame
is handed over exactly if it holds a reply whose request id reads as one that waits. Then the
registration of that id is gone, the message is its outcome, and nothing else has changed.
Everything else that a frame can be leaves the table of requests alone, and no frame that is handled
concerns the link. -/
theorem arrival_settles_the_addressee (registry : Registry) (metrics : Option Metrics) (link : Link)
    (side : Side) (activities : List Activity) (frame : List UInt8) (elapsed : Int64 → Duration) :
    let h := (Bridge.new registry metrics).run link side activities
    let h' := h.bridge.perform h.link side (.receiveFrame frame elapsed)
    h'.link = h.link ∧
    ∃ result, h'.inbound = [result] ∧ h.bridge.Arrives frame result h'.bridge.pending ∧
      (∀ result' p', h.bridge.Arrives frame result' p' → result' = result) ∧
      (∀ id, result = .ok (.reply id) ↔ ∃ m, h.bridge.Answers frame m id) ∧
      (∀ m id, h.bridge.Answers frame m id →
        ∃ t, t.id = id ∧ h.bridge.pending.HandedOver t m h'.bridge.pending) ∧
      ((∀ id, result ≠ .ok (.reply id)) → h'.bridge.pending = h.bridge.pending) := by
  intro h h'
  have hcoherent : h.bridge.pending.Coherent := coherent_run registry metrics link side activities
  have harrives := arrives_receiveFrame hcoherent elapsed frame
  refine ⟨rfl, _, rfl, harrives, ?_, harrives.reply_iff, ?_, harrives.pending_eq⟩
  · intro result' p' harrives'
    exact (harrives'.result_eq elapsed).symm
  · intro m id hanswers
    exact (harrives.of_answers hanswers).2

end Bridge

end ProxyLink
