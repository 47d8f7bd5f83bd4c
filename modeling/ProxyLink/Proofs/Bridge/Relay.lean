import Mathlib.Data.List.Flatten
import Mathlib.Data.List.Forall2
import ProxyLink.Proofs.Bridge
import ProxyLink.Proofs.Frame.RoundTrip

/-!
# Messages that are sent on

A bridge sends on a copy of a message, another bridge decodes it and sends on a copy of what it has
decoded, and so on. Main statement, which comes last: after any number of hops there is on the last
link what was on the first one, which is the frame of a message with all texts that the kind of the
message declares, and with no other ones.
-/

namespace ProxyLink

/-- The bag with the entries of some keys only. -/
def Bag.restrict (b : Bag) (keys : List String) : Bag :=
  ⟨b.entries.filter fun e => keys.contains e.1, b.ascending.filter _⟩

theorem Bag.text?_restrict (b : Bag) (keys : List String) (key : String) :
    (b.restrict keys).text? key = if key ∈ keys then b.text? key else none := by
  rw [text?, restrict, lookup_filter b.entries keys.contains]
  simp only [List.contains_iff_mem, text?]

namespace Message

variable {m : Message} {k : StandardKind}

/-! ### What a clone keeps -/

/-- A clone keeps the texts of the fields of its kind. -/
theorem OfKind.bag_clone (h : m.OfKind k) :
    m.clone.bag = m.bag.restrict (k.fields.map (·.key)) := by
  apply Bag.ext
  intro key
  rw [h.text?_clone, Bag.text?_restrict]

/-- A clone has nothing to lose. -/
theorem OfKind.clone_clone (h : m.OfKind k) : m.clone.clone = m.clone := by
  refine h.clone.clone.eq_of_bag h.clone (Bag.ext ?_)
  intro key
  rw [h.clone.text?_clone, h.text?_clone]
  split <;> rfl

/-- A clone is no longer on the wire than the message. -/
theorem OfKind.length_body_clone_le (h : m.OfKind k) : m.clone.body.length ≤ m.body.length := by
  have hentries : m.clone.bag.entries.Sublist m.bag.entries := by
    rw [h.bag_clone]
    exact List.filter_sublist
  have hbytes := (hentries.flatMap fun e => Frame.entry e.1 e.2).length_le
  simp only [body, Frame.bodyOf, List.length_append, Frame.length_word]
  omega

end Message

/-! ### Hops -/

/-- A bridge at one end of a link, and the registry by which it decodes what it is to send on. -/
structure Relay where
  registry : Registry
  bridge : Bridge
  link : Link
  side : Side

namespace Relay

def target (r : Relay) : Side := r.link.target r.side

/-- The relay after it has sent a message on. -/
def forward (r : Relay) (m : Message) : Except Failure Relay :=
  let step := r.bridge.forward r.link r.side m
  step.result.map fun _ => { r with bridge := step.bridge, link := step.link }

/-- The frame that was queued last at the end that a relay sends to. -/
def lastFrame (r : Relay) : List UInt8 := ((r.link.queue r.target).bind List.getLast?).getD []

/-- The relays after the first one has sent a message on, and each of the others what it has decoded
from the frame that the one before it has queued. -/
def relay (m : Message) (first : Relay) : List Relay → Except Failure (List Relay)
  | [] => (first.forward m).map fun after => [after]
  | next :: rest =>
    match first.forward m with
    | .error failure => .error failure
    | .ok after =>
      match Frame.decode next.registry after.lastFrame with
      | .error failure => .error failure
      | .ok m => (relay m next rest).map fun others => after :: others

/-- A relay queues one frame and counts it, and that is all. -/
def Queues (frame : List UInt8) (before after : Relay) : Prop :=
  ∃ frames, before.link.queue before.target = some frames ∧
    after = { before with
      bridge := before.bridge.countSent
      link := before.link.setQueue before.target (some (frames ++ [frame])) }

theorem Queues.lastFrame {frame : List UInt8} {before after : Relay}
    (h : Queues frame before after) : after.lastFrame = frame := by
  obtain ⟨frames, -, rfl⟩ := h
  have htarget : (Relay.mk before.registry before.bridge.countSent
      (before.link.setQueue before.target (some (frames ++ [frame]))) before.side).target =
      before.target := Link.target_setQueue ..
  rw [Relay.lastFrame, htarget]
  simp only [Link.queue_setQueue_self, Option.bind_some, List.getLast?_append,
    List.getLast?_singleton, Option.some_or, Option.getD_some]

/-- A relay sends on a copy of a message when the end that it sends to is not gone. -/
theorem forward_of_live {r : Relay} (hlive : r.link.queue r.target ≠ none) (m : Message) :
    ∃ after, r.forward m = .ok after ∧ Queues m.clone.frame r after := by
  obtain ⟨frames, hframes⟩ := Option.ne_none_iff_exists'.mp hlive
  refine ⟨_, ?_, frames, hframes, rfl⟩
  rw [forward, Bridge.forward_of_queue hframes]
  rfl

/-- Where fresh messages of its kind are blank, a message is sent on to the last one of some relays,
and each of them queues the frame of its clone. -/
theorem relay_of_live {m : Message} {k : StandardKind} (hm : m.OfKind k)
    (hshort : m.body.length < 2 ^ 32) {first : Relay} {rest : List Relay}
    (hlive : ∀ r ∈ first :: rest, r.link.queue r.target ≠ none)
    (hblank : ∀ r ∈ rest, r.registry.HasBlank k) :
    ∃ after, relay m first rest = .ok after ∧
      List.Forall₂ (Queues m.clone.frame) (first :: rest) after := by
  obtain ⟨after, hforward, hqueues⟩ := first.forward_of_live (hlive first List.mem_cons_self) m
  -- Behind the first relay the message is a clone, and every later relay sends on that same clone.
  induction rest generalizing m first after with
  | nil =>
    refine ⟨[after], ?_, .cons hqueues .nil⟩
    rw [relay, hforward]
    rfl
  | cons next rest ih =>
    have hclone : m.clone.body.length < 2 ^ 32 := Nat.lt_of_le_of_lt hm.length_body_clone_le hshort
    have hothers : ∀ r ∈ next :: rest, r.link.queue r.target ≠ none :=
      fun r hr => hlive r (List.mem_cons_of_mem _ hr)
    have hdecode : Frame.decode next.registry after.lastFrame = .ok m.clone := by
      rw [hqueues.lastFrame]
      exact Frame.decode_frame_of_hasBlank hm.clone (hblank next List.mem_cons_self) hclone
    obtain ⟨after', hforward', hqueues'⟩ :=
      next.forward_of_live (hothers next List.mem_cons_self) m.clone
    obtain ⟨others, hrelay, hall⟩ := ih hm.clone hclone hothers
      (fun r hr => hblank r (List.mem_cons_of_mem _ hr)) after' hforward' hqueues'
    rw [hm.clone_clone] at hall
    refine ⟨after :: others, ?_, .cons hqueues hall⟩
    rw [relay, hforward]
    simp only
    rw [hdecode]
    simp only
    rw [hrelay]
    rfl

/-- Whatever a message of a standard kind holds, it can be sent on over any number of hops when its
body has fewer than 2³² bytes, every relay sends to an end that is not gone, and fresh messages of
its kind are blank to all those that decode it on the way. Each relay then queues one and the same
frame, that of the clone of the message, and has registered nothing. The clone has the texts of the
fields that the kind declares, as they stand, and no other ones. Wherever the last frame is decoded,
the message is of the same kind, type and layer, and whatever is declared reads as it did at first,
an error included. A relay that is used more than once counts as another one each time. -/
theorem relayed_as_first_sent {m : Message} {k : StandardKind} (hm : m.OfKind k)
    (hshort : m.body.length < 2 ^ 32) {first : Relay} {rest : List Relay}
    (hlive : ∀ r ∈ first :: rest, r.link.queue r.target ≠ none)
    (hblank : ∀ r ∈ rest, r.registry.HasBlank k) :
    (∃ after, relay m first rest = .ok after ∧
      List.Forall₂ (fun r r' : Relay => r'.bridge.pending = r.bridge.pending ∧
        ∃ frames, r.link.queue r.target = some frames ∧
          r'.link = r.link.setQueue r.target (some (frames ++ [m.clone.frame])))
        (first :: rest) after) ∧
    m.clone.bag = m.bag.restrict (k.fields.map (·.key)) ∧
    ∀ registry : Registry, registry.HasBlank k → ∃ decoded,
      Frame.decode registry m.clone.frame = .ok decoded ∧ decoded.kind = m.kind ∧
      decoded.type = m.type ∧ decoded.layer = m.layer ∧
      (∀ f ∈ k.fields, decoded.read f = m.read f) ∧
      (Field.error ∈ k.fields → decoded.isSuccess = m.isSuccess) := by
  refine ⟨?_, hm.bag_clone, ?_⟩
  · obtain ⟨after, hrelay, hall⟩ := relay_of_live hm hshort hlive hblank
    refine ⟨after, hrelay, hall.imp ?_⟩
    rintro r _ ⟨frames, hframes, rfl⟩
    exact ⟨rfl, frames, hframes, rfl⟩
  · intro registry hregistry
    have hclone : m.clone.body.length < 2 ^ 32 := Nat.lt_of_le_of_lt hm.length_body_clone_le hshort
    refine ⟨m.clone, Frame.decode_frame_of_hasBlank hm.clone hregistry hclone, rfl, rfl, rfl, ?_,
      ?_⟩
    · intro f hf
      exact hm.read_clone hf
    · intro herror
      have htext := hm.text?_clone Field.error.key
      rw [if_pos (List.mem_map_of_mem herror)] at htext
      rw [Message.isSuccess, Message.isSuccess, Bag.contains, Bag.contains, htext]

/-- A text that no boolean has and an id with a sign go over three hops, and an undeclared key does
not. -/
theorem relayed_unreadable_text :
    let m := (((Message.ofStandard .connectRequest).insertText "RequestId" "+7").insertText
      "CreateDomain" "yes").insertText "Extra" "1"
    let first : Relay := ⟨.empty, .new .empty none, .pair, .right⟩
    let other : Relay := ⟨.standard, .new .empty none, .loopback, .left⟩
    m.clone.bag.entries = [("CreateDomain", "yes"), ("RequestId", "+7")] ∧
      (∃ second third last, relay m first [other, other] = .ok [second, third, last] ∧
        last.link.queue .left = some [m.clone.frame]) ∧
      ∃ decoded, Frame.decode .standard m.clone.frame = .ok decoded ∧
        decoded.read .createDomain = .error ⟨"CreateDomain", "boolean", "yes"⟩ := by
  intro m first other
  have hlive : ∀ r ∈ [first, other, other], r.link.queue r.target ≠ none := by
    simp only [List.forall_mem_cons]
    exact ⟨nofun, nofun, nofun, nofun⟩
  have hblank : ∀ r ∈ [other, other], r.registry.HasBlank .connectRequest := by
    simp only [List.forall_mem_cons]
    exact ⟨Registry.hasBlank_standard _, Registry.hasBlank_standard _, nofun⟩
  obtain ⟨⟨after, hrelay, hall⟩, hbag, hread⟩ :=
    relayed_as_first_sent (m := m) (k := .connectRequest) ⟨rfl, rfl, rfl⟩ (by decide +kernel)
      hlive hblank
  refine ⟨?_, ?_, ?_⟩
  · rw [hbag]
    decide +kernel
  · rcases hall with _ | ⟨-, _ | ⟨-, _ | ⟨⟨-, frames, hframes, hlink⟩, ⟨⟩⟩⟩⟩
    refine ⟨_, _, _, hrelay, ?_⟩
    cases hframes
    rw [hlink]
    rfl
  · obtain ⟨decoded, hdecode, -, -, -, hfields, -⟩ := hread .standard (Registry.hasBlank_standard _)
    refine ⟨decoded, hdecode, ?_⟩
    rw [hfields .createDomain (by decide)]
    rfl

end Relay

end ProxyLink
