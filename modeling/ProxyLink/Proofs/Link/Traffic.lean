import Mathlib.Logic.Function.Basic
import ProxyLink.Proofs.Link

/-!
# The traffic over a link

Frames are sent and received at both ends of a link, one at a time or all that wait, and ends are
dropped. Books are kept of what each end has sent and received, by what the link answers. Whatever
happens, an end that was not dropped has received what was sent to it, in that order, but for the
frames that wait there: `kept_run`.
-/

namespace ProxyLink

namespace Link

/-- What can happen at the ends of a link. -/
inductive Use where
  | send (side : Side) (frame : List UInt8)
  | receive (side : Side)
  | receiveAll (side : Side)
  | drop (side : Side)

/-- An end is there from the start, and was not dropped. -/
def Lives (l : Link) (uses : List Use) (side : Side) : Prop :=
  l.queue side ≠ none ∧ .drop side ∉ uses

end Link

open Link (Use)

/-- A link, and what its ends have sent and received so far. -/
structure Traffic where
  link : Link
  /-- The frames that were sent from each end and not refused. -/
  sent : Side → List (List UInt8)
  received : Side → List (List UInt8)

namespace Traffic

def start (l : Link) : Traffic := ⟨l, fun _ => [], fun _ => []⟩

/-- The traffic after some frames were received at one end. -/
def receiving (t : Traffic) (side : Side) (frames : List (List UInt8)) (link : Link) : Traffic :=
  { t with link, received := Function.update t.received side (t.received side ++ frames) }

def use (t : Traffic) : Use → Traffic
  | .send side frame =>
    match t.link.send side frame with
    | .ok link => { t with link, sent := Function.update t.sent side (t.sent side ++ [frame]) }
    | .error _ => t
  | .receive side =>
    let (frame, link) := t.link.receive side
    t.receiving side frame.toList link
  | .receiveAll side =>
    let (frames, link) := t.link.receiveAll side
    t.receiving side frames link
  | .drop side => { t with link := t.link.drop side }

def run (l : Link) (uses : List Use) : Traffic := uses.foldl use (start l)

/-- Each end has received what was sent to it, but for the frames that wait there. -/
def Kept (t : Traffic) : Prop :=
  ∀ s queued, t.link.queue s = some queued → t.received s ++ queued = t.sent (t.link.target s)

variable {t : Traffic} {s : Side}

/-! ### One use -/

theorem receiving_nil (t : Traffic) (s : Side) : t.receiving s [] t.link = t := by
  rw [receiving, List.append_nil, Function.update_eq_self]

theorem use_send_of_queue_none (h : t.link.queue (t.link.target s) = none) (frame : List UInt8) :
    t.use (.send s frame) = t := by
  rw [use, Link.send_of_queue_none h]

/-- The first frame that waits is received. -/
theorem use_receive_of_queue_cons {frame : List UInt8} {rest : List (List UInt8)}
    (h : t.link.queue s = some (frame :: rest)) :
    t.use (.receive s) = t.receiving s [frame] (t.link.setQueue s (some rest)) := by
  rw [use, Link.receive_of_queue_cons h]
  rfl

theorem use_receiveAll_of_queue {queued : List (List UInt8)} (h : t.link.queue s = some queued) :
    t.use (.receiveAll s) = t.receiving s queued (t.link.setQueue s (some [])) := by
  rw [use, Link.receiveAll_of_queue h]

/-- Whatever is done, nothing changes, or a frame is queued, or frames are taken from the head of a
queue, or an end is dropped. -/
theorem use_cases (t : Traffic) (u : Use) :
    (t.use u = t ∧ ∀ s, u ≠ .drop s) ∨
    (∃ s frame queued, u = .send s frame ∧ t.link.queue (t.link.target s) = some queued ∧
      t.use u = ⟨t.link.setQueue (t.link.target s) (some (queued ++ [frame])),
        Function.update t.sent s (t.sent s ++ [frame]), t.received⟩) ∨
    (∃ s frames rest, (u = .receive s ∨ u = .receiveAll s) ∧
      t.link.queue s = some (frames ++ rest) ∧
      t.use u = t.receiving s frames (t.link.setQueue s (some rest))) ∨
    ∃ s, u = .drop s ∧ t.use u = { t with link := t.link.drop s } := by
  cases u with
  | send s frame =>
    cases hq : t.link.queue (t.link.target s) with
    | none => exact .inl ⟨use_send_of_queue_none hq frame, nofun⟩
    | some queued =>
      refine .inr (.inl ⟨s, frame, queued, rfl, hq, ?_⟩)
      rw [use, Link.send_of_queue hq]
  | receive s =>
    cases hq : t.link.queue s with
    | none =>
      refine .inl ⟨?_, nofun⟩
      rw [use, Link.receive_of_queue_none hq]
      exact t.receiving_nil s
    | some queued =>
      cases queued with
      | nil =>
        refine .inl ⟨?_, nofun⟩
        rw [use, Link.receive_of_queue_nil hq]
        exact t.receiving_nil s
      | cons frame rest =>
        exact .inr (.inr (.inl ⟨s, [frame], rest, .inl rfl, hq, use_receive_of_queue_cons hq⟩))
  | receiveAll s =>
    cases hq : t.link.queue s with
    | none =>
      refine .inl ⟨?_, nofun⟩
      rw [use, Link.receiveAll_of_queue_none hq]
      exact t.receiving_nil s
    | some queued =>
      refine .inr (.inr (.inl ⟨s, queued, [], .inr rfl, ?_, use_receiveAll_of_queue hq⟩))
      rw [List.append_nil]
      exact hq
  | drop s => exact .inr (.inr (.inr ⟨s, rfl, rfl⟩))

/-- Nothing changes where frames arrive. -/
theorem target_use (t : Traffic) (u : Use) (s : Side) :
    (t.use u).link.target s = t.link.target s := by
  obtain ⟨h, -⟩ | ⟨_, _, _, -, -, h⟩ | ⟨_, _, _, -, -, h⟩ | ⟨_, -, h⟩ := t.use_cases u
  · rw [h]
  all_goals
    rw [h]
    exact Link.target_setQueue ..

theorem queue_use_eq_none_iff (t : Traffic) (u : Use) (s : Side) :
    (t.use u).link.queue s = none ↔ t.link.queue s = none ∨ u = .drop s := by
  obtain ⟨h, hdrop⟩ | ⟨s', frame, queued, rfl, hq, h⟩ | ⟨s', frames, rest, hu, hq, h⟩ |
    ⟨s', rfl, h⟩ := t.use_cases u
  · rw [h, or_iff_left (hdrop s)]
  · rw [h, or_iff_left nofun]
    exact Link.queue_setQueue_some_eq_none_iff hq _ s
  · rw [h, or_iff_left (by rcases hu with rfl | rfl <;> exact nofun)]
    exact Link.queue_setQueue_some_eq_none_iff hq rest s
  · rw [h, Use.drop.injEq, eq_comm (a := s')]
    exact Link.queue_drop_eq_none_iff

/-- Whatever is done, no frame is lost, repeated or moved. -/
theorem kept_use (hkept : t.Kept) (u : Use) : (t.use u).Kept := by
  intro s after hafter
  rw [target_use]
  obtain ⟨h, -⟩ | ⟨s', frame, queued, -, hq, h⟩ | ⟨s', frames, rest, -, hq, h⟩ | ⟨s', -, h⟩ :=
    t.use_cases u
  · rw [h] at hafter ⊢
    exact hkept s after hafter
  · rw [h] at hafter ⊢
    simp only at hafter ⊢
    by_cases hs : s = t.link.target s'
    · subst hs
      rw [Link.queue_setQueue_self] at hafter
      cases hafter
      have hbefore := hkept _ queued hq
      rw [Link.target_target] at hbefore ⊢
      rw [Function.update_self, ← hbefore, List.append_assoc]
    · have hne : t.link.target s ≠ s' := by
        rintro rfl
        exact hs (Link.target_target ..).symm
      rw [Link.queue_setQueue_of_ne hs] at hafter
      rw [Function.update_of_ne hne]
      exact hkept s after hafter
  · rw [h, receiving] at hafter ⊢
    simp only at hafter ⊢
    by_cases hs : s = s'
    · subst hs
      rw [Link.queue_setQueue_self] at hafter
      cases hafter
      rw [Function.update_self, List.append_assoc]
      exact hkept s _ hq
    · rw [Link.queue_setQueue_of_ne hs] at hafter
      rw [Function.update_of_ne hs]
      exact hkept s after hafter
  · rw [h] at hafter ⊢
    exact hkept s after (Link.queue_of_queue_drop hafter)

/-- To receive all that waits is to receive one frame after the other. -/
theorem use_receiveAll {queued : List (List UInt8)} (h : t.link.queue s = some queued) :
    t.use (.receiveAll s) = (List.replicate queued.length (Use.receive s)).foldl use t := by
  -- When the first frame was received, the others wait as before.
  induction queued generalizing t with
  | nil =>
    rw [use_receiveAll_of_queue h, Link.setQueue_of_queue h]
    exact t.receiving_nil s
  | cons frame rest ih =>
    have hone := use_receive_of_queue_cons h
    have hrest : (t.use (.receive s)).link.queue s = some rest := by
      rw [hone]
      exact Link.queue_setQueue_self ..
    rw [List.length_cons, List.replicate_succ, List.foldl_cons, ← ih hrest,
      use_receiveAll_of_queue h, use_receiveAll_of_queue hrest, hone]
    simp only [receiving, Link.setQueue_setQueue, Function.update_self, Function.update_idem,
      List.append_assoc, List.singleton_append]

/-! ### Every use -/

variable {l : Link} {uses : List Use}

theorem target_foldl (t : Traffic) (uses : List Use) (s : Side) :
    (uses.foldl use t).link.target s = t.link.target s := by
  induction uses generalizing t with
  | nil => rfl
  | cons u uses ih => rw [List.foldl_cons, ih, target_use]

/-- An end is gone when it was gone from the start or was dropped. -/
theorem queue_foldl_eq_none_iff (t : Traffic) (uses : List Use) (s : Side) :
    (uses.foldl use t).link.queue s = none ↔ t.link.queue s = none ∨ .drop s ∈ uses := by
  induction uses generalizing t with
  | nil => exact (or_iff_left List.not_mem_nil).symm
  | cons u uses ih =>
    rw [List.foldl_cons, ih, queue_use_eq_none_iff, or_assoc, List.mem_cons, eq_comm (a := u)]

theorem kept_foldl (hkept : t.Kept) (uses : List Use) : (uses.foldl use t).Kept := by
  induction uses generalizing t with
  | nil => exact hkept
  | cons u uses ih => exact ih (kept_use hkept u)

theorem target_run (l : Link) (uses : List Use) (s : Side) :
    (run l uses).link.target s = l.target s :=
  target_foldl (start l) uses s

/-- An end has a queue exactly while it lives. -/
theorem queue_run_ne_none_iff : (run l uses).link.queue s ≠ none ↔ l.Lives uses s := by
  rw [run, Ne, queue_foldl_eq_none_iff, not_or]
  rfl

/-- Where nothing waits from the start, no frame is lost, repeated or moved over a link. -/
theorem kept_run (hempty : ∀ s queued, l.queue s = some queued → queued = [])
    (uses : List Use) : (run l uses).Kept := by
  have hstart : (start l).Kept := by
    intro s queued hq
    rw [hempty s queued hq]
    rfl
  exact kept_foldl hstart uses

end Traffic

end ProxyLink
