import ProxyLink.Link

/-!
# Queues of a link

An operation at one end of a link changes the queue that it reads or writes and leaves the other
one alone.
-/

namespace ProxyLink

@[simp] theorem Side.other_other (s : Side) : s.other.other = s := by cases s <;> rfl

theorem Side.other_ne (s : Side) : s.other ≠ s := by cases s <;> exact nofun

theorem Side.eq_or_eq_other (s t : Side) : t = s ∨ t = s.other := by
  cases s <;> cases t <;> decide

namespace Link

variable {l : Link} {s : Side}

@[simp] theorem queue_setQueue_self (l : Link) (s : Side) (frames : Option (List (List UInt8))) :
    (l.setQueue s frames).queue s = frames := by
  cases s <;> rfl

@[simp] theorem queue_other_setQueue (l : Link) (s : Side)
    (frames : Option (List (List UInt8))) :
    (l.setQueue s frames).queue s.other = l.queue s.other := by
  cases s <;> rfl

@[simp] theorem queue_setQueue_other (l : Link) (s : Side)
    (frames : Option (List (List UInt8))) :
    (l.setQueue s.other frames).queue s = l.queue s := by
  cases s <;> rfl

@[simp] theorem crossed_setQueue (l : Link) (s : Side) (frames : Option (List (List UInt8))) :
    (l.setQueue s frames).crossed = l.crossed := by
  cases s <;> rfl

@[simp] theorem target_setQueue (l : Link) (s : Side) (frames : Option (List (List UInt8)))
    (t : Side) : (l.setQueue s frames).target t = l.target t := by
  cases s <;> rfl

@[simp] theorem setQueue_setQueue (l : Link) (s : Side)
    (frames frames' : Option (List (List UInt8))) :
    (l.setQueue s frames).setQueue s frames' = l.setQueue s frames' := by
  cases s <;> rfl

theorem setQueue_of_queue {frames : Option (List (List UInt8))} (h : l.queue s = frames) :
    l.setQueue s frames = l := by
  subst h
  cases s <;> rfl

/-- Where each end sends to the other one, frames arrive at the other one. -/
theorem target_of_crossed (h : l.crossed = true) : l.target s = s.other := by
  rw [target, if_pos h]

/-- Frames arrive at one end from the end that they are sent to from there. -/
@[simp] theorem target_target (l : Link) (s : Side) : l.target (l.target s) = s := by
  rcases l with ⟨crossed, -, -⟩
  cases crossed
  · rfl
  · exact s.other_other

/-- An end has its queue to itself. -/
theorem queue_setQueue_of_ne {t : Side} (h : t ≠ s) (frames : Option (List (List UInt8))) :
    (l.setQueue s frames).queue t = l.queue t := by
  obtain rfl : t = s.other := (s.eq_or_eq_other t).resolve_left h
  exact l.queue_other_setQueue s frames

/-- Another queue at an end that is not gone makes no end come or go. -/
theorem queue_setQueue_some_eq_none_iff {frames : List (List UInt8)} (h : l.queue s = some frames)
    (frames' : List (List UInt8)) (t : Side) :
    (l.setQueue s (some frames')).queue t = none ↔ l.queue t = none := by
  by_cases ht : t = s
  · rw [ht, queue_setQueue_self, h]
    exact iff_of_false nofun nofun
  · rw [queue_setQueue_of_ne ht]

/-- An end is gone when it was gone before or is dropped. -/
theorem queue_drop_eq_none_iff {t : Side} :
    (l.drop s).queue t = none ↔ l.queue t = none ∨ t = s := by
  by_cases ht : t = s
  · rw [drop, ht, queue_setQueue_self]
    exact iff_of_true rfl (.inr rfl)
  · rw [drop, queue_setQueue_of_ne ht, or_iff_left ht]

/-- An end that is not gone has the queue that it had before another one was dropped. -/
theorem queue_of_queue_drop {t : Side} {frames : List (List UInt8)}
    (h : (l.drop s).queue t = some frames) : l.queue t = some frames := by
  by_cases ht : t = s
  · rw [drop, ht, queue_setQueue_self] at h
    cases h
  · rw [drop, queue_setQueue_of_ne ht] at h
    exact h

/-- A frame is queued behind the others when the end it goes to is not gone. -/
theorem send_of_queue {frames : List (List UInt8)} (h : l.queue (l.target s) = some frames)
    (frame : List UInt8) :
    l.send s frame = .ok (l.setQueue (l.target s) (some (frames ++ [frame]))) := by
  rw [send, h]

/-- A frame is refused when the end it goes to is gone. -/
theorem send_of_queue_none (h : l.queue (l.target s) = none) (frame : List UInt8) :
    l.send s frame = .error .peerGone := by
  rw [send, h]

/-- The first frame is taken from a queue. -/
theorem receive_of_queue_cons {frame : List UInt8} {frames : List (List UInt8)}
    (h : l.queue s = some (frame :: frames)) :
    l.receive s = (some frame, l.setQueue s (some frames)) := by
  rw [receive, h]

theorem receive_of_queue_nil (h : l.queue s = some []) : l.receive s = (none, l) := by
  rw [receive, h]

theorem receive_of_queue_none (h : l.queue s = none) : l.receive s = (none, l) := by
  rw [receive, h]

/-- Every frame is taken from a queue. -/
theorem receiveAll_of_queue {frames : List (List UInt8)} (h : l.queue s = some frames) :
    l.receiveAll s = (frames, l.setQueue s (some [])) := by
  rw [receiveAll, h]

theorem receiveAll_of_queue_none (h : l.queue s = none) : l.receiveAll s = ([], l) := by
  rw [receiveAll, h]

end Link

end ProxyLink
