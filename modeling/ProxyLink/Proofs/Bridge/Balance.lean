import ProxyLink.Proofs.Bridge.Records
import ProxyLink.Proofs.Link.Traffic

/-!
# No frame is lost between two bridges

Two bridges at the ends of a link send and poll, and ends are dropped. `Balanced` says that each
bridge has counted as many frames as sent as the other one has handled, but for those that wait at
the other end. Main statement, which comes last: links neither lose nor repeat nor move frames, and
so the counters of the two bridges agree and a poll handles every frame that waits.
-/

namespace ProxyLink

namespace Bridge

variable {b : Bridge} {link : Link} {side : Side}

/-! ### Sending -/

/-- A bridge either leaves its link and the count of sent frames alone, or it queues a frame at the
end that it sends to and counts it. -/
def Sends (b : Bridge) (link : Link) (side : Side) (b' : Bridge) (link' : Link) : Prop :=
  (link' = link ∧ b'.counters.sent = b.counters.sent) ∨
  ∃ queued frame, link.queue (link.target side) = some queued ∧
    link' = link.setQueue (link.target side) (some (queued ++ [frame])) ∧
    b'.counters.sent = b.counters.sent + 1

/-- A message that is handed to the link is queued and counted, or neither. -/
theorem sends_transmit (b : Bridge) (link : Link) (side : Side) (direction : Direction)
    (m : Message) :
    let step := b.transmit link side direction m
    b.Sends link side step.bridge step.link := by
  rw [transmit]
  cases hq : link.queue (link.target side) with
  | none =>
    rw [Link.send_of_queue_none hq]
    exact .inl ⟨rfl, rfl⟩
  | some queued =>
    rw [Link.send_of_queue hq]
    exact .inr ⟨queued, m.frame, hq, rfl, rfl⟩

theorem sends_sendUnder (b : Bridge) (link : Link) (side : Side) (id : Int64)
    (request restored : Message) :
    let step := b.sendUnder link side id request restored
    b.Sends link side step.bridge step.link := by
  cases hc : b.pending.contains id with
  | true =>
    rw [sendUnder_of_contains hc]
    exact .inl ⟨rfl, rfl⟩
  | false =>
    rw [sendUnder, Pending.register_of_not_contains hc]
    simp only [sendRegistered]
    -- The table does not count, neither with the registration nor without it.
    split
    · exact sends_transmit ..
    · exact sends_transmit { b with pending := _ } link side .outbound request

theorem sends_sendRequest (b : Bridge) (link : Link) (side : Side) (request : Message) :
    let step := b.sendRequest link side request
    b.Sends link side step.bridge step.link := by
  rw [sendRequest]
  split
  · cases request.requestId with
    | error e => exact .inl ⟨rfl, rfl⟩
    | ok named =>
      cases named with
      | some id => exact b.sends_sendUnder link side id request request
      | none => exact sends_sendUnder { b with pending := b.pending.nextId.2 } link side ..
  · exact .inl ⟨rfl, rfl⟩

theorem sends_sendReply (b : Bridge) (link : Link) (side : Side) (request reply : Message) :
    let step := b.sendReply link side request reply
    b.Sends link side step.bridge step.link := by
  rw [sendReply]
  split
  · cases request.requestId with
    | error e => exact .inl ⟨rfl, rfl⟩
    | ok named =>
      cases named with
      | none => exact .inl ⟨rfl, rfl⟩
      | some id =>
        simp only
        split
        · exact b.sends_transmit link side .outbound _
        · exact .inl ⟨rfl, rfl⟩
  · exact .inl ⟨rfl, rfl⟩

/-! ### Polling -/

/-- Handling a message changes neither what a bridge knows nor what it has sent. -/
theorem route_keeps (b : Bridge) (elapsed : Int64 → Duration) (m : Message) :
    (b.route elapsed m).2.1.registry = b.registry ∧
      (b.route elapsed m).2.1.counters.sent = b.counters.sent := by
  rw [route]
  split
  · cases b.pending.deliver m with
    | mk result pending =>
      cases result with
      | ok id => exact ⟨rfl, rfl⟩
      | error failure => cases failure <;> exact ⟨rfl, rfl⟩
  · exact ⟨rfl, rfl⟩

/-- Handling a frame changes neither what a bridge knows nor what it has sent. -/
theorem receiveFrame_keeps (b : Bridge) (elapsed : Int64 → Duration) (frame : List UInt8) :
    (b.receiveFrame elapsed frame).2.1.registry = b.registry ∧
      (b.receiveFrame elapsed frame).2.1.counters.sent = b.counters.sent := by
  rw [receiveFrame]
  cases Frame.decode b.registry frame with
  | error failure => exact ⟨rfl, rfl⟩
  | ok m => exact b.countReceived.route_keeps elapsed m

theorem receiveFrames_keeps (b : Bridge) (elapsed : Int64 → Duration)
    (frames : List (List UInt8)) :
    (b.receiveFrames elapsed frames).2.1.registry = b.registry ∧
      (b.receiveFrames elapsed frames).2.1.counters.sent = b.counters.sent := by
  induction frames generalizing b with
  | nil => exact ⟨rfl, rfl⟩
  | cons frame frames ih =>
    obtain ⟨hregistry, hsent⟩ := b.receiveFrame_keeps elapsed frame
    obtain ⟨hregistry', hsent'⟩ := ih (b.receiveFrame elapsed frame).2.1
    have hstep : b.receiveFrame elapsed frame = (_, _, _) := rfl
    rw [receiveFrames_cons hstep]
    exact ⟨hregistry'.trans hregistry, hsent'.trans hsent⟩

/-- Of some frames, each one is handled as it is after those before it were handled. -/
theorem receiveFrames_eq_mapIdx (b : Bridge) (elapsed : Int64 → Duration)
    (frames : List (List UInt8)) :
    (b.receiveFrames elapsed frames).1 = frames.mapIdx fun i frame =>
      ((b.receiveFrames elapsed (frames.take i)).2.1.receiveFrame elapsed frame).1 := by
  induction frames generalizing b with
  | nil => rfl
  | cons first frames ih =>
    have hstep : b.receiveFrame elapsed first = (_, _, _) := rfl
    rw [receiveFrames_cons hstep, List.mapIdx_cons, List.take_zero, ih]
    simp only [List.take_succ_cons, receiveFrames_cons hstep]
    rfl

/-- A poll handles what waits at its end, and leaves nothing there. -/
theorem poll_of_queue {queued : List (List UInt8)} (h : link.queue side = some queued)
    (elapsed : Int64 → Duration) :
    b.poll link side elapsed =
      ⟨(b.receiveFrames elapsed queued).1, (b.receiveFrames elapsed queued).2.1,
        link.setQueue side (some []), (b.receiveFrames elapsed queued).2.2⟩ := by
  rw [poll, Link.receiveAll_of_queue h]

theorem poll_of_queue_none (h : link.queue side = none) (elapsed : Int64 → Duration) :
    b.poll link side elapsed = ⟨[], b, link, []⟩ := by
  rw [poll, Link.receiveAll_of_queue_none h]
  rfl

/-- Whatever stands before a frame, the frame comes to a failure when it cannot be decoded, and is
given to the owner of the bridge when it is no reply. -/
theorem getElem?_receiveFrames {queued : List (List UInt8)} {i : Nat} {frame : List UInt8}
    (h : queued[i]? = some frame) (b : Bridge) (elapsed : Int64 → Duration) :
    (∀ failure, Frame.decode b.registry frame = .error failure →
      (b.receiveFrames elapsed queued).1[i]? = some (.error failure)) ∧
    ∀ m, Frame.decode b.registry frame = .ok m → m.layer.isReply = false →
      (b.receiveFrames elapsed queued).1[i]? = some (.ok (.request m)) := by
  let before := (b.receiveFrames elapsed (queued.take i)).2.1
  have hregistry : before.registry = b.registry := (b.receiveFrames_keeps elapsed _).1
  have hresult : (b.receiveFrames elapsed queued).1[i]? =
      some (before.receiveFrame elapsed frame).1 := by
    rw [receiveFrames_eq_mapIdx, List.getElem?_mapIdx, h]
    rfl
  rw [hresult, ← hregistry]
  constructor
  · intro failure hdecode
    rw [receiveFrame_of_error elapsed hdecode]
  · intro m hdecode hlayer
    rw [receiveFrame_of_not_isReply elapsed hdecode hlayer]

/-! ### Frames that leave and arrive -/

/-- What a bridge does at its end of a link whose ends send to each other: no end comes or goes, the
bridge counts what it adds to the queue at the other end, and it handles what it takes from its
own. -/
structure Conserves (b : Bridge) (link : Link) (side : Side) (b' : Bridge) (link' : Link) :
    Prop where
  crossed : link'.crossed = link.crossed
  gone : ∀ s, link'.queue s = none ↔ link.queue s = none
  outgoing : ∀ queued', link'.queue side.other = some queued' →
    ∃ queued, link.queue side.other = some queued ∧
      b'.counters.sent + queued.length = b.counters.sent + queued'.length
  incoming : ∀ queued', link'.queue side = some queued' →
    ∃ queued, link.queue side = some queued ∧
      b'.counters.received + b'.counters.rejected + queued'.length =
        b.counters.received + b.counters.rejected + queued.length

/-- Sending conserves frames when it handles none. -/
theorem Sends.conserves {b' : Bridge} {link' : Link} (h : b.Sends link side b' link')
    (hcrossed : link.crossed = true)
    (hhandled : b'.counters.received + b'.counters.rejected =
      b.counters.received + b.counters.rejected) :
    b.Conserves link side b' link' := by
  obtain ⟨rfl, hsent⟩ | ⟨queued, frame, hq, rfl, hsent⟩ := h
  · refine ⟨rfl, fun _ => Iff.rfl, ?_, ?_⟩
    · intro queued hq
      exact ⟨queued, hq, by rw [hsent]⟩
    · intro queued hq
      exact ⟨queued, hq, by rw [hhandled]⟩
  · rw [Link.target_of_crossed hcrossed] at hq ⊢
    refine ⟨Link.crossed_setQueue .., Link.queue_setQueue_some_eq_none_iff hq _, ?_, ?_⟩
    · intro queued' hq'
      rw [Link.queue_setQueue_self] at hq'
      cases hq'
      refine ⟨queued, hq, ?_⟩
      rw [hsent, List.length_append, List.length_singleton]
      omega
    · intro queued' hq'
      rw [Link.queue_setQueue_other] at hq'
      exact ⟨queued', hq', by rw [hhandled]⟩

theorem conserves_poll (b : Bridge) (hcrossed : link.crossed = true) (side : Side)
    (elapsed : Int64 → Duration) :
    let step := b.poll link side elapsed
    b.Conserves link side step.bridge step.link := by
  intro step
  cases hq : link.queue side with
  | none =>
    have hstep : step = ⟨[], b, link, []⟩ := poll_of_queue_none hq elapsed
    rw [hstep]
    exact Sends.conserves (.inl ⟨rfl, rfl⟩) hcrossed rfl
  | some queued =>
    have hstep : step = _ := poll_of_queue hq elapsed
    have hhandled := (b.tallied_receiveFrames link elapsed queued).handled
    rw [hstep]
    refine ⟨Link.crossed_setQueue .., Link.queue_setQueue_some_eq_none_iff hq [], ?_, ?_⟩
    · intro queued' hq'
      rw [Link.queue_other_setQueue] at hq'
      exact ⟨queued', hq', by rw [(b.receiveFrames_keeps elapsed queued).2]⟩
    · intro queued' hq'
      rw [Link.queue_setQueue_self] at hq'
      cases hq'
      exact ⟨queued, hq, hhandled⟩

end Bridge

/-- Whether frames enter and leave a link only as the bridge sends and polls them. -/
def Activity.keepsToLink : Activity → Bool
  | .receiveFrame .. | .relink _ => false
  | _ => true

/-- Whatever a bridge does over its link conserves frames. -/
theorem Bridge.conserves_perform (b : Bridge) {link : Link} (hcrossed : link.crossed = true)
    (side : Side) {activity : Activity} (hactivity : activity.keepsToLink = true) :
    let h := b.perform link side activity
    b.Conserves link side h.bridge h.link := by
  have hhandled := (b.tallied_perform link side activity).handled
  cases activity with
  | sendRequest request => exact (b.sends_sendRequest link side request).conserves hcrossed hhandled
  | sendReply request reply =>
    exact (b.sends_sendReply link side request reply).conserves hcrossed hhandled
  | send m => exact (b.sends_transmit link side .outbound m).conserves hcrossed hhandled
  | forward m => exact (b.sends_transmit link side .forward m.clone).conserves hcrossed hhandled
  | poll elapsed => exact b.conserves_poll hcrossed side elapsed
  | shutdown => exact Sends.conserves (.inl ⟨rfl, rfl⟩) hcrossed hhandled
  | useTable op => exact Sends.conserves (.inl ⟨rfl, rfl⟩) hcrossed hhandled
  | receiveFrame frame elapsed => cases hactivity
  | relink link => cases hactivity

/-! ### Two bridges -/

/-- Two bridges, and the link between them. -/
structure Peers where
  link : Link
  bridge : Side → Bridge

namespace Peers

/-- What can happen to two bridges. -/
inductive Move where
  | perform (side : Side) (activity : Activity)
  /-- A bridge is dropped, and its end of the link with it. -/
  | drop (side : Side)

def start (registry : Side → Registry) (metrics : Side → Option Metrics) : Peers :=
  ⟨.pair, fun s => .new (registry s) (metrics s)⟩

def move (p : Peers) : Move → Peers
  | .perform side activity =>
    let h := (p.bridge side).perform p.link side activity
    ⟨h.link, Function.update p.bridge side h.bridge⟩
  | .drop side => { p with link := p.link.drop side }

def run (p : Peers) (moves : List Move) : Peers := moves.foldl move p

/-- No bridge does anything to the link but send and poll. -/
def Fair (moves : List Move) : Prop :=
  ∀ side activity, .perform side activity ∈ moves → activity.keepsToLink = true

/-- The ends send to each other, and each bridge has counted as many frames as sent as the other one
has handled and as wait at the other end. -/
structure Balanced (p : Peers) : Prop where
  crossed : p.link.crossed = true
  sent : ∀ s queued, p.link.queue s = some queued →
    (p.bridge s.other).counters.sent =
      (p.bridge s).counters.received + (p.bridge s).counters.rejected + queued.length

variable {p : Peers}

theorem balanced_start (registry : Side → Registry) (metrics : Side → Option Metrics) :
    (start registry metrics).Balanced := by
  refine ⟨rfl, ?_⟩
  intro s queued hq
  obtain rfl : queued = [] := by
    cases s <;> exact (Option.some.inj hq).symm
  rfl

/-- Whatever a bridge does over the link keeps the balance. -/
theorem Balanced.perform (h : p.Balanced) (side : Side) {activity : Activity}
    (hactivity : activity.keepsToLink = true) : (p.move (.perform side activity)).Balanced := by
  obtain ⟨hcrossed, -, hout, hin⟩ :=
    (p.bridge side).conserves_perform h.crossed side hactivity
  refine ⟨hcrossed.trans h.crossed, ?_⟩
  intro s queued' hq'
  simp only [move] at hq' ⊢
  rcases side.eq_or_eq_other s with rfl | rfl
  · obtain ⟨queued, hq, hhandled⟩ := hin queued' hq'
    have hsent := h.sent s queued hq
    rw [Function.update_self, Function.update_of_ne s.other_ne]
    omega
  · obtain ⟨queued, hq, hsent'⟩ := hout queued' hq'
    have hsent := h.sent side.other queued hq
    rw [Side.other_other] at hsent ⊢
    rw [Function.update_self, Function.update_of_ne side.other_ne]
    omega

/-- Dropping an end leaves the other one in balance. -/
theorem Balanced.drop (h : p.Balanced) (side : Side) : (p.move (.drop side)).Balanced := by
  refine ⟨(Link.crossed_setQueue ..).trans h.crossed, ?_⟩
  intro s queued hq
  exact h.sent s queued (Link.queue_of_queue_drop hq)

/-- An end is gone when it was gone before or is dropped. -/
theorem Balanced.queue_move_eq_none_iff (h : p.Balanced) {m : Move}
    (hm : ∀ side activity, m = .perform side activity → activity.keepsToLink = true) (s : Side) :
    (p.move m).link.queue s = none ↔ p.link.queue s = none ∨ m = .drop s := by
  cases m with
  | perform side activity =>
    rw [or_iff_left nofun]
    exact ((p.bridge side).conserves_perform h.crossed side (hm side activity rfl)).gone s
  | drop side =>
    rw [Move.drop.injEq, eq_comm (a := side)]
    exact Link.queue_drop_eq_none_iff

/-- Whatever happens keeps the balance, and an end is gone only once it was dropped. -/
theorem Balanced.run (h : p.Balanced) {moves : List Move} (hfair : Fair moves) :
    (p.run moves).Balanced ∧
      ∀ s, (p.run moves).link.queue s = none ↔ p.link.queue s = none ∨ .drop s ∈ moves := by
  induction moves generalizing p with
  | nil => exact ⟨h, fun s => (or_iff_left List.not_mem_nil).symm⟩
  | cons m moves ih =>
    have hm : ∀ side activity, m = .perform side activity → activity.keepsToLink = true := by
      rintro side activity rfl
      exact hfair side activity List.mem_cons_self
    have hnext : (p.move m).Balanced := by
      cases m with
      | perform side activity => exact h.perform side (hm side activity rfl)
      | drop side => exact h.drop side
    -- The moves left start from a balanced pair again, with one more end gone at most.
    obtain ⟨hbalanced, hgone⟩ :=
      ih hnext fun side activity hmem => hfair side activity (List.mem_cons_of_mem _ hmem)
    refine ⟨hbalanced, ?_⟩
    intro s
    refine (hgone s).trans ?_
    rw [h.queue_move_eq_none_iff hm, or_assoc, List.mem_cons, eq_comm (a := m)]

/-- Links neither lose nor repeat nor move frames.

Over two ends that send to each other, and over one that sends to itself, and whatever is sent,
received and dropped in whatever order: an end that lives has received what was sent to it, in that
order, but for the frames that wait there; to receive all of these is to receive one after the
other; a frame is refused exactly when the end that it goes to is gone, and then nothing changes;
and an end that is dropped takes nothing from the queue of another one.

Hence, for two bridges that do nothing to their link but send and poll, and whatever else happens to
them: while a bridge lives, the other one has counted as many frames as sent as this one has
received and rejected and as wait for it. A poll comes to one result for each frame that waits, in
the order in which they have arrived, and leaves nothing there. A frame that cannot be decoded comes
to that failure, and the frames behind it are handled like those before it. -/
theorem no_frame_is_lost :
    (∀ l : Link, l = .pair ∨ l = .loopback → ∀ uses : List Link.Use,
      let t := Traffic.run l uses
      (∀ s, l.Lives uses s → ∃ queued, t.link.queue s = some queued ∧
        t.received s ++ queued = t.sent (l.target s) ∧
        t.use (.receiveAll s) =
          (List.replicate queued.length (Link.Use.receive s)).foldl Traffic.use t) ∧
      (∀ s frame,
        (l.Lives uses (l.target s) ∧ ∃ link, t.link.send s frame = .ok link) ∨
        (¬l.Lives uses (l.target s) ∧ t.link.send s frame = .error .peerGone ∧
          t.use (.send s frame) = t)) ∧
      ∀ s s', s' ≠ s → (t.link.drop s).queue s' = t.link.queue s') ∧
    ∀ (registry : Side → Registry) (metrics : Side → Option Metrics) (moves : List Move),
      Fair moves →
      let p := (start registry metrics).run moves
      ∀ s, .drop s ∉ moves → ∃ queued, p.link.queue s = some queued ∧
        (p.bridge s.other).counters.sent =
          (p.bridge s).counters.received + (p.bridge s).counters.rejected + queued.length ∧
        ∀ elapsed,
          let step := (p.bridge s).poll p.link s elapsed
          step.link = p.link.setQueue s (some []) ∧
          (step.result = queued.mapIdx fun i frame =>
            let before := ((p.bridge s).receiveFrames elapsed (queued.take i)).2.1
            (before.receiveFrame elapsed frame).1) ∧
          ∀ (i : Nat) frame, queued[i]? = some frame →
            (∀ failure, Frame.decode (p.bridge s).registry frame = .error failure →
              step.result[i]? = some (.error failure)) ∧
            ∀ m, Frame.decode (p.bridge s).registry frame = .ok m → m.layer.isReply = false →
              step.result[i]? = some (.ok (.request m)) := by
  constructor
  · intro l hl uses t
    have hempty : ∀ s queued, l.queue s = some queued → queued = [] := by
      rintro s queued hq
      obtain rfl | rfl := hl <;> cases s <;> cases hq <;> rfl
    have hkept : t.Kept := Traffic.kept_run hempty uses
    have htarget (s : Side) : t.link.target s = l.target s := Traffic.target_run l uses s
    refine ⟨?_, ?_, fun s s' hne => Link.queue_setQueue_of_ne hne none⟩
    · intro s hlives
      obtain ⟨queued, hq⟩ :=
        Option.ne_none_iff_exists'.mp (Traffic.queue_run_ne_none_iff.mpr hlives)
      refine ⟨queued, hq, ?_, Traffic.use_receiveAll hq⟩
      rw [← htarget]
      exact hkept s queued hq
    · intro s frame
      rw [← htarget, ← Traffic.queue_run_ne_none_iff]
      cases hq : t.link.queue (t.link.target s) with
      | none =>
        exact .inr ⟨fun h => h rfl, Link.send_of_queue_none hq frame,
          Traffic.use_send_of_queue_none hq frame⟩
      | some queued => exact .inl ⟨nofun, _, Link.send_of_queue hq frame⟩
  · intro registry metrics moves hfair p s hlives
    obtain ⟨hbalanced, hgone⟩ := (balanced_start registry metrics).run hfair
    have hqueue : p.link.queue s ≠ none := by
      rw [Ne, hgone, not_or]
      refine ⟨?_, hlives⟩
      cases s <;> exact nofun
    obtain ⟨queued, hq⟩ := Option.ne_none_iff_exists'.mp hqueue
    refine ⟨queued, hq, hbalanced.sent s queued hq, ?_⟩
    intro elapsed step
    have hstep : step = _ := Bridge.poll_of_queue hq elapsed
    rw [hstep]
    refine ⟨rfl, Bridge.receiveFrames_eq_mapIdx .., ?_⟩
    intro i frame hi
    exact Bridge.getElem?_receiveFrames hi (p.bridge s) elapsed

/-- A bridge sends a message of a type that the other one does not know, and another message, and is
dropped: what it has sent is still handled. -/
theorem sent_before_drop :
    let echo := Message.ofStandard .echoRequest
    let strange : Message := { echo with type := ⟨99⟩ }
    let moves : List Move :=
      [.perform .left (.send strange), .perform .left (.forward echo), .drop .left]
    let p := (start (fun _ => .standard) fun _ => none).run moves
    let t := Traffic.run .pair [.send .left [1], .drop .left, .send .right [2]]
    Fair moves ∧ (p.bridge .left).counters.sent = 2 ∧
      (∀ elapsed,
        let step := (p.bridge .right).poll p.link .right elapsed
        step.result[0]? = some (.error (.unknownType ⟨99⟩)) ∧
        step.result[1]? = some (.ok (.request echo))) ∧
      t.received .right ++ [[1]] = t.sent .left ∧ t.sent .right = [] := by
  intro echo strange moves p t
  have hfair : Fair moves := by
    intro side activity hmem
    simp only [moves, List.mem_cons, Move.perform.injEq, List.not_mem_nil, or_false,
      reduceCtorEq] at hmem
    obtain ⟨-, rfl⟩ | ⟨-, rfl⟩ := hmem <;> rfl
  obtain ⟨hlink, hbridges⟩ := no_frame_is_lost
  obtain ⟨queued, hq, hsent, hpoll⟩ :=
    hbridges (fun _ => .standard) (fun _ => none) moves hfair .right (by simp [moves])
  obtain rfl : queued = [strange.frame, echo.clone.frame] := (Option.some.inj hq).symm
  refine ⟨hfair, hsent, ?_, ?_, rfl⟩
  · intro elapsed step
    obtain ⟨-, -, hresults⟩ := hpoll elapsed
    have hstrange : Frame.decode .standard strange.frame = .error (.unknownType ⟨99⟩) := by
      decide +kernel
    have hecho : Frame.decode .standard echo.clone.frame = .ok echo := by decide +kernel
    exact ⟨(hresults 0 _ rfl).1 _ hstrange, (hresults 1 _ rfl).2 _ hecho rfl⟩
  · obtain ⟨hkept, -⟩ := hlink .pair (.inl rfl) [.send .left [1], .drop .left, .send .right [2]]
    obtain ⟨queued, hq, hlaw, -⟩ := hkept .right ⟨nofun, by simp⟩
    obtain rfl : queued = [[1]] := (Option.some.inj hq).symm
    exact hlaw

end Peers

end ProxyLink
