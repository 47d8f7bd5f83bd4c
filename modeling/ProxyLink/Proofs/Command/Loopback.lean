import ProxyLink.Proofs.Command.Initialize
import ProxyLink.Proofs.Frame.Cut
import ProxyLink.Proofs.Pending

/-!
# How far exchanges within the program get

Between two exchanges nothing is under way: no byte has arrived that is not read, and no request
waits. An exchange leads from one such session to the next, unless one of its two frames is beyond
the limit. Main statement, which comes last: the exchanges before the first one that does not fit
are all shown, in order, and only that one ends the run.
-/

namespace ProxyLink.Command.Loopback

variable {proxy : Config.Proxy} {others : Nat → Pending → Pending} {failWith : Option String}

/-! ### One exchange -/

def request (proxy : Config.Proxy) (n : Nat) : Message :=
  initializeRequest proxy.address proxy.port (some (Int64.ofNat n))

/-- The reply of an exchange: it carries the number, and an error if a message for it is given. -/
def answer (failWith : Option String) (n : Nat) : Message :=
  ((Message.ofStandard .initializeReply).setRequestId (some (Int64.ofNat n))).setError
    (failWith.map fun message => ⟨.custom, message, none⟩)

/-- Both frames of an exchange are within the limit. -/
def Fits (proxy : Config.Proxy) (failWith : Option String) (n : Nat) : Prop :=
  (request proxy n).body.length ≤ proxy.frameLimit ∧
    (answer failWith n).body.length ≤ proxy.frameLimit

instance (proxy : Config.Proxy) (failWith : Option String) (n : Nat) :
    Decidable (Fits proxy failWith n) :=
  inferInstanceAs (Decidable (_ ∧ _))

def caption (failWith : Option String) (n : Nat) : String :=
  "request " ++ Decimal.ofNat n ++ ": " ++ failWith.elim "ok" ("custom error: " ++ ·) ++ "\n"

/-- Why an exchange that does not fit fails: the caller cannot send the request, or the responder
cannot send the reply. -/
def obstacle (proxy : Config.Proxy) (n : Nat) : Failure :=
  if (request proxy n).body.length ≤ proxy.frameLimit then .responderGone
  else .exchange (.frameTooLarge (request proxy n).body.length proxy.frameLimit)

/-- The session in which a number of exchanges are over and no other one has begun. -/
def atRest (n : Nat) : Session := ⟨[], [], ⟨Int64.ofNat n, n, [], []⟩⟩

theorem requestId_request (n : Nat) :
    (request proxy n).requestId = .ok (some (Int64.ofNat n)) :=
  Message.requestId_setRequestId_some ..

/-- The reply of an exchange is the reply to its request. -/
theorem reply?_request (n : Nat) :
    reply? failWith (request proxy n) = .ok (some (answer failWith n)) := by
  have hblank : blankReply? (request proxy n) = .ok (some (.ofStandard .initializeReply)) := rfl
  have hlayer : (request proxy n).layer.isRequest = true := rfl
  rw [reply?, if_pos hlayer, requestId_request, hblank]
  rfl

theorem requestId_answer (n : Nat) :
    (answer failWith n).requestId = .ok (some (Int64.ofNat n)) := by
  rw [answer, Message.requestId_setError, Message.requestId_setRequestId_some]

/-- The line about an exchange shows its number and what became of it. -/
theorem line_answer {n : Nat} (hn : n < 2 ^ 63) :
    line (Int64.ofNat n) (answer failWith n) = .ok (caption failWith n) := by
  have hlayer : (answer failWith n).layer.isReply = true := rfl
  have hid : Decimal.ofInt64 (Int64.ofNat n) = Decimal.ofNat n := by
    rw [Decimal.ofInt64, Int64.toInt_ofNat_of_lt hn]
    rfl
  have herror : (answer failWith n).error =
      .ok (failWith.map fun message => ⟨.custom, message, none⟩) := Message.error_setError ..
  rw [line, if_pos hlayer, herror, hid]
  cases failWith with
  | none =>
    have hok : ": " ++ "ok" ++ "\n" = ": ok\n" := by decide
    simp only [caption, Option.elim_none, String.append_assoc, ← hok]
    rfl
  | some message => rfl

variable {codec : Frame.Codec} {arrived : List UInt8}

/-- The responder sends its reply to the request that it reads. -/
theorem respond_of_next {message reply : Message} {pending : Pending}
    (hnext : codec.next arrived = (.ok (some message), []))
    (hreply : reply? failWith message = .ok (some reply)) :
    (Session.mk arrived [] pending).respond codec failWith =
      (codec.append reply []).map fun sent => ⟨[], sent, pending⟩ := by
  simp only [Session.respond, hnext, hreply]

/-- A reply settles the one request that waits, and is shown. Its outcome is there before anyone
asks for it, so that it does not matter how long a request may wait, or what others do then. -/
theorem conclude_of_next {reply : Message} {ticket : Ticket} {next timeout : Nat} {shown : String}
    (hnext : codec.next arrived = (.ok (some reply), [])) (hlayer : reply.layer.isReply = true)
    (hid : reply.requestId = .ok (some ticket.id)) (hline : line ticket.id reply = .ok shown) :
    (Session.mk [] arrived ⟨ticket.id, next, [ticket], []⟩).conclude codec timeout others ticket =
      .ok (shown, ⟨[], [], ⟨ticket.id, next, [], []⟩⟩) := by
  have hfind : (Pending.mk ticket.id next [ticket] []).find? ticket.id = some ticket :=
    List.find?_cons_of_pos (beq_self_eq_true ticket.id)
  have hdeliver := Pending.deliver_of_find? hlayer hid hfind
  have hleft : ([ticket].filter fun t => t.id != ticket.id) = [] :=
    List.filter_cons_of_neg (by simp)
  rw [hleft] at hdeliver
  have hwait : (⟨ticket.id, next, [], [(ticket.number, .ok reply)]⟩ : Pending).waitFor others
      ticket (1000000000 * timeout) = (.ok reply, ⟨ticket.id, next, [], []⟩, []) := by
    have houtcome : (⟨ticket.id, next, [], [(ticket.number, .ok reply)]⟩ : Pending).outcome?
        ticket = some (.ok reply) := List.lookup_cons_self
    rw [Pending.waitFor_of_outcome? houtcome]
    simp [Pending.drop]
  simp only [Session.conclude, hnext, hdeliver, hwait, Except.bind, hline]

/-! ### From one session at rest to the next -/

variable {n : Nat} {sent : List UInt8}

/-- The exchange after some others sends its request under the next number, and lets the responder
and then the caller read. -/
theorem exchange_eq (codec : Frame.Codec) (proxy : Config.Proxy)
    (others : Nat → Pending → Pending) (failWith : Option String) (n : Nat) :
    let ticket : Ticket := ⟨Int64.ofNat (n + 1), n⟩
    (atRest n).exchange codec proxy others failWith =
      match codec.append (request proxy (n + 1)) [] with
      | .error failure => .error (.exchange failure)
      | .ok arrived =>
        match (Session.mk arrived [] ⟨ticket.id, n + 1, [ticket], []⟩).respond codec failWith with
        | .error _ => .error .responderGone
        | .ok s => s.conclude codec proxy.timeout others ticket := by
  have hid : Int64.ofNat n + 1 = Int64.ofNat (n + 1) := (Int64.ofNat_add n 1).symm
  simp only [atRest, Session.exchange, Pending.nextId, hid]
  rfl

/-- A request that cannot be sent ends the run. -/
theorem exchange_of_unsent {failure : ProxyLink.Failure}
    (hsend : codec.append (request proxy (n + 1)) [] = .error failure) :
    (atRest n).exchange codec proxy others failWith = .error (.exchange failure) := by
  simp only [exchange_eq, hsend]

/-- A responder that cannot send its reply ends, and so does the run. -/
theorem exchange_of_unanswered {failure : ProxyLink.Failure}
    (hsend : codec.append (request proxy (n + 1)) [] = .ok arrived)
    (hread : codec.next arrived = (.ok (some (request proxy (n + 1))), []))
    (hreply : codec.append (answer failWith (n + 1)) [] = .error failure) :
    (atRest n).exchange codec proxy others failWith = .error .responderGone := by
  simp only [exchange_eq, hsend, respond_of_next hread (reply?_request _), hreply, Except.map]

/-- When both frames are sent and read, the exchange is shown, and the session is at rest again. -/
theorem exchange_of_answered (hn : n + 1 < 2 ^ 63)
    (hsend : codec.append (request proxy (n + 1)) [] = .ok arrived)
    (hread : codec.next arrived = (.ok (some (request proxy (n + 1))), []))
    (hreply : codec.append (answer failWith (n + 1)) [] = .ok sent)
    (hread' : codec.next sent = (.ok (some (answer failWith (n + 1))), [])) :
    (atRest n).exchange codec proxy others failWith =
      .ok (caption failWith (n + 1), atRest (n + 1)) := by
  simp only [exchange_eq, hsend, respond_of_next hread (reply?_request _), hreply, Except.map]
  exact conclude_of_next hread' rfl (requestId_answer _) (line_answer hn)

/-- A message of a standard kind that is within a limit of 32 bits is sent and read. -/
theorem append_and_next {limit : Nat} (hlimit : limit < 2 ^ 32) {k : StandardKind} {m : Message}
    (hkind : m.OfKind k) (hfits : m.body.length ≤ limit) :
    let codec : Frame.Codec := ⟨.standard, limit⟩
    codec.append m [] = .ok m.frame ∧ codec.next m.frame = (.ok (some m), []) := by
  intro codec
  have hreads : codec.Reads m :=
    ⟨Nat.lt_of_le_of_lt hfits hlimit, hfits, k, hkind, Registry.hasBlank_standard k⟩
  have hnext := hreads.next_append []
  rw [List.append_nil] at hnext
  exact ⟨by rw [codec.append_eq, if_pos hfits, List.nil_append], hnext⟩

/-- The exchange after some others is shown if it fits, and otherwise fails. -/
theorem exchange_atRest (hlimit : proxy.frameLimit < 2 ^ 32) (hn : n + 1 < 2 ^ 63) :
    (atRest n).exchange ⟨.standard, proxy.frameLimit⟩ proxy others failWith =
      if Fits proxy failWith (n + 1) then .ok (caption failWith (n + 1), atRest (n + 1))
      else .error (obstacle proxy (n + 1)) := by
  by_cases hrequest : (request proxy (n + 1)).body.length ≤ proxy.frameLimit
  · obtain ⟨hsend, hread⟩ := append_and_next hlimit (ofKind_initializeRequest ..) hrequest
    by_cases hanswer : (answer failWith (n + 1)).body.length ≤ proxy.frameLimit
    · have hkind : (answer failWith (n + 1)).OfKind .initializeReply := ⟨rfl, rfl, rfl⟩
      obtain ⟨hreply, hread'⟩ := append_and_next hlimit hkind hanswer
      rw [if_pos ⟨hrequest, hanswer⟩]
      exact exchange_of_answered hn hsend hread hreply hread'
    · rw [if_neg fun hfits => hanswer hfits.2, obstacle, if_pos hrequest]
      exact exchange_of_unanswered hsend hread (by rw [Frame.Codec.append_eq, if_neg hanswer])
  · rw [if_neg fun hfits => hrequest hfits.1, obstacle, if_neg hrequest]
    exact exchange_of_unsent (by rw [Frame.Codec.append_eq, if_neg hrequest])

/-! ### A run -/

/-- The lines about some exchanges after `n` others. -/
def captions (failWith : Option String) (n count : Nat) : String :=
  String.join ((List.range' (n + 1) count).map (caption failWith))

theorem captions_succ (failWith : Option String) (n count : Nat) :
    captions failWith n (count + 1) =
      caption failWith (n + 1) ++ captions failWith (n + 1) count := by
  rw [captions, List.range'_succ, List.map_cons, String.join_cons, captions]

/-- A run goes on behind an exchange that fits, and ends at one that does not. -/
theorem run_succ (hlimit : proxy.frameLimit < 2 ^ 32) (hn : n + 1 < 2 ^ 63)
    (others : Nat → Pending → Pending) (count : Nat) (shown : String) :
    (atRest n).run ⟨.standard, proxy.frameLimit⟩ proxy others failWith (count + 1) shown =
      if Fits proxy failWith (n + 1) then
        (atRest (n + 1)).run ⟨.standard, proxy.frameLimit⟩ proxy others failWith count
          (shown ++ caption failWith (n + 1))
      else (shown, some (obstacle proxy (n + 1))) := by
  rw [Session.run, exchange_atRest hlimit hn]
  by_cases hfits : Fits proxy failWith (n + 1)
  · rw [if_pos hfits, if_pos hfits]
  · rw [if_neg hfits, if_neg hfits]

/-- Exchanges that fit are shown, and the run goes on behind them. -/
theorem run_of_fits (hlimit : proxy.frameLimit < 2 ^ 32) {count : Nat} (more : Nat)
    (hn : n + count < 2 ^ 63)
    (hfits : ∀ i, n < i → i ≤ n + count → Fits proxy failWith i) (shown : String) :
    (atRest n).run ⟨.standard, proxy.frameLimit⟩ proxy others failWith (count + more) shown =
      (atRest (n + count)).run ⟨.standard, proxy.frameLimit⟩ proxy others failWith more
        (shown ++ captions failWith n count) := by
  induction count generalizing n shown with
  | zero =>
    have hnothing : captions failWith n 0 = "" := rfl
    rw [Nat.zero_add, Nat.add_zero, hnothing, String.append_empty]
  | succ count ih =>
    have hnext : n + (count + 1) = n + 1 + count := by omega
    have hfirst : Fits proxy failWith (n + 1) := hfits (n + 1) (by omega) (by omega)
    rw [Nat.succ_add, run_succ hlimit (by omega), if_pos hfirst,
      ih (by omega) (fun i hi hle => hfits i (by omega) (by omega)), hnext, captions_succ,
      String.append_assoc]

/-- A run does not depend on how long a request may wait, nor on what others do meanwhile: none of
its exchanges comes to a wait. -/
theorem run_of_timeout (hlimit : proxy.frameLimit < 2 ^ 32) (timeout : Nat)
    (others others' : Nat → Pending → Pending) {count : Nat} (hn : n + count < 2 ^ 63)
    (shown : String) :
    (atRest n).run ⟨.standard, proxy.frameLimit⟩ { proxy with timeout } others failWith count
        shown =
      (atRest n).run ⟨.standard, proxy.frameLimit⟩ proxy others' failWith count shown := by
  let other : Config.Proxy := { proxy with timeout }
  have hlimit' : other.frameLimit < 2 ^ 32 := hlimit
  induction count generalizing n shown with
  | zero => rfl
  | succ count ih =>
    have hn' : n + 1 < 2 ^ 63 := by omega
    -- A step of a run depends on whether an exchange fits, and the time is no part of that.
    rw [run_succ hlimit hn']
    refine (run_succ hlimit' hn' others count shown).trans ?_
    by_cases hfits : Fits proxy failWith (n + 1)
    · rw [if_pos hfits, if_pos (show Fits other failWith (n + 1) from hfits)]
      exact ih (by omega) _
    · rw [if_neg hfits, if_neg (show ¬Fits other failWith (n + 1) from hfits)]
      rfl

/-- Under any configuration without a flaw, the exchanges are numbered from one. When the frames of
all of them fit, each one is shown in its turn, and nothing fails. Otherwise the exchanges before
the first one that does not fit are shown, and the run ends there with what stands in its way. How
long a request may wait makes no difference, even if others act on the table while the caller
waits. -/
theorem answered_up_to_the_limit {config : Config} (hconfig : config.flaw? = none) {count : Nat}
    (hcount : count < 2 ^ 63) (failWith : Option String) :
    let proxy := config.proxy
    let lines (n : Nat) := String.join ((List.range' 1 n).map (caption failWith))
    ((∀ i, 1 ≤ i → i ≤ count → Fits proxy failWith i) →
      Command.run config (.loopback count failWith) = (lines count, none)) ∧
    (∀ k, 1 ≤ k → k ≤ count → ¬Fits proxy failWith k →
      (∀ i, 1 ≤ i → i < k → Fits proxy failWith i) →
        Command.run config (.loopback count failWith) = (lines (k - 1), some (obstacle proxy k))) ∧
    ∀ timeout, Command.run { config with proxy := { proxy with timeout } }
      (.loopback count failWith) = Command.run config (.loopback count failWith) ∧
        ∀ others, Session.start.run ⟨.standard, proxy.frameLimit⟩ { proxy with timeout } others
          failWith count "" = Command.run config (.loopback count failWith) := by
  intro proxy lines
  have hlimit : proxy.frameLimit < 2 ^ 32 :=
    (Config.frameLimit_iff.mp ⟨config, hconfig, rfl⟩).2
  refine ⟨?_, ?_, ?_⟩
  · intro hfits
    have hrun : (atRest 0).run ⟨.standard, proxy.frameLimit⟩ proxy Pending.nobody failWith
        (count + 0) "" = _ :=
      run_of_fits hlimit 0 (by omega) (fun i hi hle => hfits i hi (by omega)) ""
    rw [String.empty_append] at hrun
    exact hrun
  · intro k hk hle hnot hfits
    obtain ⟨before, rfl⟩ := Nat.exists_eq_add_of_le' hk
    obtain ⟨more, rfl⟩ := Nat.exists_eq_add_of_le hle
    have hrun : (atRest 0).run ⟨.standard, proxy.frameLimit⟩ proxy Pending.nobody failWith
        (before + (more + 1)) "" = _ :=
      run_of_fits hlimit (more + 1) (by omega) (fun i hi hle => hfits i hi (by omega)) ""
    rw [Nat.zero_add, String.empty_append, run_succ hlimit (by omega), if_neg hnot] at hrun
    rw [Nat.add_sub_cancel, Nat.add_assoc, Nat.add_comm 1]
    exact hrun
  · intro timeout
    have hcount' : 0 + count < 2 ^ 63 := by omega
    refine ⟨run_of_timeout hlimit timeout Pending.nobody Pending.nobody hcount' "", ?_⟩
    intro others
    exact run_of_timeout hlimit timeout others Pending.nobody hcount' ""

/-- Under a limit of 88 bytes, the reply to the tenth of twelve requests is one byte too long, while
the request would fit. The nine lines before it are shown as well when a request may wait for seven
seconds and others empty the table as soon as it does. -/
theorem answered_up_to_the_ninth :
    let config : Config := { Config.default with proxy := ⟨"::1", 1, 1, 88⟩ }
    config.flaw? = none ∧ 12 < 2 ^ 63 ∧
      (request config.proxy 10).body.length = 75 ∧ (answer (some "no") 10).body.length = 89 ∧
      Command.run config (.loopback 12 (some "no")) =
        (String.join ((List.range' 1 9).map fun i =>
          "request " ++ Decimal.ofNat i ++ ": custom error: no\n"), some .responderGone) ∧
      Session.start.run ⟨.standard, 88⟩ ⟨"::1", 1, 7, 88⟩ (fun _ _ => .empty) (some "no") 12 "" =
        Command.run config (.loopback 12 (some "no")) := by
  intro config
  have hconfig : config.flaw? = none := by decide
  have hfits : ∀ i < 10, 1 ≤ i → Fits config.proxy (some "no") i := by decide +kernel
  have hnot : ¬Fits config.proxy (some "no") 10 := by decide +kernel
  obtain ⟨-, hends, htimeout⟩ :=
    answered_up_to_the_limit hconfig (show 12 < 2 ^ 63 by decide) (some "no")
  refine ⟨hconfig, by decide, by decide +kernel, by decide +kernel, ?_, (htimeout 7).2 _⟩
  rw [hends 10 (by decide) (by decide) hnot fun i hi hlt => hfits i hlt hi]
  decide +kernel

end ProxyLink.Command.Loopback
