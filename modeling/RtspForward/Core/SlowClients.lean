import RtspForward.Core.Statistics

/-!
# Slow clients

`BroadcastRtp` records a drop for every status of `ForwardRtp` that is not OK, and the
hundredth drop in a row marks the session. A drop stands for a refusal by the session's own
socket or write buffer, or for a packet that does not get there: one that is too large for an
interleaved frame or for any datagram, or one for a UDP socket that is not there or is no longer
the session's when `sendto` is called.
-/
namespace RtspForward

open Lib

/-- How an attempt to forward a packet to a session ends: with the packet taken, with an error
of its socket or its write buffer, or for a reason that is neither's. -/
inductive Attempt where
  | accepted
  | refused
  | rejected
  deriving DecidableEq, Repr

/-- The refusals of a session since it last accepted a packet. -/
def refusals (attempts : List (Nat × Attempt)) (sid : Nat) : Nat :=
  attempts.foldl (fun n a =>
    if a.1 = sid then
      match a.2 with
      | .accepted => 0
      | .refused => n + 1
      | .rejected => n
    else n) 0

/-- The payload that fits an IPv4 datagram, behind its IP and its UDP header. -/
def maxUdpPayload : Nat := 65507

/-- A broadcast carries a packet that `rtsp_forward_send_rtp` accepts. -/
def Label.fromApi : Label → Bool
  | .broadcast p => rtspForwardSendRtp true (some p.data) p.streamIndex = .ok p
  | _ => true

namespace System

/-- The packet gets as far as the session's socket or write buffer: it fits an interleaved
frame, or it fits a datagram and the descriptor that was read for it is still one of the UDP
sockets of the session. -/
def reachesSession (s : System) : Label → Bool
  | .sendTo _ =>
    match s.stream.pc with
    | .udp sid endpoint =>
      s.stream.packet.data.length ≤ maxUdpPayload &&
        (s.server.heap sid).any fun session => endpoint.fd ∈ session.udpFds
    | _ => true
  | .sendV _ => s.stream.packet.data.length ≤ kMaxRtpPacketSize
  | _ => true

/-- The attempt a step makes. -/
def attempt (s : System) : Label → Option (Nat × Attempt)
  | .sendTo o =>
    match s.stream.pc with
    | .udp sid endpoint =>
      let res := RtpForwarder.forwardUdp endpoint s.stream.packet o
      some (sid, if s.reachesSession (.sendTo o) = false then .rejected
        else if res.2.isOk then .accepted else if res.1.isSome then .refused else .rejected)
    | _ => none
  | .sendV o =>
    match s.stream.pc with
    | .tcp sid _ => (s.server.heap sid).map fun session =>
        let res := RtpForwarder.forwardTcp session.conn s.stream.packet o
        (sid, if res.2.isOk then .accepted else if res.1.ret < 0 then .refused else .rejected)
    | _ => none
  | _ => none

/-- The attempts of the steps of a run. -/
def attempts (taken : List (System × Label)) : List (Nat × Attempt) :=
  taken.filterMap fun p => p.1.attempt p.2

/-- A step after those taken: a drop that it records stands for a packet the session has just
refused, and a session that it marks, or counts as dropped, has refused a hundred packets
since it last accepted one. -/
structure DropsSlow (taken : List (System × Label)) (s : System) (l : Label) (t : System) :
    Prop where
  drop : ∀ sid, l = .recordDrop → s.stream.pc = .failed sid →
    (attempts taken).getLast? = some (sid, .refused)
  mark : ∀ sid x y, ofStream l = true → s.server.heap sid = some x → t.server.heap sid = some y →
    x.state ≠ .kTeardown → y.state = .kTeardown →
    kMaxConsecutiveDrops ≤ refusals (attempts taken) sid
  count : t.server.totalDroppedSessions ≠ s.server.totalDroppedSessions →
    ∃ sid, l = .recordDrop ∧ s.stream.pc = .failed sid ∧
      kMaxConsecutiveDrops ≤ refusals (attempts taken) sid

end System

/-! ## Counting refusals -/

theorem refusals_concat (attempts : List (Nat × Attempt)) (a : Nat × Attempt) (sid : Nat) :
    refusals (attempts ++ [a]) sid =
      if a.1 = sid then
        match a.2 with
        | .accepted => 0
        | .refused => refusals attempts sid + 1
        | .rejected => refusals attempts sid
      else refusals attempts sid := by
  simp [refusals, List.foldl_append]

theorem refusals_pos {attempts : List (Nat × Attempt)} {sid : Nat}
    (h : attempts.getLast? = some (sid, .refused)) : 1 ≤ refusals attempts sid := by
  obtain ⟨earlier, rfl⟩ := List.getLast?_eq_some_iff.mp h
  simp [refusals_concat]

/-- What the stream thread has yet to record: the session, and whether it took the packet. -/
def StreamPc.verdict : StreamPc → Option (Nat × Bool)
  | .failed sid => some (sid, false)
  | .sent sid => some (sid, true)
  | _ => none

theorem verdict_ite (sid : Nat) (ok : Bool) :
    (if ok then StreamPc.sent sid else .failed sid).verdict = some (sid, ok) := by
  cases ok <;> rfl

/-- A 32-bit counter that is incremented may fall, but it rises by one at most. -/
theorem recordDrop_drops_le {c : Connection} (h : -2 ^ 31 ≤ c.consecutiveDrops) :
    -2 ^ 31 ≤ c.recordDrop.consecutiveDrops ∧
      c.recordDrop.consecutiveDrops ≤ c.consecutiveDrops + 1 := by
  simp only [Connection.recordDrop, Int.bmod_def]
  split <;> omega

namespace System

variable {s t : System} {l : Label} {taken : List (System × Label)}

theorem attempts_concat (taken : List (System × Label)) (s : System) (l : Label) :
    attempts (taken ++ [(s, l)]) = attempts taken ++ (s.attempt l).toList := by
  cases h : s.attempt l <;> simp [attempts, h]

/-- The drop counters are those from before, and a new session has counted nothing. -/
def KeepsDrops (s t : System) : Prop :=
  ∀ a y, t.server.heap a = some y → (a = s.server.created ∧ y.conn.consecutiveDrops = 0) ∨
    ∃ x, s.server.heap a = some x ∧ y.conn.consecutiveDrops = x.conn.consecutiveDrops

/-- The drop counters are covered by refusals. -/
structure DropsCovered (s : System) (taken : List (System × Label)) : Prop where
  inv : s.Inv
  packet : s.stream.pc ≠ .idle → 1 ≤ s.stream.packet.data.length
  /-- A drop still to be recorded is a refusal. -/
  failed : ∀ sid, s.stream.pc.verdict = some (sid, false) →
    (attempts taken).getLast? = some (sid, .refused)
  drops : ∀ sid x, s.server.heap sid = some x → s.stream.pc.verdict ≠ some (sid, true) →
    x.conn.consecutiveDrops + (if s.stream.pc.verdict = some (sid, false) then 1 else 0) ≤
      refusals (attempts taken) sid
  range : ∀ sid x, s.server.heap sid = some x → -2 ^ 31 ≤ x.conn.consecutiveDrops

/-- A step that neither attempts to forward a packet nor records how that went. -/
theorem DropsCovered.keep (h : s.DropsCovered taken) (ht : t.Inv) (hattempt : s.attempt l = none)
    (hpacket : t.stream.pc ≠ .idle → 1 ≤ t.stream.packet.data.length)
    (hverdict : t.stream.pc.verdict = s.stream.pc.verdict) (hheap : s.KeepsDrops t) :
    t.DropsCovered (taken ++ [(s, l)]) := by
  have hsame : attempts (taken ++ [(s, l)]) = attempts taken := by simp [attempts_concat, hattempt]
  refine ⟨ht, hpacket, ?_, fun a y hy hne => ?_, fun a y hy => ?_⟩
  · rw [hsame, hverdict]
    exact h.failed
  · rw [hsame, hverdict] at *
    rcases hheap a y hy with ⟨-, hzero⟩ | ⟨x, hx, heq⟩
    · rw [hzero]
      split
      · have hpos := refusals_pos (h.failed a (by assumption))
        omega
      · omega
    · rw [heq]
      exact h.drops a x hx hne
  · rcases hheap a y hy with ⟨-, hzero⟩ | ⟨x, hx, heq⟩
    · omega
    · rw [heq]
      exact h.range a x hx

/-- An attempt that the session accepts or refuses. -/
theorem DropsCovered.attempted (h : s.DropsCovered taken) (ht : t.Inv) {sid : Nat} {ok : Bool}
    (hattempt : s.attempt l = some (sid, if ok then .accepted else .refused))
    (hidle : s.stream.pc ≠ .idle) (hpacket : t.stream.packet = s.stream.packet)
    (hbefore : s.stream.pc.verdict = none)
    (hverdict : t.stream.pc.verdict = some (sid, ok)) (hheap : s.KeepsDrops t) :
    t.DropsCovered (taken ++ [(s, l)]) := by
  have hmore : attempts (taken ++ [(s, l)]) =
      attempts taken ++ [(sid, if ok then .accepted else .refused)] := by
    simp [attempts_concat, hattempt]
  refine ⟨ht, fun _ => hpacket ▸ h.packet hidle, fun a ha => ?_, fun a y hy hne => ?_,
    fun a y hy => ?_⟩
  · rw [hverdict, Option.some.injEq, Prod.mk.injEq] at ha
    obtain ⟨rfl, rfl⟩ := ha
    simp [hmore]
  · have hold : y.conn.consecutiveDrops ≤ refusals (attempts taken) a := by
      rcases hheap a y hy with ⟨-, hzero⟩ | ⟨x, hx, heq⟩
      · omega
      · have hx := h.drops a x hx (by simp [hbefore])
        rw [hbefore, if_neg (by simp)] at hx
        omega
    rw [hmore, refusals_concat]
    simp only [hverdict, Option.some.injEq, Prod.mk.injEq, ne_eq, not_and,
      Bool.not_eq_true] at hne ⊢
    by_cases hsid : sid = a
    · rw [hne hsid]
      simp only [hsid, and_self, ↓reduceIte, Bool.false_eq_true, Nat.cast_add, Nat.cast_one]
      omega
    · simp only [hsid, false_and, ↓reduceIte]
      omega
  · rcases hheap a y hy with ⟨-, hzero⟩ | ⟨x, hx, heq⟩
    · omega
    · rw [heq]
      exact h.range a x hx

/-- The verdict on the last attempt is recorded. -/
theorem DropsCovered.recorded (h : s.DropsCovered taken) (ht : t.Inv) {sid : Nat}
    {session session' : RtspSession} (hs : s.server.heap sid = some session)
    (hattempt : s.attempt l = none)
    (hidle : s.stream.pc ≠ .idle) (hpacket : t.stream.packet = s.stream.packet)
    (hverdict : t.stream.pc.verdict = none)
    (hother : ∀ a, a ≠ sid → s.stream.pc.verdict ≠ some (a, true))
    (hheap : t.server.heap = (s.server.setSession sid session').heap)
    (hrange : -2 ^ 31 ≤ session'.conn.consecutiveDrops)
    (hcovered : session'.conn.consecutiveDrops ≤ refusals (attempts taken) sid) :
    t.DropsCovered (taken ++ [(s, l)]) := by
  have hsame : attempts (taken ++ [(s, l)]) = attempts taken := by simp [attempts_concat, hattempt]
  refine ⟨ht, fun _ => hpacket ▸ h.packet hidle, by simp [hverdict], fun a y hy _ => ?_,
    fun a y hy => ?_⟩
  · rw [hsame, hverdict, if_neg (by simp), add_zero]
    rw [hheap] at hy
    by_cases ha : a = sid
    · subst ha
      rw [Server.setSession_heap] at hy
      exact Option.some.inj hy ▸ hcovered
    · rw [Server.setSession_heap_ne _ _ ha] at hy
      have hold := h.drops a y hy (hother a ha)
      split at hold <;> omega
  · rw [hheap] at hy
    by_cases ha : a = sid
    · subst ha
      rw [Server.setSession_heap] at hy
      exact Option.some.inj hy ▸ hrange
    · rw [Server.setSession_heap_ne _ _ ha] at hy
      exact h.range a y hy

/-- Only the two records change a drop counter. -/
theorem step_keepsDrops (hstep : s.step l = some t) (hdrop : l ≠ .recordDrop)
    (hsuccess : l ≠ .recordSuccess) : s.KeepsDrops t := by
  intro a y hy
  rcases step_moves hstep a y hy with ⟨hfresh, hnew⟩ | ⟨x, hx, hmove⟩
  · exact .inl ⟨hfresh, hnew.drops⟩
  · refine .inr ⟨x, hx, ?_⟩
    cases hmove with
    | unmoved hsame => exact hsame.drops_eq
    | recordDrop hl => exact absurd hl hdrop
    | recordSuccess hl => exact absurd hl hsuccess
    | @request env beyond data n =>
      obtain ⟨w, hconn⟩ := x.processData_frame env data
      show (x.processData data env).session.conn.consecutiveDrops = _
      rw [hconn]

theorem forwardTcp_verdict {c : Connection} {p : RtpPacket} {o : WriteOutcome}
    (hopen : c.isClosed = false) (hpos : 1 ≤ p.data.length)
    (hfits : p.data.length ≤ kMaxRtpPacketSize) :
    (RtpForwarder.forwardTcp c p o).2.isOk = false → (RtpForwarder.forwardTcp c p o).1.ret < 0 := by
  unfold RtpForwarder.forwardTcp
  rw [if_neg (by omega), if_neg (by simp [hopen]), if_neg (by omega)]
  simp only
  split
  · exact fun _ => by assumption
  · simp

/-- A datagram that reaches the session has a descriptor to go through. -/
theorem endpoint_of_reaches {o : SendToOutcome} {sid : Nat} {endpoint : UdpEndpoint}
    (hpc : s.stream.pc = .udp sid endpoint) (h : s.reachesSession (.sendTo o) = true) :
    0 ≤ endpoint.fd := by
  simp only [reachesSession, hpc, Bool.and_eq_true, Option.any_eq_true, decide_eq_true_eq] at h
  obtain ⟨-, session, -, hfd⟩ := h
  exact (RtspSession.mem_udpFds.mp hfd).1

theorem packet_of_api {p : RtpPacket} (h : (Label.broadcast p).fromApi = true) :
    1 ≤ p.data.length := by
  simp only [Label.fromApi, rtspForwardSendRtp, decide_eq_true_eq] at h
  by_contra hempty
  rw [if_neg (by decide), if_pos (by omega)] at h
  cases h

theorem sendTo_verdict (s : System) (sid : Nat) (endpoint : UdpEndpoint) (o : SendToOutcome) :
    (s.sendTo sid endpoint o).stream.pc.verdict =
      some (sid, (RtpForwarder.forwardUdp endpoint s.stream.packet o).2.isOk) :=
  verdict_ite sid _

theorem sendV_verdict (s : System) (sid : Nat) (session : RtspSession)
    (res : WriteResult × Status) :
    (s.sendV sid session res).stream.pc.verdict = some (sid, res.2.isOk) :=
  verdict_ite sid _

theorem recordDrop_verdict (s : System) (sid : Nat) (session : RtspSession) :
    (s.recordDrop sid session).stream.pc.verdict = none := rfl

theorem recordSuccess_verdict (s : System) (sid : Nat) (session : RtspSession) :
    (s.recordSuccess sid session).stream.pc.verdict = none := by
  unfold System.recordSuccess
  simp only
  split <;> rfl

/-- A label of the stream thread that neither reaches nor records a verdict, or one of the
event-loop thread. -/
def silent : Label → Bool
  | .sendTo _ | .sendV _ | .recordDrop | .recordSuccess => false
  | _ => true

/-- A silent step leaves the verdict as it is. -/
theorem step_verdict (hstep : s.step l = some t) (hl : silent l = true) :
    t.stream.pc.verdict = s.stream.pc.verdict := by
  by_cases hthread : ofStream l = true
  · cases step_cases hstep with
    | @broadcast packet hpc =>
      unfold System.broadcast
      split
      · simp [hpc, StreamPc.verdict]
      · rfl
    | @load now sid todo session hpc htodo hs =>
      rw [hpc]
      unfold System.load
      simp only
      split <;> rfl
    | streamModify hpc => simp [System.streamModify, hpc, StreamPc.verdict]
    | finish hpc => simp [System.finish, hpc, StreamPc.verdict]
    | sendTo | sendV | recordDrop | recordSuccess => cases hl
    | wait | skip | accept | sweep | enter | absent | drop | hangUp | receive | writable | readDone
    | tooLarge | skipFrame | request | checkRead | registerRead | flushFailed | flush | pending
    | drained | unregister | disconnect => cases hthread
  · rw [step_stream hstep (Bool.eq_false_of_not_eq_true hthread)]

theorem silent_attempt (hl : silent l = true) : s.attempt l = none := by
  cases l with
  | sendTo | sendV | recordDrop | recordSuccess => cases hl
  | broadcast | load | streamModify | finish | wait | dispatch | handle | turn | checkRead
  | registerRead | flush | checkWrite | unregister | disconnect => rfl

/-- The packet that is being forwarded is the one that `BroadcastRtp` was called with. -/
theorem step_packet (hstep : s.step l = some t) (hbusy : t.stream.pc ≠ .idle) :
    l = .broadcast t.stream.packet ∨
      (s.stream.pc ≠ .idle ∧ t.stream.packet = s.stream.packet) := by
  by_cases hthread : ofStream l = true
  · cases step_cases hstep with
    | @broadcast packet hpc =>
      unfold System.broadcast at hbusy ⊢
      split at hbusy
      · rw [if_pos (by assumption)]
        exact .inl rfl
      · exact absurd hpc hbusy
    | load hpc | sendTo hpc | sendV hpc | recordDrop hpc | recordSuccess hpc | streamModify hpc =>
      exact .inr ⟨by simp [hpc], rfl⟩
    | finish => exact absurd (by simp [System.finish]) hbusy
    | wait | skip | accept | sweep | enter | absent | drop | hangUp | receive | writable | readDone
    | tooLarge | skipFrame | request | checkRead | registerRead | flushFailed | flush | pending
    | drained | unregister | disconnect => cases hthread
  · have hstream := step_stream hstep (Bool.eq_false_of_not_eq_true hthread)
    exact .inr ⟨hstream ▸ hbusy, by rw [hstream]⟩

/-- The steps of the stream thread move the verdict on; the others leave it. -/
theorem step_dropsCovered (h : s.DropsCovered taken) (hapi : l.fromApi = true)
    (hreach : s.reachesSession l = true) (hstep : s.step l = some t) :
    t.DropsCovered (taken ++ [(s, l)]) := by
  have ht := step_inv h.inv hstep
  by_cases hl : silent l = true
  · have hpacket : t.stream.pc ≠ .idle → 1 ≤ t.stream.packet.data.length := by
      intro hbusy
      rcases step_packet hstep hbusy with rfl | ⟨hbefore, hsame⟩
      · exact packet_of_api hapi
      · rw [hsame]
        exact h.packet hbefore
    have hkeeps := step_keepsDrops hstep (fun heq => absurd hl (by simp [heq, silent]))
      (fun heq => absurd hl (by simp [heq, silent]))
    exact h.keep ht (silent_attempt hl) hpacket (step_verdict hstep hl) hkeeps
  · cases step_cases hstep with
    | @sendTo o sid endpoint hpc =>
      have hcall := RtpForwarder.forwardUdp_call (endpoint_of_reaches hpc hreach)
        (h.packet (by simp [hpc])) o
      have hattempt : s.attempt (.sendTo o) = some (sid,
          if (RtpForwarder.forwardUdp endpoint s.stream.packet o).2.isOk then .accepted
          else .refused) := by
        simp [attempt, hpc, hcall, hreach]
      exact h.attempted ht hattempt (by simp [hpc]) rfl (by simp [hpc, StreamPc.verdict])
        (sendTo_verdict s sid endpoint o) (step_keepsDrops hstep (by simp) (by simp))
    | @sendV o sid fd session hpc hs hanswer =>
      have hfits : s.stream.packet.data.length ≤ kMaxRtpPacketSize := by
        simpa [reachesSession] using hreach
      have hattempt : s.attempt (.sendV o) = some (sid,
          if (RtpForwarder.forwardTcp session.conn s.stream.packet o).2.isOk then .accepted
          else .refused) := by
        have hret := forwardTcp_verdict (o := o) (h.inv.server.conn_open hs)
          (h.packet (by simp [hpc])) hfits
        simp only [attempt, hpc, hs, Option.map_some]
        split
        · rfl
        · rename_i hok
          rw [if_pos (hret (Bool.eq_false_of_not_eq_true hok))]
      exact h.attempted ht hattempt (by simp [hpc]) rfl (by simp [hpc, StreamPc.verdict])
        (sendV_verdict s sid session _) (step_keepsDrops hstep (by simp) (by simp))
    | @recordDrop sid session hpc hs =>
      have hold := h.drops sid session hs (by simp [hpc, StreamPc.verdict])
      obtain ⟨hlow, hhigh⟩ := recordDrop_drops_le (h.range sid session hs)
      refine h.recorded ht hs rfl (by simp [hpc]) rfl (recordDrop_verdict s sid session)
        (by simp [hpc, StreamPc.verdict]) rfl hlow ?_
      simp only [hpc, StreamPc.verdict, ↓reduceIte] at hold
      exact hhigh.trans hold
    | @recordSuccess sid session hpc hs =>
      refine h.recorded ht hs rfl (by simp [hpc]) rfl (recordSuccess_verdict s sid session)
        (fun a ha => ?_) rfl ?_ ?_
      · simp [hpc, StreamPc.verdict, Ne.symm ha]
      · simp [RtspSession.recordSuccess, Connection.recordSuccess]
      · simp [RtspSession.recordSuccess, Connection.recordSuccess]
    | broadcast | load | streamModify | finish | wait | skip | accept | sweep | enter | absent
    | drop | hangUp | receive | writable | readDone | tooLarge | skipFrame | request | checkRead
    | registerRead | flushFailed | flush | pending | drained | unregister | disconnect =>
      exact absurd rfl hl

/-! ## Whole runs -/

theorem start_dropsCovered (config : Config) : (System.start config).DropsCovered [] where
  inv := start_inv config
  packet := by simp [System.start]
  failed := by simp [System.start, StreamPc.verdict]
  drops := by simp [System.start, Server.start]
  range := by simp [System.start, Server.start]

/-- Nothing but a recorded drop is counted as a dropped session. -/
theorem step_dropped (hstep : s.step l = some t) (hl : l ≠ .recordDrop) :
    t.server.totalDroppedSessions = s.server.totalDroppedSessions := by
  cases step_counts hstep with
  | nothing hsame => exact hsame.dropped
  | recordDrop hdrop => exact absurd hdrop hl
  | accept _ _ _ hres hsame => exact hsame.dropped.trans (Server.onNewConnection_counts hres).2.2
  | sweep _ hsame => exact hsame.dropped.trans (Server.checkTimeouts_counts s.server _).dropped

theorem DropsCovered.slow (h : s.DropsCovered taken) {sid : Nat} {x : RtspSession}
    (hpc : s.stream.pc = .failed sid) (hx : s.server.heap sid = some x)
    (hslow : x.becomesSlow = true) : kMaxConsecutiveDrops ≤ refusals (attempts taken) sid := by
  have hdrops := h.drops sid x hx (by simp [hpc, StreamPc.verdict])
  simp only [hpc, StreamPc.verdict, ↓reduceIte] at hdrops
  have hmany : kMaxConsecutiveDrops ≤ x.conn.recordDrop.consecutiveDrops := of_decide_eq_true hslow
  exact (hmany.trans (recordDrop_drops_le (h.range sid x hx)).2).trans hdrops

theorem DropsCovered.dropsSlow (h : s.DropsCovered taken) (hstep : s.step l = some t) :
    DropsSlow taken s l t where
  drop sid _ hpc := h.failed sid (by simp [hpc, StreamPc.verdict])
  mark sid x y hl hx hy hbefore hafter := by
    rcases step_moves hstep sid y hy with ⟨hnew, -⟩ | ⟨x', hx', hmove⟩
    · rw [h.inv.server.fresh sid hnew.ge] at hx
      cases hx
    · obtain rfl : x = x' := by simpa [hx] using hx'
      cases hmove with
      | unmoved hsame =>
        have hstate : y.state = x.state := congrArg Media.state hsame.media_eq
        exact absurd (hstate.symm.trans hafter) hbefore
      | recordSuccess => exact absurd hafter hbefore
      | request hturn =>
        rw [hturn] at hl
        cases hl
      | recordDrop _ hpc =>
        refine h.slow hpc hx ?_
        by_contra hslow
        simp only [RtspSession.recordDrop, hslow, ↓reduceIte] at hafter
        exact hbefore hafter
  count hchanged := by
    by_cases hl : l = .recordDrop
    · subst hl
      cases step_cases hstep with
      | @recordDrop sid session hpc hs =>
        refine ⟨sid, rfl, hpc, h.slow hpc hs ?_⟩
        by_contra hslow
        simp [System.recordDrop, hslow] at hchanged
    · exact absurd (step_dropped hstep hl) hchanged

/-- **Only slow clients are dropped as slow.** In every run in which the packets are those
`rtsp_forward_send_rtp` accepts and every packet that is forwarded gets as far as the socket
or the write buffer of its session: each drop that is recorded stands for a packet that the
session itself has refused, and a session is marked, and counted as dropped, only after a
hundred refusals since it last accepted a packet. A datagram gets there when its descriptor is
still the session's and it is not too large for every UDP socket. -/
theorem only_slow_dropped (config : Config) (labels : List Label) (l : Label) (s t : System)
    (hapi : ∀ l ∈ labels, l.fromApi = true)
    (hreach : Transition.Along step (fun s l => s.reachesSession l = true) (System.start config)
      labels)
    (hs : Transition.run step (System.start config) labels = some s) (ht : s.step l = some t) :
    DropsSlow (Transition.trace step (System.start config) labels) s l t := by
  have hcovered : s.DropsCovered ([] ++ Transition.trace step (System.start config) labels) :=
    Transition.Along.trace_invariant (I := DropsCovered)
      (fun _ _ _ _ h hg => step_dropsCovered h hg.1 hg.2) (start_dropsCovered config)
      (Transition.Along.and_labels hapi hreach) hs
  exact hcovered.dropsSlow ht

/-- A player, and a number of packets that fail to be forwarded; the last drop is yet to be
recorded. -/
def failing (n : Nat) (packet : RtpPacket) (o : WriteOutcome) : List Label :=
  playsTcp 7 ++ (List.replicate n
    [.broadcast packet, .load 0, .sendV o, .recordDrop, .finish]).flatten ++
    [.broadcast packet, .load 0, .sendV o]

/-- A broken socket refuses a hundred packets, and the client is marked. -/
theorem only_slow_dropped_socket :
    ∃ s t, Transition.run step (System.start smallConfig) (failing 99 ⟨[1], 0⟩ .hardError) =
        some s ∧
      s.step .recordDrop = some t ∧ t.server.totalDroppedSessions = 1 ∧
      DropsSlow (Transition.trace step (System.start smallConfig) (failing 99 ⟨[1], 0⟩ .hardError))
        s .recordDrop t := by
  have hrun : (Transition.run step (System.start smallConfig) (failing 99 ⟨[1], 0⟩ .hardError)).any
      (fun s => (s.step .recordDrop).any fun t => t.server.totalDroppedSessions = 1) = true := by
    decide +kernel
  obtain ⟨s, hs, hmark⟩ := (Option.any_eq_true _ _).mp hrun
  obtain ⟨t, ht, hcount⟩ := (Option.any_eq_true _ _).mp hmark
  exact ⟨s, t, hs, ht, of_decide_eq_true hcount,
    only_slow_dropped smallConfig _ _ s t (by decide +kernel) (by decide +kernel) hs ht⟩

/-- A packet of 2049 bytes, which the interface accepts. -/
def largePacket : RtpPacket := ⟨List.replicate 2049 0, 0⟩

/-- A hundred packets that are too large mark a client that has refused none. -/
theorem large_packets_drop_client :
    ∃ s t, (∀ l ∈ failing 99 largePacket (.accepted 2053), l.fromApi = true) ∧
      Transition.run step (System.start smallConfig) (failing 99 largePacket (.accepted 2053)) =
        some s ∧
      s.step .recordDrop = some t ∧ t.server.totalDroppedSessions = 1 ∧
      (t.server.heap 0).any (fun x => x.state = .kTeardown) = true ∧
      ¬ DropsSlow (Transition.trace step (System.start smallConfig)
          (failing 99 largePacket (.accepted 2053))) s .recordDrop t := by
  have hrun : (Transition.run step (System.start smallConfig)
      (failing 99 largePacket (.accepted 2053))).any (fun s => s.stream.pc = .failed 0 &&
        (s.step .recordDrop).any fun t => s.server.totalDroppedSessions = 0 &&
          t.server.totalDroppedSessions = 1 &&
          (t.server.heap 0).any fun x => x.state = .kTeardown) = true := by
    decide +kernel
  have hnone : refusals (attempts (Transition.trace step (System.start smallConfig)
      (failing 99 largePacket (.accepted 2053)))) 0 = 0 := by
    decide +kernel
  obtain ⟨s, hs, hfacts⟩ := (Option.any_eq_true _ _).mp hrun
  simp only [Bool.and_eq_true, decide_eq_true_eq, Option.any_eq_true] at hfacts
  obtain ⟨hpc, t, ht, ⟨hbefore, hafter⟩, hdown⟩ := hfacts
  refine ⟨s, t, by decide +kernel, hs, ht, hafter, by simpa [Option.any_eq_true] using hdown,
    fun hslow => ?_⟩
  obtain ⟨sid, -, hpc', hmany⟩ := hslow.count (by omega)
  obtain rfl : 0 = sid := by simpa [hpc] using hpc'
  rw [hnone] at hmany
  exact absurd hmany (by decide)

end System

end RtspForward
