import RtspForward.Core.Snapshot
import RtspForward.Core.Negotiation

/-!
# What a step does to a session

A session in the heap after a step was there before it, or is a new one. A step changes
the state, the transport or the drop counter of a session in three ways only: it handles
one of its requests, it records a drop or it records a success.
-/
namespace RtspForward

/-- A session as the constructor leaves it. -/
def RtspSession.Created (s : RtspSession) : Prop :=
  ∃ fd bufferSize garbage timestamp seq now,
    RtspSession.create fd bufferSize garbage timestamp seq now = some s

/-- The state, the transport and the drop counter are the same. -/
structure RtspSession.Unmoved (s s' : RtspSession) : Prop where
  media_eq : s'.media = s.media
  drops_eq : s'.conn.consecutiveDrops = s.conn.consecutiveDrops

theorem RtspSession.Created.drops {s : RtspSession} (h : s.Created) :
    s.conn.consecutiveDrops = 0 := by
  obtain ⟨fd, bufferSize, garbage, timestamp, seq, now, h⟩ := h
  obtain ⟨conn, hconn, rfl⟩ := Option.map_eq_some_iff.mp h
  unfold Connection.create at hconn
  split at hconn
  · obtain rfl := Option.some.inj hconn
    rfl
  · cases hconn

theorem Server.onNewConnection_heap {srv : Server} {o : AcceptOutcome} {res : Server × List Nat}
    (h : srv.onNewConnection o = some res) {a : Nat} {x : RtspSession}
    (hx : res.1.heap a = some x) : srv.heap a = some x ∨ (a = srv.created ∧ x.Created) := by
  cases o with
  | failed =>
    obtain rfl := Option.some.inj h
    exact .inl hx
  | accepted fd addOk timestamp now garbage =>
    simp only [onNewConnection, Option.bind_eq_bind] at h
    obtain ⟨kernel, -, h⟩ := Option.bind_eq_some_iff.mp h
    split at h
    · obtain rfl := Option.some.inj h
      exact .inl hx
    · have hheap (srv' : Server) (added : Bool) :
          (srv'.addFd fd {} .client added).1.heap = srv'.heap ∧
            (srv'.addFd fd {} .client added).1.created = srv'.created := by
        obtain ⟨hheap, hcreated, -⟩ := addFd_frame srv' fd {} .client added
        exact ⟨hheap, hcreated⟩
      split at h
      · obtain ⟨s, hs, h⟩ := Option.bind_eq_some_iff.mp h
        obtain rfl := Option.some.inj h
        simp only [hheap] at hx
        by_cases hac : a = srv.created
        · rw [hac, Function.update_self, Option.some.injEq] at hx
          subst hx
          exact .inr ⟨hac, ⟨_, _, _, _, _, _, hs⟩⟩
        · rw [Function.update_of_ne hac] at hx
          exact .inl hx
      · obtain rfl := Option.some.inj h
        simp only [hheap] at hx
        exact .inl hx

/-! ## The calls that leave a session where it is -/

namespace Connection

variable (c : Connection)

theorem recv_drops (o : RecvOutcome) : (c.recv o).1.consecutiveDrops = c.consecutiveDrops := by
  rcases c.recv_cases o with heq | ⟨bytes, -, heq⟩ <;> rw [heq]

theorem flush_drops (o : WriteOutcome) :
    (c.flush o).conn.consecutiveDrops = c.consecutiveDrops := by
  unfold flush
  split
  · rfl
  · simp only
    split
    · rfl
    · split <;> rfl

theorem forwardTcp_drops (p : RtpPacket) (o : WriteOutcome) :
    (RtpForwarder.forwardTcp c p o).1.conn.consecutiveDrops = c.consecutiveDrops := by
  rcases Wire.forwardTcp_cases c p o with ⟨-, hsame, -⟩ | ⟨-, -, hsend⟩
  · rw [hsame]
  · have hrouted := sendV_routed c
      [RtpForwarder.buildInterleavedHeader p.streamIndex p.data.length, p.data] o
    rw [Wire.frame_flatten, Wire.length_frame] at hrouted
    rw [hsend, hrouted]
    obtain ⟨w, hw⟩ := c.routed_frame (RtpForwarder.frame p) o _ _ _
    rw [hw]

end Connection

namespace System

/-! ## The moves of a session -/

/-- What a step does to a session that is in the heap before and after it. -/
inductive Move (s : System) (l : Label) (a : Nat) (x : RtspSession) : RtspSession → Prop
  | unmoved {x' : RtspSession} : x.Unmoved x' → Move s l a x x'
  | recordDrop : l = .recordDrop → s.stream.pc = .failed a → Move s l a x x.recordDrop
  | recordSuccess : l = .recordSuccess → s.stream.pc = .sent a → Move s l a x x.recordSuccess
  | request {env : RequestEnv} {beyond : Nat → UInt8} {data : Bytes} {n : Nat} :
      l = .turn env beyond → s.loop.pc = .reading a → s.nextRequest a beyond = some data →
      Move s l a x ((x.processData data env).session.consume n)

/-- The sessions after a step come from those before it. -/
def Moves (s : System) (l : Label) (t : System) : Prop :=
  ∀ a x', t.server.heap a = some x' →
    (a = s.server.created ∧ x'.Created) ∨ ∃ x, s.server.heap a = some x ∧ Move s l a x x'

variable {s t : System} {l : Label} {sid : Nat} {session session' : RtspSession}

theorem release_heap {sids : List Nat} {a : Nat} {x : RtspSession} :
    ∀ {s : System}, (s.release sids).server.heap a = some x → s.server.heap a = some x := by
  induction sids with
  | nil => exact fun h => h
  | cons sid sids ih =>
    intro s h
    have hone : (s.releaseOne sid).server.heap a = some x := ih h
    unfold releaseOne at hone
    split at hone
    · exact hone
    · unfold Server.destroy at hone
      simp only at hone
      split at hone
      · exact hone
      · by_cases hne : a = sid
        · simp [hne] at hone
        · simpa [hne] using hone

theorem moves_of_heap (h : t.server.heap = s.server.heap) : Moves s l t :=
  fun _ x' hx' => .inr ⟨x', h ▸ hx', .unmoved ⟨rfl, rfl⟩⟩

theorem Moves.release (h : Moves s l t) (sids : List Nat) : Moves s l (t.release sids) :=
  fun a x' hx' => h a x' (release_heap hx')

theorem Moves.closeAndLeave (h : Moves s l t) (held : List Nat) :
    Moves s l (t.closeAndLeave held) := by
  apply Moves.release
  intro a x' hx'
  obtain ⟨hheap, -⟩ := Server.closeConnection_frame t.server t.loop.fd
  exact h a x' (by simpa [System.goto, hheap] using hx')

theorem Moves.leave (h : Moves s l t) (sid : Nat) : Moves s l (t.leave sid) := by
  have hgoto : Moves s l (t.goto .idle) := h
  exact hgoto.release [sid]

theorem moves_setSession (hs : s.server.heap sid = some session)
    (hmove : Move s l sid session session')
    (hheap : t.server.heap = (s.server.setSession sid session').heap) : Moves s l t := by
  intro a x' hx'
  rw [hheap] at hx'
  by_cases ha : a = sid
  · subst ha
    rw [Server.setSession_heap] at hx'
    obtain rfl := Option.some.inj hx'
    exact .inr ⟨session, hs, hmove⟩
  · rw [Server.setSession_heap_ne _ _ ha] at hx'
    exact .inr ⟨x', hx', .unmoved ⟨rfl, rfl⟩⟩

/-- A call on the connection of a session. -/
theorem moves_conn (hs : s.server.heap sid = some session) {conn : Connection}
    (hdrops : conn.consecutiveDrops = session.conn.consecutiveDrops)
    (hheap : t.server.heap = (s.server.setSession sid { session with conn := conn }).heap) :
    Moves s l t := by
  have hmove : session.Unmoved { session with conn := conn } := ⟨rfl, hdrops⟩
  exact moves_setSession hs (.unmoved hmove) hheap

theorem step_moves (hstep : s.step l = some t) : Moves s l t := by
  cases step_cases hstep with
  | broadcast hpc =>
    apply moves_of_heap
    unfold System.broadcast
    split <;> rfl
  | @load now sid todo session hpc htodo hs =>
    have hmove : session.Unmoved (session.updateActivity now) := ⟨rfl, rfl⟩
    exact moves_setSession hs (.unmoved hmove) rfl
  | sendV hpc hs => exact moves_conn hs (Connection.forwardTcp_drops _ _ _) rfl
  | recordDrop hpc hs => exact moves_setSession hs (.recordDrop rfl hpc) rfl
  | recordSuccess hpc hs => exact moves_setSession hs (.recordSuccess rfl hpc) rfl
  | streamModify | registerRead => exact moves_of_heap (Server.modifyFd_frame _ _ _).2.1
  | finish =>
    apply Moves.release
    exact moves_of_heap rfl
  | @accept accept expired e batch res hpc hhandlers hbatch hcb hres =>
    apply Moves.release
    intro a x' hx'
    rcases Server.onNewConnection_heap hres hx' with hold | hnew
    · exact .inr ⟨x', hold, .unmoved ⟨rfl, rfl⟩⟩
    · exact .inl hnew
  | @sweep accept now e batch hpc hhandlers hbatch hcb =>
    apply Moves.release
    exact moves_of_heap (Server.checkTimeouts_frame s.server now).1
  | sendTo | wait | skip | enter | absent | writable | checkRead | drained | disconnect =>
    exact moves_of_heap rfl
  | drop hpc hhandlers =>
    apply Moves.closeAndLeave
    exact moves_of_heap rfl
  | hangUp hpc hhandlers hsid hs =>
    exact Moves.closeAndLeave (moves_conn hs (Connection.recv_drops _ _) rfl) _
  | receive hpc hhandlers hsid hs => exact moves_conn hs (Connection.recv_drops _ _) rfl
  | readDone | pending => exact Moves.leave (moves_of_heap rfl) _
  | tooLarge hpc => exact Moves.closeAndLeave (moves_of_heap rfl) _
  | @skipFrame env beyond sid session total hpc hs =>
    have hmove : session.Unmoved (session.consume total) := ⟨rfl, rfl⟩
    exact moves_setSession hs (.unmoved hmove) rfl
  | @request env beyond sid session requestLen h kernel hpc hs hturn hh =>
    subst hh
    refine moves_setSession hs (.request rfl hpc ?_) rfl
    simp [nextRequest, hs, hturn]
  | flushFailed hpc hs =>
    exact Moves.closeAndLeave (moves_conn hs (Connection.flush_drops _ _) rfl) _
  | flush hpc hs => exact moves_conn hs (Connection.flush_drops _ _) rfl
  | unregister hpc =>
    apply Moves.leave
    exact moves_of_heap (Server.modifyFd_frame _ _ _).2.1

/-- A request that is ready is handled. -/
theorem step_request {a : Nat} {env : RequestEnv} {beyond : Nat → UInt8} {data : Bytes}
    (hpc : s.loop.pc = .reading a) (hnext : s.nextRequest a beyond = some data)
    (hstep : s.step (.turn env beyond) = some t) :
    ∃ x n, s.server.heap a = some x ∧ t.server.sessions = s.server.sessions ∧
      t.server.heap a = some ((x.processData data env).session.consume n) ∧
      s.server.kernel.events (x.processData data env).fdEvents = some t.server.kernel := by
  have hready {session : RtspSession} (hs : s.server.heap a = some session) :
      ∃ n, RtspForward.turn session.conn.readBuffer = .request n ∧
        data = session.conn.readBuffer.rawView n beyond := by
    simp only [nextRequest, hs, Option.bind_some] at hnext
    split at hnext
    · exact ⟨_, by assumption, (Option.some.inj hnext).symm⟩
    · cases hnext
  cases step_cases hstep with
  | @readDone _ _ sid session hpc' hs hturn =>
    obtain rfl : a = sid := by simpa [hpc] using hpc'
    obtain ⟨n, hn, -⟩ := hready hs
    simp [hn] at hturn
  | @tooLarge _ _ sid session hpc' hs hturn =>
    obtain rfl : a = sid := by simpa [hpc] using hpc'
    obtain ⟨n, hn, -⟩ := hready hs
    simp [hn] at hturn
  | @skipFrame _ _ sid session total hpc' hs hturn =>
    obtain rfl : a = sid := by simpa [hpc] using hpc'
    obtain ⟨n, hn, -⟩ := hready hs
    simp [hn] at hturn
  | @request _ _ sid session requestLen h kernel hpc' hs hturn hh hanswer hkernel =>
    obtain rfl : a = sid := by simpa [hpc] using hpc'
    obtain ⟨n, hn, hdata⟩ := hready hs
    obtain rfl : requestLen = n := by simpa [hturn] using hn
    refine ⟨session, requestLen, hs, rfl, ?_⟩
    rw [hdata, ← hh]
    exact ⟨Server.setSession_heap _ _ _, hkernel⟩

end System

/-! ## Configuration and counters -/

/-- The configuration, the names given so far and the counters are the same. -/
structure Server.SameCounts (srv srv' : Server) : Prop where
  config : srv'.config = srv.config
  created : srv'.created = srv.created
  connections : srv'.totalConnections = srv.totalConnections
  timedOut : srv'.timedOutSessions = srv.timedOutSessions
  dropped : srv'.totalDroppedSessions = srv.totalDroppedSessions

namespace Server

variable {srv srv' srv'' : Server}

theorem sameCounts_refl (srv : Server) : srv.SameCounts srv := ⟨rfl, rfl, rfl, rfl, rfl⟩

theorem SameCounts.trans (h : srv.SameCounts srv') (h' : srv'.SameCounts srv'') :
    srv.SameCounts srv'' :=
  ⟨h'.config.trans h.config, h'.created.trans h.created, h'.connections.trans h.connections,
    h'.timedOut.trans h.timedOut, h'.dropped.trans h.dropped⟩

theorem destroy_sameCounts (srv : Server) (sid : Nat) : srv.SameCounts (srv.destroy sid) := by
  unfold destroy
  split <;> exact ⟨rfl, rfl, rfl, rfl, rfl⟩

theorem closeConnection_sameCounts (srv : Server) (fd : Int) :
    srv.SameCounts (srv.closeConnection fd).1 := by
  unfold closeConnection removeFd
  split
  · exact sameCounts_refl srv
  · split
    · exact ⟨rfl, rfl, rfl, rfl, rfl⟩
    · split <;> exact ⟨rfl, rfl, rfl, rfl, rfl⟩

theorem modifyFd_sameCounts (srv : Server) (fd : Int) (i : Interest) :
    srv.SameCounts (srv.modifyFd fd i).1 := by
  unfold modifyFd
  split
  · exact sameCounts_refl srv
  · split <;> exact ⟨rfl, rfl, rfl, rfl, rfl⟩

theorem addFd_sameCounts (srv : Server) (fd : Int) (i : Interest) (cb : Callback) (ok : Bool) :
    srv.SameCounts (srv.addFd fd i cb ok).1 := by
  unfold addFd
  split
  · exact sameCounts_refl srv
  · split <;> exact ⟨rfl, rfl, rfl, rfl, rfl⟩

/-- Each turn of the sweep counts one session as timed out. -/
theorem foldl_sweep_counts (fds : List Int) : ∀ acc : Server × List Nat,
    acc.1.SameCounts { (fds.foldl sweep acc).1 with timedOutSessions := acc.1.timedOutSessions } ∧
      (acc.1.timedOutSessions < 2 ^ 64 → (fds.foldl sweep acc).1.timedOutSessions =
        (acc.1.timedOutSessions + fds.length) % 2 ^ 64) := by
  induction fds with
  | nil => exact fun acc => ⟨⟨rfl, rfl, rfl, rfl, rfl⟩, fun h => (Nat.mod_eq_of_lt h).symm⟩
  | cons fd fds ih =>
    intro acc
    obtain ⟨hsame, htimed⟩ := ih (sweep acc fd)
    have hclose := closeConnection_sameCounts
      { acc.1 with timedOutSessions := (acc.1.timedOutSessions + 1) % 2 ^ 64 } fd
    have hone : (sweep acc fd).1.timedOutSessions = (acc.1.timedOutSessions + 1) % 2 ^ 64 :=
      hclose.timedOut
    refine ⟨⟨hsame.config.trans hclose.config, hsame.created.trans hclose.created,
      hsame.connections.trans hclose.connections, rfl, hsame.dropped.trans hclose.dropped⟩,
      fun _ => ?_⟩
    have hlt : (sweep acc fd).1.timedOutSessions < 2 ^ 64 := by
      rw [hone]
      exact Nat.mod_lt _ (by decide)
    rw [List.foldl_cons, htimed hlt, hone, List.length_cons]
    omega

/-- The sweep counts the sessions it collects, unless it returns at once. -/
theorem checkTimeouts_counts (srv : Server) (now : Int) :
    srv.SameCounts { (srv.checkTimeouts now).1 with timedOutSessions := srv.timedOutSessions } := by
  unfold checkTimeouts
  split
  · exact ⟨rfl, rfl, rfl, rfl, rfl⟩
  · exact (foldl_sweep_counts (srv.timedOutFds now) (srv, [])).1

theorem onNewConnection_counts {o : AcceptOutcome} {res : Server × List Nat}
    (h : srv.onNewConnection o = some res) :
    res.1.config = srv.config ∧ res.1.timedOutSessions = srv.timedOutSessions ∧
      res.1.totalDroppedSessions = srv.totalDroppedSessions := by
  cases o with
  | failed =>
    obtain rfl := Option.some.inj h
    exact ⟨rfl, rfl, rfl⟩
  | accepted fd addOk timestamp now garbage =>
    simp only [onNewConnection, Option.bind_eq_bind] at h
    obtain ⟨kernel, -, h⟩ := Option.bind_eq_some_iff.mp h
    split at h
    · obtain rfl := Option.some.inj h
      exact ⟨rfl, rfl, rfl⟩
    · have hadd := addFd_sameCounts { srv with
          kernel := kernel, totalConnections := (srv.totalConnections + 1) % 2 ^ 64 } fd {} .client addOk
      split at h
      · obtain ⟨s, -, h⟩ := Option.bind_eq_some_iff.mp h
        obtain rfl := Option.some.inj h
        exact ⟨hadd.config, hadd.timedOut, hadd.dropped⟩
      · obtain rfl := Option.some.inj h
        exact ⟨hadd.config, hadd.timedOut, hadd.dropped⟩

end Server

namespace System

variable {s t : System} {l : Label}

theorem release_sameCounts {srv : Server} (sids : List Nat) :
    ∀ {t : System}, srv.SameCounts t.server → srv.SameCounts (t.release sids).server := by
  induction sids with
  | nil => exact fun h => h
  | cons sid sids ih =>
    intro t h
    have hone : srv.SameCounts (t.releaseOne sid).server := by
      unfold releaseOne
      split
      · exact h
      · exact h.trans (Server.destroy_sameCounts t.server sid)
    exact ih hone

theorem closeAndLeave_sameCounts {srv : Server} (h : srv.SameCounts t.server) (held : List Nat) :
    srv.SameCounts (t.closeAndLeave held).server := by
  apply release_sameCounts
  exact h.trans (Server.closeConnection_sameCounts t.server t.loop.fd)

theorem leave_sameCounts {srv : Server} (h : srv.SameCounts t.server) (sid : Nat) :
    srv.SameCounts (t.leave sid).server := by
  apply release_sameCounts
  exact h

/-- What a step counts: nothing, a recorded drop, or what `OnNewConnection` and `CheckTimeouts`
count. -/
inductive Counts (s : System) (l : Label) (t : System) : Prop
  | nothing : s.server.SameCounts t.server → Counts s l t
  | recordDrop {sid : Nat} {session : RtspSession} : l = .recordDrop →
      t = s.recordDrop sid session → Counts s l t
  | accept {accept : AcceptOutcome} {expired : Option Int} {e : EventResult}
      {batch : List EventResult} {res : Server × List Nat} : l = .dispatch accept expired →
      s.loop.batch = e :: batch → s.server.callbacks e.fd = some .onNewConnection →
      s.server.onNewConnection accept = some res → res.1.SameCounts t.server → Counts s l t
  | sweep {accept : AcceptOutcome} {now : Int} : l = .dispatch accept (some now) →
      (s.server.checkTimeouts now).1.SameCounts t.server → Counts s l t

theorem step_counts (hstep : s.step l = some t) : Counts s l t := by
  cases step_cases hstep with
  | accept _ _ hbatch hcb hres =>
    exact .accept rfl hbatch hcb hres (release_sameCounts _ (Server.sameCounts_refl _))
  | sweep => exact .sweep rfl (release_sameCounts _ (Server.sameCounts_refl _))
  | recordDrop => exact .recordDrop rfl rfl
  | broadcast hpc =>
    apply Counts.nothing
    unfold System.broadcast
    split <;> exact ⟨rfl, rfl, rfl, rfl, rfl⟩
  | streamModify | registerRead => exact .nothing (Server.modifyFd_sameCounts _ _ _)
  | finish =>
    apply Counts.nothing
    apply release_sameCounts
    exact ⟨rfl, rfl, rfl, rfl, rfl⟩
  | load | sendTo | sendV | recordSuccess | wait | skip | enter | absent | receive | writable
  | skipFrame | request | checkRead | flush | drained | disconnect =>
    exact .nothing ⟨rfl, rfl, rfl, rfl, rfl⟩
  | drop | hangUp | tooLarge | flushFailed =>
    apply Counts.nothing
    apply closeAndLeave_sameCounts
    exact ⟨rfl, rfl, rfl, rfl, rfl⟩
  | readDone | pending =>
    apply Counts.nothing
    apply leave_sameCounts
    exact ⟨rfl, rfl, rfl, rfl, rfl⟩
  | unregister =>
    apply Counts.nothing
    apply leave_sameCounts
    exact Server.modifyFd_sameCounts _ _ _

/-- Only two kinds of steps count something: a dispatched entry, which may be a connection or
the timer, and a recorded drop. -/
theorem step_sameCounts (hstep : s.step l = some t) :
    (∃ accept expired, l = .dispatch accept expired) ∨ l = .recordDrop ∨
      s.server.SameCounts t.server := by
  cases step_counts hstep with
  | nothing hsame => exact .inr (.inr hsame)
  | recordDrop hl => exact .inr (.inl hl)
  | accept hl | sweep hl => exact .inl ⟨_, _, hl⟩

/-- The configuration stays, and a name is given once. -/
theorem step_fixed (hstep : s.step l = some t) :
    t.server.config = s.server.config ∧ s.server.created ≤ t.server.created := by
  cases step_counts hstep with
  | nothing hsame => exact ⟨hsame.config, hsame.created.ge⟩
  | recordDrop _ heq =>
    rw [heq]
    exact ⟨rfl, le_rfl⟩
  | accept _ _ _ hres hsame =>
    rw [hsame.config, hsame.created]
    refine ⟨(Server.onNewConnection_counts hres).1, ?_⟩
    rcases Server.onNewConnection_cases hres with ⟨-, -, hcreated, -⟩ |
      ⟨fd, session, k, -, -, -, -, -, -, hcreated, -⟩
    · exact hcreated.ge
    · exact (Nat.le_succ _).trans hcreated.ge
  | @sweep _ now _ hsame =>
    have hcounts := Server.checkTimeouts_counts s.server now
    rw [hsame.config, hsame.created]
    exact ⟨hcounts.config, hcounts.created.ge⟩

/-- The configuration of a run. -/
theorem run_config {config : Config} {labels : List Label}
    (h : Lib.Transition.run step (System.start config) labels = some s) :
    s.server.config = config := by
  have hkeep : ∀ (s : System) (l : Label) (t : System), s.server.config = config →
      s.step l = some t → t.server.config = config :=
    fun _ _ _ hs hstep => (step_fixed hstep).1.trans hs
  exact Lib.Transition.run_invariant hkeep rfl h

end System

end RtspForward
