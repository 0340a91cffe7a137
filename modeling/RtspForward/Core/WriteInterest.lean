import RtspForward.Core.Snapshot

/-!
# Pending data and write interest

A session with data in its write buffer is served again only when write interest is
registered for its descriptor. Both threads register it after a call that may have left data
behind, and the event loop drops it when a flush has emptied the buffer. Two things can go
wrong. The event loop looks at the buffer before it drops the interest, and the stream thread
can refill and register in between. And `ForwardTcp` can fail with the header of the frame
already buffered; a failed call registers nothing.
-/
namespace RtspForward

/-- The session for which the stream thread has yet to check or register write interest. -/
def StreamPc.registering : StreamPc → Option Nat
  | .sent sid | .register sid _ => some sid
  | _ => none

/-- The same of the event-loop thread. -/
def LoopPc.registering : LoopPc → Option Nat
  | .checkRead sid | .registerRead sid => some sid
  | _ => none

/-- `ForwardTcp` will be refused by the kernel and then by the write buffer, which takes the
four bytes of the header and not the payload. -/
def Connection.strandsHeader (c : Connection) (p : RtpPacket) (o : WriteOutcome) : Bool :=
  0 < p.data.length && p.data.length ≤ kMaxRtpPacketSize && !c.isClosed &&
    c.writeBuffer.readableSize = 0 && o = .wouldBlock && 4 ≤ c.writeBuffer.capacity &&
    c.writeBuffer.capacity < 4 + p.data.length

namespace System

open Lib

variable {s t : System} {l : Label} {sid : Nat} {session session' : RtspSession}

/-- Write interest is registered for the descriptor. -/
def wantsWrite (s : System) (fd : Int) : Bool := (s.server.kernel.interest fd).any fun i => i.write

/-- When neither thread is inside `BroadcastRtp`, `OnWrite` or `ProcessConnectionData`, every
session of the table with pending data has write interest. -/
def NoneStuck (s : System) : Prop :=
  s.stream.pc = .idle → s.loop.pc = .idle → ∀ fd sid session, s.server.sessions[fd]? = some sid →
    s.server.heap sid = some session → session.conn.needFlush = true → s.wantsWrite fd = true

/-- A step that loses track of pending data: `OnWrite` drops the interest although the buffer
has been filled again and the stream thread is done with it, or `ForwardTcp` fails with the
header buffered. -/
def forgets (s : System) : Label → Bool
  | .unregister =>
    match s.loop.pc with
    | .unregister sid => s.stream.pc.registering ≠ some sid &&
        (s.server.heap sid).any fun session => session.conn.needFlush
    | _ => false
  | .sendV o =>
    match s.stream.pc with
    | .tcp sid _ =>
      (s.server.heap sid).any fun session => session.conn.strandsHeader s.stream.packet o
    | _ => false
  | _ => false

/-! ## Coverage -/

/-- One of the threads is about to register write interest, if it is needed. -/
def Registering (s : System) (sid : Nat) : Prop :=
  s.stream.pc.registering = some sid ∨ s.loop.pc.registering = some sid

def Covers (s : System) (fd : Int) (sid : Nat) : Prop :=
  s.wantsWrite fd = true ∨ s.Registering sid

def Covered (s : System) : Prop :=
  ∀ fd sid session, s.server.sessions[fd]? = some sid → s.server.heap sid = some session →
    session.conn.needFlush = true → s.Covers fd sid

theorem Covered.noneStuck (h : s.Covered) : s.NoneStuck := by
  intro hstream hloop fd sid session hfd hs hneed
  rcases h fd sid session hfd hs hneed with hwants | hreg | hreg
  · exact hwants
  · rw [hstream] at hreg
    cases hreg
  · rw [hloop] at hreg
    cases hreg

theorem registering_of_stream {a : Nat} (hpc : s.stream.pc.registering = none)
    (hloop : t.loop.pc = s.loop.pc) (h : s.Registering a) : t.Registering a := by
  rcases h with h | h
  · rw [hpc] at h
    cases h
  · exact .inr (hloop ▸ h)

theorem registering_of_loop {a : Nat} (hpc : s.loop.pc.registering = none)
    (hstream : t.stream.pc = s.stream.pc) (h : s.Registering a) : t.Registering a := by
  rcases h with h | h
  · exact .inl (hstream ▸ h)
  · rw [hpc] at h
    cases h

/-- The table, the sessions and the interests are the same. -/
theorem Covered.frame (h : s.Covered) (hsessions : t.server.sessions = s.server.sessions)
    (hheap : t.server.heap = s.server.heap)
    (hinterest : t.server.kernel.interest = s.server.kernel.interest)
    (hcovers : ∀ a, s.Registering a → t.Registering a) : t.Covered := by
  intro fd sid session hfd hs hneed
  rcases h fd sid session (hsessions ▸ hfd) (hheap ▸ hs) hneed with hwants | hreg
  · exact .inl (by rwa [wantsWrite, hinterest])
  · exact .inr (hcovers sid hreg)

/-- One session is replaced. -/
theorem Covered.replace (h : s.Covered) (hs : s.server.heap sid = some session)
    (hsessions : t.server.sessions = s.server.sessions)
    (hheap : t.server.heap = (s.server.setSession sid session').heap)
    (hinterest : ∀ (fd : Int) (a : Nat), s.server.sessions[fd]? = some a →
      t.server.kernel.interest fd = s.server.kernel.interest fd)
    (hothers : ∀ a, a ≠ sid → s.Registering a → t.Registering a)
    (hself : ∀ fd : Int, session'.conn.needFlush = true → t.wantsWrite fd = s.wantsWrite fd →
      (session.conn.needFlush = true → s.Covers fd sid) → t.Covers fd sid) : t.Covered := by
  intro fd a x hfd hx hneed
  rw [hsessions] at hfd
  have hwants : t.wantsWrite fd = s.wantsWrite fd := by
    rw [wantsWrite, wantsWrite, hinterest fd a hfd]
  by_cases ha : a = sid
  · subst ha
    obtain rfl : session' = x := by simpa [hheap, Server.setSession] using hx
    exact hself fd hneed hwants (h fd a session hfd hs)
  · have hx' : s.server.heap a = some x := by simpa [hheap, Server.setSession, ha] using hx
    rcases h fd a x hfd hx' hneed with hold | hreg
    · exact .inl (hwants.trans hold)
    · exact .inr (hothers a ha hreg)

/-- One session is replaced by one that has no more pending data, and the threads go on
elsewhere. -/
theorem Covered.update (h : s.Covered) (hs : s.server.heap sid = some session)
    (hneed : session'.conn.needFlush = true → session.conn.needFlush = true)
    (hsessions : t.server.sessions = s.server.sessions)
    (hheap : t.server.heap = (s.server.setSession sid session').heap)
    (hinterest : t.server.kernel.interest = s.server.kernel.interest)
    (hcovers : ∀ a, s.Registering a → t.Registering a) : t.Covered := by
  refine h.replace hs hsessions hheap (fun _ _ _ => by rw [hinterest]) (fun a _ => hcovers a) ?_
  intro fd hneed' hwants hold
  rcases hold (hneed hneed') with hw | hreg
  · exact .inl (hwants.trans hw)
  · exact .inr (hcovers sid hreg)

theorem Covered.release (h : s.Covered) (hwf : s.server.WellFormed) (sids : List Nat) :
    (s.release sids).Covered := by
  obtain ⟨hkept, -⟩ := release_spec hwf sids
  intro fd a x hfd hx hneed
  rw [release_sessions] at hfd
  rw [hkept.heap_eq a (refers_of_table hfd)] at hx
  have hold := h fd a x hfd hx hneed
  rwa [Covers, wantsWrite, Registering, hkept.interest_eq fd a hfd, release_stream, release_loop]

theorem Covered.closeAndLeave (h : s.Covered) (hwf : s.server.WellFormed)
    (hpc : s.loop.pc.registering = none) (held : List Nat) : (s.closeAndLeave held).Covered := by
  obtain ⟨hheap, -, -, hinterest, hsessions, -⟩ := Server.closeConnection_frame s.server s.loop.fd
  unfold System.closeAndLeave
  apply Covered.release
  · intro fd a x hfd hx hneed
    simp only [System.goto, hsessions] at hfd
    simp only [System.goto, hheap] at hx
    split at hfd
    · cases hfd
    · rename_i hne
      rcases h fd a x hfd hx hneed with hwants | hreg | hreg
      · refine .inl ?_
        simpa only [System.goto, wantsWrite, hinterest fd (Ne.symm hne)] using hwants
      · exact .inr (.inl hreg)
      · rw [hpc] at hreg
        cases hreg
  · exact hwf.closeConnection _

theorem Covered.leave (h : s.Covered) (hwf : s.server.WellFormed)
    (hpc : s.loop.pc.registering = none) (sid : Nat) : (s.leave sid).Covered := by
  unfold System.leave
  apply Covered.release
  · exact h.frame rfl rfl rfl fun _ => registering_of_loop hpc rfl
  · exact hwf

/-- The interest in one descriptor is changed: the sessions under all others are as before. -/
theorem Covered.modifyFd (h : s.Covered) {fd : Int} {i : Interest}
    (hserver : t.server = (s.server.modifyFd fd i).1)
    (hothers : ∀ (x : Int) (a : Nat), s.server.sessions[x]? = some a → x ≠ fd →
      s.Registering a → t.Registering a)
    (hself : ∀ a session, s.server.sessions[fd]? = some a → s.server.heap a = some session →
      session.conn.needFlush = true → t.Covers fd a) : t.Covered := by
  obtain ⟨hsessions, hheap, -, -, hinterest⟩ := Server.modifyFd_frame s.server fd i
  intro x a session hx hs hneed
  rw [hserver, hsessions] at hx
  rw [hserver, hheap] at hs
  by_cases hxfd : x = fd
  · subst hxfd
    exact hself a session hx hs hneed
  · rcases h x a session hx hs hneed with hwants | hreg
    · refine .inl ?_
      rw [wantsWrite, hserver, hinterest, if_neg (fun hc => hxfd hc.1)]
      exact hwants
    · exact .inr (hothers x a hx hxfd hreg)

/-- `ModifyFd(fd, kRead | kWrite)` succeeds on the descriptor of a session of the table. -/
theorem wantsWrite_modifyFd (h : s.server.WellFormed) {fd : Int}
    (hserver : t.server = (s.server.modifyFd fd { write := true }).1)
    (hfd : s.server.sessions[fd]? = some sid) : t.wantsWrite fd = true := by
  obtain ⟨-, -, -, -, hinterest⟩ := Server.modifyFd_frame s.server fd { write := true }
  obtain ⟨session, hs, rfl⟩ := h.table fd sid hfd
  rw [wantsWrite, hserver, hinterest,
    if_pos ⟨rfl, h.conn_nonneg sid session hs, h.registered _ sid hfd⟩]
  rfl

/-! ## What the calls leave behind -/

theorem needFlush_flush (hvalid : session.conn.Valid) (o : WriteOutcome)
    (h : (session.conn.flush o).conn.needFlush = true) : session.conn.needFlush = true :=
  (Connection.flush_adds hvalid o).needFlush_of_nil h

theorem recv_writeBuffer (c : Connection) (o : RecvOutcome) :
    (c.recv o).1.writeBuffer = c.writeBuffer := by
  rcases c.recv_cases o with heq | ⟨bytes, -, heq⟩ <;> rw [heq]

theorem needFlush_recv (o : RecvOutcome) (h : (session.conn.recv o).1.needFlush = true) :
    session.conn.needFlush = true := by
  rwa [Connection.needFlush, recv_writeBuffer] at h

/-- When `ForwardTcp` fails, pending data is old, or it is a stranded header. -/
theorem forwardTcp_failed {c : Connection} {p : RtpPacket} {o : WriteOutcome} (hvalid : c.Valid)
    (hfail : (RtpForwarder.forwardTcp c p o).2.isOk = false)
    (hneed : (RtpForwarder.forwardTcp c p o).1.conn.needFlush = true) :
    c.needFlush = true ∨ c.strandsHeader p o = true := by
  rcases Wire.forwardTcp_cases c p o with ⟨-, hsame, -⟩ | ⟨hpos, hmax, hsend⟩
  · rw [hsame] at hneed
    exact .inl hneed
  · by_cases hclosed : c.isClosed = true
    · rw [hsend] at hneed
      simp only [Connection.sendV, hclosed, ↓reduceIte] at hneed
      exact .inl hneed
    · have hret : (RtpForwarder.forwardTcp c p o).1.ret < 0 := by
        by_contra hret
        have hzero : ¬ p.data.length = 0 := by omega
        have hbig : ¬ p.data.length > kMaxRtpPacketSize := by omega
        rw [hsend] at hret
        simp [RtpForwarder.forwardTcp, hzero, hbig, hclosed, hret] at hfail
      have heff := Wire.forwardTcp_effect hvalid hpos hmax o
      rcases heff.pending_of_failed hret hneed with hold | ⟨hroute, hlong, hhead⟩
      · exact .inl hold
      · by_cases hempty : c.writeBuffer.readableSize = 0
        · have ho : o = .wouldBlock := Connection.route_queue hempty hroute
          rw [Wire.length_frame] at hlong
          have hroom : c.room = c.writeBuffer.capacity := by rw [Connection.room, hempty, Nat.sub_zero]
          rw [hroom] at hlong hhead
          exact .inr (by simp [Connection.strandsHeader, hpos, hmax, hclosed, hempty, ho, hhead, hlong])
        · exact .inl (by simp only [Connection.needFlush, decide_eq_true_eq]; omega)

/-! ## Steps -/

/-- The registrations for the descriptors of the table survive a request. -/
theorem request_interest (h : s.server.WellFormed) (hs : s.server.heap sid = some session)
    {env : RequestEnv} {data : Bytes} {kernel : Kernel}
    (hk : s.server.kernel.events (session.processData data env).fdEvents = some kernel) :
    ∀ (fd : Int) (a : Nat), s.server.sessions[fd]? = some a →
      kernel.interest fd = s.server.kernel.interest fd := by
  intro fd a hfd
  obtain ⟨x, hx, rfl⟩ := h.table fd a hfd
  have hopen := h.opened a x hx _ (h.owns_conn hx)
  rcases RtspSession.processData_udpEffect (fun fd hfd => h.opened sid session hs fd (.inr hfd)) hk
    with ⟨-, -, -, hch⟩ | ⟨-, hch⟩
  · exact hch.interest_eq _ hopen (by simp)
  · refine hch.interest_eq _ hopen fun hudp => ?_
    obtain rfl : a = sid := h.separate a sid x session hx hs _ (h.owns_conn hx) (.inr hudp)
    obtain rfl : x = session := Option.some.inj (hx.symm.trans hs)
    exact h.conn_apart a x hx hudp

theorem accept_covered (h : s.Covered) (hwf : s.server.WellFormed) {accept : AcceptOutcome}
    {res : Server × List Nat} (hres : s.server.onNewConnection accept = some res)
    (hserver : t.server = res.1) (hreg : ∀ a, s.Registering a → t.Registering a) : t.Covered := by
  intro fd a x hfd hx hneed
  rw [hserver] at hfd hx
  have hold : s.server.sessions[fd]? = some a → s.server.heap a = some x →
      res.1.kernel.interest fd = s.server.kernel.interest fd → t.Covers fd a := by
    intro hfd' hx' hinterest
    rcases h fd a x hfd' hx' hneed with hwants | hr
    · refine .inl ?_
      rw [wantsWrite, hserver, hinterest]
      exact hwants
    · exact .inr (hreg a hr)
  have hopen : ∀ a x, s.server.heap a = some x → s.server.kernel.opened x.conn.fd = true :=
    fun a x hx => hwf.opened a x hx _ (hwf.owns_conn hx)
  rcases Server.onNewConnection_cases hres with ⟨hsessions, hheap, -, hk, -⟩ |
    ⟨fd', session, k, -, hk, hkernel, hfresh, hsessions, hheap, -⟩
  · rw [hsessions] at hfd
    rw [hheap] at hx
    obtain ⟨y, hy, rfl⟩ := hwf.table fd a hfd
    exact hold hfd hx (hk.interest_eq _ (hopen a y hy) (by simp))
  · rw [hsessions, Server.getElem?_insert] at hfd
    split at hfd
    · -- the new session has nothing to send
      obtain rfl := Option.some.inj hfd
      obtain rfl : session = x := by simpa [hheap] using hx
      rw [hfresh.nothing_queued] at hneed
      cases hneed
    · rename_i hne
      obtain ⟨y, hy, rfl⟩ := hwf.table fd a hfd
      have ha : a ≠ s.server.created := by
        rintro rfl
        rw [hwf.fresh _ le_rfl] at hy
        cases hy
      refine hold hfd (by simpa [hheap, ha] using hx) ?_
      have hint := (Kernel.changes_of_acquire hk).interest_eq _ (hopen a y hy) (by simp)
      simpa [hkernel, Kernel.register, Ne.symm hne] using hint

theorem sweep_covered (h : s.Covered) (now : Int)
    (hserver : t.server = (s.server.checkTimeouts now).1)
    (hreg : ∀ a, s.Registering a → t.Registering a) : t.Covered := by
  obtain ⟨hheap, hstays⟩ := Server.checkTimeouts_frame s.server now
  intro fd a x hfd hx hneed
  rw [hserver] at hfd hx
  obtain ⟨hfd', hinterest⟩ := hstays fd a hfd
  rcases h fd a x hfd' (hheap ▸ hx) hneed with hwants | hr
  · refine .inl ?_
    rw [wantsWrite, hserver, hinterest]
    exact hwants
  · exact .inr (hreg a hr)

theorem stream_covered (h : s.Covered) (hinv : s.Inv) (hconn : s.LoadedConn)
    (hl : s.forgets l = false) (hof : ofStream l = true) (hstep : s.step l = some t) :
    t.Covered := by
  cases step_cases hstep with
  | broadcast hpc =>
    unfold System.broadcast
    split
    · exact h.frame rfl rfl rfl fun _ => registering_of_stream (by rw [hpc]; rfl) rfl
    · exact h
  | load hpc htodo hs =>
    refine h.update hs ?_ rfl rfl rfl fun _ => registering_of_stream (by rw [hpc]; rfl) rfl
    exact id
  | sendTo hpc => exact h.frame rfl rfl rfl fun _ => registering_of_stream (by rw [hpc]; rfl) rfl
  | @sendV o sid fd session hpc hs _ =>
    refine h.replace hs rfl rfl (fun _ _ _ => rfl)
      (fun _ _ => registering_of_stream (by rw [hpc]; rfl) rfl) fun fd hneed hwants hold => ?_
    by_cases hok : (RtpForwarder.forwardTcp session.conn s.stream.packet o).2.isOk = true
    · exact .inr (.inl (by simp [System.sendV, hok, StreamPc.registering]))
    · have hfail := Bool.eq_false_of_not_eq_true hok
      rcases forwardTcp_failed (hinv.server.buffers sid session hs) hfail hneed with hq | hstrand
      · rcases hold hq with hw | hr
        · exact .inl (hwants.trans hw)
        · exact .inr (registering_of_stream (s := s) (by rw [hpc]; rfl) rfl hr)
      · simp [forgets, hpc, hs, hstrand] at hl
  | recordDrop hpc hs =>
    refine h.update hs ?_ rfl rfl rfl fun _ => registering_of_stream (by rw [hpc]; rfl) rfl
    exact id
  | @recordSuccess sid session hpc hs =>
    refine h.replace hs rfl rfl (fun _ _ _ => rfl) (fun a ha hr => ?_) fun fd hneed _ _ => ?_
    · rcases hr with hr | hr
      · rw [hpc] at hr
        exact absurd (Option.some.inj hr).symm ha
      · exact .inr hr
    · exact .inr (.inl (by simp [System.recordSuccess, hneed, StreamPc.registering]))
  | @streamModify sid fd hpc =>
    obtain ⟨session, hs, hfd⟩ := hconn sid fd hpc
    refine h.modifyFd rfl (fun x a hx hne hr => ?_) fun a _ ha _ _ => ?_
    · rcases hr with hr | hr
      · -- the session the stream thread registers is the one under `fd`
        rw [hpc] at hr
        obtain rfl := Option.some.inj hr
        obtain ⟨y, hy, hyfd⟩ := hinv.server.table x sid hx
        obtain rfl : session = y := Option.some.inj (hs.symm.trans hy)
        exact absurd (hyfd.symm.trans hfd) hne
      · exact .inr hr
    · exact .inl (wantsWrite_modifyFd hinv.server rfl ha)
  | finish hpc htodo =>
    apply Covered.release
    · exact h.frame rfl rfl rfl fun _ => registering_of_stream (by rw [hpc]; rfl) rfl
    · exact hinv.server
  | wait | skip | accept | sweep | enter | absent | drop | hangUp | receive | writable | readDone
  | tooLarge | skipFrame | request | checkRead | registerRead | flushFailed | flush | pending
  | drained | unregister | disconnect => cases hof

theorem loop_covered (h : s.Covered) (hinv : s.Inv) (hl : s.forgets l = false)
    (hof : ofStream l = false) (hstep : s.step l = some t) : t.Covered := by
  cases step_cases hstep with
  | broadcast | load | sendTo | sendV | recordDrop | recordSuccess | streamModify | finish =>
    cases hof
  | wait hpc | skip hpc | enter hpc | absent hpc =>
    exact h.frame rfl rfl rfl fun _ => registering_of_loop (by rw [hpc]; rfl) rfl
  | accept hpc hhandlers hbatch hcb hres =>
    apply Covered.release
    · exact accept_covered h hinv.server hres rfl fun _ => registering_of_loop (by rw [hpc]; rfl) rfl
    · exact hinv.server.onNewConnection hres
  | sweep hpc hhandlers hbatch hcb =>
    apply Covered.release
    · exact sweep_covered h _ rfl fun _ => registering_of_loop (by rw [hpc]; rfl) rfl
    · exact hinv.server.checkTimeouts _
  | @drop recv _ handlers held hpc hhandlers hheld =>
    apply Covered.closeAndLeave
    · exact h.frame rfl rfl rfl fun _ => registering_of_loop (by rw [hpc]; rfl) rfl
    · exact hinv.server
    · simp [System.takeHandler, hpc, LoopPc.registering]
  | @hangUp recv _ handlers sid session hpc hhandlers hsid hs =>
    apply Covered.closeAndLeave
    · exact h.update hs (needFlush_recv recv) rfl rfl rfl fun _ =>
        registering_of_loop (by rw [hpc]; rfl) rfl
    · exact ((hinv.takeHandler hpc handlers).update hs (session.keeps_recv recv)).server
    · simp [System.takeHandler, System.update, hpc, LoopPc.registering]
  | @receive recv _ handlers sid session hpc hhandlers hsid hs =>
    exact h.update hs (needFlush_recv recv) rfl rfl rfl fun _ =>
      registering_of_loop (by rw [hpc]; rfl) rfl
  | writable hpc => exact h.frame rfl rfl rfl fun _ => registering_of_loop (by rw [hpc]; rfl) rfl
  | readDone hpc | pending hpc => exact h.leave hinv.server (by rw [hpc]; rfl) _
  | tooLarge hpc => exact h.closeAndLeave hinv.server (by rw [hpc]; rfl) _
  | skipFrame hpc hs =>
    refine h.update hs ?_ rfl rfl rfl fun _ hr => hr
    exact id
  | @request env beyond sid session requestLen _ kernel hpc hs hturn hh _ hkernel =>
    subst hh
    refine h.replace hs rfl rfl (request_interest hinv.server hs hkernel)
      (fun _ _ => registering_of_loop (by rw [hpc]; rfl) rfl) fun _ _ _ _ => ?_
    exact .inr (.inr rfl)
  | @checkRead sid session hpc hs =>
    intro fd a x hfd hx hneed
    rcases h fd a x hfd hx hneed with hwants | hr | hr
    · exact .inl hwants
    · exact .inr (.inl hr)
    · rw [hpc] at hr
      obtain rfl := Option.some.inj hr
      obtain rfl : session = x := Option.some.inj (hs.symm.trans hx)
      exact .inr (.inr (by simp [System.checkRead, System.goto, hneed, LoopPc.registering]))
  | @registerRead sid hpc =>
    have hsid := hinv.handler sid (by rw [hpc]; rfl)
    refine h.modifyFd rfl (fun x a hx hne hr => ?_) fun a _ ha _ _ => ?_
    · rcases hr with hr | hr
      · exact .inl hr
      · rw [hpc] at hr
        obtain rfl := Option.some.inj hr
        exact absurd (hinv.server.table_inj hx hsid) hne
    · exact .inl (wantsWrite_modifyFd hinv.server rfl ha)
  | @flushFailed o sid session hpc hs _ =>
    have hvalid := hinv.server.buffers sid session hs
    apply Covered.closeAndLeave
    · exact h.update hs (needFlush_flush hvalid o) rfl rfl rfl fun _ hr => hr
    · exact (hinv.flushed hs (session.keeps_flush o hvalid)).server
    · simp [System.flushed, System.update, hpc, LoopPc.registering]
  | @flush o sid session hpc hs _ =>
    exact h.update hs (needFlush_flush (hinv.server.buffers sid session hs) o) rfl rfl rfl fun _ =>
      registering_of_loop (by rw [hpc]; rfl) rfl
  | drained hpc => exact h.frame rfl rfl rfl fun _ => registering_of_loop (by rw [hpc]; rfl) rfl
  | @unregister sid hpc =>
    have hsid := hinv.handler sid (by rw [hpc]; rfl)
    apply Covered.release
    · refine h.modifyFd rfl (fun _ _ _ _ => registering_of_loop (by rw [hpc]; rfl) rfl)
        fun a x ha hx hneed => ?_
      obtain rfl : sid = a := Option.some.inj (hsid.symm.trans ha)
      simp only [forgets, hpc, hx, Option.any_some, hneed, Bool.and_true, decide_eq_false_iff_not,
        not_not] at hl
      exact .inr (.inl hl)
    · exact hinv.server.modifyFd _ _
  | disconnect => exact h.frame rfl rfl rfl fun _ hr => hr

/-- **No lost write wake-up.** In every run in which `OnWrite` never drops the write interest of
a buffer that the stream thread has filled again and finished with, and `ForwardTcp` never
strands a header, every session of the table with pending data has write interest registered
whenever neither thread is inside one of the functions that deal with it. -/
theorem none_stuck (config : Config) (labels : List Label) (t : System)
    (hc : Transition.Along System.step (fun s l => s.forgets l = false) (System.start config) labels)
    (hrun : Transition.run System.step (System.start config) labels = some t) : t.NoneStuck := by
  have hstep : ∀ (s : System) (l : Label) (t : System), (s.Inv ∧ s.LoadedConn ∧ s.Covered) →
      s.forgets l = false → s.step l = some t → t.Inv ∧ t.LoadedConn ∧ t.Covered := by
    intro s l t ⟨hinv, hconn, hcov⟩ hl hs
    refine ⟨step_inv hinv hs, step_loadedConn hinv hconn hs, ?_⟩
    cases hof : ofStream l with
    | true => exact stream_covered hcov hinv hconn hl hof hs
    | false => exact loop_covered hcov hinv hl hof hs
  have hstart : (System.start config).Covered := by
    intro fd sid session hfd
    simp [System.start, Server.start] at hfd
  have hinv := Transition.Along.invariant hstep
    ⟨start_inv config, loadedConn_of_pc (by simp [System.start]), hstart⟩ hc hrun
  exact hinv.2.2.noneStuck

/-- A packet that the kernel does not take. -/
def blocked : List Label :=
  [.broadcast ⟨[1, 2, 3], 0⟩, .load 0, .sendV .wouldBlock, .recordSuccess, .streamModify, .finish]

theorem none_stuck_blocked :
    ∃ t, Transition.run System.step (System.start smallConfig) (playsTcp 7 ++ blocked) = some t ∧
      (t.server.heap 0).any (fun session => session.conn.needFlush) = true ∧ t.NoneStuck := by
  have hrun : (Transition.run System.step (System.start smallConfig) (playsTcp 7 ++ blocked)).any
      (fun t => (t.server.heap 0).any fun session => session.conn.needFlush) = true := by
    decide
  obtain ⟨t, ht, hneed⟩ := (Option.any_eq_true _ _).mp hrun
  exact ⟨t, ht, hneed, none_stuck smallConfig _ t (by decide) ht⟩

/-- `OnWrite` flushes a first packet and finds the buffer empty; before it drops the write
interest, the stream thread buffers a second packet and registers. -/
def refilledBeforeUnregister : List Label :=
  playsTcp 7 ++ blocked ++ [.wait [{ fd := 7, write := true }], .dispatch .failed none,
    .handle .wouldBlock, .flush (.accepted 7), .checkWrite] ++ blocked ++ [.unregister]

theorem second_packet_stuck :
    ∃ t, Transition.run System.step (System.start smallConfig) refilledBeforeUnregister = some t ∧
      t.stream.pc = .idle ∧ t.loop.pc = .idle ∧ t.server.sessions[(7 : Int)]? = some 0 ∧
      (t.server.heap 0).any (fun session => session.conn.needFlush) = true ∧
      t.wantsWrite 7 = false ∧ ¬ t.NoneStuck := by
  have hrun : (Transition.run System.step (System.start smallConfig) refilledBeforeUnregister).any
      (fun t => t.stream.pc = .idle && t.loop.pc = .idle &&
        t.server.sessions[(7 : Int)]? = some 0 &&
        (t.server.heap 0).any (fun session => session.conn.needFlush) && !t.wantsWrite 7) =
      true := by
    decide +kernel
  obtain ⟨t, ht, hfacts⟩ := (Option.any_eq_true _ _).mp hrun
  simp only [Bool.and_eq_true, decide_eq_true_eq, Bool.not_eq_true'] at hfacts
  obtain ⟨⟨⟨⟨hstream, hloop⟩, hfd⟩, hneed⟩, hwants⟩ := hfacts
  refine ⟨t, ht, hstream, hloop, hfd, hneed, hwants, fun hnone => ?_⟩
  obtain ⟨session, hs, hsession⟩ := (Option.any_eq_true _ _).mp hneed
  rw [hnone hstream hloop 7 0 session hfd hs hsession] at hwants
  cases hwants

end System

end RtspForward
