import RtspForward.Core.SystemInvariant

/-!
# What the stream thread relies on

The stream thread works on a snapshot while the event loop goes on. The sessions of the
snapshot stay alive, and a session keeps its connection for life; its UDP descriptors it
keeps until a request gives them up.
-/
namespace RtspForward.System

variable {s t : System} {sid : Nat}

/-- The data the next turn of the read loop hands to `ProcessData`, if it is a request. -/
def nextRequest (s : System) (sid : Nat) (beyond : Nat → UInt8) : Option Bytes :=
  (s.server.heap sid).bind fun session =>
    match RtspForward.turn session.conn.readBuffer with
    | .request requestLen => some (session.conn.readBuffer.rawView requestLen beyond)
    | _ => none

/-- The step handles a request of the session that gives up the UDP descriptors it holds. -/
def releases (s : System) (l : Label) (sid : Nat) : Bool :=
  match l with
  | .turn env beyond =>
    s.loop.pc = .reading sid && (s.server.heap sid).any fun session =>
      (s.nextRequest sid beyond).any fun data => session.releasesUdp data env
  | _ => false

/-! ## The descriptors of the sessions of a snapshot -/

/-- The sessions of the snapshot are alive after the step, with the same connection, and
with the UDP descriptors they held unless the step gives them up. -/
def KeepsFds (s : System) (l : Label) (t : System) : Prop :=
  ∀ sid ∈ s.stream.snapshot, ∀ session, s.server.heap sid = some session →
    ∃ session', t.server.heap sid = some session' ∧ session'.conn.fd = session.conn.fd ∧
      (session.udpFds ⊆ session'.udpFds ∨ s.releases l sid = true)

variable {l : Label} {session session' : RtspSession}

theorem keepsFds_of_heap (h : t.server.heap = s.server.heap) : KeepsFds s l t := by
  intro a _ x hx
  exact ⟨x, h ▸ hx, rfl, .inl (List.Subset.refl _)⟩

theorem KeepsFds.release (h : KeepsFds s l t) (hwf : t.server.WellFormed)
    (hsnap : t.stream.snapshot = s.stream.snapshot) (sids : List Nat) :
    KeepsFds s l (t.release sids) := by
  intro a ha x hx
  obtain ⟨x', hx', hkeeps⟩ := h a ha x hx
  obtain ⟨hkept, -⟩ := release_spec hwf sids
  exact ⟨x', by rw [hkept.heap_eq a (refers_of_snapshot (hsnap ▸ ha)), hx'], hkeeps⟩

theorem keepsFds_setSession (hs : s.server.heap sid = some session)
    (hconn : session'.conn.fd = session.conn.fd)
    (hudp : session.udpFds ⊆ session'.udpFds ∨ s.releases l sid = true)
    (hheap : t.server.heap = (s.server.setSession sid session').heap) : KeepsFds s l t := by
  intro a _ x ha
  rw [hheap]
  by_cases hasid : a = sid
  · subst hasid
    obtain rfl : session = x := Option.some.inj (hs.symm.trans ha)
    exact ⟨session', by simp [Server.setSession], hconn, hudp⟩
  · exact ⟨x, by simpa [Server.setSession, hasid] using ha, rfl, .inl (List.Subset.refl _)⟩

theorem keepsFds_update (hs : s.server.heap sid = some session) (hkeeps : session.Keeps session')
    (hheap : t.server.heap = (s.server.setSession sid session').heap) : KeepsFds s l t := by
  refine keepsFds_setSession hs (congrArg FdGuard.fd hkeeps.conn) (.inl ?_) hheap
  rw [RtspSession.udpFds, RtspSession.udpFds, hkeeps.rtp, hkeeps.rtcp]
  exact List.Subset.refl _

theorem KeepsFds.closeAndLeave (h : KeepsFds s l t) (hwf : t.server.WellFormed)
    (hsnap : t.stream.snapshot = s.stream.snapshot) (held : List Nat) :
    KeepsFds s l (t.closeAndLeave held) := by
  unfold System.closeAndLeave
  obtain ⟨hheap, -⟩ := Server.closeConnection_frame t.server t.loop.fd
  apply KeepsFds.release
  · intro a ha x hx
    obtain ⟨x', hx', hkeeps⟩ := h a ha x hx
    exact ⟨x', by simpa [System.goto, hheap] using hx', hkeeps⟩
  · exact hwf.closeConnection _
  · exact hsnap

theorem KeepsFds.leave (h : KeepsFds s l t) (hwf : t.server.WellFormed)
    (hsnap : t.stream.snapshot = s.stream.snapshot) (sid : Nat) : KeepsFds s l (t.leave sid) := by
  have hgoto : KeepsFds s l (t.goto .idle) := h
  exact hgoto.release hwf hsnap [sid]

/-- A request keeps the UDP descriptors of its session, or gives them up. -/
theorem request_keepsFds (h : s.Inv) (hpc : s.loop.pc = .reading sid)
    (hs : s.server.heap sid = some session) {env : RequestEnv} {beyond : Nat → UInt8}
    {requestLen : Nat} {kernel : Kernel}
    (hturn : RtspForward.turn session.conn.readBuffer = .request requestLen)
    (hk : s.server.kernel.events (session.processData
      (session.conn.readBuffer.rawView requestLen beyond) env).fdEvents = some kernel) :
    KeepsFds s (.turn env beyond) (s.handled sid requestLen (session.processData
      (session.conn.readBuffer.rawView requestLen beyond) env) kernel) := by
  have hopen : ∀ fd ∈ session.udpFds, s.server.kernel.opened fd = true :=
    fun fd hfd => h.server.opened sid session hs fd (.inr hfd)
  obtain ⟨w, hw⟩ := session.processData_frame env
    (session.conn.readBuffer.rawView requestLen beyond)
  refine keepsFds_setSession hs ?_ ?_ rfl
  · simp only [RtspSession.consume, Connection.consume, Connection.fd, hw]
  · rcases RtspSession.processData_udpEffect hopen hk with ⟨-, hrtp, hrtcp, -⟩ | ⟨hcloses, -⟩
    · refine .inl ?_
      simp only [RtspSession.udpFds, RtspSession.consume, hrtp, hrtcp]
      exact List.Subset.refl _
    · by_cases hnone : session.udpFds = []
      · exact .inl (hnone ▸ List.nil_subset _)
      · refine .inr ?_
        simp [releases, nextRequest, hpc, hs, hturn, RtspSession.releasesUdp, hcloses, hnone]

/-- Until the snapshot goes, every step keeps the descriptors of its sessions, but for the
UDP descriptors that a request gives up. -/
theorem step_keepsFds (h : s.Inv) (hstep : s.step l = some t) (hl : l ≠ .finish) :
    KeepsFds s l t := by
  cases step_cases hstep with
  | broadcast hpc =>
    apply keepsFds_of_heap
    unfold System.broadcast
    split <;> rfl
  | load hpc htodo hs => exact keepsFds_update hs (RtspSession.keeps_updateActivity _ _) rfl
  | sendV hpc hs =>
    exact keepsFds_update hs (RtspSession.keeps_forwardTcp _ _ _ (h.server.buffers _ _ hs)) rfl
  | recordDrop hpc hs => exact keepsFds_update hs (RtspSession.keeps_recordDrop _) rfl
  | recordSuccess hpc hs => exact keepsFds_update hs (RtspSession.keeps_recordSuccess _) rfl
  | streamModify | registerRead => exact keepsFds_of_heap (Server.modifyFd_frame _ _ _).2.1
  | finish => exact absurd rfl hl
  | @accept accept expired e batch res hpc hhandlers hbatch hcb hres =>
    apply KeepsFds.release
    · rcases Server.onNewConnection_cases hres with ⟨-, hheap, -⟩ |
        ⟨fd, session, k, -, -, -, -, -, hheap, -⟩
      · exact keepsFds_of_heap hheap
      · intro a ha x hx
        have hne : a ≠ s.server.created := by
          rintro rfl
          rw [h.server.fresh _ le_rfl] at hx
          cases hx
        exact ⟨x, by simpa [hheap, hne] using hx, rfl, .inl (List.Subset.refl _)⟩
    · exact h.server.onNewConnection hres
    · rfl
  | @sweep accept now e batch hpc hhandlers hbatch hcb =>
    apply KeepsFds.release
    · exact keepsFds_of_heap (Server.checkTimeouts_frame s.server now).1
    · exact h.server.checkTimeouts now
    · rfl
  | sendTo | wait | skip | enter | absent | writable | checkRead | drained | disconnect =>
    exact keepsFds_of_heap rfl
  | drop hpc hhandlers =>
    apply KeepsFds.closeAndLeave
    · exact keepsFds_of_heap rfl
    · exact h.server
    · rfl
  | @hangUp recv _ handlers sid session hpc hhandlers hsid hs =>
    have hrecv := session.keeps_recv recv
    apply KeepsFds.closeAndLeave
    · exact keepsFds_update hs hrecv rfl
    · exact ((h.takeHandler hpc handlers).update hs hrecv).server
    · rfl
  | @receive recv _ handlers sid session hpc hhandlers hsid hs =>
    exact keepsFds_update hs (session.keeps_recv recv) rfl
  | readDone hpc => exact (keepsFds_of_heap rfl).leave h.server rfl _
  | tooLarge hpc => exact (keepsFds_of_heap rfl).closeAndLeave h.server rfl _
  | @skipFrame env beyond sid session total hpc hs _ =>
    exact keepsFds_update hs (session.keeps_consume total) rfl
  | request hpc hs hturn hh _ hkernel =>
    subst hh
    exact request_keepsFds h hpc hs hturn hkernel
  | @flushFailed o sid session hpc hs _ =>
    have hkeeps := session.keeps_flush o (h.server.buffers sid session hs)
    apply KeepsFds.closeAndLeave
    · exact keepsFds_update hs hkeeps rfl
    · exact (h.flushed hs hkeeps).server
    · rfl
  | @flush o sid session hpc hs _ =>
    exact keepsFds_update hs (session.keeps_flush o (h.server.buffers sid session hs)) rfl
  | pending hpc => exact (keepsFds_of_heap rfl).leave h.server rfl _
  | unregister hpc =>
    apply KeepsFds.leave
    · exact keepsFds_of_heap (Server.modifyFd_frame _ _ _).2.1
    · exact h.server.modifyFd _ _
    · rfl

/-! ## The connection the stream thread works on -/

/-- The descriptor the stream thread will call `ModifyFd` on is that of the connection of its
session. -/
def LoadedConn (s : System) : Prop :=
  ∀ sid fd, s.stream.pc = .register sid fd →
    ∃ session, s.server.heap sid = some session ∧ session.conn.fd = fd

theorem loadedConn_of_pc (h : ∀ sid fd, s.stream.pc ≠ .register sid fd) : s.LoadedConn :=
  fun sid fd hpc => absurd hpc (h sid fd)

theorem step_loadedConn (h : s.Inv) (hl : s.LoadedConn) (hstep : s.step l = some t) :
    t.LoadedConn := by
  by_cases hof : ofStream l = false
  · have hkeeps : KeepsFds s l t := step_keepsFds h hstep (by rintro rfl; cases hof)
    intro sid fd hpc
    rw [step_stream hstep hof] at hpc
    obtain ⟨session, hs, hfd⟩ := hl sid fd hpc
    obtain ⟨session', hs', hconn, -⟩ := hkeeps sid (h.stream sid (by rw [hpc]; rfl)) session hs
    exact ⟨session', hs', hconn.trans hfd⟩
  · cases step_cases hstep with
    | broadcast hpc =>
      unfold System.broadcast
      split
      · exact loadedConn_of_pc (by simp)
      · exact hl
    | load hpc htodo hs =>
      unfold System.load
      simp only
      split <;> exact loadedConn_of_pc (by simp)
    | sendTo hpc =>
      unfold System.sendTo
      simp only
      split <;> exact loadedConn_of_pc (by simp)
    | sendV hpc hs =>
      unfold System.sendV
      split <;> exact loadedConn_of_pc (by simp)
    | recordDrop hpc hs => exact loadedConn_of_pc (by simp [System.recordDrop])
    | @recordSuccess sid session hpc hs =>
      intro a fd hpc'
      simp only [System.recordSuccess] at hpc'
      split at hpc'
      · obtain ⟨rfl, hfd⟩ : sid = a ∧ session.recordSuccess.conn.fd = fd := by simpa using hpc'
        exact ⟨session.recordSuccess, by simp [System.recordSuccess, Server.setSession], hfd⟩
      · cases hpc'
    | streamModify hpc => exact loadedConn_of_pc (by simp [System.streamModify])
    | finish hpc htodo => exact loadedConn_of_pc (by simp [System.finish])
    | wait | skip | accept | sweep | enter | absent | drop | hangUp | receive | writable | readDone
    | tooLarge | skipFrame | request | checkRead | registerRead | flushFailed | flush | pending
    | drained | unregister | disconnect => exact absurd rfl hof

end RtspForward.System
