import RtspForward.Core.ServerInvariant
import RtspForward.Core.Steps
import RtspForward.Net.OutgoingStream

/-!
# Invariants of the two threads

The sessions of a snapshot and the session of the running handler stay alive, and a
handler works on the session that is in the table under its descriptor: only the
event-loop thread changes the table.
-/
namespace RtspForward

/-! ## What the steps do to a session -/

/-- `Recv` only appends to the read buffer. -/
theorem Connection.recv_cases (c : Connection) (o : RecvOutcome) :
    (c.recv o).1 = c ∨ ∃ bytes : Bytes, bytes.length ≤ c.readBuffer.contiguousWritableSize ∧
      (c.recv o).1 = { c with readBuffer := c.readBuffer.fill bytes } := by
  unfold recv
  split
  · exact .inl rfl
  · split
    · exact .inl rfl
    · cases o with
      | data bytes =>
        simp only
        split
        · exact .inl rfl
        · refine .inr ⟨bytes.take c.readBuffer.contiguousWritableSize, ?_, rfl⟩
          rw [List.length_take]
          exact Nat.min_le_left _ _
      | endOfStream | wouldBlock | hardError => exact .inl rfl

/-- The session has the same descriptors as before, and buffers that are as good. -/
structure RtspSession.Keeps (s s' : RtspSession) : Prop where
  conn : s'.conn.fdGuard = s.conn.fdGuard
  rtp : s'.udpRtpFd = s.udpRtpFd
  rtcp : s'.udpRtcpFd = s.udpRtcpFd
  valid : s.conn.Valid → s'.conn.Valid

namespace RtspSession

variable (s : RtspSession)

theorem keeps_updateActivity (now : Int) : s.Keeps (s.updateActivity now) :=
  ⟨rfl, rfl, rfl, id⟩

theorem keeps_consume (n : Nat) : s.Keeps (s.consume n) :=
  ⟨rfl, rfl, rfl, fun h => ⟨RingBuffer.consume_valid h.read n, h.write⟩⟩

theorem keeps_recordDrop : s.Keeps s.recordDrop :=
  ⟨rfl, rfl, rfl, fun h => ⟨h.read, h.write⟩⟩

theorem keeps_recordSuccess : s.Keeps s.recordSuccess :=
  ⟨rfl, rfl, rfl, fun h => ⟨h.read, h.write⟩⟩

theorem keeps_forwardTcp (p : RtpPacket) (o : WriteOutcome) (hvalid : s.conn.Valid) :
    s.Keeps { s with conn := (RtpForwarder.forwardTcp s.conn p o).1.conn } := by
  obtain ⟨part, hadds⟩ := Wire.result_adds (w := { conn := s.conn }) hvalid (.forwardTcp p o)
  exact ⟨hadds.fd_eq, rfl, rfl, fun _ => hadds.valid⟩

theorem keeps_flush (o : WriteOutcome) (hvalid : s.conn.Valid) :
    s.Keeps { s with conn := (s.conn.flush o).conn } := by
  have hadds := Connection.flush_adds hvalid o
  exact ⟨hadds.fd_eq, rfl, rfl, fun _ => hadds.valid⟩

theorem keeps_recv (o : RecvOutcome) : s.Keeps { s with conn := (s.conn.recv o).1 } := by
  rcases s.conn.recv_cases o with heq | ⟨bytes, hfits, heq⟩
  · rw [heq]
    exact ⟨rfl, rfl, rfl, id⟩
  · rw [heq]
    exact ⟨rfl, rfl, rfl, fun h => ⟨(RingBuffer.fill_appended h.read hfits).valid, h.write⟩⟩

theorem processData_valid (data : Bytes) (env : RequestEnv) (hvalid : s.conn.Valid) :
    (s.processData data env).session.conn.Valid := by
  rcases s.processData_conn env data with hconn | ⟨response, hconn⟩
  · rwa [hconn]
  · obtain ⟨part, hadds⟩ := (Connection.send_effect hvalid response env.reply).adds
    rw [hconn]
    exact hadds.valid

end RtspSession

theorem Server.WellFormed.keeps {srv : Server} {sid : Nat} {s s' : RtspSession}
    (h : srv.WellFormed) (hs : srv.heap sid = some s) (hkeeps : s.Keeps s') :
    (srv.setSession sid s').WellFormed :=
  h.setSession hs hkeeps.conn (hkeeps.valid (h.buffers sid s hs)) hkeeps.rtp hkeeps.rtcp

/-- A request is handled and taken off the read buffer. -/
theorem Server.WellFormed.request {srv : Server} {sid : Nat} {s : RtspSession} {k' : Kernel}
    {data : Bytes} {env : RequestEnv} (h : srv.WellFormed) (hs : srv.heap sid = some s) (n : Nat)
    (hk : srv.kernel.events (s.processData data env).fdEvents = some k') :
    ({ srv with kernel := k' }.setSession sid
      ((s.processData data env).session.consume n)).WellFormed := by
  have hopen : ∀ fd ∈ s.udpFds, srv.kernel.opened fd = true :=
    fun fd hfd => h.opened sid s hs fd (.inr hfd)
  have hvalid := (RtspSession.keeps_consume _ n).valid
    (s.processData_valid data env (h.buffers sid s hs))
  have hconn : ((s.processData data env).session.consume n).conn.fdGuard = s.conn.fdGuard := by
    obtain ⟨w, hw⟩ := s.processData_frame env data
    simp only [RtspSession.consume, Connection.consume, hw]
  obtain ⟨released, acquired, hch, hrel, hudp⟩ := RtspSession.processData_changes hopen hk
  exact h.replace hs hconn hvalid hch hrel hudp

namespace System

/-! ## References keep sessions alive -/

structure Inv (s : System) : Prop where
  server : s.server.WellFormed
  snapshot : ∀ sid ∈ s.stream.snapshot, ∃ session, s.server.heap sid = some session
  todo : ∀ sid ∈ s.stream.todo, sid ∈ s.stream.snapshot
  stream : ∀ sid, s.stream.pc.session = some sid → sid ∈ s.stream.snapshot
  handler : ∀ sid, s.loop.pc.session = some sid → s.server.sessions[s.loop.fd]? = some sid

variable {s t : System} {sid : Nat} {session : RtspSession}

theorem start_inv (config : Config) : (System.start config).Inv where
  server := Server.start_wellFormed config
  snapshot := by simp [System.start]
  todo := by simp [System.start]
  stream := by simp [System.start, StreamPc.session]
  handler := by simp [System.start, LoopPc.session]

theorem refers_of_table {fd : Int} (hfd : s.server.sessions[fd]? = some sid) :
    s.refers sid = true := by
  have hmem := Std.TreeMap.mem_toList_iff_getElem?_eq_some.mpr hfd
  have hany : s.server.sessions.toList.any (fun entry => entry.2 = sid) = true :=
    List.any_eq_true.mpr ⟨_, hmem, by simp⟩
  simp [refers, hany]

theorem refers_of_snapshot (h : sid ∈ s.stream.snapshot) : s.refers sid = true := by
  simp [refers, h]

/-! Giving up references changes neither the threads nor the table. -/

theorem destroy_sessions (srv : Server) (sid : Nat) : (srv.destroy sid).sessions = srv.sessions := by
  unfold Server.destroy
  split <;> rfl

theorem release_frame (s : System) (sids : List Nat) :
    (s.release sids).stream = s.stream ∧ (s.release sids).loop = s.loop ∧
      (s.release sids).broken = s.broken ∧ (s.release sids).killed = s.killed ∧
      (s.release sids).server.sessions = s.server.sessions := by
  induction sids generalizing s with
  | nil => exact ⟨rfl, rfl, rfl, rfl, rfl⟩
  | cons sid sids ih =>
    have hone : (s.releaseOne sid).stream = s.stream ∧ (s.releaseOne sid).loop = s.loop ∧
        (s.releaseOne sid).broken = s.broken ∧ (s.releaseOne sid).killed = s.killed ∧
        (s.releaseOne sid).server.sessions = s.server.sessions := by
      unfold releaseOne
      split
      · exact ⟨rfl, rfl, rfl, rfl, rfl⟩
      · exact ⟨rfl, rfl, rfl, rfl, destroy_sessions s.server sid⟩
    obtain ⟨h₁, h₂, h₃, h₄, h₅⟩ := ih (s.releaseOne sid)
    obtain ⟨g₁, g₂, g₃, g₄, g₅⟩ := hone
    exact ⟨h₁.trans g₁, h₂.trans g₂, h₃.trans g₃, h₄.trans g₄, h₅.trans g₅⟩

@[simp] theorem release_stream (s : System) (sids : List Nat) :
    (s.release sids).stream = s.stream := (release_frame s sids).1

@[simp] theorem release_loop (s : System) (sids : List Nat) :
    (s.release sids).loop = s.loop := (release_frame s sids).2.1

@[simp] theorem release_killed (s : System) (sids : List Nat) :
    (s.release sids).killed = s.killed := (release_frame s sids).2.2.2.1

@[simp] theorem release_sessions (s : System) (sids : List Nat) :
    (s.release sids).server.sessions = s.server.sessions := (release_frame s sids).2.2.2.2

/-- What giving up references leaves alone: everything but the sessions that are no longer
referred to, and their descriptors. -/
structure Kept (s t : System) : Prop where
  heap_eq : ∀ sid, s.refers sid = true → t.server.heap sid = s.server.heap sid
  interest_eq : ∀ (fd : Int) (sid : Nat), s.server.sessions[fd]? = some sid →
    t.server.kernel.interest fd = s.server.kernel.interest fd

theorem kept_refl (s : System) : Kept s s := ⟨fun _ _ => rfl, fun _ _ _ => rfl⟩

theorem releaseOne_spec (h : s.server.WellFormed) (sid : Nat) :
    Kept s (s.releaseOne sid) ∧ (s.releaseOne sid).server.WellFormed := by
  unfold releaseOne
  split
  · exact ⟨kept_refl s, h⟩
  · rename_i hno
    have hout : ∀ fd : Int, s.server.sessions[fd]? ≠ some sid := fun fd hfd =>
      hno (refers_of_table hfd)
    refine ⟨?_, h.destroy hout⟩
    cases hs : s.server.heap sid with
    | none =>
      have hsame : s.server.destroy sid = s.server := by simp [Server.destroy, hs]
      rw [hsame]
      exact kept_refl s
    | some session =>
      obtain ⟨-, -, hheap, hk⟩ := Server.destroy_frame s.server sid hs
      refine ⟨fun a ha => ?_, fun fd a hfd => ?_⟩
      · have hne : a ≠ sid := by
          rintro rfl
          exact hno ha
        simp [hheap, hne]
      · obtain ⟨t, ht, rfl⟩ := h.table fd a hfd
        refine hk.interest_eq _ (h.opened a t ht _ (h.owns_conn ht)) fun hin => ?_
        have hsame := h.separate a sid t session ht hs _ (h.owns_conn ht)
          (Server.owns_of_destroyed hin)
        exact hout _ (hsame ▸ hfd)

theorem release_spec (h : s.server.WellFormed) (sids : List Nat) :
    Kept s (s.release sids) ∧ (s.release sids).server.WellFormed := by
  induction sids generalizing s with
  | nil => exact ⟨kept_refl s, h⟩
  | cons sid sids ih =>
    obtain ⟨hkept, hwf⟩ := releaseOne_spec h sid
    obtain ⟨hkept', hwf'⟩ := ih hwf
    obtain ⟨hstream, hloop, -, -, hsessions⟩ := release_frame s [sid]
    have hrefers : ∀ a, (s.releaseOne sid).refers a = s.refers a := by
      intro a
      unfold refers
      rw [show (s.releaseOne sid).server.sessions = s.server.sessions from hsessions,
        show (s.releaseOne sid).stream = s.stream from hstream,
        show (s.releaseOne sid).loop = s.loop from hloop]
    refine ⟨⟨fun a ha => ?_, fun fd a hfd => ?_⟩, hwf'⟩
    · exact (hkept'.heap_eq a ((hrefers a).trans ha)).trans (hkept.heap_eq a ha)
    · refine (hkept'.interest_eq fd a ?_).trans (hkept.interest_eq fd a hfd)
      rwa [show (s.releaseOne sid).server.sessions = s.server.sessions from hsessions]

/-- Giving up references keeps the invariant. -/
theorem Inv.release (h : s.Inv) (sids : List Nat) : (s.release sids).Inv := by
  obtain ⟨hkept, hwf⟩ := release_spec h.server sids
  refine ⟨hwf, fun a ha => ?_, ?_, ?_, ?_⟩
  · rw [release_stream] at ha
    rw [hkept.heap_eq a (refers_of_snapshot ha)]
    exact h.snapshot a ha
  · simpa using h.todo
  · simpa using h.stream
  · simpa using h.handler

/-! ## The invariant is kept -/

theorem alive_setSession {srv : Server} (sid : Nat) (session : RtspSession) {a : Nat}
    (h : ∃ x, srv.heap a = some x) : ∃ x, (srv.setSession sid session).heap a = some x := by
  by_cases hasid : a = sid
  · exact ⟨session, by simp [Server.setSession, hasid]⟩
  · simpa [Server.setSession, hasid] using h

/-- A step of the stream thread: the table and the snapshot stay. -/
theorem Inv.stream_step (h : s.Inv) (hwf : t.server.WellFormed)
    (hsessions : t.server.sessions = s.server.sessions) (hloop : t.loop = s.loop)
    (hsnap : t.stream.snapshot = s.stream.snapshot)
    (halive : ∀ a, (∃ x, s.server.heap a = some x) → ∃ x, t.server.heap a = some x)
    (htodo : ∀ a ∈ t.stream.todo, a ∈ s.stream.todo)
    (hpc : ∀ a, t.stream.pc.session = some a → a ∈ s.stream.snapshot) : t.Inv where
  server := hwf
  snapshot a ha := halive a (h.snapshot a (hsnap ▸ ha))
  todo a ha := hsnap ▸ h.todo a (htodo a ha)
  stream a ha := hsnap ▸ hpc a ha
  handler a ha := by
    rw [hloop] at ha ⊢
    rw [hsessions]
    exact h.handler a ha

/-- A step of the event-loop thread. -/
theorem Inv.loop_step (h : s.Inv) (hwf : t.server.WellFormed) (hstream : t.stream = s.stream)
    (halive : ∀ a, (∃ x, s.server.heap a = some x) → ∃ x, t.server.heap a = some x)
    (hhandler : ∀ a, t.loop.pc.session = some a → t.server.sessions[t.loop.fd]? = some a) :
    t.Inv where
  server := hwf
  snapshot a ha := halive a (h.snapshot a (hstream ▸ ha))
  todo := hstream ▸ h.todo
  stream := hstream ▸ h.stream
  handler := hhandler

theorem Inv.goto (h : s.Inv) {pc : LoopPc}
    (hpc : ∀ a, pc.session = some a → s.server.sessions[s.loop.fd]? = some a) :
    (s.goto pc).Inv :=
  h.loop_step h.server rfl (fun _ ha => ha) hpc

theorem Inv.update (h : s.Inv) {session' : RtspSession} (hs : s.server.heap sid = some session)
    (hkeeps : session.Keeps session') : (s.update sid session').Inv := by
  exact h.loop_step (h.server.keeps hs hkeeps) rfl
    (fun _ ha => alive_setSession sid session' ha) h.handler

theorem Inv.flushed (h : s.Inv) {res : WriteResult} (hs : s.server.heap sid = some session)
    (hkeeps : session.Keeps { session with conn := res.conn }) :
    (s.flushed sid session res).Inv :=
  have hupdate := h.update hs hkeeps
  ⟨hupdate.server, hupdate.snapshot, hupdate.todo, hupdate.stream, hupdate.handler⟩

theorem Inv.closeAndLeave (h : s.Inv) (held : List Nat) : (s.closeAndLeave held).Inv := by
  unfold System.closeAndLeave
  apply Inv.release
  obtain ⟨hheap, -⟩ := Server.closeConnection_frame s.server s.loop.fd
  refine h.loop_step (h.server.closeConnection _) rfl (fun a ha => ?_) ?_
  · simpa [System.goto, hheap] using ha
  · simp [System.goto, LoopPc.session]

theorem Inv.leave (h : s.Inv) (sid : Nat) : (s.leave sid).Inv :=
  (h.goto (by simp [LoopPc.session])).release [sid]

theorem Inv.modifyFd (h : s.Inv) (fd : Int) (i : Interest) :
    ({ s with server := (s.server.modifyFd fd i).1 } : System).Inv := by
  obtain ⟨hsessions, hheap, -⟩ := Server.modifyFd_frame s.server fd i
  refine h.loop_step (h.server.modifyFd fd i) rfl (fun a ha => by simpa [hheap] using ha) ?_
  intro a ha
  rw [hsessions]
  exact h.handler a ha

theorem Inv.takeHandler (h : s.Inv) (hpc : s.loop.pc = .idle) (handlers : List Handler) :
    (s.takeHandler handlers).Inv :=
  h.loop_step h.server rfl (fun _ ha => ha) (by simp [System.takeHandler, hpc, LoopPc.session])

theorem playingSessions_alive {srv : Server} {a : Nat} (ha : a ∈ srv.playingSessions) :
    ∃ x, srv.heap a = some x := by
  simp only [Server.playingSessions, List.mem_map, List.mem_filter, Prod.exists] at ha
  obtain ⟨fd, sid, ⟨-, hplay⟩, rfl⟩ := ha
  cases hs : srv.heap sid with
  | none => simp [hs] at hplay
  | some session => exact ⟨session, rfl⟩

/-- The stream thread replaces the session it works on. -/
theorem Inv.stream_update (h : s.Inv) {session' : RtspSession}
    (hserver : t.server.sessions = s.server.sessions) (hwf : t.server.WellFormed)
    (hheap : t.server.heap = (s.server.setSession sid session').heap) (hloop : t.loop = s.loop)
    (hsnap : t.stream.snapshot = s.stream.snapshot)
    (htodo : ∀ a ∈ t.stream.todo, a ∈ s.stream.todo)
    (hpc : ∀ a, t.stream.pc.session = some a → a = sid) (hsid : sid ∈ s.stream.snapshot) :
    t.Inv := by
  refine h.stream_step hwf hserver hloop hsnap (fun a ha => ?_) htodo
    fun a ha => hpc a ha ▸ hsid
  rw [hheap]
  exact alive_setSession sid session' ha

theorem step_inv {l : Label} (h : s.Inv) (hstep : s.step l = some t) : t.Inv := by
  cases step_cases hstep with
  | broadcast hpc =>
    unfold broadcast
    split
    · exact ⟨h.server, fun a ha => playingSessions_alive ha, fun a ha => ha,
        by simp [StreamPc.session], h.handler⟩
    · exact h
  | @load now sid todo session hpc htodo hs =>
    have hin : sid ∈ s.stream.snapshot := h.todo sid (by simp [htodo])
    refine h.stream_update rfl (h.server.keeps hs (session.keeps_updateActivity now)) rfl rfl rfl
      (fun a ha => by rw [htodo]; exact List.mem_cons_of_mem _ ha) (fun a ha => ?_) hin
    simp only [System.load] at ha
    split at ha <;> exact (Option.some.inj ha).symm
  | @sendTo o sid endpoint hpc =>
    refine h.stream_step h.server rfl rfl rfl (fun _ ha => ha) (fun _ ha => ha) fun a ha => ?_
    have hsid : sid = a := by
      simp only [System.sendTo] at ha
      split at ha <;> exact Option.some.inj ha
    exact h.stream a (by rw [hpc, ← hsid]; rfl)
  | @sendV o sid fd session hpc hs =>
    have hkeeps := session.keeps_forwardTcp s.stream.packet o (h.server.buffers sid session hs)
    refine h.stream_update rfl (h.server.keeps hs hkeeps) rfl rfl rfl
      (fun _ ha => ha) (fun a ha => ?_) (h.stream sid (by rw [hpc]; rfl))
    simp only [System.sendV] at ha
    split at ha <;> exact (Option.some.inj ha).symm
  | @recordDrop sid session hpc hs =>
    have hwf := h.server.keeps hs session.keeps_recordDrop
    exact h.stream_update rfl (hwf.shrink rfl rfl rfl (fun _ _ hx => hx) fun _ _ _ hx => hx)
      rfl rfl rfl (fun _ ha => ha) (by simp [System.recordDrop, StreamPc.session])
      (h.stream sid (by rw [hpc]; rfl))
  | @recordSuccess sid session hpc hs =>
    refine h.stream_update rfl (h.server.keeps hs session.keeps_recordSuccess) rfl rfl rfl
      (fun _ ha => ha) (fun a ha => ?_) (h.stream sid (by rw [hpc]; rfl))
    simp only [System.recordSuccess] at ha
    split at ha
    · exact (Option.some.inj ha).symm
    · cases ha
  | @streamModify sid fd hpc =>
    obtain ⟨hsessions, hheap, -⟩ := Server.modifyFd_frame s.server fd { write := true }
    refine h.stream_step (h.server.modifyFd fd _) hsessions rfl rfl (fun a ha => ?_)
      (fun _ ha => ha) (by simp [System.streamModify, StreamPc.session])
    simpa [System.streamModify, hheap] using ha
  | finish hpc htodo =>
    apply Inv.release
    exact ⟨h.server, by simp, by simp, by simp [StreamPc.session], h.handler⟩
  | wait hpc hhandlers hbatch hready =>
    exact h.loop_step h.server rfl (fun _ ha => ha) (by simp [System.wait, LoopPc.session])
  | skip hpc hhandlers hbatch => exact h.loop_step h.server rfl (fun _ ha => ha) h.handler
  | @accept accept expired e batch res hpc hhandlers hbatch hcb hres =>
    apply Inv.release
    refine h.loop_step (h.server.onNewConnection hres) rfl (fun a ha => ?_)
      (by simp [System.takeEntry, hpc, LoopPc.session])
    rcases Server.onNewConnection_cases hres with ⟨-, hheap, -⟩ |
      ⟨fd, session, k, -, -, -, -, -, hheap, -⟩
    · simpa [hheap] using ha
    · by_cases hac : a = s.server.created
      · exact ⟨session, by simp [hheap, hac]⟩
      · simpa [hheap, hac] using ha
  | @sweep accept now e batch hpc hhandlers hbatch hcb =>
    apply Inv.release
    refine h.loop_step (h.server.checkTimeouts now) rfl (fun a ha => ?_)
      (by simp [System.takeEntry, hpc, LoopPc.session])
    simpa [(Server.checkTimeouts_frame s.server now).1] using ha
  | enter hpc hhandlers hbatch hcb =>
    exact h.loop_step h.server rfl (fun _ ha => ha) (by simp [hpc, LoopPc.session])
  | absent hpc => exact h.takeHandler hpc _
  | drop hpc => exact (h.takeHandler hpc _).closeAndLeave _
  | @hangUp recv _ handlers sid session hpc _ hsid hs =>
    exact ((h.takeHandler hpc handlers).update hs (session.keeps_recv recv)).closeAndLeave [sid]
  | @receive recv _ handlers sid session hpc _ hsid hs =>
    refine ((h.takeHandler hpc handlers).update hs (session.keeps_recv recv)).goto fun a ha => ?_
    obtain rfl := Option.some.inj ha
    exact hsid
  | @writable recv _ handlers sid session hpc _ hsid hs =>
    refine (h.takeHandler hpc handlers).goto fun a ha => ?_
    obtain rfl := Option.some.inj ha
    exact hsid
  | readDone hpc => exact h.leave _
  | tooLarge hpc => exact h.closeAndLeave _
  | @skipFrame env beyond sid session total hpc hs _ =>
    exact h.update hs (session.keeps_consume total)
  | @request env beyond sid session requestLen _ kernel hpc hs _ hh _ hkernel =>
    subst hh
    refine h.loop_step (h.server.request hs requestLen hkernel) rfl
      (fun _ ha => alive_setSession sid _ ha) fun a ha => ?_
    exact h.handler a (by rw [hpc]; exact ha)
  | @checkRead sid session hpc hs =>
    refine h.goto fun a ha => ?_
    have hsid : sid = a := by split at ha <;> exact Option.some.inj ha
    exact h.handler a (by rw [hpc, ← hsid]; rfl)
  | @registerRead sid hpc =>
    refine (h.modifyFd s.loop.fd { write := true }).goto fun a ha => ?_
    exact (h.modifyFd s.loop.fd { write := true }).handler a (by rw [hpc]; exact ha)
  | @flushFailed o sid session hpc hs _ =>
    exact (h.flushed hs (session.keeps_flush o (h.server.buffers sid session hs))).closeAndLeave _
  | @flush o sid session hpc hs _ =>
    have hflushed := h.flushed hs (session.keeps_flush o (h.server.buffers sid session hs))
    exact hflushed.goto fun a ha => hflushed.handler a (by
      rw [System.flushed, System.update, hpc]
      exact ha)
  | pending hpc => exact h.leave _
  | drained hpc => exact h.goto fun a ha => h.handler a (by rw [hpc]; exact ha)
  | @unregister sid hpc => exact (h.modifyFd s.loop.fd {}).leave sid
  | disconnect => exact ⟨h.server, h.snapshot, h.todo, h.stream, h.handler⟩

/-! ## Which thread a step belongs to -/

/-- The steps of the stream thread. -/
def ofStream : Label → Bool
  | .broadcast _ | .load _ | .sendTo _ | .sendV _ => true
  | .recordDrop | .recordSuccess | .streamModify | .finish => true
  | _ => false

theorem closeAndLeave_stream (s : System) (held : List Nat) :
    (s.closeAndLeave held).stream = s.stream := by
  simp [System.closeAndLeave, System.goto]

theorem leave_stream (s : System) (sid : Nat) : (s.leave sid).stream = s.stream := by
  simp [System.leave, System.goto]

/-- The other steps leave the stream thread where it is. -/
theorem step_stream {l : Label} (hstep : s.step l = some t) (hl : ofStream l = false) :
    t.stream = s.stream := by
  cases step_cases hstep with
  | broadcast | load | sendTo | sendV | recordDrop | recordSuccess | streamModify | finish =>
    cases hl
  | wait | skip | enter | absent | receive | writable | skipFrame | request | checkRead
  | registerRead | flush | drained | disconnect => rfl
  | accept | sweep => exact release_stream _ _
  | drop | hangUp | tooLarge | flushFailed => exact closeAndLeave_stream _ _
  | readDone | pending | unregister => exact leave_stream _ _

end System

end RtspForward
