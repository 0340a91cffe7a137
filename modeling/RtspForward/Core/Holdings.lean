import RtspForward.Core.Registrations
import Mathlib.Data.List.Perm.Subperm

/-!
# Nothing is left over

Sessions are shared: the table, the snapshot of a broadcast and the local variable of a handler
may all refer to one. Until `Stop` is called, what a handler refers to is in the table, so a session
lives exactly as long as the table or a snapshot refers to it. Its descriptors are open exactly as
long as it lives, and the table's limit bounds what the two threads hold on to. All this is said of
the states between two steps: within one, a client that `OnNewConnection` has accepted is in its
local variables.
-/
namespace RtspForward

open Lib Transition

namespace System

variable {s t : System} {l : Label} {sid : Nat}

/-! ## Sessions -/

/-- The session is in the table, or in the snapshot of the broadcast under way. -/
def Referred (s : System) (sid : Nat) : Prop :=
  (∃ fd : Int, s.server.sessions[fd]? = some sid) ∨ sid ∈ s.stream.snapshot

/-- No session outlives the references to it. -/
def LiveReferred (s : System) : Prop := ∀ sid, (s.server.heap sid).isSome = true → s.Referred sid

theorem refers_of_referred (h : s.Referred sid) : s.refers sid = true := by
  rcases h with ⟨fd, hfd⟩ | hsnapshot
  · exact refers_of_table hfd
  · exact refers_of_snapshot hsnapshot

/-- The local variable of a handler refers to no session that is not in the table. -/
theorem referred_of_refers (h : s.Inv) (hrefers : s.refers sid = true) : s.Referred sid := by
  simp only [refers, Bool.or_eq_true, List.any_eq_true, decide_eq_true_eq, List.contains_iff_mem]
    at hrefers
  rcases hrefers with (⟨⟨fd, a⟩, hmem, rfl⟩ | hsnapshot) | hlocal
  · exact .inl ⟨fd, Std.TreeMap.mem_toList_iff_getElem?_eq_some.mp hmem⟩
  · exact .inr hsnapshot
  · exact .inl ⟨_, h.handler sid hlocal⟩

/-- A session that lives on after references have been given up is still referred to. -/
theorem release_refers (sids : List Nat) : ∀ s : System,
    (∀ a, (s.server.heap a).isSome = true → s.refers a = true ∨ a ∈ sids) →
      ∀ a, ((s.release sids).server.heap a).isSome = true → (s.release sids).refers a = true := by
  induction sids with
  | nil => exact fun s h a ha => (h a ha).resolve_right List.not_mem_nil
  | cons sid sids ih =>
    intro s h
    refine ih (s.releaseOne sid) fun a ha => ?_
    unfold releaseOne at ha ⊢
    split at ha
    · rename_i hrefers
      rw [if_pos hrefers]
      rcases h a ha with hold | hmem
      · exact .inl hold
      · rcases List.mem_cons.mp hmem with rfl | hlater
        · exact .inl hrefers
        · exact .inr hlater
    · rename_i hrefers
      rw [if_neg hrefers]
      have hne : a ≠ sid := by
        intro heq
        subst heq
        unfold Server.destroy at ha
        cases hs : s.server.heap a with
        | none => simp [hs] at ha
        | some x => simp [hs] at ha
      have hold : (s.server.heap a).isSome = true := by
        unfold Server.destroy at ha
        cases hs : s.server.heap sid with
        | none => simpa [hs] using ha
        | some x => simpa [hs, hne] using ha
      rcases h a hold with hrefersa | hmem
      · refine .inl ?_
        simpa only [refers, destroy_sessions] using hrefersa
      · exact .inr ((List.mem_cons.mp hmem).resolve_left hne)

theorem release_liveReferred {sids : List Nat} (ht : (s.release sids).Inv)
    (h : ∀ a, (s.server.heap a).isSome = true → s.Referred a ∨ a ∈ sids) :
    (s.release sids).LiveReferred := by
  intro a ha
  refine referred_of_refers ht (release_refers sids s (fun b hb => ?_) a ha)
  exact (h b hb).imp_left refers_of_referred

/-- What the sweep takes out of the table it gives up. -/
theorem foldl_sweep_given (fds : List Int) : ∀ acc : Server × List Nat,
    (∀ sid ∈ acc.2, sid ∈ (fds.foldl Server.sweep acc).2) ∧
      ∀ (fd : Int) sid, acc.1.sessions[fd]? = some sid →
        (fds.foldl Server.sweep acc).1.sessions[fd]? = some sid ∨
          sid ∈ (fds.foldl Server.sweep acc).2 := by
  induction fds with
  | nil => exact fun acc => ⟨fun _ h => h, fun _ _ h => .inl h⟩
  | cons x fds ih =>
    intro acc
    obtain ⟨hkept, hgiven⟩ := ih (Server.sweep acc x)
    have hclosed := Server.closeConnection_frame
      { acc.1 with timedOutSessions := (acc.1.timedOutSessions + 1) % 2 ^ 64 } x
    obtain ⟨-, -, -, -, hsessions, hgone⟩ := hclosed
    refine ⟨fun sid hsid => hkept sid (List.mem_append_left _ hsid), fun fd sid hfd => ?_⟩
    by_cases hx : x = fd
    · refine .inr (hkept sid (List.mem_append_right _ ?_))
      rw [hgone, hx, hfd]
      simp
    · refine hgiven fd sid ?_
      show (Server.closeConnection _ x).1.sessions[fd]? = some sid
      rw [hsessions, if_neg hx]
      exact hfd

theorem checkTimeouts_given (srv : Server) (now : Int) {fd : Int}
    (h : srv.sessions[fd]? = some sid) :
    (srv.checkTimeouts now).1.sessions[fd]? = some sid ∨ sid ∈ (srv.checkTimeouts now).2 := by
  unfold Server.checkTimeouts
  split
  · exact .inl h
  · exact (foldl_sweep_given _ (srv, [])).2 fd sid h

theorem LiveReferred.same (h : s.LiveReferred) (hsessions : t.server.sessions = s.server.sessions)
    (hsnapshot : t.stream.snapshot = s.stream.snapshot)
    (hheap : ∀ a, (t.server.heap a).isSome = true → (s.server.heap a).isSome = true) :
    t.LiveReferred := by
  intro a ha
  unfold Referred
  rw [hsessions, hsnapshot]
  exact h a (hheap a ha)

theorem alive_of_setSession {srv : Server} {x x' : RtspSession} (hs : srv.heap sid = some x) (a : Nat)
    (ha : ((srv.setSession sid x').heap a).isSome = true) : (srv.heap a).isSome = true := by
  by_cases hsid : a = sid
  · simp [hsid, hs]
  · rwa [Server.setSession_heap_ne _ _ hsid] at ha

/-- The table gives its reference up, and the handler those it holds. -/
theorem LiveReferred.closeAndLeave (h : s.LiveReferred) {held : List Nat}
    (ht : (s.closeAndLeave held).Inv) : (s.closeAndLeave held).LiveReferred := by
  obtain ⟨hheap, -, -, -, hsessions, hgone⟩ := Server.closeConnection_frame s.server s.loop.fd
  refine release_liveReferred ht fun a ha => ?_
  rcases h a (by simpa [System.goto, hheap] using ha) with ⟨fd, hfd⟩ | hsnapshot
  · by_cases hx : s.loop.fd = fd
    · refine .inr (List.mem_append_left _ ?_)
      rw [hgone, hx, hfd]
      simp
    · refine .inl (.inl ⟨fd, ?_⟩)
      show (s.server.closeConnection s.loop.fd).1.sessions[fd]? = some a
      rw [hsessions, if_neg hx]
      exact hfd
  · exact .inl (.inr hsnapshot)

theorem LiveReferred.leave (h : s.LiveReferred) {sid : Nat} (ht : (s.leave sid).Inv) :
    (s.leave sid).LiveReferred :=
  release_liveReferred ht fun a ha => .inl (h a ha)

/-- A new session is in the table; the one whose place it would take is given up. -/
theorem accept_liveReferred (h : s.LiveReferred) {o : AcceptOutcome} {res : Server × List Nat}
    (hres : s.server.onNewConnection o = some res) (ht : ({ s with server := res.1 }.release res.2).Inv) :
    ({ s with server := res.1 }.release res.2).LiveReferred := by
  refine release_liveReferred ht fun a ha => ?_
  rcases Server.onNewConnection_cases hres with ⟨hsessions, hheap, -⟩ |
    ⟨new, x, k, -, -, -, -, hsessions, hheap, -, hgone⟩
  · left
    unfold Referred
    rw [show ({ s with server := res.1 } : System).server.sessions = _ from hsessions]
    exact h a (by simpa [hheap] using ha)
  · by_cases hnew : a = s.server.created
    · refine .inl (.inl ⟨new, ?_⟩)
      show res.1.sessions[(new : Int)]? = some a
      rw [hsessions, Server.getElem?_insert, if_pos rfl, hnew]
    · rcases h a (by simpa [hheap, hnew] using ha) with ⟨fd, hfd⟩ | hsnapshot
      · by_cases hx : (new : Int) = fd
        · refine .inr ?_
          rw [hgone, hx, hfd]
          simp
        · refine .inl (.inl ⟨fd, ?_⟩)
          show res.1.sessions[fd]? = some a
          rw [hsessions, Server.getElem?_insert, if_neg hx]
          exact hfd
      · exact .inl (.inr hsnapshot)

/-- Between broadcasts there is no snapshot. -/
theorem step_no_snapshot (h : s.stream.pc = .idle → s.stream.snapshot = [])
    (hstep : s.step l = some t) : t.stream.pc = .idle → t.stream.snapshot = [] := by
  by_cases hthread : ofStream l = true
  · cases step_cases hstep with
    | broadcast hpc =>
      unfold System.broadcast
      split
      · simp
      · exact h
    | @load now a todo session hpc htodo hs =>
      unfold System.load
      cases hudp : (session.updateActivity now).isUdp <;> simp [hudp]
    | @sendTo o a endpoint hpc =>
      unfold System.sendTo
      cases hok : (RtpForwarder.forwardUdp endpoint s.stream.packet o).2.isOk <;> simp [hok]
    | @sendV o a fd session hpc hs =>
      unfold System.sendV
      cases (RtpForwarder.forwardTcp session.conn s.stream.packet o).2.isOk <;> simp
    | recordDrop | streamModify => simp [System.recordDrop, System.streamModify]
    | @recordSuccess a session hpc =>
      unfold System.recordSuccess
      cases hneed : session.recordSuccess.conn.needFlush <;> simp [hneed]
    | finish => simp [System.finish]
    | wait | skip | accept | sweep | enter | absent | drop | hangUp | receive | writable | readDone
    | tooLarge | skipFrame | request | checkRead | registerRead | flushFailed | flush | pending
    | drained | unregister | disconnect => cases hthread
  · rw [step_stream hstep (Bool.eq_false_of_not_eq_true hthread)]
    exact h

theorem step_liveReferred (h : s.Inv) (hidle : s.stream.pc = .idle → s.stream.snapshot = [])
    (hlive : s.LiveReferred) (hstep : s.step l = some t) : t.LiveReferred := by
  have ht := step_inv h hstep
  cases step_cases hstep with
  | broadcast hpc =>
    unfold System.broadcast
    split
    · intro a ha
      rcases hlive a ha with htable | hsnapshot
      · exact .inl htable
      · rw [hidle hpc] at hsnapshot
        cases hsnapshot
    · exact hlive
  | load hpc htodo hs | sendV hpc hs | recordDrop hpc hs | recordSuccess hpc hs
  | skipFrame hpc hs | request hpc hs | flush hpc hs =>
    exact hlive.same rfl rfl (alive_of_setSession hs)
  | receive hpc hhandlers hsid hs => exact hlive.same rfl rfl (alive_of_setSession hs)
  | sendTo | wait | skip | enter | absent | writable | checkRead | drained | disconnect =>
    exact hlive.same rfl rfl fun _ ha => ha
  | streamModify | registerRead =>
    obtain ⟨hsessions, hheap, -⟩ := Server.modifyFd_frame s.server _ { write := true }
    exact hlive.same hsessions rfl fun a ha => hheap ▸ ha
  | finish =>
    refine release_liveReferred ht fun a ha => ?_
    rcases hlive a ha with htable | hsnapshot
    · exact .inl (.inl htable)
    · exact .inr hsnapshot
  | @accept accept expired e batch res hpc hhandlers hbatch hcb hres =>
    have htaken : (s.takeEntry batch).LiveReferred := hlive
    exact accept_liveReferred htaken hres ht
  | @sweep accept now e batch hpc hhandlers hbatch hcb =>
    refine release_liveReferred ht fun a ha => ?_
    obtain ⟨hheap, -⟩ := Server.checkTimeouts_frame s.server now
    rcases hlive a (by simpa [hheap] using ha) with ⟨fd, hfd⟩ | hsnapshot
    · rcases checkTimeouts_given s.server now hfd with hstays | hgone
      · exact .inl (.inl ⟨fd, hstays⟩)
      · exact .inr hgone
    · exact .inl (.inr hsnapshot)
  | drop =>
    refine LiveReferred.closeAndLeave ?_ ht
    exact hlive.same rfl rfl fun _ ha => ha
  | hangUp hpc hhandlers hsid hs | flushFailed hpc hs =>
    refine LiveReferred.closeAndLeave ?_ ht
    exact hlive.same rfl rfl (alive_of_setSession hs)
  | readDone | pending => exact hlive.leave ht
  | tooLarge => exact hlive.closeAndLeave ht
  | unregister =>
    obtain ⟨hsessions, hheap, -⟩ := Server.modifyFd_frame s.server s.loop.fd {}
    refine LiveReferred.leave ?_ ht
    exact hlive.same hsessions rfl fun a ha => hheap ▸ ha

/-! ## Descriptors -/

variable {fd : Int}

theorem aside_setSession_back {srv : Server} {x x' : RtspSession} (hs : srv.heap sid = some x)
    (hkeeps : x.Owns fd → x'.Owns fd) (h : Aside (srv.setSession sid x') fd) : Aside srv fd := by
  refine ⟨h.1, fun a y hy => ?_⟩
  by_cases ha : a = sid
  · subst ha
    obtain rfl := Option.some.inj (hs.symm.trans hy)
    exact fun hown => h.2 a x' (Server.setSession_heap ..) (hkeeps hown)
  · exact h.2 a y (by rwa [Server.setSession_heap_ne _ _ ha])

theorem aside_keeps_back {srv : Server} {x x' : RtspSession} (hs : srv.heap sid = some x)
    (hkeeps : x.Keeps x') (h : Aside (srv.setSession sid x') fd) : Aside srv fd :=
  aside_setSession_back hs (owns_of_keeps hkeeps).mp h

/-- The destructor leaves no descriptor behind. -/
theorem aside_release_back {sids : List Nat} (h : Aside (s.release sids).server fd) :
    Aside s.server fd := by
  induction sids generalizing s with
  | nil => exact h
  | cons sid sids ih =>
    have hone : Aside (s.releaseOne sid).server fd := ih h
    unfold releaseOne at hone
    split at hone
    · exact hone
    · cases hs : s.server.heap sid with
      | none => simpa [Server.destroy, hs] using hone
      | some x =>
        obtain ⟨-, -, hheap, hk⟩ := Server.destroy_frame s.server sid hs
        have hnew : fd ∉ ([] : List Int) := List.not_mem_nil
        obtain ⟨hopen, hkept⟩ := ((hk.opened_iff fd).mp hone.1).resolve_right hnew
        refine ⟨hopen, fun a y hy hown => ?_⟩
        by_cases ha : a = sid
        · subst ha
          obtain rfl := Option.some.inj (hs.symm.trans hy)
          refine hkept (List.mem_append.mpr ?_)
          rcases hown with hconn | hudp
          · exact .inr (RtspSession.mem_close.mpr hconn)
          · exact .inl hudp
        · refine hone.2 a y ?_ hown
          show (s.server.destroy sid).heap a = some y
          rw [hheap, Function.update_of_ne ha]
          exact hy

theorem aside_closeAndLeave_back {held : List Nat} (h : Aside (s.closeAndLeave held).server fd) :
    Aside s.server fd := by
  obtain ⟨hheap, -, hopened, -⟩ := Server.closeConnection_frame s.server s.loop.fd
  exact aside_of_eq (aside_release_back h) hheap.symm hopened.symm

theorem aside_leave_back {a : Nat} (h : Aside (s.leave a).server fd) : Aside s.server fd :=
  aside_release_back (s := s.goto .idle) h

theorem aside_modifyFd_back {srv : Server} {x : Int} {i : Interest}
    (h : Aside (srv.modifyFd x i).1 fd) : Aside srv fd := by
  obtain ⟨-, hheap, -, hopened, -⟩ := Server.modifyFd_frame srv x i
  exact aside_of_eq h hheap.symm hopened.symm

/-- No step leaves an open descriptor to nobody. -/
theorem step_aside_back (hinv : s.Inv) (hstep : s.step l = some t) (h : Aside t.server fd) :
    Aside s.server fd := by
  have hbuffers := hinv.server.buffers
  cases step_cases hstep with
  | broadcast hpc =>
    unfold System.broadcast at h
    split at h <;> exact h
  | load hpc htodo hs => exact aside_keeps_back hs (RtspSession.keeps_updateActivity _ _) h
  | sendV hpc hs =>
    exact aside_keeps_back hs (RtspSession.keeps_forwardTcp _ _ _ (hbuffers _ _ hs)) h
  | recordDrop hpc hs => exact aside_keeps_back hs (RtspSession.keeps_recordDrop _) h
  | recordSuccess hpc hs => exact aside_keeps_back hs (RtspSession.keeps_recordSuccess _) h
  | streamModify | registerRead => exact aside_modifyFd_back h
  | finish => exact aside_release_back (s := { s with stream := {} }) h
  | @accept accept expired e batch res hpc hhandlers hbatch hcb hres =>
    have hres' : Aside res.1 fd := aside_release_back h
    rcases Server.onNewConnection_cases hres with ⟨-, hheap, -, hk, -⟩ |
      ⟨new, x, k, -, hk, hkernel, hfresh, -, hheap, -⟩
    · exact aside_of_eq hres' hheap.symm (funext hk.opened_eq).symm
    · have hne : fd ≠ new := by
        intro heq
        refine hres'.2 s.server.created x (by rw [hheap, Function.update_self]) (.inl ?_)
        rw [hfresh.fd_eq, heq]
        exact ⟨Int.natCast_nonneg new, rfl⟩
      have hopen : (k.register new {}).opened fd = true := hkernel ▸ hres'.1
      refine ⟨?_, fun a y hy => hres'.2 a y ?_⟩
      · rcases ((Kernel.changes_of_acquire hk).opened_iff fd).mp hopen with ⟨hold, -⟩ | hnew
        · exact hold
        · exact absurd (List.mem_singleton.mp hnew) hne
      · have hold : a ≠ s.server.created := by
          intro heq
          rw [heq, hinv.server.fresh _ le_rfl] at hy
          cases hy
        rw [hheap, Function.update_of_ne hold]
        exact hy
  | @sweep accept now e batch hpc hhandlers hbatch hcb =>
    have hswept : Aside (s.server.checkTimeouts now).1 fd := aside_release_back h
    refine Server.checkTimeouts_induction (P := fun srv => Aside srv fd → Aside s.server fd)
      (fun srv x hx hclosed => hx ?_) (fun _ _ hx => hx) id now hswept
    obtain ⟨hheap, -, hopened, -⟩ := Server.closeConnection_frame srv x
    exact aside_of_eq hclosed hheap.symm hopened.symm
  | sendTo | wait | skip | enter | absent | writable | checkRead | drained | disconnect => exact h
  | @drop recv hd handlers held =>
    exact aside_closeAndLeave_back (s := s.takeHandler handlers) h
  | @hangUp recv hd handlers sid session hpc hhandlers hsid hs =>
    exact aside_keeps_back hs (session.keeps_recv recv) (aside_closeAndLeave_back h)
  | receive hpc hhandlers hsid hs => exact aside_keeps_back hs (RtspSession.keeps_recv _ _) h
  | readDone | pending => exact aside_leave_back h
  | tooLarge => exact aside_closeAndLeave_back h
  | skipFrame hpc hs => exact aside_keeps_back hs (RtspSession.keeps_consume _ _) h
  | @request env beyond sid session requestLen hd kernel hpc hs hturn hh hanswer hkernel =>
    subst hh
    have hopen : ∀ x ∈ session.udpFds, s.server.kernel.opened x = true :=
      fun x hx => hinv.server.opened sid session hs x (.inr hx)
    obtain ⟨released, acquired, hch, hrel, hudp⟩ := RtspSession.processData_changes hopen hkernel
    obtain ⟨w, hw⟩ := session.processData_frame env
      (session.conn.readBuffer.rawView requestLen beyond)
    have hfd : ((session.processData (session.conn.readBuffer.rawView requestLen beyond)
        env).session.consume requestLen).conn.fd = session.conn.fd := by
      simp only [RtspSession.consume, Connection.consume, Connection.fd, hw]
    have hnot := h.2 sid _ (Server.setSession_heap ..)
    -- what was opened for the session is held by it
    have hnew : fd ∉ acquired := fun hin => hnot (.inr ((hudp fd).mpr (.inr hin)))
    obtain ⟨hold, hkept⟩ := ((hch.opened_iff fd).mp h.1).resolve_right hnew
    have hback : Aside { s.server with kernel := kernel } fd := by
      refine aside_setSession_back hs (fun hown => ?_) h
      rcases hown with hconn | hin
      · exact .inl (by rwa [hfd])
      · exact .inr ((hudp fd).mpr (.inl ⟨hin, hkept⟩))
    exact ⟨hold, hback.2⟩
  | @flushFailed o sid session hpc hs hanswer =>
    exact aside_keeps_back hs (session.keeps_flush o (hbuffers _ _ hs)) (aside_closeAndLeave_back h)
  | @flush o sid session hpc hs hanswer =>
    exact aside_keeps_back hs (session.keeps_flush o (hbuffers _ _ hs)) h
  | unregister => exact aside_modifyFd_back (aside_leave_back h)

/-! ## Whole runs -/

/-- A broadcast selects sessions of the table. -/
theorem length_playingSessions (srv : Server) : srv.playingSessions.length ≤ srv.sessions.size := by
  unfold Server.playingSessions
  rw [List.length_map, ← Std.TreeMap.length_toList]
  exact List.length_filter_le ..

/-- The limit of the table bounds the snapshot, too. -/
theorem step_snapshot_length {n : Nat} (hsize : s.server.sessions.size ≤ n)
    (h : s.stream.snapshot.length ≤ n) (hstep : s.step l = some t) :
    t.stream.snapshot.length ≤ n := by
  by_cases hthread : ofStream l = true
  · cases step_cases hstep with
    | broadcast =>
      unfold System.broadcast
      split
      · exact (length_playingSessions s.server).trans hsize
      · exact h
    | load | sendTo | sendV | recordDrop | recordSuccess | streamModify => exact h
    | finish =>
      rw [System.finish, release_stream]
      exact Nat.zero_le n
    | wait | skip | accept | sweep | enter | absent | drop | hangUp | receive | writable | readDone
    | tooLarge | skipFrame | request | checkRead | registerRead | flushFailed | flush | pending
    | drained | unregister | disconnect => cases hthread
  · rw [step_stream hstep (Bool.eq_false_of_not_eq_true hthread)]
    exact h

/-- What the two threads hold on to in the course of a run. -/
structure HoldingsInv (config : Config) (s : System) : Prop where
  inv : s.Inv
  config_eq : s.server.config = config
  listed : s.server.Listed
  liveReferred : s.LiveReferred
  idle : s.stream.pc = .idle → s.stream.snapshot = []
  snapshot : s.stream.snapshot.length ≤ (config.maxSessions % 2 ^ 64).toNat
  registration : s.RegistrationInv
  aside : ∀ fd, Aside s.server fd → fd = config.listenerFd ∨ fd = config.timerFd

theorem start_holdingsInv (config : Config) : (System.start config).HoldingsInv config where
  inv := start_inv config
  config_eq := rfl
  listed := Server.start_listed config
  liveReferred _ h := by cases h
  idle _ := rfl
  snapshot := Nat.zero_le _
  registration := start_registrationInv config
  aside fd h := by simpa [System.start, Server.start] using h.1

theorem step_holdingsInv {config : Config} (s : System) (l : Label) (t : System)
    (h : s.HoldingsInv config) (hstep : s.step l = some t) : t.HoldingsInv config where
  inv := step_inv h.inv hstep
  config_eq := (step_fixed hstep).1.trans h.config_eq
  listed := step_listed h.listed hstep
  liveReferred := step_liveReferred h.inv h.idle h.liveReferred hstep
  idle := step_no_snapshot h.idle hstep
  snapshot := step_snapshot_length (h.config_eq ▸ h.listed.size_le) h.snapshot hstep
  registration := step_registrationInv h.inv h.registration hstep
  aside fd hfd := h.aside fd (step_aside_back h.inv hstep hfd)

theorem run_holdingsInv {config : Config} {labels : List Label}
    (hs : run step (System.start config) labels = some s) : s.HoldingsInv config :=
  run_invariant step_holdingsInv (start_holdingsInv config) hs

/-- The numbers of the live sessions. -/
def live (s : System) : List Nat :=
  (List.range s.server.created).filter fun sid => (s.server.heap sid).isSome

theorem mem_live (h : s.Inv) : sid ∈ s.live ↔ (s.server.heap sid).isSome = true := by
  simp only [live, List.mem_filter, List.mem_range, and_iff_right_iff_imp]
  intro halive
  by_contra hge
  rw [h.server.fresh sid (Nat.le_of_not_lt hge)] at halive
  cases halive

/-- The sessions of the table and those of the snapshot. -/
theorem length_live_le {config : Config} (h : s.HoldingsInv config) :
    s.live.length ≤ s.server.sessions.size + s.stream.snapshot.length := by
  have hsub : s.live ⊆ s.server.sessions.toList.map Prod.snd ++ s.stream.snapshot := by
    intro a ha
    rcases h.liveReferred a ((mem_live h.inv).mp ha) with ⟨fd, hfd⟩ | hsnapshot
    · refine List.mem_append_left _ (List.mem_map.mpr ⟨(fd, a), ?_, rfl⟩)
      exact Std.TreeMap.mem_toList_iff_getElem?_eq_some.mpr hfd
    · exact List.mem_append_right _ hsnapshot
  have hnodup : s.live.Nodup := List.nodup_range.filter _
  have hlength := (hnodup.subperm hsub).length_le
  rwa [List.length_append, List.length_map, Std.TreeMap.length_toList] at hlength

/-- The limit of the table, which the interface accepts positive only, bounds them all. -/
theorem length_live_max {config : Option RtspForwardConfig} {args : ServerArgs}
    {listenerFd timerFd : Int} {hne : listenerFd ≠ timerFd}
    (hcreate : rtspForwardCreate config true = .ok args)
    (h : s.HoldingsInv (args.config listenerFd timerFd hne)) :
    (s.live.length : Int) ≤ 2 * args.maxSessions := by
  have hpos := (rtspForwardCreate_accepted hcreate).maxSessions
  have hlength := length_live_le h
  have hsize := h.listed.size_le
  have hsnapshot := h.snapshot
  rw [h.config_eq] at hsize
  have hmax : (args.config listenerFd timerFd hne).maxSessions = args.maxSessions := rfl
  rw [hmax] at hsize hsnapshot
  omega

/-- **No session is left over.** In every run of a server that the interface created, up to a call
of `Stop`: a session is alive exactly as long as the table or the snapshot of a broadcast refers to
it, so between broadcasts the live sessions are those of the table; and there are never more than
twice `max_sessions` of them. -/
theorem no_session_left_over (config : Option RtspForwardConfig) (args : ServerArgs)
    (listenerFd timerFd : Int) (hne : listenerFd ≠ timerFd) (labels : List Label) (s : System)
    (hcreate : rtspForwardCreate config true = .ok args)
    (hs : run step (System.start (args.config listenerFd timerFd hne)) labels = some s) :
    (∀ sid, (s.server.heap sid).isSome = true ↔ s.Referred sid) ∧
      (s.stream.pc = .idle → ∀ sid, (s.server.heap sid).isSome = true ↔
        ∃ fd : Int, s.server.sessions[fd]? = some sid) ∧
      (s.live.length : Int) ≤ 2 * args.maxSessions := by
  have h := run_holdingsInv hs
  have halive (sid : Nat) : (s.server.heap sid).isSome = true ↔ s.Referred sid := by
    refine ⟨h.liveReferred sid, fun hreferred => ?_⟩
    rcases hreferred with ⟨fd, hfd⟩ | hsnapshot
    · obtain ⟨x, hx, -⟩ := h.inv.server.table fd sid hfd
      simp [hx]
    · obtain ⟨x, hx⟩ := h.inv.snapshot sid hsnapshot
      simp [hx]
  refine ⟨halive, fun hidle sid => ?_, length_live_max hcreate h⟩
  rw [halive, Referred, h.idle hidle]
  simp

theorem no_session_left_over_paused :
    ∃ s, rtspForwardCreate (some (timeoutConfig 0 60)) true = .ok (timeoutArgs 0 60) ∧
      run step (System.start ((timeoutArgs 0 60).config 3 4 (by decide)))
        (twoClients ++ [.wait [{ fd := 7, error := true }], .dispatch .failed none,
          .handle .endOfStream]) = some s ∧
      s.server.sessions.toList = [(8, 1)] ∧ s.live = [0, 1] ∧ s.Referred 0 := by
  have hrun : (run step (System.start ((timeoutArgs 0 60).config 3 4 (by decide)))
      (twoClients ++ [.wait [{ fd := 7, error := true }], .dispatch .failed none,
        .handle .endOfStream])).any (fun s =>
      s.server.sessions.toList = [(8, 1)] && s.live = [0, 1]) = true := by
    decide
  obtain ⟨s, hs, hfacts⟩ := (Option.any_eq_true _ _).mp hrun
  simp only [Bool.and_eq_true, decide_eq_true_eq] at hfacts
  have hcreate : rtspForwardCreate (some (timeoutConfig 0 60)) true = .ok (timeoutArgs 0 60) := by
    decide
  have hleft := no_session_left_over _ _ 3 4 (by decide) _ s hcreate hs
  have halive : 0 ∈ s.live := by simp [hfacts.2]
  exact ⟨s, hcreate, hs, hfacts.1, hfacts.2, (hleft.1 0).mp (List.mem_filter.mp halive).2⟩

/-- The listener, the timer and the descriptors of the live sessions. The descriptor of epoll
itself, which `Init` opens before a run and the destructor closes after it, is not among them:
the descriptor table of a run begins with the listener and the timer. -/
def descriptors (s : System) : List Int :=
  s.server.config.listenerFd :: s.server.config.timerFd ::
    s.live.flatMap fun sid => (s.server.heap sid).elim [] fun x =>
      x.conn.fdGuard.close.2 ++ x.udpFds

theorem length_close (g : FdGuard) : g.close.2.length ≤ 1 := by
  unfold FdGuard.close
  split <;> simp

/-- A session holds three descriptors at most. -/
theorem length_descriptors (s : System) : s.descriptors.length ≤ 2 + 3 * s.live.length := by
  have hone (sid : Nat) : ((s.server.heap sid).elim [] fun x =>
      x.conn.fdGuard.close.2 ++ x.udpFds).length ≤ 3 := by
    cases s.server.heap sid with
    | none => exact Nat.zero_le 3
    | some x =>
      have hconn := length_close x.conn.fdGuard
      have hrtp := length_close x.udpRtpFd
      have hrtcp := length_close x.udpRtcpFd
      simp only [Option.elim_some, RtspSession.udpFds, List.length_append]
      omega
  unfold descriptors
  generalize s.live = sids
  induction sids with
  | nil => exact le_rfl
  | cons sid sids ih =>
    simp only [List.flatMap_cons, List.length_cons, List.length_append] at ih ⊢
    have hfirst := hone sid
    omega

theorem mem_descriptors {config : Config} {fd : Int} (h : s.HoldingsInv config) :
    fd ∈ s.descriptors ↔ fd = config.listenerFd ∨ fd = config.timerFd ∨
      ∃ sid x, s.server.heap sid = some x ∧ x.Owns fd := by
  simp only [descriptors, h.config_eq, List.mem_cons, List.mem_flatMap, mem_live h.inv]
  refine or_congr_right (or_congr_right ⟨?_, ?_⟩)
  · intro ⟨sid, halive, hfd⟩
    obtain ⟨x, hx⟩ := Option.isSome_iff_exists.mp halive
    rw [hx, Option.elim_some, List.mem_append] at hfd
    exact ⟨sid, x, hx, hfd.imp_left RtspSession.mem_close.mp⟩
  · intro ⟨sid, x, hx, hown⟩
    refine ⟨sid, by simp [hx], ?_⟩
    rw [hx, Option.elim_some, List.mem_append]
    exact hown.imp_left RtspSession.mem_close.mpr

/-- **No descriptor is left over.** In every run of a server that the interface created, up to a
call of `Stop`: apart from epoll's own descriptor and what the rest of the process has opened, the
open descriptors are the listener, the timer and those that live sessions hold. No descriptor of a
live session has been closed, and with epoll's own there are at most three and six for each of
`max_sessions`. -/
theorem no_descriptor_left_over (config : Option RtspForwardConfig) (args : ServerArgs)
    (listenerFd timerFd : Int) (hne : listenerFd ≠ timerFd) (labels : List Label) (s : System)
    (hcreate : rtspForwardCreate config true = .ok args)
    (hs : run step (System.start (args.config listenerFd timerFd hne)) labels = some s) :
    (∀ fd, s.server.kernel.opened fd = true ↔ fd ∈ s.descriptors) ∧
      (s.descriptors.length : Int) ≤ 2 + 6 * args.maxSessions := by
  have h := run_holdingsInv hs
  refine ⟨fun fd => ?_, ?_⟩
  · rw [mem_descriptors h]
    constructor
    · intro hopen
      by_cases hheld : ∃ sid x, s.server.heap sid = some x ∧ x.Owns fd
      · exact .inr (.inr hheld)
      · have haside : Aside s.server fd := ⟨hopen, fun a x hx hown => hheld ⟨a, x, hx, hown⟩⟩
        exact (h.aside fd haside).imp_right .inl
    · intro hfd
      rcases hfd with rfl | rfl | ⟨sid, x, hx, hown⟩
      · exact (h.config_eq ▸ h.registration.aside.listener).1
      · exact (h.config_eq ▸ h.registration.aside.timer).1
      · exact h.inv.server.opened sid x hx fd hown
  · have hlength := length_descriptors s
    have hlive := length_live_max hcreate h
    omega

/-- A client that plays over UDP has its three descriptors open, and one that has been turned
away none. -/
theorem no_descriptor_left_over_udp :
    ∃ s, rtspForwardCreate (some (timeoutConfig 0 60)) true = .ok (timeoutArgs 0 60) ∧
      run step (System.start ((timeoutArgs 0 60).config 3 4 (by decide)))
        (playsUdp 7 ++ [.wait [{ fd := 3, read := true }],
          .dispatch (.accepted 8 false 0 0 fun _ => 0) none]) = some s ∧
      s.descriptors = [3, 4, 7, 10, 11] ∧
      ∀ fd, s.server.kernel.opened fd = true ↔ fd ∈ s.descriptors := by
  have hrun : (run step (System.start ((timeoutArgs 0 60).config 3 4 (by decide)))
      (playsUdp 7 ++ [.wait [{ fd := 3, read := true }],
        .dispatch (.accepted 8 false 0 0 fun _ => 0) none])).any (fun s =>
      s.descriptors = [3, 4, 7, 10, 11]) = true := by
    decide +kernel
  obtain ⟨s, hs, hfds⟩ := (Option.any_eq_true _ _).mp hrun
  have hcreate : rtspForwardCreate (some (timeoutConfig 0 60)) true = .ok (timeoutArgs 0 60) := by
    decide
  exact ⟨s, hcreate, hs, of_decide_eq_true hfds,
    (no_descriptor_left_over _ _ 3 4 (by decide) _ s hcreate hs).1⟩

end System

end RtspForward
