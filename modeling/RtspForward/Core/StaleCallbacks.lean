import RtspForward.Core.DescriptorCustody
import RtspForward.Core.Registrations

/-!
# Callbacks that stay behind

`Stop` closes the listener and the connections without taking their callbacks away. Nothing is
reported for a closed descriptor, and a callback that stayed behind under its number is replaced
when the number is registered again: what is found for a reported descriptor is the callback of
the variable that holds it.
-/
namespace RtspForward

open Lib Transition

namespace Server

variable {srv srv' srv'' : Server} {sid : Nat} {fd : Int} {i : Interest}

/-- Descriptors may be taken off epoll's list, but none is added, and those still on it have the
callback they had. -/
def Forgets (srv srv' : Server) : Prop :=
  ∀ fd i, srv'.kernel.interest fd = some i →
    srv.kernel.interest fd = some i ∧ srv'.callbacks fd = srv.callbacks fd

theorem Forgets.trans (h : srv.Forgets srv') (h' : srv'.Forgets srv'') : srv.Forgets srv'' := by
  intro fd i hfd
  obtain ⟨hmid, hcb⟩ := h' fd i hfd
  obtain ⟨hold, hcb'⟩ := h fd i hmid
  exact ⟨hold, hcb.trans hcb'⟩

theorem forgets_removeFd (srv : Server) (fd : Int) : srv.Forgets (srv.removeFd fd).1 := by
  intro x i hx
  unfold removeFd at hx ⊢
  split at hx
  · rename_i hneg
    rw [if_pos hneg]
    exact ⟨hx, rfl⟩
  · rename_i hpos
    split at hx
    · rename_i hsome
      rw [if_neg hpos, if_pos hsome]
      have hne : x ≠ fd := by
        rintro rfl
        simp [Kernel.deregister] at hx
      exact ⟨by simpa [Kernel.deregister, hne] using hx, Function.update_of_ne hne _ _⟩
    · rename_i hnone
      rw [if_neg hpos, if_neg hnone]
      exact ⟨hx, rfl⟩

theorem forgets_closeConnection (srv : Server) (fd : Int) :
    srv.Forgets (srv.closeConnection fd).1 := by
  unfold closeConnection
  split
  · exact fun x i hx => ⟨hx, rfl⟩
  · exact srv.forgets_removeFd fd

/-- Closing descriptors makes epoll forget them. -/
theorem forgets_close (fds : List Int) (hkernel : srv'.kernel = fds.foldl Kernel.close srv.kernel)
    (hcallbacks : srv'.callbacks = srv.callbacks) : srv.Forgets srv' := by
  intro fd i hfd
  rw [hkernel] at hfd
  exact ⟨Kernel.foldl_close_interest hfd, congrFun hcallbacks fd⟩

theorem interest_closed {fds : List Int} (hfd : fd ∈ fds) :
    ∀ {k : Kernel}, (fds.foldl Kernel.close k).interest fd = none := by
  induction fds with
  | nil => exact absurd hfd List.not_mem_nil
  | cons x fds ih =>
    intro k
    rcases List.mem_cons.mp hfd with rfl | hrest
    · refine Option.eq_none_iff_forall_ne_some.mpr fun i hi => ?_
      have hold : (k.close fd).interest fd = some i := Kernel.foldl_close_interest hi
      simp [Kernel.close] at hold
    · exact ih hrest

theorem forgets_destroy (srv : Server) (sid : Nat) : srv.Forgets (srv.destroy sid) := by
  unfold destroy
  split
  · exact fun x i hx => ⟨hx, rfl⟩
  · exact forgets_close _ rfl rfl

theorem forgets_closeSession (srv : Server) (sid : Nat) : srv.Forgets (srv.closeSession sid) := by
  unfold closeSession
  split
  · exact fun x i hx => ⟨hx, rfl⟩
  · exact forgets_close _ rfl rfl

/-- `AddFd` has done everything or nothing. -/
theorem addFd_cases (srv : Server) (fd : Nat) (ok : Bool) :
    ((srv.addFd fd {} .client ok).2.isOk = true ∧ (srv.addFd fd {} .client ok).1 = { srv with
        kernel := srv.kernel.register fd {}
        callbacks := Function.update srv.callbacks fd (some .client) }) ∨
      ((srv.addFd fd {} .client ok).2.isOk = false ∧ (srv.addFd fd {} .client ok).1 = srv) := by
  unfold addFd
  rw [if_neg (by omega)]
  cases ok with
  | true => exact .inl ⟨rfl, rfl⟩
  | false => exact .inr ⟨rfl, rfl⟩

end Server

namespace Lifecycle

variable {s t u : Lifecycle} {l : LifecycleLabel} {sid : Nat} {fd : Int} {cb : Callback}

/-- The callback that belongs to a descriptor, by the variable that holds it. -/
inductive CallbackOf (s : Lifecycle) (fd : Int) : Callback → Prop
  | listener : s.listener = some fd → CallbackOf s fd .onNewConnection
  | timer : s.timer = some fd → CallbackOf s fd .checkTimeouts
  | accepted : s.loop.clientFd = some fd → CallbackOf s fd .client
  | conn {sid : Nat} {x : RtspSession} : s.server.heap sid = some x →
      x.conn.fdGuard.held = some fd → CallbackOf s fd .client

/-- What is found for a reported descriptor is the callback that belongs to it. -/
def CallbacksMatch (s : Lifecycle) : Prop :=
  ∀ fd i, s.server.kernel.interest fd = some i →
    ∃ cb, s.server.callbacks fd = some cb ∧ s.CallbackOf fd cb

/-- Every variable keeps its descriptor, as long as epoll knows it. -/
theorem CallbacksMatch.forget (h : s.CallbacksMatch) (hforgets : s.server.Forgets t.server)
    (hkeep : ∀ fd i cb, t.server.kernel.interest fd = some i → s.CallbackOf fd cb →
      t.CallbackOf fd cb) :
    t.CallbacksMatch := by
  intro fd i hfd
  obtain ⟨hold, hcb⟩ := hforgets fd i hfd
  obtain ⟨cb, hfound, hbelongs⟩ := h fd i hold
  exact ⟨cb, hcb.trans hfound, hkeep fd i cb hfd hbelongs⟩

theorem CallbackOf.of_members (h : s.CallbackOf fd cb) (hlistener : t.listener = s.listener)
    (htimer : t.timer = s.timer) (hloop : t.loop.clientFd = s.loop.clientFd)
    (hheap : t.server.heap = s.server.heap) : t.CallbackOf fd cb := by
  cases h with
  | listener hfd => exact .listener (hlistener.trans hfd)
  | timer hfd => exact .timer (htimer.trans hfd)
  | accepted hfd => exact .accepted (hloop.trans hfd)
  | conn hs hfd => exact .conn (hheap ▸ hs) hfd

/-- Neither the members nor what epoll knows change. -/
theorem CallbacksMatch.of_members (h : s.CallbacksMatch) (hlistener : t.listener = s.listener)
    (htimer : t.timer = s.timer) (hloop : t.loop.clientFd = s.loop.clientFd)
    (hheap : t.server.heap = s.server.heap)
    (hkernel : t.server.kernel.interest = s.server.kernel.interest)
    (hcallbacks : t.server.callbacks = s.server.callbacks) : t.CallbacksMatch := by
  refine h.forget (fun fd i hfd => ⟨?_, congrFun hcallbacks fd⟩) fun fd i cb _ hbelongs =>
    hbelongs.of_members hlistener htimer hloop hheap
  rw [← hkernel]
  exact hfd

/-! ## Sessions that go -/

theorem releaseOne_callbacksMatch (h : s.CallbacksMatch) (sid : Nat) :
    (s.releaseOne sid).CallbacksMatch := by
  unfold releaseOne
  split
  · exact h
  · refine h.forget (s.server.forgets_destroy sid) fun fd i cb hfd hbelongs => ?_
    cases hbelongs with
    | listener hl => exact .listener hl
    | timer ht => exact .timer ht
    | accepted ha => exact .accepted ha
    | @conn a x hs hx =>
      have hne : a ≠ sid := by
        rintro rfl
        -- the descriptor of a session that goes is closed with it
        have hclosed : (s.server.destroy a).kernel.interest fd = none := by
          unfold Server.destroy
          rw [hs]
          apply Server.interest_closed
          rw [FdGuard.close_eq_held x.conn.fdGuard, hx]
          simp
        cases hclosed.symm.trans hfd
      have hkept : (s.server.destroy sid).heap a = some x := by
        unfold Server.destroy
        split
        · exact hs
        · simp [hne, hs]
      exact .conn hkept hx

theorem release_callbacksMatch (sids : List Nat) :
    ∀ {s : Lifecycle}, s.CallbacksMatch → (s.release sids).CallbacksMatch := by
  induction sids with
  | nil => exact fun h => h
  | cons sid sids ih => exact fun h => ih (releaseOne_callbacksMatch h sid)

theorem closeConnection_callbacksMatch (h : s.CallbacksMatch) (fd : Int) {loop : CallbackPc}
    (hloop : loop.clientFd = s.loop.clientFd) (held : List Nat) :
    (s.closeConnection fd loop held).CallbacksMatch := by
  obtain ⟨hheap, -⟩ := Server.closeConnection_frame s.server fd
  apply release_callbacksMatch
  exact h.forget (s.server.forgets_closeConnection fd) fun x i cb _ hbelongs =>
    hbelongs.of_members rfl rfl hloop hheap

theorem closeSessions_callbacksMatch (sids : List Nat) : ∀ {s : Lifecycle}, s.CallbacksMatch →
    CallbacksMatch { s with server := sids.foldl Server.closeSession s.server } := by
  induction sids with
  | nil => exact fun h => h
  | cons sid sids ih =>
    intro s h
    refine ih (s := { s with server := s.server.closeSession sid }) ?_
    refine h.forget (s.server.forgets_closeSession sid) fun fd i cb _ hbelongs => ?_
    cases hbelongs with
    | listener hl => exact .listener hl
    | timer ht => exact .timer ht
    | accepted ha => exact .accepted ha
    | @conn a x hs hx =>
      -- `Close` leaves the connection its descriptor
      by_cases ha : a = sid
      · subst ha
        have hclosed : (s.server.closeSession a).heap a = some x.close.1 := by
          simp [Server.closeSession, hs]
        exact .conn hclosed hx
      · have hkept : (s.server.closeSession sid).heap a = some x := by
          unfold Server.closeSession
          split
          · exact hs
          · simp [ha, hs]
        exact .conn hkept hx

theorem clearSessions_callbacksMatch (h : s.CallbacksMatch) : s.clearSessions.CallbacksMatch := by
  apply release_callbacksMatch
  exact (closeSessions_callbacksMatch s.sids h).of_members rfl rfl rfl rfl rfl rfl

/-! ## Descriptors that are closed -/

theorem reject_callbacksMatch (h : s.CallbacksMatch) {fd : Nat}
    (hloop : s.loop.clientFd = some (fd : Int)) :
    (s.reject fd).CallbacksMatch := by
  refine h.forget (Server.forgets_close [(fd : Int)] rfl rfl) fun x i cb hx hbelongs => ?_
  cases hbelongs with
  | listener hl => exact .listener hl
  | timer ht => exact .timer ht
  | accepted ha =>
    obtain rfl := Option.some.inj (hloop.symm.trans ha)
    simp [reject, Kernel.close] at hx
  | conn hs hfd => exact .conn hs hfd

theorem removeTimer_callbacksMatch (h : s.CallbacksMatch) : s.removeTimer.CallbacksMatch := by
  unfold removeTimer
  split
  · exact h
  · rename_i fd htimer
    obtain ⟨hheap, -⟩ := Server.removeFd_frame s.server fd
    refine h.forget ((s.server.forgets_removeFd fd).trans
      (Server.forgets_close [fd] rfl rfl)) fun x i cb hx hbelongs => ?_
    cases hbelongs with
    | listener hl => exact .listener hl
    | timer ht =>
      obtain rfl := Option.some.inj (htimer.symm.trans ht)
      simp [Kernel.close] at hx
    | accepted ha => exact .accepted ha
    | @conn a x hs hfd =>
      have hkept : (s.server.removeFd fd).1.heap a = some x := hheap.symm ▸ hs
      exact .conn hkept hfd

theorem closeListener_callbacksMatch (h : s.CallbacksMatch) : s.closeListener.CallbacksMatch := by
  unfold closeListener
  split
  · exact h
  · rename_i fd hlistener
    refine h.forget (Server.forgets_close [fd] rfl rfl) fun x i cb hx hbelongs => ?_
    cases hbelongs with
    | listener hl =>
      obtain rfl := Option.some.inj (hlistener.symm.trans hl)
      simp [Kernel.close] at hx
    | timer ht => exact .timer ht
    | accepted ha => exact .accepted ha
    | conn hs hfd => exact .conn hs hfd

/-! ## The steps -/

theorem acquire_interest {k k' : Kernel} {fd x : Int} {i : Interest} (hk : k.acquire fd = some k')
    (hx : k'.interest x = some i) : k.interest x = some i :=
  Kernel.event_interest (e := .opened fd) hk hx

/-- The client is registered: its callback replaces one that stayed behind. -/
theorem register_callbacksMatch (h : s.CallbacksMatch) (hcb : s.CallbackOf fd cb) :
    CallbacksMatch { s with server := { s.server with
      kernel := s.server.kernel.register fd {}
      callbacks := Function.update s.server.callbacks fd (some cb) } } := by
  intro x i hx
  by_cases hfd : x = fd
  · subst hfd
    exact ⟨cb, Function.update_self _ _ _, hcb.of_members rfl rfl rfl rfl⟩
  · have hold : s.server.kernel.interest x = some i := by
      simpa [Kernel.register, hfd] using hx
    obtain ⟨cb', hfound, hbelongs⟩ := h x i hold
    refine ⟨cb', ?_, hbelongs.of_members rfl rfl rfl rfl⟩
    show Function.update s.server.callbacks fd (some cb) x = some cb'
    rw [Function.update_of_ne hfd]
    exact hfound

theorem step_callbacksMatch (hfresh : s.server.heap s.server.created = none) (h : s.CallbacksMatch)
    (hstep : s.step l = some t) : t.CallbacksMatch := by
  cases step_cases hstep with
  | refuse | absent | collectNone => exact h
  | @accept fd kernel hloop hlistener hk =>
    refine h.forget (fun x i hx => ⟨acquire_interest hk hx, rfl⟩) fun x i cb _ hbelongs => ?_
    cases hbelongs with
    | listener hl => exact .listener hl
    | timer ht => exact .timer ht
    | accepted ha =>
      rw [hloop] at ha
      cases ha
    | conn hs hfd => exact .conn hs hfd
  | @overLimit fd hloop => exact reject_callbacksMatch h (by simp [hloop, CallbackPc.clientFd])
  | @underLimit fd hloop =>
    exact h.of_members rfl rfl (by simp [hloop, CallbackPc.clientFd]) rfl rfl rfl
  | @addFailed fd ok hloop hok =>
    rcases s.server.addFd_cases fd ok with ⟨hadded, -⟩ | ⟨-, hsame⟩
    · cases hok.symm.trans hadded
    · rw [hsame]
      exact reject_callbacksMatch h (by simp [hloop, CallbackPc.clientFd])
  | @add fd ok hloop hok =>
    have hbelongs : s.CallbackOf fd .client := .accepted (by simp [hloop, CallbackPc.clientFd])
    rcases s.server.addFd_cases fd ok with ⟨-, hadded⟩ | ⟨hfailed, -⟩
    · rw [hadded]
      exact (register_callbacksMatch h hbelongs).of_members rfl rfl
        (by simp [hloop, CallbackPc.clientFd]) rfl rfl rfl
    · cases hok.symm.trans hfailed
  | @create fd timestamp now garbage session hloop hs =>
    refine h.forget (fun x i hx => ⟨hx, rfl⟩) fun x i cb _ hbelongs => ?_
    cases hbelongs with
    | listener hl => exact .listener hl
    | timer ht => exact .timer ht
    | accepted ha =>
      rw [hloop] at ha
      obtain rfl := Option.some.inj ha
      have hconn : session.conn.fdGuard.fd = (fd : Int) := (Server.create_fresh hs).fd_eq
      refine @CallbackOf.conn _ _ s.server.created _ (Function.update_self _ _ _) ?_
      simp [FdGuard.held, hconn]
    | @conn a y hy hfd =>
      refine @CallbackOf.conn _ _ a y ?_ hfd
      have hne : a ≠ s.server.created := by
        rintro rfl
        cases hy.symm.trans hfresh
      exact (Function.update_of_ne hne _ _).trans hy
  | @insert fd sid hloop =>
    apply release_callbacksMatch
    exact h.of_members rfl rfl (by simp [hloop, CallbackPc.clientFd]) rfl rfl rfl
  | @lookUp fd sid hloop =>
    exact h.of_members rfl rfl (by simp [hloop, CallbackPc.clientFd]) rfl rfl rfl
  | @request fd sid data env session kernel hloop hs hk =>
    refine h.forget (fun x i hx => ⟨Kernel.events_interest hk hx, rfl⟩) fun x i cb _ hbelongs => ?_
    cases hbelongs with
    | listener hl => exact .listener hl
    | timer ht => exact .timer ht
    | accepted ha => exact .accepted ha
    | @conn a y hy hfd =>
      by_cases ha : a = sid
      · subst ha
        obtain rfl := Option.some.inj (hs.symm.trans hy)
        obtain ⟨w, hw⟩ := session.processData_frame env data
        refine @CallbackOf.conn _ _ a _ (Function.update_self _ _ _) ?_
        simp only [RtspSession.consume, Connection.consume, hw]
        exact hfd
      · exact @CallbackOf.conn _ _ a y ((Function.update_of_ne ha _ _).trans hy) hfd
  | @leave fd sid hloop =>
    apply release_callbacksMatch
    exact h.of_members rfl rfl (by simp [hloop, CallbackPc.clientFd]) rfl rfl rfl
  | @hangUp fd sid hloop =>
    exact closeConnection_callbacksMatch h fd (by simp [hloop, CallbackPc.clientFd]) [sid]
  | @onError fd hloop =>
    exact closeConnection_callbacksMatch h fd (by simp [hloop, CallbackPc.clientFd]) []
  | @collect now hloop =>
    exact h.of_members rfl rfl (by simp [hloop, CallbackPc.clientFd]) rfl rfl rfl
  | swept hloop => exact h.of_members rfl rfl (by simp [hloop, CallbackPc.clientFd]) rfl rfl rfl
  | @closeNext fd fds hloop =>
    refine closeConnection_callbacksMatch (s := { s with server := { s.server with
      timedOutSessions := (s.server.timedOutSessions + 1) % 2 ^ 64 } }) ?_ fd
      (by simp [hloop, CallbackPc.clientFd]) []
    exact h.of_members rfl rfl rfl rfl rfl rfl
  | exitRun hloop => exact h.of_members rfl rfl (by simp [hloop, CallbackPc.clientFd]) rfl rfl rfl
  | clearRunning | notRunning | stopLoop => exact h.of_members rfl rfl rfl rfl rfl rfl
  | removeTimer => exact (removeTimer_callbacksMatch h).of_members rfl rfl rfl rfl rfl rfl
  | clearSessions => exact (clearSessions_callbacksMatch h).of_members rfl rfl rfl rfl rfl rfl
  | closeListener => exact (closeListener_callbacksMatch h).of_members rfl rfl rfl rfl rfl rfl

end Lifecycle

end RtspForward
