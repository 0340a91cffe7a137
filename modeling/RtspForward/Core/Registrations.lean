import RtspForward.Core.NonBlocking
import RtspForward.Core.SessionTable

/-!
# What is registered with the event loop

`AddFd`, `ModifyFd` and `RemoveFd` keep the callbacks in step with epoll's interest list, and the
kernel takes a descriptor off the list when it is closed. The two threads close descriptors in
their own order, and the kernel hands the numbers out again; until `Stop` is called, the listener,
the timer and the sessions of the table are registered, and nothing else is.
-/
namespace RtspForward

open Lib Transition

namespace Kernel

variable {k k' : Kernel} {fd x : Int} {i : Interest}

theorem event_interest {e : FdEvent} (hk : k.event e = some k') (h : k'.interest fd = some i) :
    k.interest fd = some i := by
  cases e with
  | opened x =>
    unfold event acquire at hk
    simp only at hk
    split at hk
    · cases hk
    · obtain rfl := Option.some.inj hk
      by_cases hx : fd = x
      · simp [hx] at h
      · simpa [hx] using h
  | closed x =>
    obtain rfl := Option.some.inj hk
    by_cases hx : fd = x
    · simp [Kernel.close, hx] at h
    · simpa [Kernel.close, hx] using h

/-- Opening and closing descriptors registers none. -/
theorem events_interest {es : List FdEvent} : ∀ {k : Kernel}, k.events es = some k' →
    k'.interest fd = some i → k.interest fd = some i := by
  induction es with
  | nil =>
    intro k hk h
    obtain rfl := Option.some.inj hk
    exact h
  | cons e es ih =>
    intro k hk h
    obtain ⟨k₁, hone, hrest⟩ := Option.bind_eq_some_iff.mp hk
    exact event_interest hone (ih hrest h)

theorem foldl_close_interest {fds : List Int} :
    ∀ {k : Kernel}, (fds.foldl Kernel.close k).interest fd = some i → k.interest fd = some i := by
  induction fds with
  | nil => exact fun h => h
  | cons x fds ih => exact fun h => event_interest (e := .closed x) rfl (ih h)

end Kernel

namespace Server

variable {srv srv' : Server} {sid : Nat} {fd : Int}

/-- The callback the event loop is to find for a descriptor. -/
def callbackFor (srv : Server) (fd : Int) : Option Callback :=
  if fd = srv.config.listenerFd then some .onNewConnection
  else if fd = srv.config.timerFd then some .checkTimeouts
  else (srv.sessions[fd]?).map fun _ => .client

/-- The callbacks and epoll's interest list are those of the listener, the timer and the sessions
of the table. -/
structure RegistrationsMatch (srv : Server) : Prop where
  callbacks : ∀ fd, srv.callbacks fd = srv.callbackFor fd
  registered : ∀ fd, (srv.kernel.interest fd).isSome = (srv.callbackFor fd).isSome
  /-- What a client sends is never left unread. -/
  reads : ∀ fd i, srv.kernel.interest fd = some i → i.read = true

theorem callbackFor_congr (hsessions : srv'.sessions = srv.sessions)
    (hconfig : srv'.config = srv.config) : srv'.callbackFor fd = srv.callbackFor fd := by
  simp only [callbackFor, hsessions, hconfig]

theorem start_registrations (config : Config) : (Server.start config).RegistrationsMatch where
  callbacks fd := by
    unfold callbackFor Server.start
    simp
  registered fd := by
    unfold callbackFor Server.start
    by_cases hl : fd = config.listenerFd
    · simp [hl]
    · by_cases ht : fd = config.timerFd
      · simp only [ht, or_true, ↓reduceIte, Option.isSome_some]
        split <;> rfl
      · simp [hl, ht]
  reads fd i h := by
    simp only [Server.start] at h
    split at h
    · obtain rfl := Option.some.inj h
      rfl
    · cases h

/-- The registrations stay. -/
theorem RegistrationsMatch.same (h : srv.RegistrationsMatch)
    (hsessions : srv'.sessions = srv.sessions) (hconfig : srv'.config = srv.config)
    (hcallbacks : srv'.callbacks = srv.callbacks)
    (hkept : ∀ fd, (srv.callbackFor fd).isSome = true →
      srv'.kernel.interest fd = srv.kernel.interest fd)
    (hnone : ∀ fd i, srv'.kernel.interest fd = some i → srv.kernel.interest fd = some i) :
    srv'.RegistrationsMatch where
  callbacks fd := by rw [hcallbacks, callbackFor_congr hsessions hconfig, h.callbacks]
  registered fd := by
    rw [callbackFor_congr hsessions hconfig]
    cases hlisted : (srv.callbackFor fd).isSome with
    | true => rw [hkept fd hlisted, h.registered, hlisted]
    | false =>
      cases hi : srv'.kernel.interest fd with
      | none => rfl
      | some i =>
        have hsome := h.registered fd
        rw [hnone fd i hi, hlisted] at hsome
        cases hsome
  reads fd i hi := h.reads fd i (hnone fd i hi)

theorem RegistrationsMatch.same_kernel (h : srv.RegistrationsMatch)
    (hsessions : srv'.sessions = srv.sessions) (hconfig : srv'.config = srv.config)
    (hcallbacks : srv'.callbacks = srv.callbacks)
    (hkernel : srv'.kernel = srv.kernel) : srv'.RegistrationsMatch :=
  h.same hsessions hconfig hcallbacks (fun _ _ => by rw [hkernel]) fun _ _ hi => hkernel ▸ hi

theorem RegistrationsMatch.modifyFd (h : srv.RegistrationsMatch) (x : Int) {i : Interest}
    (hi : i.read = true) :
    (srv.modifyFd x i).1.RegistrationsMatch := by
  unfold Server.modifyFd
  split
  · exact h
  · split
    · rename_i hsome
      refine ⟨h.callbacks, fun fd => ?_, fun fd j hj => ?_⟩
      · show (Function.update srv.kernel.interest x (some i) fd).isSome =
          (srv.callbackFor fd).isSome
        rw [← h.registered]
        by_cases hx : fd = x
        · rw [hx, Function.update_self, hsome]
          rfl
        · rw [Function.update_of_ne hx]
      · change Function.update srv.kernel.interest x (some i) fd = some j at hj
        by_cases hx : fd = x
        · rw [hx, Function.update_self] at hj
          exact Option.some.inj hj ▸ hi
        · rw [Function.update_of_ne hx] at hj
          exact h.reads fd j hj
    · exact h

/-- The descriptors of the table are those of its sessions. -/
theorem table_ne_of_aside (h : srv.WellFormed) (ha : System.Aside srv fd) {x : Int}
    (hx : srv.sessions[x]? = some sid) : x ≠ fd := by
  intro heq
  obtain ⟨y, hy, rfl⟩ := h.table x sid hx
  exact ha.2 sid y hy (heq ▸ h.owns_conn hy)

/-- The descriptors that the server itself works with are open and no session's. -/
structure ServiceAside (srv : Server) : Prop where
  listener : System.Aside srv srv.config.listenerFd
  timer : System.Aside srv srv.config.timerFd

theorem RegistrationsMatch.closeConnection (h : srv.RegistrationsMatch) (hwf : srv.WellFormed)
    (ha : srv.ServiceAside) (x : Int) : (srv.closeConnection x).1.RegistrationsMatch := by
  unfold Server.closeConnection
  split
  · exact h
  · rename_i sid hx
    obtain ⟨y, hy, hfd⟩ := hwf.table x sid hx
    have hnonneg : ¬ x < 0 := Int.not_lt.mpr (hfd ▸ hwf.conn_nonneg sid y hy)
    have hlistener := table_ne_of_aside hwf ha.listener hx
    have htimer := table_ne_of_aside hwf ha.timer hx
    have hregistered := hwf.registered x sid hx
    have hlists (fd : Int) : (if fd = x then none else srv.callbackFor fd) =
        ({ (srv.removeFd x).1 with sessions := (srv.removeFd x).1.sessions.erase x } :
          Server).callbackFor fd := by
      simp only [callbackFor, removeFd, if_neg hnonneg, if_pos hregistered, getElem?_erase]
      by_cases hfdx : fd = x
      · subst hfdx
        simp [hlistener, htimer]
      · simp [hfdx, Ne.symm hfdx]
    refine ⟨fun fd => ?_, fun fd => ?_, fun fd i hi => ?_⟩
    · rw [← hlists]
      simp only [removeFd, if_neg hnonneg, if_pos hregistered]
      by_cases hfdx : fd = x
      · simp [hfdx]
      · simp [hfdx, h.callbacks]
    · rw [← hlists]
      simp only [removeFd, if_neg hnonneg, if_pos hregistered, Kernel.deregister]
      by_cases hfdx : fd = x
      · simp [hfdx]
      · simp [hfdx, h.registered]
    · simp only [removeFd, if_neg hnonneg, if_pos hregistered, Kernel.deregister] at hi
      by_cases hfdx : fd = x
      · simp [hfdx] at hi
      · exact h.reads fd i (by simpa [hfdx] using hi)

theorem ServiceAside.closeConnection (h : srv.ServiceAside) (x : Int) :
    (srv.closeConnection x).1.ServiceAside := by
  obtain ⟨hheap, -, hopened, -⟩ := closeConnection_frame srv x
  have hconfig := (closeConnection_sameCounts srv x).config
  refine ⟨?_, ?_⟩
  · rw [hconfig]
    exact System.aside_of_eq h.listener hheap hopened
  · rw [hconfig]
    exact System.aside_of_eq h.timer hheap hopened

theorem ServiceAside.checkTimeouts (h : srv.ServiceAside) (now : Int) :
    (srv.checkTimeouts now).1.ServiceAside :=
  checkTimeouts_induction (P := ServiceAside) (fun _ x ih => ih.closeConnection x)
    (fun _ _ ih => ⟨ih.listener, ih.timer⟩) h now

theorem aside_onNewConnection (h : System.Aside srv fd) {o : AcceptOutcome} {res : Server × List Nat}
    (hres : srv.onNewConnection o = some res) : System.Aside res.1 fd := by
  rcases onNewConnection_cases hres with ⟨-, hheap, -, hk, -⟩ |
    ⟨new, x, k, -, hk, hkernel, hfresh, -, hheap, -⟩
  · exact System.aside_of_eq h hheap (funext hk.opened_eq)
  · have hnew := Kernel.changes_of_acquire hk
    refine ⟨?_, fun a y hy hown => ?_⟩
    · rw [hkernel]
      exact (hnew.opened_iff fd).mpr (.inl ⟨h.1, List.not_mem_nil⟩)
    · rw [hheap] at hy
      by_cases ha : a = srv.created
      · rw [ha, Function.update_self, Option.some.injEq] at hy
        subst hy
        simp only [RtspSession.Owns, hfresh.no_udp, hfresh.fd_eq, List.not_mem_nil, or_false] at hown
        have hclosed := hnew.acquired_closed new (List.mem_singleton_self _)
        rw [← hown.2, h.1] at hclosed
        cases hclosed
      · rw [Function.update_of_ne ha] at hy
        exact h.2 a y hy hown

theorem ServiceAside.onNewConnection (h : srv.ServiceAside) {o : AcceptOutcome}
    {res : Server × List Nat} (hres : srv.onNewConnection o = some res) : res.1.ServiceAside := by
  have hconfig : res.1.config = srv.config := (onNewConnection_counts hres).1
  refine ⟨?_, ?_⟩
  · rw [hconfig]
    exact aside_onNewConnection h.listener hres
  · rw [hconfig]
    exact aside_onNewConnection h.timer hres

theorem RegistrationsMatch.checkTimeouts (h : srv.RegistrationsMatch) (hwf : srv.WellFormed)
    (ha : srv.ServiceAside) (now : Int) : (srv.checkTimeouts now).1.RegistrationsMatch := by
  have hall : (srv.checkTimeouts now).1.RegistrationsMatch ∧ (srv.checkTimeouts now).1.WellFormed ∧
      (srv.checkTimeouts now).1.ServiceAside := by
    refine checkTimeouts_induction
      (P := fun srv => srv.RegistrationsMatch ∧ srv.WellFormed ∧ srv.ServiceAside)
      (fun srv x ih => ?_)
      (fun srv n ih => ⟨ih.1.same_kernel rfl rfl rfl rfl, ?_, ⟨ih.2.2.listener, ih.2.2.timer⟩⟩)
      ⟨h, hwf, ha⟩ now
    · exact ⟨ih.1.closeConnection ih.2.1 ih.2.2 x, ih.2.1.closeConnection x,
        ih.2.2.closeConnection x⟩
    · exact ih.2.1.shrink rfl rfl rfl (fun _ _ hx => hx) fun _ _ _ hsome => hsome
  exact hall.1

/-- A number that is not in use has no callback. -/
theorem callbackFor_closed (hwf : srv.WellFormed) (ha : srv.ServiceAside)
    (hclosed : srv.kernel.opened fd = false) : srv.callbackFor fd = none := by
  unfold callbackFor
  have hlistener : fd ≠ srv.config.listenerFd := by
    intro heq
    rw [heq, ha.listener.1] at hclosed
    cases hclosed
  have htimer : fd ≠ srv.config.timerFd := by
    intro heq
    rw [heq, ha.timer.1] at hclosed
    cases hclosed
  rw [if_neg hlistener, if_neg htimer]
  cases hfd : srv.sessions[fd]? with
  | none => rfl
  | some sid =>
    obtain ⟨x, hx, rfl⟩ := hwf.table fd sid hfd
    rw [hwf.opened sid x hx _ (hwf.owns_conn hx)] at hclosed
    cases hclosed

/-- What `accept` hands out is closed again. -/
theorem RegistrationsMatch.turnAway (h : srv.RegistrationsMatch) {k : Kernel}
    (hnone : srv.callbackFor fd = none) (hk : srv.kernel.acquire fd = some k)
    (hsessions : srv'.sessions = srv.sessions)
    (hconfig : srv'.config = srv.config) (hcallbacks : srv'.callbacks = srv.callbacks)
    (hkernel : srv'.kernel = k.close fd) : srv'.RegistrationsMatch := by
  have hevents : srv.kernel.events [.opened fd, .closed fd] = some srv'.kernel := by
    rw [hkernel]
    exact Option.bind_eq_some_iff.mpr ⟨k, hk, rfl⟩
  refine h.same hsessions hconfig hcallbacks (fun x hx => ?_) fun _ _ hi =>
    Kernel.events_interest hevents hi
  have hne : x ≠ fd := by
    intro heq
    rw [heq, hnone] at hx
    cases hx
  unfold Kernel.acquire at hk
  split at hk
  · cases hk
  · obtain rfl := Option.some.inj hk
    simp [hkernel, Kernel.close, hne]

/-- A connection that is turned away leaves no registration, and one that is admitted the one
of its session. -/
theorem RegistrationsMatch.onNewConnection (h : srv.RegistrationsMatch) (hwf : srv.WellFormed)
    (ha : srv.ServiceAside) {o : AcceptOutcome} {res : Server × List Nat}
    (hres : srv.onNewConnection o = some res) :
    res.1.RegistrationsMatch := by
  cases o with
  | failed =>
    obtain rfl := Option.some.inj hres
    exact h
  | accepted new addOk timestamp now garbage =>
    simp only [Server.onNewConnection, Option.bind_eq_bind] at hres
    obtain ⟨k, hk, hres⟩ := Option.bind_eq_some_iff.mp hres
    have hnone := callbackFor_closed hwf ha ((Kernel.changes_of_acquire hk).acquired_closed new
      (by simp))
    have hnonneg : ¬ ((new : Int) < 0) := by omega
    split at hres
    · obtain rfl := Option.some.inj hres
      exact h.turnAway hnone hk rfl rfl rfl rfl
    · cases addOk with
      | false =>
        simp only [addFd, if_neg hnonneg, Bool.false_eq_true, ↓reduceIte, Status.isOk_mk,
          reduceCtorEq, decide_false] at hres
        obtain rfl := Option.some.inj hres
        exact h.turnAway hnone hk rfl rfl rfl rfl
      | true =>
        simp only [addFd, if_neg hnonneg, ↓reduceIte, Status.isOk_mk, decide_true] at hres
        obtain ⟨s, -, hres⟩ := Option.bind_eq_some_iff.mp hres
        obtain rfl := Option.some.inj hres
        unfold Kernel.acquire at hk
        split at hk
        · cases hk
        obtain rfl := Option.some.inj hk
        unfold callbackFor at hnone
        split at hnone
        · cases hnone
        rename_i hlistener
        split at hnone
        · cases hnone
        rename_i htimer
        have hlists (fd : Int) (hne : fd ≠ new) :
            (if fd = srv.config.listenerFd then some Callback.onNewConnection
              else if fd = srv.config.timerFd then some .checkTimeouts
              else ((srv.sessions.insert new srv.created)[fd]?).map fun _ => .client) =
              srv.callbackFor fd := by
          rw [callbackFor, getElem?_insert, if_neg (Ne.symm hne)]
        refine ⟨fun fd => ?_, fun fd => ?_, fun fd i hi => ?_⟩
        · by_cases hfd : fd = new
          · simp [hfd, callbackFor, hlistener, htimer]
          · show Function.update srv.callbacks new (some .client) fd = _
            rw [Function.update_of_ne hfd, h.callbacks, ← hlists fd hfd]
            rfl
        · by_cases hfd : fd = new
          · simp [hfd, callbackFor, hlistener, htimer, Kernel.register]
          · simp only [Kernel.register, Function.update_of_ne hfd, h.registered, ← hlists fd hfd]
            rfl
        · by_cases hfd : fd = new
          · simp only [Kernel.register, hfd, Function.update_self, Option.some.injEq] at hi
            exact hi ▸ rfl
          · simp only [Kernel.register, Function.update_of_ne hfd] at hi
            exact h.reads fd i hi

theorem RegistrationsMatch.destroy (h : srv.RegistrationsMatch) (hwf : srv.WellFormed)
    (ha : srv.ServiceAside) (hout : ∀ fd : Int, srv.sessions[fd]? ≠ some sid) :
    (srv.destroy sid).RegistrationsMatch := by
  cases hs : srv.heap sid with
  | none =>
    have hsame : srv.destroy sid = srv := by simp [Server.destroy, hs]
    rwa [hsame]
  | some x =>
    obtain ⟨hsessions, -, -, hk⟩ := destroy_frame srv sid hs
    have hconfig := (destroy_sameCounts srv sid).config
    have hcallbacks : (srv.destroy sid).callbacks = srv.callbacks := by simp [Server.destroy, hs]
    -- the descriptors that are closed are the session's, and nobody else listens on them
    have hkept {fd : Int} (hopen : srv.kernel.opened fd = true) (hnot : ¬ x.Owns fd) :
        (srv.destroy sid).kernel.interest fd = srv.kernel.interest fd :=
      hk.interest_eq fd hopen fun hin => hnot (owns_of_destroyed hin)
    refine h.same hsessions hconfig hcallbacks (fun fd hfd => ?_) fun fd i hi => ?_
    · unfold callbackFor at hfd
      split at hfd
      · rename_i heq
        rw [heq]
        exact hkept ha.listener.1 (ha.listener.2 sid x hs)
      · split at hfd
        · rename_i heq
          rw [heq]
          exact hkept ha.timer.1 (ha.timer.2 sid x hs)
        · obtain ⟨a, hfda⟩ := Option.isSome_iff_exists.mp (Option.isSome_map .. ▸ hfd)
          obtain ⟨y, hy, rfl⟩ := hwf.table fd a hfda
          have hown := hwf.owns_conn hy
          refine hkept (hwf.opened a y hy _ hown) fun howns => hout y.conn.fd ?_
          rwa [← hwf.separate a sid y x hy hs _ hown howns]
    · simp only [Server.destroy, hs] at hi
      exact Kernel.foldl_close_interest hi

end Server

namespace System

variable {s t : System} {l : Label} {sid : Nat}

/-- What the registrations depend on. -/
structure RegistrationInv (s : System) : Prop where
  server : s.server.WellFormed
  aside : s.server.ServiceAside
  registrations : s.server.RegistrationsMatch

theorem start_registrationInv (config : Config) : (System.start config).RegistrationInv where
  server := Server.start_wellFormed config
  aside := ⟨⟨by simp [System.start, Server.start], fun _ _ h => by cases h⟩,
    ⟨by simp [System.start, Server.start], fun _ _ h => by cases h⟩⟩
  registrations := Server.start_registrations config

theorem RegistrationInv.release (sids : List Nat) :
    ∀ {s : System}, s.RegistrationInv → (s.release sids).RegistrationInv := by
  induction sids with
  | nil => exact fun h => h
  | cons sid sids ih =>
    intro s h
    refine ih (s := s.releaseOne sid) ⟨(releaseOne_spec h.server sid).2, ?_, ?_⟩
    · have hconfig : (s.release [sid]).server.config = s.server.config :=
        (release_sameCounts [sid] (Server.sameCounts_refl s.server)).config
      refine ⟨?_, ?_⟩
      · rw [show (s.releaseOne sid).server.config = _ from hconfig]
        exact aside_release h.aside.listener [sid]
      · rw [show (s.releaseOne sid).server.config = _ from hconfig]
        exact aside_release h.aside.timer [sid]
    · unfold releaseOne
      split
      · exact h.registrations
      · rename_i hrefers
        exact h.registrations.destroy h.server h.aside fun fd hfd => hrefers (refers_of_table hfd)

theorem RegistrationInv.closeAndLeave (h : s.RegistrationInv) (held : List Nat) :
    (s.closeAndLeave held).RegistrationInv :=
  RegistrationInv.release _ ⟨h.server.closeConnection s.loop.fd, h.aside.closeConnection s.loop.fd,
    h.registrations.closeConnection h.server h.aside s.loop.fd⟩

theorem RegistrationInv.replace (h : s.RegistrationInv) {x x' : RtspSession}
    (hs : s.server.heap sid = some x) (hkeeps : x.Keeps x')
    (hserver : t.server = s.server.setSession sid x') : t.RegistrationInv := by
  refine ⟨?_, ⟨?_, ?_⟩, ?_⟩
  · rw [hserver]
    exact h.server.keeps hs hkeeps
  · rw [hserver]
    exact aside_keeps h.aside.listener hs hkeeps
  · rw [hserver]
    exact aside_keeps h.aside.timer hs hkeeps
  · rw [hserver]
    exact h.registrations.same_kernel rfl rfl rfl rfl

theorem RegistrationInv.modifyFd (h : s.RegistrationInv) (fd : Int) {i : Interest}
    (hi : i.read = true) (hserver : t.server = (s.server.modifyFd fd i).1) : t.RegistrationInv := by
  have hconfig := (Server.modifyFd_sameCounts s.server fd i).config
  refine ⟨?_, ⟨?_, ?_⟩, ?_⟩
  · rw [hserver]
    exact h.server.modifyFd fd i
  · rw [hserver, hconfig]
    exact aside_modifyFd h.aside.listener fd i
  · rw [hserver, hconfig]
    exact aside_modifyFd h.aside.timer fd i
  · rw [hserver]
    exact h.registrations.modifyFd fd hi

/-- A request changes the UDP descriptors of its session, and those are registered nowhere. -/
theorem request_registrations (hinv : s.Inv) (h : s.RegistrationInv) {env : RequestEnv}
    {data : Bytes} {x x' : RtspSession} {kernel : Kernel} (hs : s.server.heap sid = some x)
    (hkernel : s.server.kernel.events (x.processData data env).fdEvents = some kernel) :
    ({ s.server with kernel := kernel }.setSession sid x').RegistrationsMatch := by
  have hopen : ∀ fd ∈ x.udpFds, s.server.kernel.opened fd = true :=
    fun fd hfd => hinv.server.opened sid x hs fd (.inr hfd)
  obtain ⟨released, acquired, hch, hrel, -⟩ := RtspSession.processData_changes hopen hkernel
  have hkept {fd : Int} (hopen : s.server.kernel.opened fd = true) (hnot : fd ∉ x.udpFds) :
      kernel.interest fd = s.server.kernel.interest fd :=
    hch.interest_eq fd hopen fun hin => hnot (hrel fd hin)
  refine h.registrations.same rfl rfl rfl (fun fd hfd => ?_) fun fd i hi =>
    Kernel.events_interest hkernel hi
  unfold Server.callbackFor at hfd
  split at hfd
  · rename_i heq
    rw [heq]
    exact hkept h.aside.listener.1 fun hin => h.aside.listener.2 sid x hs (.inr hin)
  · split at hfd
    · rename_i heq
      rw [heq]
      exact hkept h.aside.timer.1 fun hin => h.aside.timer.2 sid x hs (.inr hin)
    · obtain ⟨a, hfda⟩ := Option.isSome_iff_exists.mp (Option.isSome_map .. ▸ hfd)
      obtain ⟨y, hy, rfl⟩ := hinv.server.table fd a hfda
      have hown := hinv.server.owns_conn hy
      refine hkept (hinv.server.opened a y hy _ hown) fun hin => ?_
      obtain rfl := hinv.server.separate a sid y x hy hs _ hown (.inr hin)
      obtain rfl := Option.some.inj (hs.symm.trans hy)
      exact hinv.server.conn_apart a x hs hin

theorem step_registrations (hinv : s.Inv) (h : s.RegistrationInv) (hstep : s.step l = some t) :
    t.server.RegistrationsMatch := by
  have hbuffers := hinv.server.buffers
  cases step_cases hstep with
  | broadcast =>
    unfold System.broadcast
    split <;> exact h.registrations
  | load | sendTo | sendV | recordDrop | recordSuccess | wait | skip | enter | absent | receive
  | writable | skipFrame | checkRead | flush | drained | disconnect =>
    exact h.registrations.same_kernel rfl rfl rfl rfl
  | streamModify | registerRead => exact h.registrations.modifyFd _ rfl
  | finish =>
    exact (RegistrationInv.release _ (s := { s with stream := {} }) ⟨h.1, h.2, h.3⟩).registrations
  | @accept accept expired e batch res hpc hhandlers hbatch hcb hres =>
    refine (RegistrationInv.release _ ⟨hinv.server.onNewConnection hres, ?_, ?_⟩).registrations
    · exact h.aside.onNewConnection hres
    · exact h.registrations.onNewConnection h.server h.aside hres
  | @sweep accept now e batch hpc hhandlers hbatch hcb =>
    refine (RegistrationInv.release _ ⟨hinv.server.checkTimeouts now, ?_, ?_⟩).registrations
    · exact h.aside.checkTimeouts now
    · exact h.registrations.checkTimeouts h.server h.aside now
  | @drop recv hd handlers held =>
    exact (RegistrationInv.closeAndLeave (s := s.takeHandler handlers) ⟨h.1, h.2, h.3⟩
      held).registrations
  | hangUp hpc hhandlers hsid hs =>
    exact (RegistrationInv.closeAndLeave (h.replace hs (RtspSession.keeps_recv _ _) rfl)
      _).registrations
  | readDone | pending =>
    exact (RegistrationInv.release _ (s := s.goto .idle) ⟨h.1, h.2, h.3⟩).registrations
  | tooLarge => exact (h.closeAndLeave _).registrations
  | flushFailed hpc hs =>
    exact (RegistrationInv.closeAndLeave
      (h.replace hs (RtspSession.keeps_flush _ _ (hbuffers _ _ hs)) rfl) _).registrations
  | unregister => exact (RegistrationInv.release _ (h.modifyFd _ rfl rfl)).registrations
  | request hpc hs hturn hh hanswer hkernel =>
    subst hh
    exact request_registrations hinv h hs hkernel

theorem step_registrationInv (hinv : s.Inv) (h : s.RegistrationInv) (hstep : s.step l = some t) :
    t.RegistrationInv := by
  have hconfig := (step_fixed hstep).1
  refine ⟨(step_inv hinv hstep).server, ⟨?_, ?_⟩, step_registrations hinv h hstep⟩
  · rw [hconfig]
    exact step_aside hinv h.aside.listener hstep
  · rw [hconfig]
    exact step_aside hinv h.aside.timer hstep

/-- **Callbacks and registrations match the table.** In every run up to a call of `Stop`: the
callbacks of the event loop are those of the listener, the timer and the sessions of the table;
epoll has exactly these descriptors registered, however sessions are closed and descriptor numbers
used again; and all of them are registered for reading. -/
theorem registrations_match_table (config : Config) (labels : List Label) (s : System)
    (hs : run step (System.start config) labels = some s) :
    s.server.config = config ∧ s.server.RegistrationsMatch := by
  have hkeep (s : System) (l : Label) (t : System) (h : s.Inv ∧ s.RegistrationInv)
      (hstep : s.step l = some t) : t.Inv ∧ t.RegistrationInv :=
    ⟨step_inv h.1 hstep, step_registrationInv h.1 h.2 hstep⟩
  exact ⟨run_config hs,
    (run_invariant hkeep ⟨start_inv config, start_registrationInv config⟩ hs).2.registrations⟩

/-- A client hangs up, and the next one gets its descriptor. -/
theorem registrations_match_reused :
    ∃ s, run step (System.start smallConfig) (accepts 7 ++
        [.wait [{ fd := 7, read := true }], .dispatch .failed none, .handle .endOfStream] ++
        accepts 7) = some s ∧
      s.server.sessions.toList = [(7, 1)] ∧ s.server.RegistrationsMatch := by
  have hrun : (run step (System.start smallConfig) (accepts 7 ++
      [.wait [{ fd := 7, read := true }], .dispatch .failed none, .handle .endOfStream] ++
      accepts 7)).any (fun s => s.server.sessions.toList = [(7, 1)]) = true := by
    decide
  obtain ⟨s, hs, htable⟩ := (Option.any_eq_true _ _).mp hrun
  exact ⟨s, hs, of_decide_eq_true htable, (registrations_match_table smallConfig _ s hs).2⟩

end System

end RtspForward
