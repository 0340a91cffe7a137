import RtspForward.Core.Serving
import RtspForward.Core.StartSteps

/-!
# The life of a server object

The calls of `api/rtsp_forward.cc` on one handle, from `rtsp_forward_create` to
`rtsp_forward_destroy`. One thread starts and stops the server, as often as it likes, and another
one is in `rtsp_forward_run`; a start is not called before the loop that has been stopped returns.
What a start that fails or a stop leaves behind is there when the server is started again, and
other parts of the process have descriptors of their own.
-/
namespace RtspForward

open Lib Transition Custody

/-- The codes of the calls that take nothing but the handle. -/
inductive ReturnCode where
  | ok
  | error
  | invalidArgument
  | networkError
  | alreadyStarted
  | notStarted
  deriving DecidableEq, Repr

/-- The `switch` of `rtsp_forward_start`. -/
def ReturnCode.ofStatus (status : Status) : ReturnCode :=
  if status.isOk then .ok
  else match status.code with
    | .kInvalidArgument => .invalidArgument
    | .kNetworkError => .networkError
    | _ => .error

/-- How far a call of `rtsp_forward_run` is on its way to the loop. -/
inductive Entry where
  /-- There is no call, or it is in the loop. -/
  | outside
  /-- The API has seen the server running. -/
  | apiChecked
  /-- `RtspServer::Run` has seen it running. -/
  | serverChecked
  /-- `EpollLoop::Run` is about to set its flag. -/
  | entered
  deriving DecidableEq, Repr

/-- The server object behind a handle, and the two threads. -/
structure Service where
  life : Lifecycle
  epollFd : FdGuard := {}
  entry : Entry := .outside

/-- A call, a step of `rtsp_forward_run` on its way to the loop, or a step of the event-loop
thread or of `Stop`. -/
inductive ServiceLabel where
  | start (o : StartOutcomes)
  | stop
  | run
  | enter
  | life (l : LifecycleLabel)

namespace Service

/-- `rtsp_forward_create`, in a process with some open descriptors. -/
def created (config : Config) (opened : Int → Bool) : Service where
  life :=
    { server :=
        { config := config
          running := false
          kernel := { opened := opened, interest := fun _ => none }
          callbacks := fun _ => none }
      listener := none
      timer := none
      loopRunning := false
      loop := .returned
      stop := .returned }

/-- The members `Start` works on. -/
def startup (s : Service) : Startup where
  kernel := s.life.server.kernel
  listener := { fd := s.life.listener.getD (-1) }
  epollFd := s.epollFd
  loopRunning := s.life.loopRunning
  callbacks := s.life.server.callbacks
  timerFd := s.life.timer.getD (-1)
  running := s.life.server.running

/-- The members `Start` works on are these now. -/
def withStartup (s : Service) (u : Startup) : Service :=
  { s with
    life := { s.life with
      server := { s.life.server with
        kernel := u.kernel, callbacks := u.callbacks, running := u.running }
      listener := u.listener.held
      timer := FdGuard.held { fd := u.timerFd }
      loopRunning := u.loopRunning }
    epollFd := u.epollFd }

/-- No thread is in `rtsp_forward_run`. -/
def OutOfRun (s : Service) : Prop := s.entry = .outside ∧ s.life.loop = .returned

/-- No call of `rtsp_forward_stop` is on its way. -/
def OutOfStop (s : Service) : Prop := s.life.stop = .returned

instance (s : Service) : Decidable s.OutOfRun := inferInstanceAs (Decidable (_ ∧ _))

instance (s : Service) : Decidable s.OutOfStop := inferInstanceAs (Decidable (_ = _))

/-! ## The calls -/

/-- `rtsp_forward_start`. -/
def rtspForwardStart (s : Service) (o : StartOutcomes) : Option (Service × ReturnCode) :=
  if s.life.server.running then some (s, .alreadyStarted)
  else (s.startup.start o).map fun r => (s.withStartup r.1, .ofStatus r.2)

/-- `rtsp_forward_stop`, up to the call of `RtspServer::Stop`. -/
def rtspForwardStop (s : Service) : Service × ReturnCode :=
  if s.life.server.running then ({ s with life := { s.life with stop := .idle } }, .ok)
  else (s, .notStarted)

/-- `rtsp_forward_run`, up to the call of `RtspServer::Run`. -/
def rtspForwardRun (s : Service) : Service × ReturnCode :=
  if s.life.server.running then ({ s with entry := .apiChecked }, .ok) else (s, .notStarted)

/-- `RtspServer::Run` and `EpollLoop::Run` up to the loop, load by load. -/
def enter (s : Service) : Option Service :=
  match s.entry with
  | .outside => none
  | .apiChecked =>
    some { s with entry := if s.life.server.running then .serverChecked else .outside }
  | .serverChecked => some { s with entry := if s.epollFd.isValid then .entered else .outside }
  | .entered =>
    some { s with entry := .outside, life := { s.life with loopRunning := true, loop := .idle } }

def step (s : Service) : ServiceLabel → Option Service
  | .start o =>
    if s.OutOfStop ∧ (s.life.server.running = true ∨ s.OutOfRun) then
      (s.rtspForwardStart o).map Prod.fst
    else none
  | .stop => if s.OutOfStop then some s.rtspForwardStop.1 else none
  | .run => if s.OutOfRun then some s.rtspForwardRun.1 else none
  | .enter => s.enter
  | .life l => (s.life.step l).map fun life => { s with life := life }

/-! ## The destructor -/

/-- `Stop` from its beginning to its end. -/
def stopped (s : Lifecycle) : Lifecycle :=
  if s.server.running then
    let s := { s with server := { s.server with running := false }, loopRunning := false }
    s.removeTimer.clearSessions.closeListener
  else s

/-- The members of the server go: first the table, then the listener. -/
def destroyMembers (s : Lifecycle) : Lifecycle :=
  ({ s with server := { s.server with sessions := ∅ } }.release s.sids).closeListener

/-- The descriptors that are open after `rtsp_forward_destroy`; the event loop goes last. -/
def rtspForwardDestroy (s : Service) : Kernel :=
  s.epollFd.close.2.foldl Kernel.close (destroyMembers (stopped s.life)).server.kernel

/-! ## Who holds what -/

/-- Who else holds descriptors. -/
inductive Outside where
  | epollFd
  | process (fd : Int)
  deriving DecidableEq, Repr

variable {opened : Int → Bool} {s t : Service} {u v : Startup} {fd : Int}

/-- What the event loop and the rest of the process hold. -/
def outside (s : Service) (opened : Int → Bool) : Outside → Option Int
  | .epollFd => s.epollFd.held
  | .process fd => if opened fd then some fd else none

def holders (s : Service) (opened : Int → Bool) : Holder ⊕ Outside → Option Int :=
  Sum.elim s.life.holders (s.outside opened)

theorem outside_eq_some {a : Outside} : s.outside opened a = some fd ↔
    (a = .epollFd ∧ s.epollFd.held = some fd) ∨ (a = .process fd ∧ opened fd = true) := by
  cases a with
  | epollFd => simp [outside]
  | process x =>
    simp only [outside, Option.ite_none_right_eq_some, Option.some.injEq, reduceCtorEq, false_and,
      false_or, Outside.process.injEq]
    constructor
    · rintro ⟨hx, rfl⟩
      exact ⟨rfl, hx⟩
    · rintro ⟨rfl, hx⟩
      exact ⟨hx, rfl⟩

/-- The members are in order: every open descriptor is in one hand, and every callback that is
still called is that of the variable which holds the descriptor. -/
structure MembersInv (opened : Int → Bool) (s : Service) : Prop where
  linear : Linear (s.holders opened) s.life.server.kernel.opened
  sessions : s.life.server.SessionsPaired
  callbacksMatch : s.life.CallbacksMatch
  keysMatch : s.life.KeysMatch
  referred : s.life.Referred

/-- Neither the sessions nor the references to them change. -/
theorem MembersInv.of_sessions (h : MembersInv opened s)
    (hlinear : Linear (t.holders opened) t.life.server.kernel.opened)
    (hcallbacks : t.life.CallbacksMatch)
    (hheap : t.life.server.heap = s.life.server.heap)
    (hcreated : t.life.server.created = s.life.server.created)
    (hsessions : t.life.server.sessions = s.life.server.sessions)
    (hloop : t.life.loop = s.life.loop) : MembersInv opened t where
  linear := hlinear
  sessions := h.sessions.of_heap hheap hcreated
  callbacksMatch := hcallbacks
  keysMatch := h.keysMatch.of_heap hheap (fun _ _ hx => hsessions ▸ hx) fun _ _ ha =>
    hloop.symm.trans ha
  referred := h.referred.keep hheap hsessions fun _ ha => (congrArg CallbackPc.session hloop).trans ha

/-- A step of the server's own threads. -/
theorem MembersInv.life_step (h : MembersInv opened s) {l : LifecycleLabel} {life : Lifecycle}
    (hstep : s.life.step l = some life) : MembersInv opened { s with life := life } := by
  have hfresh := h.sessions.fresh _ le_rfl
  obtain ⟨hempty, hholders, hopened⟩ := Lifecycle.step_accounts hfresh hstep
  have hlinear := h.linear.beside hempty hopened
  rw [hholders] at hlinear
  exact ⟨hlinear, Lifecycle.step_paired h.sessions hstep,
    Lifecycle.step_callbacksMatch hfresh h.callbacksMatch hstep,
    Lifecycle.step_keysMatch hfresh h.keysMatch hstep, Lifecycle.step_referred h.referred hstep⟩

/-! ## A start -/

/-- What a step of a start does to the members, with what the pool of descriptors sees. -/
theorem MembersInv.accounts (h : MembersInv opened (s.withStartup u)) {es : List DescriptorEvent}
    (haccounts : Lifecycle.Accounts (s.withStartup u).life (s.withStartup v).life es)
    (hepoll : v.epollFd = u.epollFd) :
    Linear ((s.withStartup v).holders opened) v.kernel.opened := by
  have hlinear := h.linear.beside haccounts.emptyHanded haccounts.opened_eq
  rw [haccounts.holders_eq] at hlinear
  have houtside : (s.withStartup v).outside opened = (s.withStartup u).outside opened := by
    funext a
    cases a with
    | epollFd =>
      show v.epollFd.held = u.epollFd.held
      rw [hepoll]
    | process fd => rfl
  unfold holders
  rw [houtside]
  exact hlinear

theorem withStartup_closeListener (s : Service) (u : Startup) :
    (s.withStartup { u with
      kernel := u.listener.close.2.foldl Kernel.close u.kernel, listener := u.listener.close.1 }).life =
      (s.withStartup u).life.closeListener := by
  unfold Lifecycle.closeListener withStartup FdGuard.held FdGuard.close
  by_cases hfd : u.listener.fd ≥ 0
  · simp [hfd]
  · simp [hfd]

/-- A new descriptor is put into a place of the server that was empty. -/
theorem acquire_accounts {a : Holder} {fd : Nat} {kernel : Kernel} (hk : u.kernel.acquire fd = some kernel)
    (hkernel : v.kernel = kernel) (hempty : (s.withStartup u).life.holders a = none)
    (hholders : Function.update (s.withStartup u).life.holders a (some (fd : Int)) =
      (s.withStartup v).life.holders) :
    Lifecycle.Accounts (s.withStartup u).life (s.withStartup v).life [.acquire a fd] := by
  refine ⟨along_total_cons.mpr ⟨hempty, trivial⟩, hholders, ?_⟩
  have hevents : u.kernel.events [.opened fd] = some v.kernel := by
    rw [hkernel]
    simpa [Kernel.events, Kernel.event] using hk
  exact Kernel.follow_events hevents

theorem withStartup_callbacksMatch (h : (s.withStartup u).life.CallbacksMatch)
    (hforgets : (s.withStartup u).life.server.Forgets (s.withStartup v).life.server)
    (hlistener : ∀ fd i, v.kernel.interest fd = some i → u.listener.held = some fd →
      v.listener.held = some fd)
    (htimer : ∀ fd i, v.kernel.interest fd = some i → FdGuard.held { fd := u.timerFd } = some fd →
      FdGuard.held { fd := v.timerFd } = some fd) : (s.withStartup v).life.CallbacksMatch := by
  refine h.forget hforgets fun fd i cb hfd hbelongs => ?_
  cases hbelongs with
  | listener hl => exact .listener (hlistener fd i hfd hl)
  | timer ht => exact .timer (htimer fd i hfd ht)
  | accepted ha => exact .accepted ha
  | conn hs hx => exact .conn hs hx

theorem held_natCast (fd : Nat) : FdGuard.held { fd := (fd : Int) } = some (fd : Int) := by
  simp [FdGuard.held]

theorem held_none {g : FdGuard} (h : g.fd < 0) : g.held = none := by
  unfold FdGuard.held
  rw [if_neg (by omega)]

theorem held_some {g : FdGuard} (h : 0 ≤ g.fd) : g.held = some g.fd := by
  unfold FdGuard.held
  rw [if_pos h]

theorem startStep_membersInv (h : MembersInv opened (s.withStartup u))
    (hstep : Startup.StartStep u v) :
    MembersInv opened (s.withStartup v) := by
  cases hstep with
  | closeListener =>
    have haccounts := Lifecycle.closeListener_accounts (s.withStartup u).life
    rw [← withStartup_closeListener] at haccounts
    refine h.of_sessions ?_ ?_ rfl rfl rfl rfl
    · exact h.accounts haccounts rfl
    · rw [withStartup_closeListener]
      exact Lifecycle.closeListener_callbacksMatch h.callbacksMatch
  | @socket fd kernel hneg hk =>
    have hnone := held_none hneg
    refine h.of_sessions ?_ ?_ rfl rfl rfl rfl
    · refine h.accounts (acquire_accounts (a := .listener) hk rfl hnone ?_) rfl
      funext a
      cases a <;> simp [Lifecycle.holders, withStartup, held_natCast]
    · refine withStartup_callbacksMatch h.callbacksMatch
        (fun x i hx => ⟨Lifecycle.acquire_interest hk hx, rfl⟩)
        (fun x i _ hheld => ?_) fun _ _ _ hheld => hheld
      rw [hnone] at hheld
      cases hheld
  | @epollCreate fd kernel hinvalid hk =>
    have hnone : u.epollFd.held = none := held_none (by simpa [FdGuard.isValid] using hinvalid)
    refine h.of_sessions ?_ ?_ rfl rfl rfl rfl
    · have hacquired := Kernel.changes_of_acquire hk
      have hfree := hacquired.acquired_closed fd (by simp)
      have hlinear := h.linear.acquire (a := .inr .epollFd) hnone hfree
      have hopened : kernel.opened = Function.update u.kernel.opened fd true := by
        unfold Kernel.acquire at hk
        split at hk
        · cases hk
        · obtain rfl := Option.some.inj hk
          rfl
      have hholders : act ((s.withStartup u).holders opened) (.acquire (.inr .epollFd) (fd : Int)) =
          (s.withStartup { u with kernel := kernel, epollFd := { fd := fd }, loopRunning := true }).holders
            opened := by
        funext a
        cases a with
        | inl a => cases a <;> simp [act, holders, Lifecycle.holders, withStartup]
        | inr a => cases a <;> simp [act, holders, outside, withStartup, held_natCast]
      rw [hholders] at hlinear
      show Linear _ kernel.opened
      rw [hopened]
      exact hlinear
    · exact withStartup_callbacksMatch h.callbacksMatch
        (fun x i hx => ⟨Lifecycle.acquire_interest hk hx, rfl⟩) (fun _ _ _ hheld => hheld)
        fun _ _ _ hheld => hheld
  | addListener hpos =>
    refine h.of_sessions ?_ ?_ rfl rfl rfl rfl
    · exact h.accounts (Lifecycle.accounts_nil (Lifecycle.holders_eq rfl rfl rfl rfl) rfl) rfl
    · exact Lifecycle.register_callbacksMatch h.callbacksMatch (.listener (held_some hpos))
  | @timerCreate fd kernel htimer hk =>
    have hnone : FdGuard.held { fd := u.timerFd } = none := by
      rw [htimer]
      decide
    refine h.of_sessions ?_ ?_ rfl rfl rfl rfl
    · refine h.accounts (acquire_accounts (a := .timer) hk rfl hnone ?_) rfl
      funext a
      cases a <;> simp [Lifecycle.holders, withStartup, held_natCast]
    · refine withStartup_callbacksMatch h.callbacksMatch
        (fun x i hx => ⟨Lifecycle.acquire_interest hk hx, rfl⟩) (fun _ _ _ hheld => hheld)
        fun x i _ hheld => ?_
      rw [hnone] at hheld
      cases hheld
  | closeTimer hpos =>
    have hsome : FdGuard.held { fd := u.timerFd } = some u.timerFd := held_some hpos
    refine h.of_sessions ?_ ?_ rfl rfl rfl rfl
    · refine h.accounts (Lifecycle.accounts_releases [.timer] (by simp) (funext fun a => ?_) ?_) rfl
      · cases a <;> simp [Lifecycle.holders, withStartup, Startup.closeTimer, FdGuard.held]
      · simp [Lifecycle.holders, withStartup, Startup.closeTimer, hsome]
    · refine withStartup_callbacksMatch h.callbacksMatch (Server.forgets_close [u.timerFd] rfl rfl)
        (fun _ _ _ hheld => hheld) fun x i hx hheld => ?_
      rw [hsome] at hheld
      obtain rfl := Option.some.inj hheld
      simp [Startup.closeTimer, Kernel.close] at hx

theorem startSteps_membersInv (h : MembersInv opened (s.withStartup u))
    (hsteps : Startup.StartSteps u v) :
    MembersInv opened (s.withStartup v) := by
  induction hsteps with
  | refl => exact h
  | tail _ hstep ih => exact startStep_membersInv ih hstep

end Service

end RtspForward
