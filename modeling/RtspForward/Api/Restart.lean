import RtspForward.Api.Service

/-!
# Starting, stopping and starting again

Over the whole life of a server object nothing of its descriptors gets lost, its destructor closes
them all, and whenever it runs its listener and its timer are registered. No start is called
during a stop, or before the loop that has been stopped returns.
-/
namespace RtspForward

open Lib Transition Custody Startup

namespace Service

variable {opened : Int → Bool} {s t : Service} {u v : Startup} {l : ServiceLabel}

/-- The listener and the timer are there and registered, with their callbacks. -/
structure Serves (s : Service) : Prop where
  running : s.life.server.running = true
  epoll : s.epollFd.isValid = true
  listener : ∃ fd, s.life.listener = some fd ∧ s.life.server.kernel.interest fd = some {} ∧
    s.life.server.callbacks fd = some .onNewConnection
  timer : ∃ fd, s.life.timer = some fd ∧ s.life.server.kernel.interest fd = some {} ∧
    s.life.server.callbacks fd = some .checkTimeouts

/-- What is known of a server between the calls, and where a call of `Stop` stands. -/
def Phase (s : Service) : Prop :=
  match s.life.stop with
  | .idle => s.Serves
  | .runningCleared | .loopStopped => s.life.server.running = false
  | .timerRemoved | .sessionsCleared => s.life.server.running = false ∧ s.life.timer = none
  | .returned => s.Serves ∨ (s.life.server.running = false ∧ s.life.timer = none)

theorem Serves.of_members (h : s.Serves) (hserver : t.life.server = s.life.server)
    (hlistener : t.life.listener = s.life.listener) (htimer : t.life.timer = s.life.timer)
    (hepoll : t.epollFd = s.epollFd) : t.Serves := by
  obtain ⟨hrunning, hvalid, hl, ht⟩ := h
  rw [← hserver, ← hlistener] at hl
  rw [← hserver, ← htimer] at ht
  exact ⟨hserver ▸ hrunning, hepoll ▸ hvalid, hl, ht⟩

/-- The threads have moved on, and the members are the same. -/
theorem Phase.of_members (h : s.Phase) (hserver : t.life.server = s.life.server)
    (hlistener : t.life.listener = s.life.listener) (htimer : t.life.timer = s.life.timer)
    (hepoll : t.epollFd = s.epollFd) (hstop : t.life.stop = s.life.stop) : t.Phase := by
  have hserves (hs : s.Serves) : t.Serves := hs.of_members hserver hlistener htimer hepoll
  unfold Phase at h ⊢
  rw [hstop, hserver, htimer]
  cases hpc : s.life.stop with
  | idle =>
    rw [hpc] at h
    exact hserves h
  | returned =>
    rw [hpc] at h
    exact h.imp_left hserves
  | runningCleared | loopStopped | timerRemoved | sessionsCleared =>
    rw [hpc] at h
    exact h

/-- A server that runs serves, unless `Stop` is about to say otherwise. -/
theorem Phase.serves (h : s.Phase) (hrunning : s.life.server.running = true) : s.Serves := by
  unfold Phase at h
  split at h
  · exact h
  · cases hrunning.symm.trans h
  · cases hrunning.symm.trans h
  · cases hrunning.symm.trans h.1
  · cases hrunning.symm.trans h.1
  · exact h.resolve_right fun hidle => Bool.noConfusion (hrunning.symm.trans hidle.1)

structure Inv (opened : Int → Bool) (s : Service) : Prop extends MembersInv opened s where
  listener_nonneg : ∀ fd, s.life.listener = some fd → 0 ≤ fd
  timer_nonneg : ∀ fd, s.life.timer = some fd → 0 ≤ fd
  entry : s.entry ≠ .outside → s.life.loop = .returned
  phase : s.Phase

/-! ## A new object -/

theorem created_membersInv (config : Config) (opened : Int → Bool) :
    MembersInv opened (created config opened) where
  linear := by
    have hiff (a : Holder ⊕ Outside) (fd : Int) : (created config opened).holders opened a = some fd ↔
        a = .inr (.process fd) ∧ opened fd = true := by
      cases a with
      | inl a => cases a <;> simp [holders, Lifecycle.holders, created, CallbackPc.clientFd]
      | inr a =>
        simp only [holders, Sum.elim_inr, outside_eq_some, Sum.inr.injEq]
        simp [created, FdGuard.held]
    refine ⟨fun fd => ?_, fun a b fd ha hb => ?_⟩
    · show opened fd = true ↔ _
      simp only [hiff, exists_eq_left]
    · rw [((hiff a fd).mp ha).1, ((hiff b fd).mp hb).1]
  sessions := ⟨fun _ _ => rfl, fun _ _ h => by cases h⟩
  callbacksMatch := fun _ _ h => by cases h
  keysMatch := ⟨fun fd sid h => by simp [created] at h, fun _ _ h => by cases h⟩
  referred := fun _ h => by cases h

theorem created_inv (config : Config) (opened : Int → Bool) : Inv opened (created config opened) where
  toMembersInv := created_membersInv config opened
  listener_nonneg := fun _ h => by cases h
  timer_nonneg := fun _ h => by cases h
  entry := fun h => absurd rfl h
  phase := .inr ⟨rfl, rfl⟩

/-! ## A start -/

theorem held_getD {held : Option Int} (h : ∀ fd, held = some fd → 0 ≤ fd) :
    FdGuard.held { fd := held.getD (-1) } = held := by
  cases held with
  | none => rfl
  | some fd => exact held_some (h fd rfl)

/-- The members are those a start begins with. -/
theorem Inv.withStartup_startup (h : Inv opened s) : s.withStartup s.startup = s := by
  unfold withStartup startup
  simp only [held_getD h.listener_nonneg, held_getD h.timer_nonneg]

theorem held_nonneg {g : FdGuard} {fd : Int} (h : g.held = some fd) : 0 ≤ fd := by
  unfold FdGuard.held at h
  split at h
  · obtain rfl := Option.some.inj h
    assumption
  · cases h

/-- The timer is registered, and so is the listener: its number is in use, so the timer gets another
one. -/
theorem MembersInv.serves (h : MembersInv opened (s.withStartup u)) (hready : u.Ready) {fd : Nat}
    {kernel : Kernel} (hk : u.kernel.acquire fd = some kernel) :
    (s.withStartup (u.withTimer fd kernel)).Serves := by
  have hheld : (s.withStartup u).life.holders .listener = some u.listener.fd := held_some hready.listener
  have hopen : u.kernel.opened u.listener.fd = true := Lifecycle.opened_of_holds h.linear hheld
  have hchanges := Kernel.changes_of_acquire hk
  have hne : u.listener.fd ≠ fd := by
    intro heq
    have hfree := hchanges.acquired_closed fd (by simp)
    rw [← heq, hopen] at hfree
    cases hfree
  refine ⟨rfl, hready.epoll, ⟨u.listener.fd, hheld, ?_, ?_⟩, ⟨fd, held_natCast fd, ?_, ?_⟩⟩
  · show (kernel.register fd {}).interest u.listener.fd = some {}
    have hkept := hchanges.interest_eq u.listener.fd hopen (by simp)
    simp only [Kernel.register, Function.update_of_ne hne]
    rw [hkept, hready.interest]
  · exact (Function.update_of_ne hne _ _).trans hready.callback
  · exact Function.update_self _ _ _
  · exact Function.update_self _ _ _

/-- A start that succeeds leaves the members in order. -/
theorem MembersInv.withTimer (h : MembersInv opened (s.withStartup u)) (htimer : u.timerFd = -1)
    {fd : Nat} {kernel : Kernel} (hk : u.kernel.acquire fd = some kernel) :
    MembersInv opened (s.withStartup (u.withTimer fd kernel)) := by
  have hcreated := startStep_membersInv h (.timerCreate htimer hk)
  have hadded :=
    Lifecycle.register_callbacksMatch hcreated.callbacksMatch (.timer (held_natCast fd))
  refine hcreated.of_sessions ?_ (hadded.of_members rfl rfl rfl rfl rfl rfl) rfl rfl rfl rfl
  exact hcreated.accounts (Lifecycle.accounts_nil (Lifecycle.holders_eq rfl rfl rfl rfl) rfl) rfl

theorem rtspForwardStart_inv (h : Inv opened s) (hstop : s.OutOfStop) {o : StartOutcomes}
    {code : ReturnCode} (ht : s.rtspForwardStart o = some (t, code)) :
    Inv opened t ∧ (t.life.server.running = true ↔ code = .ok ∨ code = .alreadyStarted) := by
  unfold rtspForwardStart at ht
  split at ht
  · rename_i hrunning
    cases ht
    exact ⟨h, iff_of_true hrunning (.inr rfl)⟩
  · rename_i hrunning
    obtain ⟨⟨v, status⟩, hstart, ht⟩ := Option.map_eq_some_iff.mp ht
    cases ht
    have hphase := h.phase
    unfold Phase at hphase
    rw [show s.life.stop = .returned from hstop] at hphase
    have htimer : s.life.timer = none := by
      rcases hphase with hserves | hidle
      · exact absurd hserves.running hrunning
      · exact hidle.2
    have hbegin : MembersInv opened (s.withStartup s.startup) := by
      rw [h.withStartup_startup]
      exact h.toMembersInv
    have hnone : s.startup.timerFd = -1 := by simp [startup, htimer]
    rcases Startup.start_cases hnone hstart with ⟨hfail, hpasses⟩ | ⟨hok, u, fd, kernel, hpasses, hready, hk, rfl⟩
    · have hidle : v.running = false :=
        hpasses.running.trans (Bool.eq_false_iff.mpr hrunning)
      have hcode : ¬ (ReturnCode.ofStatus status = .ok ∨ ReturnCode.ofStatus status = .alreadyStarted) := by
        unfold ReturnCode.ofStatus
        rw [if_neg (by simp [hfail])]
        split <;> simp
      refine ⟨⟨startSteps_membersInv hbegin hpasses.steps, fun _ => held_nonneg,
        fun _ => held_nonneg, h.entry, ?_⟩, iff_of_false ?_ hcode⟩
      · unfold Phase
        rw [show (s.withStartup v).life.stop = .returned from hstop]
        refine .inr ⟨hidle, ?_⟩
        show FdGuard.held { fd := v.timerFd } = none
        rw [hpasses.timer, hnone]
        decide
      · rw [show (s.withStartup v).life.server.running = v.running from rfl, hidle]
        simp
    · have hmiddle := startSteps_membersInv hbegin hpasses.steps
      have hcode : ReturnCode.ofStatus status = .ok := if_pos hok
      refine ⟨⟨hmiddle.withTimer (hpasses.timer.trans hnone) hk,
        fun _ hfd => held_nonneg (g := u.listener) hfd,
        fun _ hfd => held_nonneg (g := { fd := (fd : Int) }) hfd, h.entry, ?_⟩,
        iff_of_true rfl (.inl hcode)⟩
      unfold Phase
      rw [show (s.withStartup (u.withTimer fd kernel)).life.stop = .returned from hstop]
      exact .inl (hmiddle.serves hready hk)

/-! ## The threads -/

/-- The event-loop thread leaves a server that serves as it is. -/
theorem Inv.serves_step (h : Inv opened s) (hserves : s.Serves) {l : LifecycleLabel}
    (hl : l ≠ .stop) {life : Lifecycle} (hstep : s.life.step l = some life) :
    Serves { s with life := life } := by
  have hframe := Lifecycle.step_loopFrame hstep hl
  have hopen (sid : Nat) (x : RtspSession) (hs : s.life.server.heap sid = some x) :=
    Lifecycle.udpFds_opened h.linear hs
  obtain ⟨lfd, hlistener, hlinterest, hlcallback⟩ := hserves.listener
  obtain ⟨tfd, htimer, htinterest, htcallback⟩ := hserves.timer
  have hlsame := Lifecycle.step_sameAt
    (Lifecycle.apart_of_held h.linear h.keysMatch (.inl rfl) hlistener) hopen hl hstep
  have htsame := Lifecycle.step_sameAt
    (Lifecycle.apart_of_held h.linear h.keysMatch (.inr rfl) htimer) hopen hl hstep
  exact ⟨hframe.running.trans hserves.running, hserves.epoll,
    ⟨lfd, hframe.listener.trans hlistener, hlsame.1.trans hlinterest, hlsame.2.trans hlcallback⟩,
    ⟨tfd, hframe.timer.trans htimer, htsame.1.trans htinterest, htsame.2.trans htcallback⟩⟩

/-- When `Run` has returned, only `Stop` goes on. -/
theorem loop_returned {s t : Lifecycle} {l : LifecycleLabel} (h : s.loop = .returned)
    (hstep : s.step l = some t) : t.loop = .returned := by
  cases Lifecycle.step_cases hstep with
  | refuse | absent | collectNone => exact h
  | accept hloop | overLimit hloop | underLimit hloop | addFailed hloop | add hloop | create hloop
  | insert hloop | lookUp hloop | request hloop | leave hloop | hangUp hloop | onError hloop
  | collect hloop | swept hloop | closeNext hloop | exitRun hloop => cases h.symm.trans hloop
  | clearRunning | notRunning | stopLoop => exact h
  | removeTimer => exact (Lifecycle.removeTimer_frame s).2.1.trans h
  | clearSessions => exact (Lifecycle.clearSessions_frame s).2.1.trans h
  | closeListener => exact (Lifecycle.closeListener_frame s).2.2.1.trans h

theorem life_step_inv (h : Inv opened s) {l : LifecycleLabel} {life : Lifecycle}
    (hstep : s.life.step l = some life) : Inv opened { s with life := life } := by
  have hentry : s.entry ≠ .outside → life.loop = .returned :=
    fun hne => loop_returned (h.entry hne) hstep
  by_cases hl : l = .stop
  · subst hl
    have hphase := h.phase
    unfold Phase at hphase
    have hmembers := h.toMembersInv.life_step hstep
    cases Lifecycle.step_cases hstep with
    | clearRunning hstop => exact ⟨hmembers, h.listener_nonneg, h.timer_nonneg, hentry, rfl⟩
    | notRunning hstop hrunning =>
      rw [hstop] at hphase
      cases hrunning.symm.trans hphase.running
    | stopLoop hstop =>
      rw [hstop] at hphase
      exact ⟨hmembers, h.listener_nonneg, h.timer_nonneg, hentry, hphase⟩
    | removeTimer hstop =>
      rw [hstop] at hphase
      have hnone := (Lifecycle.removeTimer_frame s.life).1
      have hframe : s.life.removeTimer.listener = s.life.listener ∧
          s.life.removeTimer.server.running = s.life.server.running := by
        unfold Lifecycle.removeTimer Server.removeFd
        split
        · exact ⟨rfl, rfl⟩
        · split
          · exact ⟨rfl, rfl⟩
          · split <;> exact ⟨rfl, rfl⟩
      refine ⟨hmembers, fun fd hfd => h.listener_nonneg fd (hframe.1.symm.trans hfd),
        fun fd hfd => ?_, hentry, hframe.2.trans hphase, hnone⟩
      cases hnone.symm.trans hfd
    | clearSessions hstop =>
      rw [hstop] at hphase
      obtain ⟨hlistener, htimer, -, -, -, hrunning⟩ := Lifecycle.release_frame s.life.sids s.life.emptied
      have hclosed (sids : List Nat) (srv : Server) :
          (sids.foldl Server.closeSession srv).running = srv.running := by
        induction sids generalizing srv with
        | nil => rfl
        | cons sid sids ih =>
          refine (ih _).trans ?_
          unfold Server.closeSession
          split <;> rfl
      exact ⟨hmembers, fun fd hfd => h.listener_nonneg fd (hlistener.symm.trans hfd),
        fun fd hfd => h.timer_nonneg fd (htimer.symm.trans hfd), hentry,
        hrunning.trans ((hclosed _ _).trans hphase.1), htimer.trans hphase.2⟩
    | closeListener hstop =>
      rw [hstop] at hphase
      obtain ⟨hlistener, htimer, -⟩ := Lifecycle.closeListener_frame s.life
      have hrunning : s.life.closeListener.server.running = s.life.server.running := by
        unfold Lifecycle.closeListener
        split <;> rfl
      refine ⟨hmembers, fun fd hfd => ?_, fun fd hfd => h.timer_nonneg fd (htimer.symm.trans hfd),
        hentry, .inr ⟨hrunning.trans hphase.1, htimer.trans hphase.2⟩⟩
      cases hlistener.symm.trans hfd
  · have hframe := Lifecycle.step_loopFrame hstep hl
    refine ⟨h.toMembersInv.life_step hstep,
      fun fd hfd => h.listener_nonneg fd (hframe.listener ▸ hfd),
      fun fd hfd => h.timer_nonneg fd (hframe.timer ▸ hfd), hentry, ?_⟩
    have hphase := h.phase
    unfold Phase at hphase ⊢
    have hserves := fun hserves => h.serves_step hserves hl hstep
    simp only [hframe.stop, hframe.running, hframe.timer]
    cases hstop : s.life.stop with
    | idle =>
      rw [hstop] at hphase
      exact hserves hphase
    | returned =>
      rw [hstop] at hphase
      exact hphase.imp_left hserves
    | runningCleared | loopStopped | timerRemoved | sessionsCleared =>
      rw [hstop] at hphase
      exact hphase

/-- The loop is entered, or left before its first turn. -/
theorem MembersInv.withLoop (h : MembersInv opened s) (hloop : s.life.loop = .returned)
    (running : Bool) :
    MembersInv opened { s with
      entry := .outside, life := { s.life with loopRunning := running, loop := .idle } } := by
  have hclient : CallbackPc.clientFd .idle = s.life.loop.clientFd := by rw [hloop]; rfl
  refine ⟨?_, h.sessions, h.callbacksMatch.of_members rfl rfl hclient rfl rfl rfl, ?_, ?_⟩
  · have haccounts : Lifecycle.Accounts s.life { s.life with loopRunning := running, loop := .idle } [] :=
      Lifecycle.accounts_nil (Lifecycle.holders_eq rfl rfl hclient rfl) rfl
    have hlinear := h.linear.beside haccounts.emptyHanded haccounts.opened_eq
    rw [haccounts.holders_eq] at hlinear
    exact hlinear
  · exact h.keysMatch.of_heap rfl (fun _ _ hx => hx) fun _ _ ha => CallbackPc.noConfusion ha
  · refine h.referred.keep rfl rfl fun _ ha => ?_
    rw [hloop] at ha
    cases ha

theorem enter_inv (h : Inv opened s) (ht : s.enter = some t) : Inv opened t := by
  have hlater (entry : Entry) (hentry : s.entry ≠ .outside) : Inv opened { s with entry := entry } :=
    ⟨⟨h.linear, h.sessions, h.callbacksMatch, h.keysMatch, h.referred⟩, h.listener_nonneg,
      h.timer_nonneg, fun _ => h.entry hentry, h.phase.of_members rfl rfl rfl rfl rfl⟩
  unfold enter at ht
  split at ht
  · cases ht
  · rename_i hentry
    obtain rfl := Option.some.inj ht
    exact hlater _ (by simp [hentry])
  · rename_i hentry
    obtain rfl := Option.some.inj ht
    exact hlater _ (by simp [hentry])
  · rename_i hentry
    obtain rfl := Option.some.inj ht
    exact ⟨h.toMembersInv.withLoop (h.entry (by simp [hentry])) true, h.listener_nonneg,
      h.timer_nonneg, fun hne => absurd rfl hne, h.phase.of_members rfl rfl rfl rfl rfl⟩

theorem rtspForwardStop_inv (h : Inv opened s) (hstop : s.OutOfStop) :
    Inv opened s.rtspForwardStop.1 := by
  unfold rtspForwardStop
  split
  · rename_i hrunning
    have hphase := h.phase
    unfold Phase at hphase
    rw [show s.life.stop = .returned from hstop] at hphase
    have hserves : s.Serves := by
      rcases hphase with hserves | hidle
      · exact hserves
      · cases hrunning.symm.trans hidle.1
    refine ⟨⟨?_, h.sessions, ?_, ?_, ?_⟩, h.listener_nonneg, h.timer_nonneg, h.entry, ?_⟩
    · have haccounts : Lifecycle.Accounts s.life { s.life with stop := .idle } [] :=
        Lifecycle.accounts_nil (Lifecycle.holders_eq rfl rfl rfl rfl) rfl
      have hlinear := h.linear.beside haccounts.emptyHanded haccounts.opened_eq
      rw [haccounts.holders_eq] at hlinear
      exact hlinear
    · exact h.callbacksMatch.of_members rfl rfl rfl rfl rfl rfl
    · exact h.keysMatch.of_heap rfl (fun _ _ hx => hx) fun _ _ ha => ha
    · exact h.referred.keep rfl rfl fun _ ha => ha
    · exact hserves.of_members rfl rfl rfl rfl
  · exact h

theorem rtspForwardRun_inv (h : Inv opened s) (hout : s.OutOfRun) : Inv opened s.rtspForwardRun.1 := by
  unfold rtspForwardRun
  split
  · exact ⟨⟨h.linear, h.sessions, h.callbacksMatch, h.keysMatch, h.referred⟩, h.listener_nonneg,
      h.timer_nonneg, fun _ => hout.2, h.phase.of_members rfl rfl rfl rfl rfl⟩
  · exact h

theorem step_inv (h : Inv opened s) (hstep : s.step l = some t) : Inv opened t := by
  cases l with
  | start o =>
    simp only [step] at hstep
    split at hstep
    · rename_i hready
      obtain ⟨⟨t', code⟩, hstart, rfl⟩ := Option.map_eq_some_iff.mp hstep
      exact (rtspForwardStart_inv h hready.1 hstart).1
    · cases hstep
  | stop =>
    simp only [step] at hstep
    split at hstep
    · rename_i hout
      obtain rfl := Option.some.inj hstep
      exact rtspForwardStop_inv h hout
    · cases hstep
  | run =>
    simp only [step] at hstep
    split at hstep
    · rename_i hout
      obtain rfl := Option.some.inj hstep
      exact rtspForwardRun_inv h hout
    · cases hstep
  | enter => exact enter_inv h hstep
  | life l =>
    obtain ⟨life, hlife, rfl⟩ := Option.map_eq_some_iff.mp hstep
    exact life_step_inv h hlife

theorem run_inv {config : Config} {labels : List ServiceLabel}
    (hs : Transition.run step (created config opened) labels = some s) : Inv opened s :=
  run_invariant (fun _ _ _ h hstep => step_inv h hstep) (created_inv config opened) hs

/-! ## The destructor -/

theorem closeListener_referred {s : Lifecycle} (h : s.Referred) : s.closeListener.Referred := by
  obtain ⟨-, -, hloop, hheap, hsessions⟩ := Lifecycle.closeListener_frame s
  exact h.keep hheap hsessions fun _ ha => (congrArg CallbackPc.session hloop).trans ha

theorem removeTimer_referred {s : Lifecycle} (h : s.Referred) : s.removeTimer.Referred := by
  obtain ⟨-, hloop, hheap, hsessions⟩ := Lifecycle.removeTimer_frame s
  exact h.keep hheap hsessions fun _ ha => (congrArg CallbackPc.session hloop).trans ha

/-- Afterwards there is no timer: `Stop` closes it, and a server that is not running has none. -/
theorem stopped_spec (h : Inv opened s) (hrun : s.OutOfRun) (hstop : s.OutOfStop) :
    (∃ es, Lifecycle.Accounts s.life (stopped s.life) es) ∧ (stopped s.life).timer = none ∧
      (stopped s.life).loop = .returned ∧ (stopped s.life).Referred := by
  unfold stopped
  split
  · simp only
    generalize hcleared : ({ s.life with
      server := { s.life.server with running := false }, loopRunning := false } : Lifecycle) = life
    have hbegin : Lifecycle.Accounts s.life life [] := by
      subst hcleared
      exact Lifecycle.accounts_nil (Lifecycle.holders_eq rfl rfl rfl rfl) rfl
    have hreferred : life.Referred := by
      subst hcleared
      exact h.referred.keep rfl rfl fun _ ha => ha
    have hloop : life.loop = .returned := by
      subst hcleared
      exact hrun.2
    have hchain := ((hbegin.append (Lifecycle.removeTimer_accounts life)).append
      (Lifecycle.clearSessions_accounts life.removeTimer)).append
      (Lifecycle.closeListener_accounts life.removeTimer.clearSessions)
    refine ⟨⟨_, hchain⟩, ?_, ?_, ?_⟩
    · rw [(Lifecycle.closeListener_frame _).2.1, (Lifecycle.clearSessions_frame _).1]
      exact (Lifecycle.removeTimer_frame life).1
    · rw [(Lifecycle.closeListener_frame _).2.2.1, (Lifecycle.clearSessions_frame _).2.1,
        (Lifecycle.removeTimer_frame life).2.1]
      exact hloop
    · exact closeListener_referred (Lifecycle.clearSessions_referred (removeTimer_referred hreferred))
  · rename_i hrunning
    have hphase := h.phase
    unfold Phase at hphase
    rw [show s.life.stop = .returned from hstop] at hphase
    refine ⟨⟨[], Lifecycle.accounts_nil rfl rfl⟩, ?_, hrun.2, h.referred⟩
    exact (hphase.resolve_left fun hserves => hrunning hserves.running).2

/-- With the table go the sessions, which nobody else refers to. -/
theorem destroyMembers_spec {s : Lifecycle} (hloop : s.loop = .returned) (hreferred : s.Referred) :
    (∃ es, Lifecycle.Accounts s (destroyMembers s) es) ∧ (destroyMembers s).listener = none ∧
      (destroyMembers s).timer = s.timer ∧ (destroyMembers s).loop = .returned ∧
      ∀ sid, (destroyMembers s).server.heap sid = none := by
  unfold destroyMembers
  generalize htable : ({ s with server := { s.server with sessions := ∅ } } : Lifecycle) = life
  have hempty : life.server.sessions.isEmpty = true := by
    subst htable
    rfl
  have hbegin : Lifecycle.Accounts s life [] := by
    subst htable
    exact Lifecycle.accounts_nil (Lifecycle.holders_eq rfl rfl rfl rfl) rfl
  obtain ⟨hlistener, htimer, -, hloop', hsessions, -⟩ := Lifecycle.release_frame s.sids life
  have hlife : life.timer = s.timer ∧ life.loop = .returned := by
    subst htable
    exact ⟨rfl, hloop⟩
  have hgone : (life.release s.sids).Referred := by
    refine Lifecycle.referred_release s.sids fun a ha => .inr ?_
    rw [Lifecycle.mem_sids]
    have hlive : (s.server.heap a).isSome = true := by
      subst htable
      exact ha
    refine ((Lifecycle.refers_iff s a).mp (hreferred a hlive)).resolve_right fun hsession => ?_
    rw [hloop] at hsession
    cases hsession
  obtain ⟨hnone, htimer', hloop'', hheap, -⟩ := Lifecycle.closeListener_frame (life.release s.sids)
  have hchain := (hbegin.append (Lifecycle.release_accounts s.sids life)).append
    (Lifecycle.closeListener_accounts (life.release s.sids))
  refine ⟨⟨_, hchain⟩, hnone, ?_, ?_, fun sid => ?_⟩
  · rw [htimer', htimer]
    exact hlife.1
  · rw [hloop'', hloop']
    exact hlife.2
  · rw [hheap]
    refine Option.not_isSome_iff_eq_none.mp fun hlive => ?_
    rcases (Lifecycle.refers_iff _ sid).mp (hgone sid hlive) with ⟨fd, hfd⟩ | hsession
    · rw [hsessions, Std.TreeMap.getElem?_of_isEmpty hempty] at hfd
      cases hfd
    · rw [hloop', hlife.2] at hsession
      cases hsession

/-- When all members are gone, only what the rest of the process holds is open. -/
theorem rtspForwardDestroy_opened (h : Inv opened s) (hrun : s.OutOfRun) (hstop : s.OutOfStop)
    (fd : Int) : s.rtspForwardDestroy.opened fd = opened fd := by
  obtain ⟨⟨es, haccounts⟩, htimer, hloop, hreferred⟩ := stopped_spec h hrun hstop
  obtain ⟨⟨es', haccounts'⟩, hlistener, htimer', hloop', hheap⟩ := destroyMembers_spec hloop hreferred
  have hchain := haccounts.append haccounts'
  have hlinear := h.linear.beside hchain.emptyHanded hchain.opened_eq
  rw [hchain.holders_eq] at hlinear
  have hempty (a : Holder) : (destroyMembers (stopped s.life)).holders a = none := by
    cases a <;> simp [Lifecycle.holders, hlistener, htimer', htimer, hloop', hheap, CallbackPc.clientFd]
  -- the event loop is the last holder
  have hopened : s.rtspForwardDestroy.opened fd = true ↔ opened fd = true := by
    unfold rtspForwardDestroy
    have hheld (a : Holder ⊕ Outside) (x : Int) :
        Sum.elim (destroyMembers (stopped s.life)).holders (s.outside opened) a = some x ↔
          (a = .inr .epollFd ∧ s.epollFd.held = some x) ∨
            (a = .inr (.process x) ∧ opened x = true) := by
      cases a with
      | inl a => simp [hempty]
      | inr a => simp only [Sum.elim_inr, outside_eq_some, Sum.inr.injEq]
    rw [FdGuard.close_eq_held]
    cases hepoll : s.epollFd.held with
    | none =>
      simp only [hepoll, reduceCtorEq, and_false, false_or] at hheld
      simp only [Option.toList_none, List.foldl_nil]
      rw [hlinear.inUse_iff]
      simp only [hheld, exists_eq_left]
    | some e =>
      have hprocess : opened e = false := by
        by_contra hyes
        have hboth := hlinear.unique (.inr .epollFd) (.inr (.process e)) e
          ((hheld _ _).mpr (.inl ⟨rfl, hepoll⟩)) ((hheld _ _).mpr (.inr ⟨rfl, by simpa using hyes⟩))
        cases hboth
      simp only [Option.toList_some, List.foldl_cons, List.foldl_nil, Kernel.close]
      by_cases hfd : fd = e
      · simp [hfd, hprocess]
      · rw [Function.update_of_ne hfd, hlinear.inUse_iff]
        simp only [hheld, hepoll, Option.some.injEq, Ne.symm hfd, and_false, false_or, exists_eq_left]
  exact Bool.eq_iff_iff.mpr hopened

/-- **The destructor leaves nothing open.** A server object has been started any number of times,
with any outcome of the system calls but never during a stop or before a stopped loop had returned,
and stopped any number of times while the event loop was doing anything. When it is destroyed, out
of a run and of a stop, the descriptors that are open are those that other parts of the process had
opened. -/
theorem destroy_leaves_nothing (config : Config) (opened : Int → Bool) (labels : List ServiceLabel)
    (s : Service) (hs : Transition.run step (created config opened) labels = some s)
    (hrun : s.OutOfRun) (hstop : s.OutOfStop) (fd : Int) :
    s.rtspForwardDestroy.opened fd = opened fd :=
  rtspForwardDestroy_opened (run_inv hs) hrun hstop fd

/-- The descriptors a process begins with. -/
def standardFds (fd : Int) : Bool := fd = 0 || fd = 1 || fd = 2

/-- The port is taken at first. A client is there when the server is stopped, and the next listener
and the next timer get the numbers of the old timer and of the client. -/
def restarts : List ServiceLabel :=
  [.start { goodStart with bind := false }, .start goodStart, .run, .enter, .enter, .enter,
    .life (.accept (some 8)), .life .checkLimit, .life (.addFd true), .life (.create 0 0 fun _ => 0),
    .life .insert, .stop] ++ List.replicate 5 (.life .stop) ++
  [.life .exitRun, .start { goodStart with socket := some 7, timerCreate := some 8 }]

theorem destroy_leaves_nothing_restarted :
    ∃ s, Transition.run step (created System.smallConfig standardFds) restarts = some s ∧
      s.life.server.running = true ∧ ∀ fd, s.rtspForwardDestroy.opened fd = standardFds fd := by
  have hrun : (Transition.run step (created System.smallConfig standardFds) restarts).any (fun s =>
      s.life.server.running && decide s.OutOfRun && decide s.OutOfStop) = true := by
    decide
  obtain ⟨s, hs, hfacts⟩ := (Option.any_eq_true _ _).mp hrun
  simp only [Bool.and_eq_true, decide_eq_true_eq] at hfacts
  obtain ⟨⟨hrunning, hout⟩, hstop⟩ := hfacts
  exact ⟨s, hs, hrunning, destroy_leaves_nothing System.smallConfig standardFds restarts s hs hout hstop⟩

/-- **What epoll may report has its own callback.** In every state of the life of a server object,
whatever starts and stops came before, as long as no start is called during a stop or before a
stopped loop has returned: the callback found for a descriptor on epoll's list is that of the
variable that holds it, and while the server runs the listener and the timer are on the list. -/
theorem running_server_heard (config : Config) (opened : Int → Bool) (labels : List ServiceLabel)
    (s : Service) (hs : Transition.run step (created config opened) labels = some s) :
    (∀ fd i, s.life.server.kernel.interest fd = some i →
      ∃ cb, s.life.server.callbacks fd = some cb ∧ s.life.CallbackOf fd cb) ∧
    (s.life.server.running = true → s.Serves) := by
  have h := run_inv hs
  exact ⟨h.callbacksMatch, h.phase.serves⟩

/-- The callback of the old listener is still there, and that of the client has made way for the
one of the timer. -/
theorem running_server_heard_restarted :
    ∃ s, Transition.run step (created System.smallConfig standardFds) restarts = some s ∧
      s.Serves ∧ s.life.timer = some 8 ∧ s.life.server.callbacks 5 = some .onNewConnection ∧
      s.life.server.kernel.interest 5 = none := by
  have hrun : (Transition.run step (created System.smallConfig standardFds) restarts).any (fun s =>
      s.life.server.running && s.life.timer = some 8 &&
        s.life.server.callbacks 5 = some .onNewConnection &&
        s.life.server.kernel.interest 5 = none) = true := by
    decide
  obtain ⟨s, hs, hfacts⟩ := (Option.any_eq_true _ _).mp hrun
  simp only [Bool.and_eq_true, decide_eq_true_eq] at hfacts
  obtain ⟨⟨⟨hrunning, htimer⟩, hstale⟩, hforgotten⟩ := hfacts
  obtain ⟨-, hserves⟩ := running_server_heard System.smallConfig standardFds restarts s hs
  exact ⟨s, hs, hserves hrunning, htimer, hstale, hforgotten⟩

/-- With no session, and no connection being accepted, two members hold descriptors. -/
theorem holders_idle (hnone : ∀ sid, s.life.server.heap sid = none)
    (hclient : s.life.loop.clientFd = none) {a : Holder} {fd : Int}
    (ha : s.life.holders a = some fd) : s.life.listener = some fd ∨ s.life.timer = some fd := by
  cases a with
  | listener => exact .inl ha
  | timer => exact .inr ha
  | clientFd => cases hclient.symm.trans ha
  | conn sid | udpRtpFd sid | udpRtcpFd sid => simp [Lifecycle.holders, hnone sid] at ha
  | socketFd | rtpFdGuard | rtcpFdGuard | resetFd => cases ha

/-- The configuration with the descriptors of the listener and the timer. -/
def startedConfig (config : Config) (listenerFd timerFd : Int) (h : listenerFd ≠ timerFd) : Config :=
  { config with listenerFd := listenerFd, timerFd := timerFd, listener_ne_timer := h }

/-- **Every start begins in the same state.** Whatever starts and stops came before, as long as no
start is called during a stop or before a stopped loop has returned: when the server runs and has no
session, and no connection is being accepted, then epoll and the callbacks of what it may report
are those of `Server.start`, and so are the open descriptors, apart from the event loop's own and
those of the rest of the process. -/
theorem running_server_is_start (config : Config) (opened : Int → Bool) (labels : List ServiceLabel)
    (s : Service) (hs : Transition.run step (created config opened) labels = some s)
    (hrunning : s.life.server.running = true) (hnone : ∀ sid, s.life.server.heap sid = none)
    (hclient : s.life.loop.clientFd = none) :
    ∃ (listenerFd timerFd : Int) (hne : listenerFd ≠ timerFd), ∀ fd,
      s.life.server.kernel.interest fd =
        (Server.start (startedConfig s.life.server.config listenerFd timerFd hne)).kernel.interest fd ∧
      (s.life.server.kernel.interest fd ≠ none → s.life.server.callbacks fd =
        (Server.start (startedConfig s.life.server.config listenerFd timerFd hne)).callbacks fd) ∧
      (s.life.server.kernel.opened fd = true ↔
        (Server.start (startedConfig s.life.server.config listenerFd timerFd hne)).kernel.opened fd =
          true ∨ s.epollFd.held = some fd ∨ opened fd = true) := by
  have h := run_inv hs
  obtain ⟨-, -, ⟨lfd, hlistener, hlinterest, hlcallback⟩, ⟨tfd, htimer, htinterest, htcallback⟩⟩ :=
    h.phase.serves hrunning
  have hheld (a : Holder ⊕ Outside) (x : Int) (ha : s.holders opened a = some x) :
      x = lfd ∨ x = tfd ∨ s.epollFd.held = some x ∨ opened x = true := by
    cases a with
    | inl a =>
      rcases holders_idle hnone hclient ha with hx | hx
      · exact .inl (Option.some.inj (hx.symm.trans hlistener))
      · exact .inr (.inl (Option.some.inj (hx.symm.trans htimer)))
    | inr a => exact .inr (.inr ((outside_eq_some.mp ha).imp And.right And.right))
  have hne : lfd ≠ tfd := by
    rintro rfl
    have hboth := h.linear.unique (.inl .listener) (.inl .timer) lfd hlistener htimer
    cases hboth
  refine ⟨lfd, tfd, hne, fun fd => ?_⟩
  simp only [Server.start, startedConfig]
  by_cases hl : fd = lfd
  · subst hl
    have hopen := (h.linear.inUse_iff fd).mpr ⟨.inl .listener, hlistener⟩
    simp [hlinterest, hlcallback, hopen]
  by_cases ht : fd = tfd
  · subst ht
    have hopen := (h.linear.inUse_iff fd).mpr ⟨.inl .timer, htimer⟩
    simp [hl, htinterest, htcallback, hopen]
  have hforgotten : s.life.server.kernel.interest fd = none := by
    refine Option.eq_none_iff_forall_ne_some.mpr fun i hi => ?_
    obtain ⟨cb, -, hbelongs⟩ := h.callbacksMatch fd i hi
    cases hbelongs with
    | listener h => exact hl (Option.some.inj (h.symm.trans hlistener))
    | timer h => exact ht (Option.some.inj (h.symm.trans htimer))
    | accepted h => cases hclient.symm.trans h
    | conn h => cases (hnone _).symm.trans h
  refine ⟨by simp [hforgotten, hl, ht], fun h => absurd hforgotten h, ?_⟩
  simp only [hl, ht, decide_false, Bool.or_self, Bool.false_eq_true, false_or]
  constructor
  · intro hopen
    obtain ⟨a, ha⟩ := (h.linear.inUse_iff fd).mp hopen
    exact ((hheld a fd ha).resolve_left hl).resolve_left ht
  · intro hother
    refine (h.linear.inUse_iff fd).mpr ?_
    rcases hother with hepoll | hprocess
    · exact ⟨.inr .epollFd, hepoll⟩
    · exact ⟨.inr (.process fd), if_pos hprocess⟩

/-- The server of `restarts` has had a session before. -/
theorem running_server_is_start_restarted :
    ∃ s, Transition.run step (created System.smallConfig standardFds) restarts = some s ∧
      s.life.server.created = 1 ∧ ∃ (listenerFd timerFd : Int) (hne : listenerFd ≠ timerFd), ∀ fd,
        s.life.server.kernel.interest fd = (Server.start
          (startedConfig s.life.server.config listenerFd timerFd hne)).kernel.interest fd := by
  have hrun : (Transition.run step (created System.smallConfig standardFds) restarts).any (fun s =>
      s.life.server.running && s.life.server.created = 1 && (s.life.server.heap 0).isNone &&
        s.life.loop.clientFd = none) = true := by
    decide
  obtain ⟨s, hs, hfacts⟩ := (Option.any_eq_true _ _).mp hrun
  simp only [Bool.and_eq_true, decide_eq_true_eq, Option.isNone_iff_eq_none] at hfacts
  obtain ⟨⟨⟨hrunning, hcreated⟩, hfirst⟩, hclient⟩ := hfacts
  have hnone (sid : Nat) : s.life.server.heap sid = none := by
    cases sid with
    | zero => exact hfirst
    | succ sid => exact (run_inv hs).sessions.fresh _ (by omega)
  obtain ⟨lfd, tfd, hne, hsame⟩ :=
    running_server_is_start System.smallConfig standardFds restarts s hs hrunning hnone hclient
  exact ⟨s, hs, hcreated, lfd, tfd, hne, fun fd => (hsame fd).1⟩

end Service

end RtspForward
