import RtspForward.Core.Startup
import RtspForward.Core.Transport
import Mathlib.Logic.Relation

/-!
# The steps of a start

Whatever `RtspServer::Start` meets, it is a sequence of a few elementary steps, and only the last
one of a start that succeeds sets the running flag. A server may be started after failed starts
and after a stop, with sessions that are still there, so nothing is said here about the other
descriptors of the process.
-/
namespace RtspForward

namespace Startup

/-- An elementary step of `Start`. -/
inductive StartStep : Startup → Startup → Prop
  | closeListener {s : Startup} : StartStep s { s with
      kernel := s.listener.close.2.foldl Kernel.close s.kernel, listener := s.listener.close.1 }
  | socket {s : Startup} {fd : Nat} {kernel : Kernel} : s.listener.fd < 0 →
      s.kernel.acquire fd = some kernel →
      StartStep s { s with kernel := kernel, listener := { fd := fd } }
  | epollCreate {s : Startup} {fd : Nat} {kernel : Kernel} : s.epollFd.isValid = false →
      s.kernel.acquire fd = some kernel →
      StartStep s { s with kernel := kernel, epollFd := { fd := fd }, loopRunning := true }
  | addListener {s : Startup} : 0 ≤ s.listener.fd → StartStep s { s with
      kernel := s.kernel.register s.listener.fd {}
      callbacks := Function.update s.callbacks s.listener.fd (some .onNewConnection) }
  | timerCreate {s : Startup} {fd : Nat} {kernel : Kernel} : s.timerFd = -1 →
      s.kernel.acquire fd = some kernel → StartStep s { s with kernel := kernel, timerFd := fd }
  | closeTimer {s : Startup} : 0 ≤ s.timerFd → StartStep s s.closeTimer

abbrev StartSteps := Relation.ReflTransGen StartStep

/-- A call of `Start` that goes through some steps, and leaves the timer and the running flag as
they are. -/
structure Passes (s t : Startup) : Prop where
  steps : StartSteps s t
  timer : t.timerFd = s.timerFd
  running : t.running = s.running

variable {s t u : Startup} {o : StartOutcomes} {status : Status}

theorem passes_refl (s : Startup) : Passes s s := ⟨.refl, rfl, rfl⟩

theorem Passes.trans (h : Passes s t) (h' : Passes t u) : Passes s u :=
  ⟨h.steps.trans h'.steps, h'.timer.trans h.timer, h'.running.trans h.running⟩

theorem passes_step (h : StartStep s t) (htimer : t.timerFd = s.timerFd)
    (hrunning : t.running = s.running) : Passes s t :=
  ⟨.single h, htimer, hrunning⟩

/-- The outcome of two calls is that of the first one that fails, or of the second. -/
theorem andThen_cases {r : Option (Startup × Status)} {f : Startup → Option (Startup × Status)}
    (h : andThen r f = some (t, status)) :
    (r = some (t, status) ∧ status.isOk = false) ∨
      ∃ u ok, r = some (u, ok) ∧ ok.isOk = true ∧ f u = some (t, status) := by
  obtain ⟨⟨u, ok⟩, hr, h⟩ := Option.bind_eq_some_iff.mp h
  simp only at h
  split at h
  · rename_i hok
    exact .inr ⟨u, ok, hr, hok, h⟩
  · rename_i hfail
    cases h
    exact .inl ⟨hr, Bool.eq_false_iff.mpr hfail⟩

/-- A call on the new socket changes nothing that is kept here. -/
theorem andThen_check {f : Startup → Option (Startup × Status)} {answer : Status}
    (h : andThen (s.check answer) f = some (t, status)) : t = s ∨ f s = some (t, status) := by
  rcases andThen_cases h with ⟨h, -⟩ | ⟨u, ok, h', -, h⟩
  · exact .inl (Prod.mk.inj (Option.some.inj h)).1.symm
  · obtain rfl := (Prod.mk.inj (Option.some.inj h')).1
    exact .inr h

/-! ## The listener -/

theorem create_passes {socket : Option Nat} (h : s.create socket = some (t, status)) :
    Passes s t ∧ (status.isOk = true → 0 ≤ t.listener.fd) := by
  have hclosed : Passes s { s with
      kernel := s.listener.close.2.foldl Kernel.close s.kernel, listener := s.listener.close.1 } :=
    passes_step .closeListener rfl rfl
  unfold create at h
  cases socket with
  | none =>
    cases h
    exact ⟨hclosed, fun hok => by cases hok⟩
  | some fd =>
    obtain ⟨kernel, hk, h⟩ := Option.map_eq_some_iff.mp h
    cases h
    refine ⟨hclosed.trans (passes_step (.socket ?_ hk) rfl rfl), fun _ => ?_⟩
    · exact Action.close_fd_neg s.listener
    · exact Int.natCast_nonneg fd

theorem listenerListen_passes (h : s.listenerListen o = some (t, status)) :
    Passes s t ∧ (status.isOk = true → 0 ≤ t.listener.fd) := by
  rcases andThen_cases h with ⟨h, hfail⟩ | ⟨u, ok, hu, hok, h⟩
  · exact create_passes h
  · obtain ⟨hpasses, hfd⟩ := create_passes hu
    have hsame : t = u := by
      rcases andThen_check h with rfl | h
      · rfl
      rcases andThen_check h with rfl | h
      · rfl
      rcases andThen_check h with rfl | h
      · rfl
      exact (Prod.mk.inj (Option.some.inj h)).1.symm
    subst hsame
    exact ⟨hpasses, fun _ => hfd hok⟩

/-! ## The event loop -/

theorem init_passes {epollCreate : Option Nat} (h : s.init epollCreate = some (t, status)) :
    Passes s t ∧ t.listener = s.listener ∧ (status.isOk = true → t.epollFd.isValid = true) := by
  unfold init at h
  split at h
  · rename_i hvalid
    cases h
    exact ⟨passes_refl s, rfl, fun _ => hvalid⟩
  · rename_i hvalid
    cases epollCreate with
    | none =>
      cases h
      exact ⟨passes_refl s, rfl, fun hok => by cases hok⟩
    | some fd =>
      obtain ⟨kernel, hk, h⟩ := Option.map_eq_some_iff.mp h
      cases h
      refine ⟨passes_step (.epollCreate (Bool.eq_false_iff.mpr hvalid) hk) rfl rfl, rfl, fun _ => ?_⟩
      simp [FdGuard.isValid]

/-- The listener is registered from here on, or the registration has failed. -/
theorem addListener_passes (hepoll : s.epollFd.isValid = true) (hfd : 0 ≤ s.listener.fd)
    {ok : Bool} (h : s.addFd s.listener.fd .onNewConnection ok = some (t, status)) :
    Passes s t ∧ (status.isOk = true → t.epollFd.isValid = true ∧ 0 ≤ t.listener.fd ∧
      t.kernel.interest t.listener.fd = some {} ∧
      t.callbacks t.listener.fd = some .onNewConnection) := by
  unfold addFd at h
  rw [hepoll, if_neg (by simp), if_neg (by omega)] at h
  split at h
  · cases h
    refine ⟨passes_step (.addListener hfd) rfl rfl, fun _ => ⟨hepoll, hfd, ?_, ?_⟩⟩
    · simp [Kernel.register]
    · simp
  · cases h
    exact ⟨passes_refl s, fun hok => by cases hok⟩

/-! ## The timer -/

/-- The timer is running and registered, and the server runs. -/
def withTimer (s : Startup) (fd : Nat) (kernel : Kernel) : Startup :=
  { s with
    kernel := kernel.register fd {}
    callbacks := Function.update s.callbacks fd (some .checkTimeouts)
    timerFd := fd
    running := true }

theorem startTimer_cases (hepoll : s.epollFd.isValid = true) (htimer : s.timerFd = -1)
    (h : s.startTimer o = some (t, status)) :
    (status.isOk = false ∧ Passes s t) ∨
      (status.isOk = true ∧ ∃ (fd : Nat) (kernel : Kernel),
        s.kernel.acquire fd = some kernel ∧ t = s.withTimer fd kernel) := by
  unfold startTimer at h
  cases hfd : o.timerCreate with
  | none =>
    rw [hfd] at h
    cases h
    have hsame : ({ s with timerFd := -1 } : Startup) = s := by rw [← htimer]
    rw [hsame]
    exact .inl ⟨rfl, passes_refl s⟩
  | some fd =>
    rw [hfd] at h
    obtain ⟨kernel, hk, h⟩ := Option.bind_eq_some_iff.mp h
    have hpos : (0 : Int) ≤ fd := Int.natCast_nonneg fd
    -- a timer that cannot be used is closed again
    have hclosed : Passes s ({ s with kernel := kernel, timerFd := fd } : Startup).closeTimer := by
      refine ⟨?_, htimer.symm, rfl⟩
      exact .tail (.single (.timerCreate htimer hk)) (.closeTimer hpos)
    simp only at h
    split at h
    · cases h
      exact .inl ⟨rfl, hclosed⟩
    · unfold addFd at h
      rw [if_neg (by simp [hepoll]), if_neg (by omega)] at h
      split at h
      · cases h
        exact .inr ⟨rfl, fd, kernel, hk, rfl⟩
      · cases h
        exact .inl ⟨rfl, hclosed⟩

/-! ## The whole start -/

/-- Where a start is when only the timer is missing. -/
structure Ready (s : Startup) : Prop where
  epoll : s.epollFd.isValid = true
  listener : 0 ≤ s.listener.fd
  interest : s.kernel.interest s.listener.fd = some {}
  callback : s.callbacks s.listener.fd = some .onNewConnection

/-- A start that fails has taken some steps and leaves no timer. One that succeeds has taken some
steps until the listener was registered, and then has started the timer. -/
theorem start_cases (htimer : s.timerFd = -1) (h : s.start o = some (t, status)) :
    (status.isOk = false ∧ Passes s t) ∨
      (status.isOk = true ∧ ∃ (u : Startup) (fd : Nat) (kernel : Kernel), Passes s u ∧ u.Ready ∧
        u.kernel.acquire fd = some kernel ∧ t = u.withTimer fd kernel) := by
  rcases andThen_cases h with ⟨h, hfail⟩ | ⟨s₁, ok₁, h₁, hok₁, h⟩
  · exact .inl ⟨hfail, (listenerListen_passes h).1⟩
  obtain ⟨hpasses₁, hfd⟩ := listenerListen_passes h₁
  rcases andThen_cases h with ⟨h, hfail⟩ | ⟨s₂, ok₂, h₂, hok₂, h⟩
  · exact .inl ⟨hfail, hpasses₁.trans (init_passes h).1⟩
  obtain ⟨hpasses₂, hlistener, hepoll⟩ := init_passes h₂
  have hpos : 0 ≤ s₂.listener.fd := by
    rw [hlistener]
    exact hfd hok₁
  have hinit := hpasses₁.trans hpasses₂
  rcases andThen_cases h with ⟨h, hfail⟩ | ⟨s₃, ok₃, h₃, hok₃, h⟩
  · exact .inl ⟨hfail, hinit.trans (addListener_passes (hepoll hok₂) hpos h).1⟩
  obtain ⟨hpasses₃, hregistered⟩ := addListener_passes (hepoll hok₂) hpos h₃
  obtain ⟨hepoll₃, hpos₃, hinterest, hcallback⟩ := hregistered hok₃
  have hadded := hinit.trans hpasses₃
  rcases startTimer_cases hepoll₃ (hadded.timer.trans htimer) h with ⟨hfail, hpasses⟩ | ⟨hok, fd, kernel, hk, rfl⟩
  · exact .inl ⟨hfail, hadded.trans hpasses⟩
  · exact .inr ⟨hok, s₃, fd, kernel, hadded, ⟨hepoll₃, hpos₃, hinterest, hcallback⟩, hk, rfl⟩

end Startup

end RtspForward
