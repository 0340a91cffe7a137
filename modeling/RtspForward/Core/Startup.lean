import RtspForward.Core.RtspServer
import RtspForward.Lib.Transition

/-!
# Starting the server

`RtspServer::Start`, with the system calls of the listening socket, of the event loop and of
the timer. Three of its exits clean up, and only the timer.
-/
namespace RtspForward

open Lib Transition

/-- The answers of the system calls of one `Start`; `address` is that of `inet_pton`. -/
structure StartOutcomes where
  socket : Option Nat
  setReuseAddr : Bool
  getFlags : Bool
  setFlags : Bool
  address : Bool
  bind : Bool
  listen : Bool
  epollCreate : Option Nat
  addListener : Bool
  timerCreate : Option Nat
  setTime : Bool
  addTimer : Bool
  deriving DecidableEq, Repr

/-- What `Start` works on: the descriptors of the process, the socket of the listener, the
event loop with its callbacks, the timer and the running flag. -/
structure Startup where
  kernel : Kernel
  listener : FdGuard := {}
  epollFd : FdGuard := {}
  loopRunning : Bool := false
  callbacks : Int → Option Callback := fun _ => none
  timerFd : Int := -1
  running : Bool := false

namespace Startup

/-- A server that has been created in a process with some open descriptors. -/
def created (opened : Int → Bool) : Startup where
  kernel := { opened := opened, interest := fun _ => none }

/-- The next call is made when the last one has succeeded. -/
def andThen (r : Option (Startup × Status)) (f : Startup → Option (Startup × Status)) :
    Option (Startup × Status) :=
  r.bind fun p => if p.2.isOk then f p.1 else some p

/-! ## The listener -/

/-- `Socket::Create`. An old socket is closed first. -/
def create (s : Startup) (socket : Option Nat) : Option (Startup × Status) :=
  let closed := s.listener.close
  let s := { s with kernel := closed.2.foldl Kernel.close s.kernel, listener := closed.1 }
  match socket with
  | none => some (s, .networkError "socket() failed")
  | some fd =>
    (s.kernel.acquire fd).map fun kernel => ({ s with kernel := kernel, listener := { fd := fd } }, .ok)

/-- `SetReuseAddr`. -/
def setReuseAddr (s : Startup) (o : StartOutcomes) : Status :=
  if s.listener.isValid = false then .error "socket not created"
  else if o.setReuseAddr then .ok else .networkError "setsockopt SO_REUSEADDR failed"

/-- `SetNonBlocking`. -/
def setNonBlocking (s : Startup) (o : StartOutcomes) : Status :=
  if s.listener.isValid = false then .error "socket not created"
  else if o.getFlags = false then .networkError "fcntl F_GETFL failed"
  else if o.setFlags then .ok else .networkError "fcntl F_SETFL failed"

/-- `Bind`. -/
def bind (s : Startup) (o : StartOutcomes) : Status :=
  if s.listener.isValid = false then .error "socket not created"
  else if o.address = false then .invalidArgument "invalid address"
  else if o.bind then .ok else .networkError "bind() failed"

/-- `Socket::Listen`. -/
def listen (s : Startup) (o : StartOutcomes) : Status :=
  if s.listener.isValid = false then .error "socket not created"
  else if o.listen then .ok else .networkError "listen() failed"

/-- A call that changes nothing that is kept here. -/
def check (s : Startup) (status : Status) : Option (Startup × Status) := some (s, status)

/-- `Listener::Listen`. -/
def listenerListen (s : Startup) (o : StartOutcomes) : Option (Startup × Status) :=
  andThen (s.create o.socket) fun s =>
  andThen (s.check (s.setReuseAddr o)) fun s =>
  andThen (s.check (s.setNonBlocking o)) fun s =>
  andThen (s.check (s.bind o)) fun s =>
  s.check (s.listen o)

/-! ## The event loop and the timer -/

/-- `EpollLoop::Init`. -/
def init (s : Startup) (epollCreate : Option Nat) : Option (Startup × Status) :=
  if s.epollFd.isValid then some (s, .ok)
  else
    match epollCreate with
    | none => some (s, .error "epoll_create1 failed")
    | some fd =>
      (s.kernel.acquire fd).map fun kernel =>
        ({ s with kernel := kernel, epollFd := { fd := fd }, loopRunning := true }, .ok)

/-- `AddFd`. -/
def addFd (s : Startup) (fd : Int) (cb : Callback) (ok : Bool) : Option (Startup × Status) :=
  if s.epollFd.isValid = false then some (s, .error "epoll not initialized")
  else if fd < 0 then some (s, .invalidArgument "invalid fd")
  else if ok then
    some ({ s with
      kernel := s.kernel.register fd {}
      callbacks := Function.update s.callbacks fd (some cb) }, .ok)
  else some (s, .networkError "epoll_ctl ADD failed")

/-- `close(timer_fd_); timer_fd_ = -1;`. -/
def closeTimer (s : Startup) : Startup :=
  { s with kernel := s.kernel.close s.timerFd, timerFd := -1 }

/-- The part of `Start` from `timerfd_create` on. -/
def startTimer (s : Startup) (o : StartOutcomes) : Option (Startup × Status) :=
  match o.timerCreate with
  | none => some ({ s with timerFd := -1 }, .error "timerfd_create failed")
  | some fd =>
    (s.kernel.acquire fd).bind fun kernel =>
      let s := { s with kernel := kernel, timerFd := fd }
      if o.setTime = false then some (s.closeTimer, .error "timerfd_settime failed")
      else
        (s.addFd s.timerFd .checkTimeouts o.addTimer).map fun added =>
          if added.2.isOk then ({ added.1 with running := true }, .ok)
          else (added.1.closeTimer, added.2)

/-- `Start`. There is no outcome when the kernel hands out a number in use. -/
def start (s : Startup) (o : StartOutcomes) : Option (Startup × Status) :=
  andThen (s.listenerListen o) fun s =>
  andThen (s.init o.epollCreate) fun s =>
  andThen (s.addFd s.listener.fd .onNewConnection o.addListener) fun s =>
  s.startTimer o

/-- A `Start` that fails. -/
def failedStart (s : Startup) (o : StartOutcomes) : Option Startup :=
  (s.start o).bind fun r => if r.2.isOk then none else some r.1

/-- Nothing is left of a start: the server is not running, no descriptor is open beyond those
that were open before, the event loop's own apart, and neither epoll nor the callbacks know
any descriptor. -/
def NothingLeft (s : Startup) (opened : Int → Bool) : Prop :=
  s.running = false ∧ (∀ fd, fd ≠ s.epollFd.fd → s.kernel.opened fd = opened fd) ∧
    (∀ fd, s.kernel.interest fd = none) ∧ ∀ fd, s.callbacks fd = none

/-- The start comes as far as the registration of the listener. -/
def RegistersListener (s : Startup) (o : StartOutcomes) : Prop :=
  o.socket.isSome ∧ o.setReuseAddr ∧ o.getFlags ∧ o.setFlags ∧ o.address ∧ o.bind ∧ o.listen ∧
    (s.epollFd.isValid ∨ o.epollCreate.isSome) ∧ o.addListener

instance (s : Startup) (o : StartOutcomes) : Decidable (s.RegistersListener o) :=
  inferInstanceAs (Decidable (_ ∧ _))

/-! ## What is open, and who holds it -/

/-- The descriptor is in one of the three places of the server. -/
def Holds (s : Startup) (fd : Int) : Prop :=
  0 ≤ fd ∧ (fd = s.listener.fd ∨ fd = s.epollFd.fd ∨ fd = s.timerFd)

/-- Open are the descriptors from before and those the server holds, which are new and
different; epoll knows at most the listener and the timer. -/
structure Inv (opened : Int → Bool) (s : Startup) : Prop where
  running : s.running = false
  opened_iff : ∀ fd, s.kernel.opened fd = true ↔ opened fd = true ∨ s.Holds fd
  fresh : ∀ fd, s.Holds fd → opened fd = false
  listener_ne : 0 ≤ s.listener.fd → s.listener.fd ≠ s.epollFd.fd
  timer_ne : 0 ≤ s.timerFd → s.timerFd ≠ s.listener.fd ∧ s.timerFd ≠ s.epollFd.fd
  interest : ∀ fd, s.kernel.interest fd ≠ none → 0 ≤ fd ∧ (fd = s.listener.fd ∨ fd = s.timerFd)

variable {opened : Int → Bool} {s t : Startup} {o : StartOutcomes}

theorem created_inv (opened : Int → Bool) : Inv opened (created opened) where
  running := rfl
  opened_iff fd := by
    refine (or_iff_left ?_).symm
    simp only [created, Holds]
    omega
  fresh fd h := by
    simp only [created, Holds] at h
    omega
  listener_ne h := by simp [created] at h
  timer_ne h := by simp [created] at h
  interest fd h := absurd rfl h

/-- A number that is not in use is neither from before nor held. -/
theorem Inv.not_opened (h : Inv opened s) {fd : Int} (hfd : s.kernel.opened fd = false) :
    opened fd = false ∧ ¬ s.Holds fd := by
  have hno : ¬ (opened fd = true ∨ s.Holds fd) := by
    rw [← h.opened_iff, hfd]
    simp
  exact ⟨by simpa using fun hyes => hno (.inl hyes), fun hholds => hno (.inr hholds)⟩

theorem closeListener_inv (h : Inv opened s) (htimer : s.timerFd = -1) :
    Inv opened { s with kernel := s.listener.close.2.foldl Kernel.close s.kernel,
                        listener := s.listener.close.1 } := by
  unfold FdGuard.close
  by_cases hvalid : s.listener.fd ≥ 0
  · rw [if_pos hvalid]
    have hne := h.listener_ne hvalid
    refine ⟨h.running, fun fd => ?_, fun fd hholds => ?_, fun hfd => by simp at hfd, fun hfd => ?_,
      fun fd hfd => ?_⟩
    · have hiff := h.opened_iff fd
      have hfresh := h.fresh s.listener.fd ⟨hvalid, .inl rfl⟩
      simp only [Holds, List.foldl_cons, List.foldl_nil, Kernel.close, Function.update_apply] at hiff ⊢
      by_cases heq : fd = s.listener.fd
      · rw [if_pos heq, heq, hfresh]
        simp only [Bool.false_eq_true, false_or, false_iff]
        omega
      · rw [if_neg heq, hiff]
        refine or_congr_right ?_
        omega
    · refine h.fresh fd ⟨hholds.1, ?_⟩
      have hpos := hholds.1
      rcases hholds.2 with hfd | hrest
      · simp only at hfd
        omega
      · exact .inr hrest
    · simp only [htimer] at hfd
      omega
    · simp only [List.foldl_cons, List.foldl_nil, Kernel.close, Function.update_apply] at hfd
      by_cases heq : fd = s.listener.fd
      · rw [if_pos heq] at hfd
        exact absurd rfl hfd
      · rw [if_neg heq] at hfd
        obtain ⟨hpos, hlistener | htimer'⟩ := h.interest fd hfd
        · exact absurd hlistener heq
        · exact ⟨hpos, .inr htimer'⟩
  · rw [if_neg hvalid]
    exact h

/-- What the kernel answers when it hands out a descriptor. -/
theorem acquire_spec {k k' : Kernel} {fd : Int} (h : k.acquire fd = some k') :
    k.opened fd = false ∧ (∀ x, k'.opened x = true ↔ k.opened x = true ∨ x = fd) ∧
      ∀ x, k'.interest x ≠ none → k.interest x ≠ none ∧ x ≠ fd := by
  unfold Kernel.acquire at h
  split at h
  · cases h
  · rename_i hclosed
    obtain rfl := Option.some.inj h
    refine ⟨by simpa using hclosed, fun x => ?_, fun x hx => ?_⟩
    · by_cases hx : x = fd <;> simp [hx]
    · by_cases heq : x = fd
      · simp [heq] at hx
      · exact ⟨by simpa [heq] using hx, heq⟩

/-- A new descriptor is put in a place that was empty. -/
theorem Inv.acquire (h : Inv opened s) {fd : Nat} (hk : s.kernel.acquire fd = some t.kernel)
    (hrunning : t.running = s.running)
    (hplace : (t.listener.fd = fd ∧ s.listener.fd < 0 ∧ t.epollFd = s.epollFd ∧ t.timerFd = s.timerFd) ∨
      (t.listener = s.listener ∧ t.epollFd.fd = fd ∧ s.epollFd.fd < 0 ∧ t.timerFd = s.timerFd) ∨
      (t.listener = s.listener ∧ t.epollFd = s.epollFd ∧ t.timerFd = fd ∧ s.timerFd < 0)) :
    Inv opened t := by
  obtain ⟨hclosed, hopened, hinterest⟩ := acquire_spec hk
  obtain ⟨hfresh, hnot⟩ := h.not_opened hclosed
  have hholds (x : Int) : t.Holds x ↔ s.Holds x ∨ x = fd := by
    unfold Holds
    rcases hplace with ⟨h₁, h₂, h₃, h₄⟩ | ⟨h₁, h₂, h₃, h₄⟩ | ⟨h₁, h₂, h₃, h₄⟩
    · rw [h₁, h₃, h₄]
      omega
    · rw [h₁, h₂, h₄]
      omega
    · rw [h₁, h₂, h₃]
      omega
  have hlistener := h.listener_ne
  have htimer := h.timer_ne
  unfold Holds at hnot
  refine ⟨hrunning.trans h.running, fun x => ?_, fun x hx => ?_, fun hpos => ?_, fun hpos => ?_,
    fun x hx => ?_⟩
  · rw [hopened, h.opened_iff, hholds, or_assoc]
  · rcases (hholds x).mp hx with hold | hnew
    · exact h.fresh x hold
    · rw [hnew]
      exact hfresh
  · rcases hplace with ⟨h₁, h₂, h₃, h₄⟩ | ⟨h₁, h₂, h₃, h₄⟩ | ⟨h₁, h₂, h₃, h₄⟩
    · rw [h₁, h₃]
      omega
    · rw [h₁] at hpos ⊢
      rw [h₂]
      omega
    · rw [h₁] at hpos ⊢
      rw [h₂]
      exact hlistener hpos
  · rcases hplace with ⟨h₁, h₂, h₃, h₄⟩ | ⟨h₁, h₂, h₃, h₄⟩ | ⟨h₁, h₂, h₃, h₄⟩
    · rw [h₄] at hpos ⊢
      rw [h₁, h₃]
      exact ⟨by omega, (htimer hpos).2⟩
    · rw [h₄] at hpos ⊢
      rw [h₁, h₂]
      exact ⟨(htimer hpos).1, by omega⟩
    · rw [h₁, h₂, h₃]
      omega
  · obtain ⟨hold, hne⟩ := hinterest x hx
    obtain ⟨hpos, hwhere⟩ := h.interest x hold
    refine ⟨hpos, ?_⟩
    rcases hplace with ⟨h₁, h₂, h₃, h₄⟩ | ⟨h₁, h₂, h₃, h₄⟩ | ⟨h₁, h₂, h₃, h₄⟩
    · rw [h₁, h₄]
      omega
    · rw [h₁, h₄]
      exact hwhere
    · rw [h₁, h₃]
      omega

/-! ## One start -/

/-- Between the system calls the timer is closed. -/
structure Between (opened : Int → Bool) (s : Startup) : Prop extends Inv opened s where
  timer : s.timerFd = -1

/-- `Create` leaves a socket exactly when the kernel has handed one out. -/
theorem create_spec (h : Between opened s) {status : Status}
    (ht : s.create o.socket = some (t, status)) :
    Between opened t ∧ t.callbacks = s.callbacks ∧ t.epollFd = s.epollFd ∧
      (0 ≤ t.listener.fd ↔ o.socket.isSome) ∧ (status.isOk ↔ o.socket.isSome) := by
  have hclosed := closeListener_inv h.toInv h.timer
  have hfd : s.listener.close.1.fd < 0 := by
    unfold FdGuard.close
    split
    · show (-1 : Int) < 0
      decide
    · rename_i hneg
      exact Int.not_le.mp hneg
  unfold create at ht
  cases hsocket : o.socket with
  | none =>
    rw [hsocket] at ht
    cases ht
    exact ⟨⟨hclosed, h.timer⟩, rfl, rfl, by simpa using hfd, by decide⟩
  | some fd =>
    rw [hsocket] at ht
    simp only [Option.map_eq_some_iff] at ht
    obtain ⟨kernel, hk, ht⟩ := ht
    cases ht
    exact ⟨⟨hclosed.acquire hk rfl (.inl ⟨rfl, hfd, rfl, rfl⟩), h.timer⟩, rfl, rfl, by simp,
      iff_of_true rfl rfl⟩

/-- The calls on the new socket all succeed or leave it where it is. -/
theorem listenerListen_spec (h : Between opened s) {status : Status}
    (ht : s.listenerListen o = some (t, status)) :
    Between opened t ∧ t.callbacks = s.callbacks ∧ t.epollFd = s.epollFd ∧
      (0 ≤ t.listener.fd ↔ o.socket.isSome) ∧
      (status.isOk ↔ o.socket.isSome ∧ o.setReuseAddr ∧ o.getFlags ∧ o.setFlags ∧ o.address ∧
        o.bind ∧ o.listen) := by
  unfold listenerListen andThen at ht
  obtain ⟨⟨s', status'⟩, hcreate, ht⟩ := Option.bind_eq_some_iff.mp ht
  obtain ⟨hbetween, hcallbacks, hepoll, hfd, hok⟩ := create_spec h hcreate
  simp only at ht
  by_cases hsocket : o.socket.isSome = true
  · have hvalid : s'.listener.isValid = true := by simpa [FdGuard.isValid] using hfd.mpr hsocket
    rw [if_pos (hok.mpr hsocket)] at ht
    have hreuse : (s'.setReuseAddr o).isOk = o.setReuseAddr := by
      unfold setReuseAddr
      rw [hvalid]
      cases o.setReuseAddr <;> rfl
    have hblocking : (s'.setNonBlocking o).isOk = (o.getFlags && o.setFlags) := by
      unfold setNonBlocking
      rw [hvalid]
      cases o.getFlags <;> cases o.setFlags <;> rfl
    have hbind : (s'.bind o).isOk = (o.address && o.bind) := by
      unfold Startup.bind
      rw [hvalid]
      cases o.address <;> cases o.bind <;> rfl
    have hlisten : (s'.listen o).isOk = o.listen := by
      unfold Startup.listen
      rw [hvalid]
      cases o.listen <;> rfl
    simp only [check, Option.bind_some] at ht
    -- the first call that fails decides the status, and none of them changes the state
    have hall : t = s' ∧ status.isOk = (o.setReuseAddr && (o.getFlags && o.setFlags) &&
        (o.address && o.bind) && o.listen) := by
      split at ht
      · rename_i h₁
        split at ht
        · rename_i h₂
          split at ht
          · rename_i h₃
            cases ht
            rw [← hreuse, ← hblocking, ← hbind, h₁, h₂, h₃, hlisten]
            exact ⟨rfl, rfl⟩
          · rename_i h₃
            cases ht
            rw [← hreuse, ← hblocking, ← hbind, h₁, h₂, Bool.eq_false_iff.mpr h₃]
            exact ⟨rfl, rfl⟩
        · rename_i h₂
          cases ht
          rw [← hreuse, ← hblocking, h₁, Bool.eq_false_iff.mpr h₂]
          exact ⟨rfl, rfl⟩
      · rename_i h₁
        cases ht
        rw [← hreuse, Bool.eq_false_iff.mpr h₁]
        exact ⟨rfl, rfl⟩
    obtain ⟨rfl, hstatus⟩ := hall
    refine ⟨hbetween, hcallbacks, hepoll, hfd, ?_⟩
    rw [hstatus]
    simp [hsocket, and_assoc]
  · rw [if_neg (by rwa [hok])] at ht
    cases ht
    refine ⟨hbetween, hcallbacks, hepoll, hfd, ?_⟩
    rw [hok]
    simp [hsocket]

/-- `Init` gets a descriptor unless there is one. -/
theorem init_spec (h : Between opened s) {status : Status}
    (ht : s.init o.epollCreate = some (t, status)) :
    Between opened t ∧ t.callbacks = s.callbacks ∧ t.listener = s.listener ∧
      (status.isOk ↔ s.epollFd.isValid ∨ o.epollCreate.isSome) ∧
      (status.isOk → t.epollFd.isValid) := by
  unfold init at ht
  split at ht
  · rename_i hvalid
    cases ht
    exact ⟨h, rfl, rfl, by simp [hvalid], fun _ => hvalid⟩
  · rename_i hvalid
    cases hepoll : o.epollCreate with
    | none =>
      rw [hepoll] at ht
      cases ht
      exact ⟨h, rfl, rfl, by simp [hvalid], by simp⟩
    | some fd =>
      rw [hepoll] at ht
      simp only [Option.map_eq_some_iff] at ht
      obtain ⟨kernel, hk, ht⟩ := ht
      cases ht
      have hneg : s.epollFd.fd < 0 := by simpa [FdGuard.isValid] using hvalid
      exact ⟨⟨h.toInv.acquire hk rfl (.inr (.inl ⟨rfl, rfl, hneg, rfl⟩)), h.timer⟩, rfl, rfl,
        by simp, fun _ => by simp [FdGuard.isValid]⟩

/-- A registration of the listener or the timer. -/
theorem register_inv (h : Inv opened s) {fd : Int} (hfd : 0 ≤ fd ∧ (fd = s.listener.fd ∨ fd = s.timerFd))
    (callbacks : Int → Option Callback) :
    Inv opened { s with kernel := s.kernel.register fd {}, callbacks := callbacks } := by
  refine ⟨h.running, h.opened_iff, h.fresh, h.listener_ne, h.timer_ne, fun x hx => ?_⟩
  by_cases heq : x = fd
  · rw [heq]
    exact hfd
  · simp only [Kernel.register, Function.update_apply, if_neg heq] at hx
    exact h.interest x hx

theorem addFd_listener_spec (h : Between opened s) (hlistener : 0 ≤ s.listener.fd)
    (hepoll : s.epollFd.isValid) {status : Status}
    (ht : s.addFd s.listener.fd .onNewConnection o.addListener = some (t, status)) :
    Between opened t ∧ t.listener = s.listener ∧ (status.isOk ↔ o.addListener) ∧
      t.callbacks = if o.addListener then
        Function.update s.callbacks s.listener.fd (some .onNewConnection) else s.callbacks := by
  unfold addFd at ht
  rw [hepoll, if_neg (by simp), if_neg (by omega)] at ht
  split at ht
  · rename_i hok
    cases ht
    exact ⟨⟨register_inv h.toInv ⟨hlistener, .inl rfl⟩ _, h.timer⟩, rfl, by simp [hok], by rw [if_pos hok]⟩
  · rename_i hok
    cases ht
    exact ⟨h, rfl, by simp [hok], by rw [if_neg hok]⟩

/-- The timer is closed again. -/
theorem closeTimer_inv (h : Inv opened s) (hpos : 0 ≤ s.timerFd) : Between opened s.closeTimer := by
  obtain ⟨hlistener, hepoll⟩ := h.timer_ne hpos
  have hfresh := h.fresh s.timerFd ⟨hpos, .inr (.inr rfl)⟩
  have hiff := h.opened_iff
  unfold Holds at hiff
  refine ⟨⟨h.running, fun fd => ?_, fun fd hholds => ?_, h.listener_ne, fun hno => ?_,
    fun fd hfd => ?_⟩, rfl⟩
  · simp only [closeTimer, Holds, Kernel.close, Function.update_apply]
    by_cases heq : fd = s.timerFd
    · rw [if_pos heq, heq, hfresh]
      simp only [Bool.false_eq_true, false_or, false_iff]
      omega
    · rw [if_neg heq, hiff]
      refine or_congr_right ?_
      omega
  · refine h.fresh fd ⟨hholds.1, ?_⟩
    have hpos' := hholds.1
    rcases hholds.2 with hfd | hfd | hfd
    · exact .inl hfd
    · exact .inr (.inl hfd)
    · simp only [closeTimer] at hfd
      omega
  · simp [closeTimer] at hno
  · simp only [closeTimer, Kernel.close, Function.update_apply] at hfd
    by_cases heq : fd = s.timerFd
    · rw [if_pos heq] at hfd
      exact absurd rfl hfd
    · rw [if_neg heq] at hfd
      obtain ⟨hfd', hwhere | htimer⟩ := h.interest fd hfd
      · exact ⟨hfd', .inl hwhere⟩
      · exact absurd htimer heq

/-- When the timer fails, nothing of it is left. -/
theorem startTimer_spec (h : Between opened s) (hepoll : s.epollFd.isValid) {status : Status}
    (ht : s.startTimer o = some (t, status)) (hfail : ¬ status.isOk) :
    Between opened t ∧ t.listener = s.listener ∧ t.callbacks = s.callbacks := by
  unfold startTimer at ht
  cases htimer : o.timerCreate with
  | none =>
    rw [htimer] at ht
    cases ht
    have hsame : ({ s with timerFd := -1 } : Startup) = s := by rw [← h.timer]
    rw [hsame]
    exact ⟨h, rfl, rfl⟩
  | some fd =>
    rw [htimer] at ht
    obtain ⟨kernel, hk, ht⟩ := Option.bind_eq_some_iff.mp ht
    have hneg : s.timerFd < 0 := by
      rw [h.timer]
      decide
    have hinv : Inv opened { s with kernel := kernel, timerFd := fd } :=
      h.toInv.acquire hk rfl (.inr (.inr ⟨rfl, rfl, rfl, hneg⟩))
    have hclosed := closeTimer_inv hinv (Int.natCast_nonneg fd)
    simp only at ht
    split at ht
    · cases ht
      exact ⟨hclosed, rfl, rfl⟩
    · unfold addFd at ht
      rw [if_neg (by simpa using hepoll), if_neg (by simp)] at ht
      split at ht
      · cases ht
        exact absurd rfl hfail
      · cases ht
        exact ⟨hclosed, rfl, rfl⟩

/-- A start that fails leaves the timer closed, and the socket open if there is one; the
callback of the listener stays once it has been registered. -/
theorem failedStart_spec (h : Between opened s) {status : Status}
    (ht : s.start o = some (t, status)) (hfail : ¬ status.isOk) :
    Between opened t ∧ (0 ≤ t.listener.fd ↔ o.socket.isSome) ∧
      t.callbacks = if s.RegistersListener o then
        Function.update s.callbacks t.listener.fd (some .onNewConnection) else s.callbacks := by
  unfold start andThen at ht
  obtain ⟨⟨s₁, status₁⟩, hlisten, ht⟩ := Option.bind_eq_some_iff.mp ht
  obtain ⟨hbetween₁, hcallbacks₁, hepoll₁, hfd₁, hok₁⟩ := listenerListen_spec h hlisten
  simp only at ht
  split at ht
  · rename_i hyes₁
    have hcalls := hok₁.mp hyes₁
    obtain ⟨⟨s₂, status₂⟩, hinit, ht⟩ := Option.bind_eq_some_iff.mp ht
    obtain ⟨hbetween₂, hcallbacks₂, hlistener₂, hok₂, hvalid₂⟩ := init_spec hbetween₁ hinit
    simp only at ht
    split at ht
    · rename_i hyes₂
      obtain ⟨⟨s₃, status₃⟩, hadd, ht⟩ := Option.bind_eq_some_iff.mp ht
      have hpos : 0 ≤ s₂.listener.fd := by
        rw [hlistener₂]
        exact hfd₁.mpr hcalls.1
      obtain ⟨hbetween₃, hlistener₃, hok₃, hcallbacks₃⟩ :=
        addFd_listener_spec hbetween₂ hpos (hvalid₂ hyes₂) hadd
      have hepoll : s.epollFd.isValid ∨ o.epollCreate.isSome := by
        rw [← hepoll₁]
        exact hok₂.mp hyes₂
      have hregisters : s.RegistersListener o ↔ o.addListener := by
        obtain ⟨hsocket, hreuse, hget, hset, haddress, hbind, hlisten⟩ := hcalls
        unfold RegistersListener
        simp only [hsocket, hreuse, hget, hset, haddress, hbind, hlisten, hepoll, true_and]
      simp only at ht
      split at ht
      · rename_i hyes₃
        have hepoll₃ : s₃.epollFd.isValid := by
          unfold addFd at hadd
          rw [if_neg (by simpa using hvalid₂ hyes₂), if_neg (by omega)] at hadd
          split at hadd <;> cases hadd <;> exact hvalid₂ hyes₂
        obtain ⟨hbetween, hlistener, hcallbacks⟩ := startTimer_spec hbetween₃ hepoll₃ ht hfail
        refine ⟨hbetween, ?_, ?_⟩
        · rw [hlistener, hlistener₃, hlistener₂]
          exact hfd₁
        · rw [hcallbacks, hcallbacks₃, hlistener, hlistener₃, hcallbacks₂, hcallbacks₁]
          simp only [hregisters]
      · rename_i hno₃
        cases ht
        refine ⟨hbetween₃, ?_, ?_⟩
        · rw [hlistener₃, hlistener₂]
          exact hfd₁
        · rw [hcallbacks₃, hlistener₃, hcallbacks₂, hcallbacks₁]
          simp only [hregisters]
    · rename_i hno₂
      cases ht
      refine ⟨hbetween₂, ?_, ?_⟩
      · rw [hlistener₂]
        exact hfd₁
      · have hno : ¬ s.RegistersListener o := by
          intro hregisters
          have hepoll := hregisters.2.2.2.2.2.2.2.1
          rw [← hepoll₁] at hepoll
          exact hno₂ (hok₂.mpr hepoll)
        rw [if_neg hno, hcallbacks₂, hcallbacks₁]
  · rename_i hno₁
    cases ht
    refine ⟨hbetween₁, hfd₁, ?_⟩
    have hno : ¬ s.RegistersListener o := by
      intro hregisters
      exact hno₁ (hok₁.mpr ⟨hregisters.1, hregisters.2.1, hregisters.2.2.1, hregisters.2.2.2.1,
        hregisters.2.2.2.2.1, hregisters.2.2.2.2.2.1, hregisters.2.2.2.2.2.2.1⟩)
    rw [if_neg hno, hcallbacks₁]

/-! ## Many failed starts -/

theorem failedStart_eq (h : s.failedStart o = some t) :
    ∃ status : Status, s.start o = some (t, status) ∧ ¬ status.isOk := by
  obtain ⟨⟨t', status⟩, hstart, hrest⟩ := Option.bind_eq_some_iff.mp h
  simp only at hrest
  split at hrest
  · cases hrest
  · rename_i hfail
    cases hrest
    exact ⟨status, hstart, hfail⟩

theorem failedStart_between (h : Between opened s) (ht : s.failedStart o = some t) :
    Between opened t := by
  obtain ⟨status, hstart, hfail⟩ := failedStart_eq ht
  exact (failedStart_spec h hstart hfail).1

theorem failedStarts_between {os : List StartOutcomes}
    (h : Transition.run failedStart (created opened) os = some s) : Between opened s :=
  run_invariant (fun _ _ _ hs ht => failedStart_between hs ht) ⟨created_inv opened, rfl⟩ h

/-- The callbacks are empty as long as no start has registered the listener. -/
theorem callbacks_empty_iff {os : List StartOutcomes}
    (h : Transition.run failedStart (created opened) os = some s) :
    (∀ fd, s.callbacks fd = none) ↔
      Along failedStart (fun s o => ¬ s.RegistersListener o) (created opened) os := by
  have hstep (s : Startup) (o : StartOutcomes) (t : Startup) (hs : Between opened s)
      (ht : s.failedStart o = some t) :
      (∀ fd, t.callbacks fd = none) ↔ (∀ fd, s.callbacks fd = none) ∧ ¬ s.RegistersListener o := by
    obtain ⟨status, hstart, hfail⟩ := failedStart_eq ht
    rw [(failedStart_spec hs hstart hfail).2.2]
    by_cases hregisters : s.RegistersListener o
    · rw [if_pos hregisters]
      refine iff_of_false (fun hnone => ?_) (fun hno => hno.2 hregisters)
      have hcallback := hnone t.listener.fd
      rw [Function.update_self] at hcallback
      cases hcallback
    · rw [if_neg hregisters]
      exact (and_iff_left hregisters).symm
  have hiff := along_iff_of_invariant (fun _ _ _ hs ht => failedStart_between hs ht) hstep
     ⟨created_inv opened, rfl⟩ h
  rw [hiff]
  exact and_iff_right fun fd => rfl

/-- Nothing is left exactly when the socket and the callbacks are gone. -/
theorem nothingLeft_iff (h : Between opened s) :
    s.NothingLeft opened ↔ ¬ 0 ≤ s.listener.fd ∧ ∀ fd, s.callbacks fd = none := by
  constructor
  · rintro ⟨-, hopened, -, hcallbacks⟩
    refine ⟨fun hpos => ?_, hcallbacks⟩
    have hholds : s.Holds s.listener.fd := ⟨hpos, .inl rfl⟩
    have hopen := (h.opened_iff s.listener.fd).mpr (.inr hholds)
    rw [hopened _ (h.listener_ne hpos), h.fresh _ hholds] at hopen
    cases hopen
  · intro ⟨hneg, hcallbacks⟩
    have htimer := h.timer
    refine ⟨h.running, fun fd hfd => ?_, fun fd => ?_, hcallbacks⟩
    · have hiff := h.opened_iff fd
      have hno : ¬ s.Holds fd := by
        unfold Holds
        omega
      simp only [hno, or_false] at hiff
      exact Bool.eq_iff_iff.mpr hiff
    · by_contra hsome
      have hwhere := h.interest fd hsome
      omega

end Startup

open Startup

/-- **A failed start leaves nothing only if it never had a socket.** After any number of failed
starts, one more fails: nothing of them is left exactly when `socket` itself has failed in this
one and none of the earlier ones came as far as the registration of the listener. -/
theorem failed_start_leaves_nothing_iff (opened : Int → Bool) (os : List StartOutcomes)
    (o : StartOutcomes) (s t : Startup) (status : Status)
    (hs : Transition.run failedStart (created opened) os = some s)
    (ht : s.start o = some (t, status)) (hfail : status.isOk = false) :
    t.NothingLeft opened ↔
      o.socket = none ∧ Along failedStart (fun s o => ¬ s.RegistersListener o) (created opened) os := by
  obtain ⟨hbetween, hfd, hcallbacks⟩ :=
    failedStart_spec (failedStarts_between hs) ht (by rw [hfail]; exact Bool.false_ne_true)
  rw [nothingLeft_iff hbetween, hfd, hcallbacks, ← callbacks_empty_iff hs]
  simp only [Option.isSome_iff_ne_none, ne_eq, not_not]
  refine and_congr_right fun hsocket => ?_
  have hno : ¬ s.RegistersListener o := by
    intro hregisters
    have hsome := hregisters.1
    rw [hsocket] at hsome
    cases hsome
  rw [if_neg hno]

/-- Every call succeeds. -/
def goodStart : StartOutcomes :=
  ⟨some 5, true, true, true, true, true, true, some 6, true, some 7, true, true⟩

/-- The port is taken, and later the process has no descriptor left. -/
theorem nothing_left_without_socket :
    ∃ s t status, Transition.run failedStart (created fun _ => false)
        [{ goodStart with bind := false }] = some s ∧
      s.start { goodStart with socket := none } = some (t, status) ∧
      t.NothingLeft fun _ => false := by
  refine ⟨_, _, _, rfl, rfl, ?_⟩
  exact (failed_start_leaves_nothing_iff (fun _ => false) [{ goodStart with bind := false }]
    { goodStart with socket := none } _ _ (.networkError "socket() failed") rfl rfl
    (by decide)).mpr ⟨rfl, by decide⟩

/-- No timer can be created. The server is not running, and its socket listens on, known to
epoll and to the callbacks. -/
theorem listener_left_behind :
    ∃ t status, (created fun _ => false).start { goodStart with timerCreate := none } =
        some (t, status) ∧ status.isOk = false ∧ t.running = false ∧
      t.listener.fd = 5 ∧ t.kernel.opened 5 = true ∧ t.kernel.interest 5 = some {} ∧
      t.callbacks 5 = some .onNewConnection ∧ ¬ t.NothingLeft fun _ => false := by
  refine ⟨_, _, rfl, by decide, rfl, rfl, by decide, by decide, by decide, fun h => ?_⟩
  have hinterest := h.2.2.1 5
  exact absurd hinterest (by decide)

end RtspForward
