import RtspForward.Core.Negotiation
import RtspForward.Core.RtspServer
import RtspForward.Lib.Custody

/-!
# A started server until it is stopped

The event-loop thread with its callbacks cut at every lock, and one call of
`RtspServer::Stop` on another thread. `OnNewConnection` spans several critical sections; a
client callback looks its session up and then works on it through its own reference. Any
callback may be called at any time before `Run` returns.
-/
namespace RtspForward

open Lib Transition

/-- The session is closed, but not destroyed. -/
def Server.closeSession (srv : Server) (sid : Nat) : Server :=
  match srv.heap sid with
  | none => srv
  | some s =>
    { srv with
      kernel := (s.udpRtpFd.close.2 ++ s.udpRtcpFd.close.2).foldl Kernel.close srv.kernel
      heap := Function.update srv.heap sid (some s.close.1) }

/-- Where the event-loop thread is. -/
inductive CallbackPc where
  | idle
  /-- `OnNewConnection` has its client. -/
  | accepted (fd : Nat)
  /-- The limit was not reached. -/
  | admitted (fd : Nat)
  /-- The client is registered. -/
  | added (fd : Nat)
  /-- The session is created and not yet in the table. -/
  | created (fd sid : Nat)
  /-- A client callback has found its session. -/
  | handling (fd : Int) (sid : Nat)
  /-- `CheckTimeouts` has collected these. -/
  | sweeping (fds : List Int)
  /-- `Run` has returned. -/
  | returned
  deriving DecidableEq, Repr

/-- The session a local `shared_ptr` refers to. -/
def CallbackPc.session : CallbackPc → Option Nat
  | .created _ sid | .handling _ sid => some sid
  | _ => none

/-- The descriptor a local variable holds. -/
def CallbackPc.clientFd : CallbackPc → Option Int
  | .accepted fd | .admitted fd | .added fd => some fd
  | _ => none

/-- How far `Stop` has come. -/
inductive StopPc where
  | idle
  | runningCleared
  | loopStopped
  | timerRemoved
  | sessionsCleared
  | returned
  deriving DecidableEq, Repr

/-- The members of the server and the two threads; the listener and the timer are those that
are open. -/
structure Lifecycle where
  server : Server
  listener : Option Int
  timer : Option Int
  loopRunning : Bool := true
  loop : CallbackPc := .idle
  stop : StopPc := .idle

/-- A step of the event-loop thread, with the answers of the kernel and the clock, or the next
one of `Stop`. -/
inductive LifecycleLabel where
  | accept (client : Option Nat)
  | checkLimit
  | addFd (ok : Bool)
  | create (timestamp : Nat) (now : Int) (garbage : Nat → UInt8)
  | insert
  | lookUp (fd : Int)
  | request (data : Bytes) (env : RequestEnv)
  | leave
  | hangUp
  | onError (fd : Int)
  | collect (now : Int)
  | closeNext
  | exitRun
  | stop

namespace Lifecycle

def start (config : Config) : Lifecycle where
  server := Server.start config
  listener := some config.listenerFd
  timer := some config.timerFd

/-! ## Lifetime of sessions -/

def refers (s : Lifecycle) (sid : Nat) : Bool :=
  s.server.sessions.toList.any (fun entry => entry.2 = sid) || s.loop.session = some sid

/-- A reference is given up; with the last one the session is destroyed. -/
def releaseOne (s : Lifecycle) (sid : Nat) : Lifecycle :=
  if s.refers sid then s else { s with server := s.server.destroy sid }

def release (s : Lifecycle) (sids : List Nat) : Lifecycle := sids.foldl releaseOne s

/-! ## The event-loop thread -/

/-- `::close(client_fd); return;`. -/
def reject (s : Lifecycle) (fd : Nat) : Lifecycle :=
  { s with server := { s.server with kernel := s.server.kernel.close fd }, loop := .idle }

/-- `Listener::Accept`; a closed listener accepts nobody. -/
def accept (s : Lifecycle) (client : Option Nat) : Option Lifecycle :=
  match s.listener, client with
  | some _, some fd => (s.server.kernel.acquire fd).map fun kernel =>
      { s with server := { s.server with kernel := kernel }, loop := .accepted fd }
  | _, _ => some s

/-- The locked check of the limit. -/
def checkLimit (s : Lifecycle) (fd : Nat) : Lifecycle :=
  if s.server.limitReached then s.reject fd
  else
    { s with
      server := { s.server with totalConnections := (s.server.totalConnections + 1) % 2 ^ 64 }
      loop := .admitted fd }

/-- `AddFd`. -/
def addFd (s : Lifecycle) (fd : Nat) (ok : Bool) : Lifecycle :=
  let added := s.server.addFd fd {} .client ok
  let s := { s with server := added.1 }
  if added.2.isOk then { s with loop := .added fd } else s.reject fd

/-- `std::make_shared<RtspSession>`. -/
def create (s : Lifecycle) (fd timestamp : Nat) (now : Int) (garbage : Nat → UInt8) :
    Option Lifecycle :=
  (RtspSession.create fd s.server.config.bufferSize garbage timestamp (s.server.created % 2 ^ 64)
    now).map fun session =>
      { s with
        server := { s.server with
          heap := Function.update s.server.heap s.server.created (some session)
          created := s.server.created + 1 }
        loop := .created fd s.server.created }

/-- The locked insertion. -/
def insert (s : Lifecycle) (fd sid : Nat) : Lifecycle :=
  { s with
    server := { s.server with sessions := s.server.sessions.insert fd sid }
    loop := .idle }.release (s.server.sessions[(fd : Int)]?).toList

/-- A client callback finds its session, or returns. -/
def lookUp (s : Lifecycle) (fd : Int) : Lifecycle :=
  match s.server.sessions[fd]? with
  | none => s
  | some sid => { s with loop := .handling fd sid }

/-- One request in the loop of `ProcessConnectionData`. -/
def request (s : Lifecycle) (sid : Nat) (data : Bytes) (env : RequestEnv) : Option Lifecycle :=
  (s.server.heap sid).bind fun session =>
    let h := session.processData data env
    (s.server.kernel.events h.fdEvents).map fun kernel =>
      { s with
        server := { s.server with kernel := kernel }.setSession sid (h.session.consume data.length) }

/-- The callback returns. -/
def leave (s : Lifecycle) (sid : Nat) : Lifecycle := { s with loop := .idle }.release [sid]

/-- `CloseConnection`, before a callback goes to `loop` and gives up `held`. -/
def closeConnection (s : Lifecycle) (fd : Int) (loop : CallbackPc) (held : List Nat) : Lifecycle :=
  let closed := s.server.closeConnection fd
  { s with server := closed.1, loop := loop }.release (closed.2 ++ held)

/-- The first loop of `CheckTimeouts`. -/
def collect (s : Lifecycle) (now : Int) : Lifecycle :=
  if s.server.config.connectionTimeoutSec ≤ 0 ∧ s.server.config.sessionTimeoutSec ≤ 0 then s
  else { s with loop := .sweeping (s.server.timedOutFds now) }

/-- One turn of its second loop. -/
def closeNext (s : Lifecycle) (fd : Int) (fds : List Int) : Lifecycle :=
  { s with server := { s.server with
      timedOutSessions := (s.server.timedOutSessions + 1) % 2 ^ 64 } }.closeConnection fd
    (.sweeping fds) []

/-! ## `Stop` -/

/-- `RemoveFd`, `close` and -1. -/
def removeTimer (s : Lifecycle) : Lifecycle :=
  match s.timer with
  | none => s
  | some fd =>
    let removed := (s.server.removeFd fd).1
    { s with server := { removed with kernel := removed.kernel.close fd }, timer := none }

/-- The sessions of the table. -/
def sids (s : Lifecycle) : List Nat := s.server.sessions.toList.map (·.2)

/-- Every session is closed and the table is emptied. -/
def emptied (s : Lifecycle) : Lifecycle :=
  { s with server := { s.sids.foldl Server.closeSession s.server with sessions := ∅ } }

/-- The locked block of `Stop`. -/
def clearSessions (s : Lifecycle) : Lifecycle := s.emptied.release s.sids

/-- `listener_.Close()`. -/
def closeListener (s : Lifecycle) : Lifecycle :=
  match s.listener with
  | none => s
  | some fd =>
    { s with server := { s.server with kernel := s.server.kernel.close fd }, listener := none }

/-- The next step of the call of `Stop`. -/
def stopStep (s : Lifecycle) : Option Lifecycle :=
  match s.stop with
  | .idle =>
    if s.server.running then
      some { s with server := { s.server with running := false }, stop := .runningCleared }
    else some { s with stop := .returned }
  | .runningCleared => some { s with loopRunning := false, stop := .loopStopped }
  | .loopStopped => some { s.removeTimer with stop := .timerRemoved }
  | .timerRemoved => some { s.clearSessions with stop := .sessionsCleared }
  | .sessionsCleared => some { s.closeListener with stop := .returned }
  | .returned => none

/-! ## Steps -/

def step (s : Lifecycle) : LifecycleLabel → Option Lifecycle
  | .accept client =>
    match s.loop with
    | .idle => s.accept client
    | _ => none
  | .checkLimit =>
    match s.loop with
    | .accepted fd => some (s.checkLimit fd)
    | _ => none
  | .addFd ok =>
    match s.loop with
    | .admitted fd => some (s.addFd fd ok)
    | _ => none
  | .create timestamp now garbage =>
    match s.loop with
    | .added fd => s.create fd timestamp now garbage
    | _ => none
  | .insert =>
    match s.loop with
    | .created fd sid => some (s.insert fd sid)
    | _ => none
  | .lookUp fd =>
    match s.loop with
    | .idle => some (s.lookUp fd)
    | _ => none
  | .request data env =>
    match s.loop with
    | .handling _ sid => s.request sid data env
    | _ => none
  | .leave =>
    match s.loop with
    | .handling _ sid => some (s.leave sid)
    | _ => none
  | .hangUp =>
    match s.loop with
    | .handling fd sid => some (s.closeConnection fd .idle [sid])
    | _ => none
  | .onError fd =>
    match s.loop with
    | .idle => some (s.closeConnection fd .idle [])
    | _ => none
  | .collect now =>
    match s.loop with
    | .idle => some (s.collect now)
    | _ => none
  | .closeNext =>
    match s.loop with
    | .sweeping [] => some { s with loop := .idle }
    | .sweeping (fd :: fds) => some (s.closeNext fd fds)
    | _ => none
  | .exitRun =>
    match s.loop with
    | .idle => if s.loopRunning then none else some { s with loop := .returned }
    | _ => none
  | .stop => s.stopStep

/-- What a step can do, with what has been checked on the way. -/
inductive Step (s : Lifecycle) : LifecycleLabel → Lifecycle → Prop
  | refuse {client} : s.loop = .idle → s.listener = none ∨ client = none → Step s (.accept client) s
  | accept {fd : Nat} {kernel} : s.loop = .idle → s.listener.isSome → s.server.kernel.acquire fd = some kernel →
      Step s (.accept (some fd))
        { s with server := { s.server with kernel := kernel }, loop := .accepted fd }
  | overLimit {fd} : s.loop = .accepted fd → s.server.limitReached = true →
      Step s .checkLimit (s.reject fd)
  | underLimit {fd} : s.loop = .accepted fd → s.server.limitReached = false →
      Step s .checkLimit { s with
        server := { s.server with totalConnections := (s.server.totalConnections + 1) % 2 ^ 64 }
        loop := .admitted fd }
  | addFailed {fd ok} : s.loop = .admitted fd → (s.server.addFd fd {} .client ok).2.isOk = false →
      Step s (.addFd ok) ({ s with server := (s.server.addFd fd {} .client ok).1 }.reject fd)
  | add {fd ok} : s.loop = .admitted fd → (s.server.addFd fd {} .client ok).2.isOk = true →
      Step s (.addFd ok) { s with server := (s.server.addFd fd {} .client ok).1, loop := .added fd }
  | create {fd timestamp now garbage session} : s.loop = .added fd →
      RtspSession.create fd s.server.config.bufferSize garbage timestamp (s.server.created % 2 ^ 64)
        now = some session →
      Step s (.create timestamp now garbage) { s with
        server := { s.server with
          heap := Function.update s.server.heap s.server.created (some session)
          created := s.server.created + 1 }
        loop := .created fd s.server.created }
  | insert {fd sid} : s.loop = .created fd sid → Step s .insert (s.insert fd sid)
  | absent {fd} : s.loop = .idle → s.server.sessions[fd]? = none → Step s (.lookUp fd) s
  | lookUp {fd sid} : s.loop = .idle → s.server.sessions[fd]? = some sid →
      Step s (.lookUp fd) { s with loop := .handling fd sid }
  | request {fd sid data env session kernel} : s.loop = .handling fd sid →
      s.server.heap sid = some session →
      s.server.kernel.events (session.processData data env).fdEvents = some kernel →
      Step s (.request data env) { s with
        server := { s.server with kernel := kernel }.setSession sid
          ((session.processData data env).session.consume data.length) }
  | leave {fd sid} : s.loop = .handling fd sid → Step s .leave (s.leave sid)
  | hangUp {fd sid} : s.loop = .handling fd sid → Step s .hangUp (s.closeConnection fd .idle [sid])
  | onError {fd} : s.loop = .idle → Step s (.onError fd) (s.closeConnection fd .idle [])
  | collectNone {now} : s.loop = .idle → Step s (.collect now) s
  | collect {now} : s.loop = .idle →
      Step s (.collect now) { s with loop := .sweeping (s.server.timedOutFds now) }
  | swept : s.loop = .sweeping [] → Step s .closeNext { s with loop := .idle }
  | closeNext {fd fds} : s.loop = .sweeping (fd :: fds) → Step s .closeNext (s.closeNext fd fds)
  | exitRun : s.loop = .idle → s.loopRunning = false → Step s .exitRun { s with loop := .returned }
  | clearRunning : s.stop = .idle →
      Step s .stop { s with server := { s.server with running := false }, stop := .runningCleared }
  | notRunning : s.stop = .idle → s.server.running = false → Step s .stop { s with stop := .returned }
  | stopLoop : s.stop = .runningCleared →
      Step s .stop { s with loopRunning := false, stop := .loopStopped }
  | removeTimer : s.stop = .loopStopped → Step s .stop { s.removeTimer with stop := .timerRemoved }
  | clearSessions : s.stop = .timerRemoved →
      Step s .stop { s.clearSessions with stop := .sessionsCleared }
  | closeListener : s.stop = .sessionsCleared →
      Step s .stop { s.closeListener with stop := .returned }

variable {s t : Lifecycle} {l : LifecycleLabel}

theorem step_cases (h : s.step l = some t) : Step s l t := by
  cases l with
  | accept client =>
    simp only [step] at h
    split at h
    · unfold Lifecycle.accept at h
      split at h
      · rename_i fd' fd hlistener
        obtain ⟨kernel, hk, rfl⟩ := Option.map_eq_some_iff.mp h
        exact .accept (by assumption) (by simp [hlistener]) hk
      · rename_i hnone
        obtain rfl := Option.some.inj h
        refine .refuse (by assumption) ?_
        cases hlistener : s.listener with
        | none => exact .inl rfl
        | some x =>
          exact .inr (Option.eq_none_iff_forall_ne_some.mpr fun fd hfd => hnone x fd hlistener hfd)
    · cases h
  | checkLimit =>
    simp only [step] at h
    split at h
    · unfold Lifecycle.checkLimit at h
      split at h
      · obtain rfl := Option.some.inj h
        exact .overLimit (by assumption) (by assumption)
      · rename_i hlimit
        obtain rfl := Option.some.inj h
        exact .underLimit (by assumption) (Bool.eq_false_iff.mpr hlimit)
    · cases h
  | addFd ok =>
    simp only [step] at h
    split at h
    · unfold Lifecycle.addFd at h
      simp only at h
      split at h
      · obtain rfl := Option.some.inj h
        exact .add (by assumption) (by assumption)
      · rename_i hok
        obtain rfl := Option.some.inj h
        exact .addFailed (by assumption) (Bool.eq_false_iff.mpr hok)
    · cases h
  | create timestamp now garbage =>
    simp only [step] at h
    split at h
    · obtain ⟨session, hs, rfl⟩ := Option.map_eq_some_iff.mp h
      exact .create (by assumption) hs
    · cases h
  | insert =>
    simp only [step] at h
    split at h
    · obtain rfl := Option.some.inj h
      exact .insert (by assumption)
    · cases h
  | lookUp fd =>
    simp only [step] at h
    split at h
    · unfold Lifecycle.lookUp at h
      split at h
      · obtain rfl := Option.some.inj h
        exact .absent (by assumption) (by assumption)
      · obtain rfl := Option.some.inj h
        exact .lookUp (by assumption) (by assumption)
    · cases h
  | request data env =>
    simp only [step] at h
    split at h
    · obtain ⟨session, hs, h⟩ := Option.bind_eq_some_iff.mp h
      obtain ⟨kernel, hk, rfl⟩ := Option.map_eq_some_iff.mp h
      exact .request (by assumption) hs hk
    · cases h
  | leave =>
    simp only [step] at h
    split at h
    · obtain rfl := Option.some.inj h
      exact .leave (by assumption)
    · cases h
  | hangUp =>
    simp only [step] at h
    split at h
    · obtain rfl := Option.some.inj h
      exact .hangUp (by assumption)
    · cases h
  | onError fd =>
    simp only [step] at h
    split at h
    · obtain rfl := Option.some.inj h
      exact .onError (by assumption)
    · cases h
  | collect now =>
    simp only [step] at h
    split at h
    · unfold Lifecycle.collect at h
      split at h
      · obtain rfl := Option.some.inj h
        exact .collectNone (by assumption)
      · obtain rfl := Option.some.inj h
        exact .collect (by assumption)
    · cases h
  | closeNext =>
    simp only [step] at h
    split at h
    · obtain rfl := Option.some.inj h
      exact .swept (by assumption)
    · obtain rfl := Option.some.inj h
      exact .closeNext (by assumption)
    · cases h
  | exitRun =>
    simp only [step] at h
    split at h
    · split at h
      · cases h
      · rename_i hrunning
        obtain rfl := Option.some.inj h
        exact .exitRun (by assumption) (Bool.eq_false_iff.mpr hrunning)
    · cases h
  | stop =>
    simp only [step, stopStep] at h
    split at h
    · split at h
      · obtain rfl := Option.some.inj h
        exact .clearRunning (by assumption)
      · rename_i hrunning
        obtain rfl := Option.some.inj h
        exact .notRunning (by assumption) (Bool.eq_false_iff.mpr hrunning)
    · obtain rfl := Option.some.inj h
      exact .stopLoop (by assumption)
    · obtain rfl := Option.some.inj h
      exact .removeTimer (by assumption)
    · obtain rfl := Option.some.inj h
      exact .clearSessions (by assumption)
    · obtain rfl := Option.some.inj h
      exact .closeListener (by assumption)
    · cases h

/-- Without a stop in between, the steps of `OnNewConnection` add up to it. -/
theorem onNewConnection_steps {fd : Nat} {addOk : Bool} {timestamp : Nat} {now : Int}
    {garbage : Nat → UInt8} {res : Server × List Nat} (hloop : s.loop = .idle)
    (hlistener : s.listener.isSome)
    (h : s.server.onNewConnection (.accepted fd addOk timestamp now garbage) = some res) :
    ∃ labels, run step s labels = some ({ s with server := res.1 }.release res.2) := by
  obtain ⟨listener, hlistener⟩ := Option.isSome_iff_exists.mp hlistener
  simp only [Server.onNewConnection, Option.bind_eq_bind] at h
  obtain ⟨kernel, hk, h⟩ := Option.bind_eq_some_iff.mp h
  have haccept : s.step (.accept (some fd)) = some
      { s with server := { s.server with kernel := kernel }, loop := .accepted fd } := by
    simp [step, hloop, Lifecycle.accept, hlistener, hk]
  by_cases hlimit : ({ s.server with kernel := kernel } : Server).limitReached = true
  · rw [if_pos hlimit] at h
    obtain rfl := Option.some.inj h
    refine ⟨[.accept (some fd), .checkLimit], run_cons.mpr ⟨_, haccept, run_cons.mpr ⟨_, ?_, rfl⟩⟩⟩
    simp [step, Lifecycle.checkLimit, hlimit, reject, release, hloop]
  · rw [if_neg hlimit] at h
    have hfd : ¬ (fd : Int) < 0 := by omega
    cases addOk with
    | false =>
      simp only [Server.addFd, hfd, ↓reduceIte, Bool.false_eq_true, Status.isOk_mk] at h
      obtain rfl := Option.some.inj h
      refine ⟨[.accept (some fd), .checkLimit, .addFd false], run_cons.mpr ⟨_, haccept, ?_⟩⟩
      simp [run, step, Lifecycle.checkLimit, hlimit, Lifecycle.addFd, Server.addFd, hfd, reject,
        release, hloop]
    | true =>
      simp only [Server.addFd, hfd, ↓reduceIte, Status.isOk_mk, decide_true] at h
      obtain ⟨session, hs, h⟩ := Option.bind_eq_some_iff.mp h
      obtain rfl := Option.some.inj h
      refine ⟨[.accept (some fd), .checkLimit, .addFd true, .create timestamp now garbage, .insert],
        run_cons.mpr ⟨_, haccept, ?_⟩⟩
      simp [-Nat.reducePow, run, step, Lifecycle.checkLimit, hlimit, Lifecycle.addFd, Server.addFd,
        hfd, Lifecycle.create, hs, Lifecycle.insert, hloop]

end Lifecycle

end RtspForward
