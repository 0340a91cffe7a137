import RtspForward.Core.ConnectionData
import Mathlib.Logic.Function.Basic

/-!
# The server

`core/rtsp_server.cc` and `net/epoll_loop.cc`: the session table, the event loop's
callbacks, and the part of the kernel they act on. Session objects live in a heap and are
named by the order of their creation, as the table, the snapshot of a broadcast and the
local variables of a callback can refer to one object at a time. A function that gives up
references returns them; the object goes when the last one is gone.
-/
namespace RtspForward

/-- The interest registered for a descriptor. -/
structure Interest where
  read : Bool := true
  write : Bool := false
  deriving DecidableEq, Repr

/-- The descriptors of the process that are open, and epoll's interest list. -/
structure Kernel where
  opened : Int → Bool
  interest : Int → Option Interest

namespace Kernel

/-- A new descriptor: a number that is not in use, and without registration. -/
def acquire (k : Kernel) (fd : Int) : Option Kernel :=
  if k.opened fd then none
  else some { opened := Function.update k.opened fd true,
              interest := Function.update k.interest fd none }

/-- `::close`. A closed descriptor leaves the interest list. -/
def close (k : Kernel) (fd : Int) : Kernel where
  opened := Function.update k.opened fd false
  interest := Function.update k.interest fd none

def event (k : Kernel) : FdEvent → Option Kernel
  | .opened fd => k.acquire fd
  | .closed fd => some (k.close fd)

/-- A sequence of events; there is no outcome when a number in use is handed out. -/
def events (k : Kernel) (es : List FdEvent) : Option Kernel := es.foldlM event k

def register (k : Kernel) (fd : Int) (i : Interest) : Kernel :=
  { k with interest := Function.update k.interest fd (some i) }

def deregister (k : Kernel) (fd : Int) : Kernel :=
  { k with interest := Function.update k.interest fd none }

end Kernel

/-- The three callbacks the server registers. -/
inductive Callback where
  | onNewConnection
  | checkTimeouts
  | client
  deriving DecidableEq, Repr

/-- The answer of `accept`, and with it what the rest of `OnNewConnection` meets: whether
the registration succeeds, the clocks, and the fresh memory of the buffers. -/
inductive AcceptOutcome where
  | failed
  | accepted (fd : Nat) (addOk : Bool) (timestamp : Nat) (now : Int) (garbage : Nat → UInt8)

/-- The configuration and the descriptors of a started server. -/
structure Config where
  maxSessions : Int
  bufferSize : Nat
  connectionTimeoutSec : Int
  sessionTimeoutSec : Int
  listenerFd : Int
  timerFd : Int
  listener_ne_timer : listenerFd ≠ timerFd

structure Server where
  config : Config
  running : Bool := true
  kernel : Kernel
  callbacks : Int → Option Callback
  sessions : Std.TreeMap Int Nat := ∅
  heap : Nat → Option RtspSession := fun _ => none
  created : Nat := 0
  totalConnections : Nat := 0
  timedOutSessions : Nat := 0
  totalDroppedSessions : Nat := 0

/-- A further drop makes the session a slow client. -/
def RtspSession.becomesSlow (s : RtspSession) : Bool :=
  s.conn.recordDrop.consecutiveDrops ≥ kMaxConsecutiveDrops

/-- `RecordDrop`, and the marking of a slow client. -/
def RtspSession.recordDrop (s : RtspSession) : RtspSession :=
  { s with
    conn := s.conn.recordDrop
    state := if s.becomesSlow then .kTeardown else s.state }

/-- `RecordSuccess`. -/
def RtspSession.recordSuccess (s : RtspSession) : RtspSession :=
  { s with conn := s.conn.recordSuccess }

namespace Server

/-- A server right after a successful `Start`. -/
def start (config : Config) : Server where
  config := config
  kernel :=
    { opened := fun fd => fd = config.listenerFd || fd = config.timerFd
      interest := fun fd => if fd = config.listenerFd ∨ fd = config.timerFd then some {} else none }
  callbacks := fun fd =>
    if fd = config.listenerFd then some .onNewConnection
    else if fd = config.timerFd then some .checkTimeouts
    else none

def setSession (srv : Server) (sid : Nat) (s : RtspSession) : Server :=
  { srv with heap := Function.update srv.heap sid (some s) }

/-! ## The event loop -/

/-- `AddFd`; `ok` is the answer of `epoll_ctl`. -/
def addFd (srv : Server) (fd : Int) (i : Interest) (cb : Callback) (ok : Bool) : Server × Status :=
  if fd < 0 then (srv, .invalidArgument "invalid fd")
  else if ok then
    ({ srv with
        kernel := srv.kernel.register fd i
        callbacks := Function.update srv.callbacks fd (some cb) }, .ok)
  else (srv, .networkError "epoll_ctl ADD failed")

/-- `ModifyFd`: `EPOLL_CTL_MOD` on a descriptor that is not registered fails. -/
def modifyFd (srv : Server) (fd : Int) (i : Interest) : Server × Status :=
  if fd < 0 then (srv, .invalidArgument "invalid fd")
  else if (srv.kernel.interest fd).isSome then
    ({ srv with kernel := srv.kernel.register fd i }, .ok)
  else (srv, .networkError "epoll_ctl MOD failed")

/-- `RemoveFd`: the callback stays when `EPOLL_CTL_DEL` fails. -/
def removeFd (srv : Server) (fd : Int) : Server × Status :=
  if fd < 0 then (srv, .invalidArgument "invalid fd")
  else if (srv.kernel.interest fd).isSome then
    ({ srv with
        kernel := srv.kernel.deregister fd
        callbacks := Function.update srv.callbacks fd none }, .ok)
  else (srv, .networkError "epoll_ctl DEL failed")

/-! ## Connections -/

/-- `CloseConnection`, with the references it gives up. -/
def closeConnection (srv : Server) (fd : Int) : Server × List Nat :=
  match srv.sessions[fd]? with
  | none => (srv, [])
  | some sid =>
    let srv := (srv.removeFd fd).1
    ({ srv with sessions := srv.sessions.erase fd }, [sid])

/-- `sessions_.size() >= static_cast<size_t>(max_sessions_)`. -/
def limitReached (srv : Server) : Bool :=
  srv.sessions.size ≥ (srv.config.maxSessions % 2 ^ 64).toNat

/-- `OnNewConnection`. There is no outcome when `accept` hands out a number in use, or when
the buffers of the session cannot be allocated. -/
def onNewConnection (srv : Server) : AcceptOutcome → Option (Server × List Nat)
  | .failed => some (srv, [])
  | .accepted fd addOk timestamp now garbage => do
    let kernel ← srv.kernel.acquire fd
    let srv := { srv with kernel := kernel }
    if srv.limitReached then some ({ srv with kernel := srv.kernel.close fd }, [])
    else
      let srv := { srv with totalConnections := (srv.totalConnections + 1) % 2 ^ 64 }
      let added := srv.addFd fd {} .client addOk
      let srv := added.1
      if added.2.isOk then do
        let s ← RtspSession.create fd srv.config.bufferSize garbage timestamp
          (srv.created % 2 ^ 64) now
        some ({ srv with
          heap := Function.update srv.heap srv.created (some s)
          created := srv.created + 1
          sessions := srv.sessions.insert fd srv.created }, (srv.sessions[(fd : Int)]?).toList)
      else some ({ srv with kernel := srv.kernel.close fd }, [])

/-- The descriptors `CheckTimeouts` collects, in the order of the table. -/
def timedOutFds (srv : Server) (now : Int) : List Int :=
  (srv.sessions.toList.filter fun entry =>
    match srv.heap entry.2 with
    | none => false
    | some s =>
      s.state = .kTeardown ||
        s.isTimedOut srv.config.connectionTimeoutSec srv.config.sessionTimeoutSec now).map (·.1)

/-- One turn of the second loop of `CheckTimeouts`. -/
def sweep (acc : Server × List Nat) (fd : Int) : Server × List Nat :=
  let srv := { acc.1 with timedOutSessions := (acc.1.timedOutSessions + 1) % 2 ^ 64 }
  let closed := srv.closeConnection fd
  (closed.1, acc.2 ++ closed.2)

/-- `CheckTimeouts`. -/
def checkTimeouts (srv : Server) (now : Int) : Server × List Nat :=
  if srv.config.connectionTimeoutSec ≤ 0 ∧ srv.config.sessionTimeoutSec ≤ 0 then (srv, [])
  else (srv.timedOutFds now).foldl sweep (srv, [])

/-- The sessions a broadcast selects, in the order of the table. -/
def playingSessions (srv : Server) : List Nat :=
  (srv.sessions.toList.filter fun entry =>
    match srv.heap entry.2 with
    | none => false
    | some s => s.state = .kPlaying).map (·.2)

/-- The destructor of a session: its UDP descriptors, then the one of its connection. -/
def destroy (srv : Server) (sid : Nat) : Server :=
  match srv.heap sid with
  | none => srv
  | some s =>
    let fds := s.udpRtpFd.close.2 ++ s.udpRtcpFd.close.2 ++ s.conn.fdGuard.close.2
    { srv with
      kernel := fds.foldl Kernel.close srv.kernel
      heap := Function.update srv.heap sid none }

end Server

end RtspForward
