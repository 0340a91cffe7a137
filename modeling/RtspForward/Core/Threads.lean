import RtspForward.Core.RtspServer
import RtspForward.Lib.Transition

/-!
# The two threads

The stream thread runs `BroadcastRtp`; the event-loop thread runs `EpollLoop::Run` and the
callbacks it dispatches. One step is a call under `send_mutex_` or `sessions_mutex_`, a system
call, or the load of a descriptor that a later system call uses; the handling of one request,
with the one `Send` of its reply, is a step too, and so are `OnNewConnection`, `CloseConnection`
and `CheckTimeouts`. Labels carry every answer of the kernel and of the clock. Clients may break
their connection at any time; a write on a broken connection fails, and if it is a `writev` it
also raises `SIGPIPE`, whose default action ends the process. Runs begin when the first start of
the server has succeeded, and contain no step of `Stop`.
-/
namespace RtspForward

/-- An entry of the results of `Wait`. -/
structure EventResult where
  fd : Int
  read : Bool := false
  write : Bool := false
  error : Bool := false
  deriving DecidableEq, Repr

/-- Where the stream thread is in `BroadcastRtp`. -/
inductive StreamPc where
  | idle
  /-- At the head of the loop over the snapshot. -/
  | next
  /-- `ForwardRtp` has read the endpoint and will call `sendto`. -/
  | udp (sid : Nat) (endpoint : UdpEndpoint)
  /-- `ForwardRtp` will call `SendV` on the descriptor it has read. -/
  | tcp (sid : Nat) (fd : Int)
  /-- `ForwardRtp` has failed. -/
  | failed (sid : Nat)
  /-- `ForwardRtp` has succeeded. -/
  | sent (sid : Nat)
  /-- `NeedFlush` was true: write interest will be registered. -/
  | register (sid : Nat) (fd : Int)
  deriving DecidableEq, Repr

structure Stream where
  pc : StreamPc := .idle
  packet : RtpPacket := ⟨[], 0⟩
  snapshot : List Nat := []
  todo : List Nat := []
  deriving DecidableEq, Repr

/-- The functions a client callback calls, one for each event bit. -/
inductive Handler where
  | onRead
  | onWrite
  | onError
  deriving DecidableEq, Repr

/-- Where the event-loop thread is in the handler it runs. -/
inductive LoopPc where
  | idle
  /-- In the loop of `ProcessConnectionData`. -/
  | reading (sid : Nat)
  /-- `ProcessConnectionData` has handled a request and will call `NeedFlush`. -/
  | checkRead (sid : Nat)
  | registerRead (sid : Nat)
  /-- `OnWrite` has found the session and will call `Flush`. -/
  | flushing (sid : Nat)
  | checkWrite (sid : Nat)
  /-- `OnWrite` found the buffer empty and will drop write interest. -/
  | unregister (sid : Nat)
  deriving DecidableEq, Repr

/-- The session the thread is working on. -/
def StreamPc.session : StreamPc → Option Nat
  | .idle | .next => none
  | .udp sid _ | .tcp sid _ | .failed sid | .sent sid | .register sid _ => some sid

/-- The session the local `shared_ptr` of a handler refers to. -/
def LoopPc.session : LoopPc → Option Nat
  | .idle => none
  | .reading sid | .checkRead sid | .registerRead sid => some sid
  | .flushing sid | .checkWrite sid | .unregister sid => some sid

/-- The event-loop thread: the entries still to be dispatched, the handlers of the current
callback still to be run, and, for the statements only, the table when `Wait` returned. -/
structure Loop where
  pc : LoopPc := .idle
  batch : List EventResult := []
  fd : Int := -1
  handlers : List Handler := []
  table : Std.TreeMap Int Nat := ∅

structure System where
  server : Server
  stream : Stream := {}
  loop : Loop := {}
  broken : Nat → Bool := fun _ => false
  killed : Bool := false

inductive Label where
  | broadcast (packet : RtpPacket)
  | load (now : Int)
  | sendTo (o : SendToOutcome)
  | sendV (o : WriteOutcome)
  | recordDrop
  | recordSuccess
  | streamModify
  | finish
  | wait (results : List EventResult)
  | dispatch (accept : AcceptOutcome) (expired : Option Int)
  | handle (recv : RecvOutcome)
  | turn (env : RequestEnv) (beyond : Nat → UInt8)
  | checkRead
  | registerRead
  | flush (o : WriteOutcome)
  | checkWrite
  | unregister
  | disconnect (sid : Nat)

namespace System

def start (config : Config) : System := { server := Server.start config }

/-! ## Lifetime of sessions -/

/-- Some reference to the session is left. -/
def refers (s : System) (sid : Nat) : Bool :=
  s.server.sessions.toList.any (fun entry => entry.2 = sid) || s.stream.snapshot.contains sid ||
    s.loop.pc.session = some sid

/-- A reference is given up; with the last one the session is destroyed. -/
def releaseOne (s : System) (sid : Nat) : System :=
  if s.refers sid then s else { s with server := s.server.destroy sid }

def release (s : System) (sids : List Nat) : System := sids.foldl releaseOne s

/-! ## Writes on a connection that may be broken -/

/-- A write that is issued on a broken connection fails. -/
def answerable (broken : Bool) (call : Option WriteCall) (o : WriteOutcome) : Bool :=
  !(broken && call.isSome) || o = .hardError

/-- A `writev` on a broken connection raises `SIGPIPE`. -/
def raises (broken : Bool) (call : Option WriteCall) : Bool :=
  broken && call.any fun c => c.site = .writev

/-! ## The stream thread -/

/-- The locked copy of the playing sessions. -/
def broadcast (s : System) (packet : RtpPacket) : System :=
  if s.server.running then
    { s with stream := { pc := .next, packet := packet, snapshot := s.server.playingSessions,
                         todo := s.server.playingSessions } }
  else s

/-- `ForwardRtp` up to the load of the descriptor it will use. -/
def load (s : System) (sid : Nat) (todo : List Nat) (session : RtspSession) (now : Int) : System :=
  let session := session.updateActivity now
  let pc := if session.isUdp then .udp sid (session.udpEndpoint s.stream.packet)
    else .tcp sid session.conn.fd
  { s with
    server := s.server.setSession sid session
    stream := { s.stream with pc := pc, todo := todo } }

/-- `ForwardUdp`. -/
def sendTo (s : System) (sid : Nat) (endpoint : UdpEndpoint) (o : SendToOutcome) : System :=
  let res := RtpForwarder.forwardUdp endpoint s.stream.packet o
  { s with stream := { s.stream with pc := if res.2.isOk then .sent sid else .failed sid } }

/-- `ForwardTcp`. -/
def sendV (s : System) (sid : Nat) (session : RtspSession) (res : WriteResult × Status) : System :=
  { s with
    server := s.server.setSession sid { session with conn := res.1.conn }
    stream := { s.stream with pc := if res.2.isOk then .sent sid else .failed sid }
    killed := raises (s.broken sid) res.1.call }

/-- `ForwardRtp` has failed: the drop is recorded, and a slow client is counted. -/
def recordDrop (s : System) (sid : Nat) (session : RtspSession) : System :=
  let dropped := if session.becomesSlow then (s.server.totalDroppedSessions + 1) % 2 ^ 64
    else s.server.totalDroppedSessions
  { s with
    server := { s.server.setSession sid session.recordDrop with totalDroppedSessions := dropped }
    stream := { s.stream with pc := .next } }

/-- `ForwardRtp` has succeeded: `RecordSuccess` and `NeedFlush`. -/
def recordSuccess (s : System) (sid : Nat) (session : RtspSession) : System :=
  let session := session.recordSuccess
  let pc := if session.conn.needFlush then .register sid session.conn.fd else .next
  { s with
    server := s.server.setSession sid session
    stream := { s.stream with pc := pc } }

/-- `ModifyFd(session->fd(), kRead | kWrite)`. -/
def streamModify (s : System) (fd : Int) : System :=
  { s with
    server := (s.server.modifyFd fd { write := true }).1
    stream := { s.stream with pc := .next } }

/-- The end of `BroadcastRtp`: the snapshot goes. -/
def finish (s : System) : System :=
  { s with stream := {} }.release s.stream.snapshot

/-! ## The event-loop thread -/

/-- The results of `Wait`: distinct descriptors, all of them registered. -/
def ready (s : System) (results : List EventResult) : Bool :=
  (results.map EventResult.fd).Nodup &&
    results.all fun e => (s.server.kernel.interest e.fd).isSome

def wait (s : System) (results : List EventResult) : System :=
  { s with loop := { batch := results, table := s.server.sessions } }

/-- The handlers of the client callback. -/
def handlersOf (e : EventResult) : List Handler :=
  if e.fd > 0 then
    (if e.read then [.onRead] else []) ++ (if e.write then [.onWrite] else []) ++
      (if e.error then [.onError] else [])
  else []

/-- `Run` has taken the next entry off. -/
def takeEntry (s : System) (batch : List EventResult) : System :=
  { s with loop := { s.loop with batch := batch } }

/-- The client callback has come to the next handler. -/
def takeHandler (s : System) (handlers : List Handler) : System :=
  { s with loop := { s.loop with handlers := handlers } }

/-- The callback found under the descriptor of an entry is called. -/
def dispatch (s : System) (e : EventResult) (accept : AcceptOutcome) (expired : Option Int) :
    Option System :=
  match s.server.callbacks e.fd with
  | none => some s
  | some .onNewConnection =>
    (s.server.onNewConnection accept).map fun res => { s with server := res.1 }.release res.2
  | some .checkTimeouts =>
    match expired with
    | none => some s
    | some now =>
      let res := s.server.checkTimeouts now
      some ({ s with server := res.1 }.release res.2)
  | some .client =>
    some { s with loop := { s.loop with fd := e.fd, handlers := handlersOf e } }

/-- A handler goes on. -/
def goto (s : System) (pc : LoopPc) : System := { s with loop := { s.loop with pc := pc } }

/-- The handler is left, and with it its local reference. -/
def leave (s : System) (sid : Nat) : System := (s.goto .idle).release [sid]

/-- `CloseConnection` at the end of a handler that holds the references `held`. -/
def closeAndLeave (s : System) (held : List Nat) : System :=
  let res := s.server.closeConnection s.loop.fd
  ({ s with server := res.1 }.goto .idle).release (res.2 ++ held)

/-- The session a handler works on is replaced. -/
def update (s : System) (sid : Nat) (session : RtspSession) : System :=
  { s with server := s.server.setSession sid session }

/-- `OnRead` up to its loop: receive, and close the connection when there is nothing. -/
def onRead (s : System) (sid : Nat) (session : RtspSession) (recv : RecvOutcome) : System :=
  if session.conn.isClosed then s.closeAndLeave [sid]
  else
    let received := session.conn.recv recv
    let s := s.update sid { session with conn := received.1 }
    if received.2 ≤ 0 then s.closeAndLeave [sid] else s.goto (.reading sid)

/-- `OnWrite` up to `Flush`. -/
def onWrite (s : System) (sid : Nat) (session : RtspSession) : System :=
  if session.conn.isClosed then s.closeAndLeave [sid] else s.goto (.flushing sid)

/-- A handler of the current callback; `OnRead` and `OnWrite` look the session up first. -/
def handle (s : System) (h : Handler) (recv : RecvOutcome) : Option System :=
  match h with
  | .onError => some (s.closeAndLeave [])
  | .onRead =>
    match s.server.sessions[s.loop.fd]? with
    | none => some s
    | some sid => (s.server.heap sid).map fun session => s.onRead sid session recv
  | .onWrite =>
    match s.server.sessions[s.loop.fd]? with
    | none => some s
    | some sid => (s.server.heap sid).map fun session => s.onWrite sid session

/-- A request has been handled: `h` is its outcome, `kernel` the descriptor table after it. -/
def handled (s : System) (sid requestLen : Nat) (h : Handled) (kernel : Kernel) : System :=
  { s with
    server := { s.server with kernel := kernel }.setSession sid (h.session.consume requestLen)
    loop := { s.loop with pc := .checkRead sid }
    killed := raises (s.broken sid) (h.reply.bind fun reply => reply.result.call) }

/-- One turn of the loop of `ProcessConnectionData`. -/
def turn (s : System) (sid : Nat) (session : RtspSession) (env : RequestEnv)
    (beyond : Nat → UInt8) : Option System :=
  match RtspForward.turn session.conn.readBuffer with
  | .wait => some (s.leave sid)
  | .tooLarge => some (s.closeAndLeave [sid])
  | .skip total => some (s.update sid (session.consume total))
  | .request requestLen =>
    let h := session.processData (session.conn.readBuffer.rawView requestLen beyond) env
    if answerable (s.broken sid) (h.reply.bind fun reply => reply.result.call) env.reply then
      (s.server.kernel.events h.fdEvents).map fun kernel => s.handled sid requestLen h kernel
    else none

/-- `NeedFlush` after a request. -/
def checkRead (s : System) (sid : Nat) (session : RtspSession) : System :=
  s.goto (if session.conn.needFlush then .registerRead sid else .reading sid)

/-- `ModifyFd(fd, kRead | kWrite)` after a request. -/
def registerRead (s : System) (sid : Nat) : System :=
  { s with server := (s.server.modifyFd s.loop.fd { write := true }).1 }.goto (.reading sid)

/-- `Flush` has returned. -/
def flushed (s : System) (sid : Nat) (session : RtspSession) (res : WriteResult) : System :=
  { s.update sid { session with conn := res.conn } with killed := raises (s.broken sid) res.call }

/-- `Flush`, and the closing of the connection when it fails. -/
def flush (s : System) (sid : Nat) (session : RtspSession) (res : WriteResult) : System :=
  let s := s.flushed sid session res
  if res.ret < 0 then s.closeAndLeave [sid] else s.goto (.checkWrite sid)

/-- `NeedFlush` after `Flush`. -/
def checkWrite (s : System) (sid : Nat) (session : RtspSession) : System :=
  if session.conn.needFlush then s.leave sid else s.goto (.unregister sid)

/-- `ModifyFd(fd, kRead)`. -/
def unregister (s : System) (sid : Nat) : System :=
  { s with server := (s.server.modifyFd s.loop.fd {}).1 }.leave sid

/-! ## Steps -/

/-- One step of either thread or of a client. A killed process takes none. -/
def step (s : System) (l : Label) : Option System :=
  if s.killed then none
  else
    match l with
    | .broadcast packet =>
      match s.stream.pc with
      | .idle => some (s.broadcast packet)
      | _ => none
    | .load now =>
      match s.stream.pc, s.stream.todo with
      | .next, sid :: todo => (s.server.heap sid).map fun session => s.load sid todo session now
      | _, _ => none
    | .sendTo o =>
      match s.stream.pc with
      | .udp sid endpoint => some (s.sendTo sid endpoint o)
      | _ => none
    | .sendV o =>
      match s.stream.pc with
      | .tcp sid _ =>
        (s.server.heap sid).bind fun session =>
          let res := RtpForwarder.forwardTcp session.conn s.stream.packet o
          if answerable (s.broken sid) res.1.call o then some (s.sendV sid session res) else none
      | _ => none
    | .recordDrop =>
      match s.stream.pc with
      | .failed sid => (s.server.heap sid).map fun session => s.recordDrop sid session
      | _ => none
    | .recordSuccess =>
      match s.stream.pc with
      | .sent sid => (s.server.heap sid).map fun session => s.recordSuccess sid session
      | _ => none
    | .streamModify =>
      match s.stream.pc with
      | .register _ fd => some (s.streamModify fd)
      | _ => none
    | .finish =>
      match s.stream.pc, s.stream.todo with
      | .next, [] => some s.finish
      | _, _ => none
    | .wait results =>
      match s.loop.pc, s.loop.handlers, s.loop.batch with
      | .idle, [], [] => if s.ready results then some (s.wait results) else none
      | _, _, _ => none
    | .dispatch accept expired =>
      match s.loop.pc, s.loop.handlers, s.loop.batch with
      | .idle, [], e :: batch => (s.takeEntry batch).dispatch e accept expired
      | _, _, _ => none
    | .handle recv =>
      match s.loop.pc, s.loop.handlers with
      | .idle, h :: handlers => (s.takeHandler handlers).handle h recv
      | _, _ => none
    | .turn env beyond =>
      match s.loop.pc with
      | .reading sid => (s.server.heap sid).bind fun session => s.turn sid session env beyond
      | _ => none
    | .checkRead =>
      match s.loop.pc with
      | .checkRead sid => (s.server.heap sid).map fun session => s.checkRead sid session
      | _ => none
    | .registerRead =>
      match s.loop.pc with
      | .registerRead sid => some (s.registerRead sid)
      | _ => none
    | .flush o =>
      match s.loop.pc with
      | .flushing sid =>
        (s.server.heap sid).bind fun session =>
          let res := session.conn.flush o
          if answerable (s.broken sid) res.call o then some (s.flush sid session res) else none
      | _ => none
    | .checkWrite =>
      match s.loop.pc with
      | .checkWrite sid => (s.server.heap sid).map fun session => s.checkWrite sid session
      | _ => none
    | .unregister =>
      match s.loop.pc with
      | .unregister sid => some (s.unregister sid)
      | _ => none
    | .disconnect sid => some { s with broken := Function.update s.broken sid true }

/-! ## Scripts

Labels of short exchanges, for the runs at the end of the later modules. -/

/-- A server with its listener on 3 and its timer on 4. -/
def smallConfig : Config where
  maxSessions := 8
  bufferSize := 512
  connectionTimeoutSec := 10
  sessionTimeoutSec := 60
  listenerFd := 3
  timerFd := 4
  listener_ne_timer := by decide

/-- A client is accepted on the descriptor `fd`. -/
def accepts (fd : Nat) : List Label :=
  [.wait [{ fd := 3, read := true }], .dispatch (.accepted fd true 0 0 (fun _ => 0)) none]

/-- The client on `fd` sends one request; the kernel takes the whole reply. -/
def requests (fd : Int) (lines : String) : List Label :=
  [.wait [{ fd := fd, read := true }], .dispatch .failed none,
    .handle (.data (ascii (lines ++ "\r\n\r\n"))), .turn .quiet (fun _ => 0), .checkRead,
    .turn .quiet (fun _ => 0)]

/-- The client on `fd` asks for the stream over UDP; the sockets are 10 and 11. -/
def playsUdp (fd : Nat) : List Label :=
  accepts fd ++
    requests fd "SETUP * RTSP/1.0\r\nCSeq: 1\r\nTransport: RTP/AVP;client_port=5000-5001" ++
    requests fd "PLAY * RTSP/1.0\r\nCSeq: 2"

/-- The client on `fd` asks for the stream over its connection. -/
def playsTcp (fd : Nat) : List Label :=
  accepts fd ++ requests fd "PLAY * RTSP/1.0\r\nCSeq: 1"

/-- The client on `fd` plays and tears its session down; the session is still in the table. -/
def tearsDown (fd : Nat) : List Label :=
  playsTcp fd ++ requests fd "TEARDOWN * RTSP/1.0\r\nCSeq: 2"

end System

end RtspForward
