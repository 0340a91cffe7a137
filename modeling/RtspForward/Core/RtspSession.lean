import RtspForward.Protocol.RtspBuilder
import RtspForward.Rtp.RtpForwarder

/-!
# An RTSP session

`core/rtsp_session.cc`. A handler takes what the outside world answers while it runs
(`RequestEnv`) and returns the session after it, its status, the response it handed to
`Send` and the descriptors it opened and closed, in order.
-/
namespace RtspForward

inductive RtspSessionState where
  | kInit
  | kOptionsSent
  | kDescribeSent
  | kSetupSent
  | kPlaying
  | kPaused
  | kTeardown
  deriving DecidableEq, Repr

structure RtspSession where
  conn : Connection
  state : RtspSessionState := .kInit
  sessionId : Bytes
  url : Bytes := []
  transport : Bytes := []
  isUdp : Bool := false
  udpRtpFd : FdGuard := {}
  udpRtcpFd : FdGuard := {}
  clientRtpAddr : SockAddrIn := {}
  clientRtcpAddr : SockAddrIn := {}
  lastActivitySec : Int
  deriving DecidableEq, Repr

/-- The system calls of `CreateUdpSocket`; a socket that cannot be bound is closed. -/
inductive UdpSocketOutcome where
  | socketFailed
  | bindFailed (fd : Nat)
  | bound (fd : Nat)
  deriving DecidableEq, Repr

/-- A descriptor is obtained from the kernel or given back to it. -/
inductive FdEvent where
  | opened (fd : Int)
  | closed (fd : Int)
  deriving DecidableEq, Repr

/-- What the outside world answers while a request is handled: the clock, the configured
SDP, the outcome of sending the reply, the two UDP sockets and their ports, and the
address of the peer. -/
structure RequestEnv where
  now : Int
  sdp : Bytes
  reply : WriteOutcome
  rtpSocket : UdpSocketOutcome
  rtcpSocket : UdpSocketOutcome
  serverRtpPort : Nat
  serverRtcpPort : Nat
  peer : SockAddrIn
  deriving DecidableEq, Repr

/-- An environment in which every call succeeds and no SDP is configured. -/
def RequestEnv.quiet : RequestEnv where
  now := 0
  sdp := []
  reply := .accepted kMaxRtspRequestDataLen
  rtpSocket := .bound 10
  rtcpSocket := .bound 11
  serverRtpPort := 6970
  serverRtcpPort := 6971
  peer := {}

/-- A response, and what `Send` did with it. -/
structure Reply where
  response : Bytes
  result : WriteResult
  deriving DecidableEq, Repr

/-- The outcome of handling some data. -/
structure Handled where
  session : RtspSession
  status : Status
  reply : Option Reply := none
  fdEvents : List FdEvent := []
  deriving DecidableEq, Repr

/-- The outcome of forwarding a packet: at most one write on the connection and at most
one datagram. -/
structure Forwarded where
  session : RtspSession
  status : Status
  tcp : Option WriteResult := none
  udp : Option SendToCall := none
  deriving DecidableEq, Repr

namespace RtspSession

open RtspBuilder

/-- `%lx`. -/
def hex (n : Nat) : Bytes := (Nat.toDigits 16 n).map fun c => UInt8.ofNat c.toNat

/-- `GenerateSessionId`; `snprintf` keeps at most 32 characters. -/
def generateSessionId (timestamp seq : Nat) : Bytes := (hex timestamp ++ hex seq).take 32

/-- The constructor. -/
def create (fd : Int) (bufferSize : Nat) (garbage : Nat → UInt8) (timestamp seq : Nat) (now : Int) :
    Option RtspSession :=
  (Connection.create fd bufferSize garbage).map fun conn =>
    { conn := conn, sessionId := generateSessionId timestamp seq, lastActivitySec := now }

def setState (s : RtspSession) (state : RtspSessionState) : RtspSession := { s with state := state }

/-- `UpdateActivity`. -/
def updateActivity (s : RtspSession) (now : Int) : RtspSession := { s with lastActivitySec := now }

/-- `IsTimedOut`. -/
def isTimedOut (s : RtspSession) (connectionTimeoutSec sessionTimeoutSec now : Int) : Bool :=
  let timeoutSec :=
    if s.state = .kInit ∨ s.state = .kOptionsSent ∨ s.state = .kDescribeSent then
      connectionTimeoutSec
    else sessionTimeoutSec
  if timeoutSec ≤ 0 then false else now - s.lastActivitySec ≥ timeoutSec

/-- `Close`: the two UDP descriptors are closed, the connection is not. -/
def close (s : RtspSession) : RtspSession × List FdEvent :=
  let rtp := s.udpRtpFd.close
  let rtcp := s.udpRtcpFd.close
  ({ s with state := .kTeardown, udpRtpFd := rtp.1, udpRtcpFd := rtcp.1 },
    (rtp.2 ++ rtcp.2).map .closed)

/-- `CreateUdpSocket`: the descriptor, or -1. -/
def createUdpSocket (o : UdpSocketOutcome) : Int × List FdEvent :=
  match o with
  | .socketFailed => (-1, [])
  | .bindFailed fd => (-1, [.opened fd, .closed fd])
  | .bound fd => (fd, [.opened fd])

/-- `conn_.Send` of a response. Its return value is not looked at. -/
def respond (s : RtspSession) (response : Bytes) (env : RequestEnv) (status : Status)
    (fdEvents : List FdEvent := []) : Handled :=
  let result := s.conn.send response env.reply
  { session := { s with conn := result.conn }, status := status,
    reply := some ⟨response, result⟩, fdEvents := fdEvents }

/-- The state is set after the response has been sent. -/
def Handled.setState (h : Handled) (state : RtspSessionState) : Handled :=
  { h with session := h.session.setState state }

/-- `HandleOptions`. -/
def handleOptions (s : RtspSession) (request : RtspRequest) (env : RequestEnv) : Handled :=
  Handled.setState (s.respond (buildOptionsResponse request.cseq) env .ok) .kOptionsSent

/-- `HandleDescribe`. -/
def handleDescribe (s : RtspSession) (request : RtspRequest) (env : RequestEnv) : Handled :=
  let s := { s with url := request.url }
  if env.sdp = [] then
    s.respond (buildErrorResponse request.cseq 500 (ascii "SDP not configured")) env
      (.failedPrecondition "SDP not configured")
  else
    Handled.setState (s.respond (buildDescribeResponse request.cseq env.sdp) env .ok)
      .kDescribeSent

/-- `htons(static_cast<uint16_t>(port))`, kept in host order. -/
def toPort (port : Int) : Nat := (port % 2 ^ 16).toNat

/-- The UDP branch of `HandleSetup`. The old descriptors are closed by `Reset`; when a
socket is missing, the guard of the other one closes it on return. -/
def setupUdp (s : RtspSession) (request : RtspRequest) (env : RequestEnv) : Handled :=
  let transport := request.transport
  if transport.clientRtpPort = 0 then
    s.respond (buildErrorResponse request.cseq 461 (ascii "Unsupported Transport")) env
      (.invalidArgument "UDP without client_port")
  else
    let rtp := createUdpSocket env.rtpSocket
    let rtcp := createUdpSocket env.rtcpSocket
    let rtpGuard : FdGuard := { fd := rtp.1 }
    let rtcpGuard : FdGuard := { fd := rtcp.1 }
    if rtpGuard.isValid = false ∨ rtcpGuard.isValid = false then
      s.respond (buildErrorResponse request.cseq 500 (ascii "Internal Server Error")) env
        (.networkError "failed to create UDP sockets")
        (rtp.2 ++ rtcp.2 ++ (rtcpGuard.close.2 ++ rtpGuard.close.2).map .closed)
    else
      let newRtp := s.udpRtpFd.reset rtpGuard.fd
      let newRtcp := s.udpRtcpFd.reset rtcpGuard.fd
      let s := { s with
        udpRtpFd := newRtp.1
        udpRtcpFd := newRtcp.1
        clientRtpAddr := { env.peer with port := toPort transport.clientRtpPort }
        clientRtcpAddr := { env.peer with port := toPort transport.clientRtcpPort }
        isUdp := true }
      Handled.setState (s.respond
        (buildSetupResponseUdp request.cseq s.sessionId env.serverRtpPort env.serverRtcpPort
          transport.clientRtpPort transport.clientRtcpPort) env .ok
        (rtp.2 ++ rtcp.2 ++ (newRtp.2 ++ newRtcp.2).map .closed)) .kSetupSent

/-- `HandleSetup`. -/
def handleSetup (s : RtspSession) (request : RtspRequest) (env : RequestEnv) : Handled :=
  let s := { s with
    url := request.url
    transport := (request.headers[ascii "transport"]?).getD s.transport }
  let transport := request.transport
  if transport.isUdp then s.setupUdp request env
  else if transport.isTcp ∨ transport.interleavedRtp ≠ 0 then
    Handled.setState (s.respond (buildSetupResponse request.cseq s.sessionId) env .ok) .kSetupSent
  else
    s.respond (buildErrorResponse request.cseq 461 (ascii "Unsupported Transport")) env
      (.invalidArgument "unsupported transport")

/-- `HandlePlay`. -/
def handlePlay (s : RtspSession) (request : RtspRequest) (env : RequestEnv) : Handled :=
  let s := { s with url := request.url }
  Handled.setState (s.respond (buildPlayResponse request.cseq s.sessionId) env .ok) .kPlaying

/-- `HandleTeardown`. -/
def handleTeardown (s : RtspSession) (request : RtspRequest) (env : RequestEnv) : Handled :=
  let h := s.respond (buildSimpleResponse request.cseq s.sessionId) env .ok
  let closed := h.session.close
  { h with session := closed.1, fdEvents := closed.2 }

/-- `HandlePause`. -/
def handlePause (s : RtspSession) (request : RtspRequest) (env : RequestEnv) : Handled :=
  Handled.setState (s.respond (buildSimpleResponse request.cseq s.sessionId) env .ok) .kPaused

/-- `HandleParameter`. -/
def handleParameter (s : RtspSession) (request : RtspRequest) (env : RequestEnv) : Handled :=
  s.respond (buildSimpleResponse request.cseq s.sessionId) env .ok

/-- `HandleRequest`. -/
def handleRequest (s : RtspSession) (request : RtspRequest) (env : RequestEnv) : Handled :=
  match request.method with
  | .kOptions => s.handleOptions request env
  | .kDescribe => s.handleDescribe request env
  | .kSetup => s.handleSetup request env
  | .kPlay => s.handlePlay request env
  | .kTeardown => s.handleTeardown request env
  | .kPause => s.handlePause request env
  | .kGetParameter => s.handleParameter request env
  | .kSetParameter => s.handleParameter request env
  | .kUnknown =>
    s.respond (buildErrorResponse request.cseq 405 (ascii "Method Not Allowed")) env
      (.invalidArgument "unknown method")

/-- `ProcessData`. The request object is a fresh one. -/
def processData (s : RtspSession) (data : Bytes) (env : RequestEnv) : Handled :=
  let s := s.updateActivity env.now
  match RtspParser.parse data {} with
  | .error status => { session := s, status := status }
  | .ok request => s.handleRequest request env

/-- The endpoint `ForwardRtp` reads before it sends a datagram. -/
def udpEndpoint (s : RtspSession) (packet : RtpPacket) : UdpEndpoint :=
  if packet.streamIndex = 0 then { fd := s.udpRtpFd.fd, addr := s.clientRtpAddr }
  else { fd := s.udpRtcpFd.fd, addr := s.clientRtcpAddr }

/-- `ForwardRtp`. -/
def forwardRtp (s : RtspSession) (packet : RtpPacket) (now : Int) (tcp : WriteOutcome)
    (udp : SendToOutcome) : Forwarded :=
  let s := s.updateActivity now
  if s.isUdp then
    let res := RtpForwarder.forwardUdp (s.udpEndpoint packet) packet udp
    { session := s, status := res.2, udp := res.1 }
  else
    let res := RtpForwarder.forwardTcp s.conn packet tcp
    { session := { s with conn := res.1.conn }, status := res.2, tcp := some res.1 }

end RtspSession

end RtspForward
