import RtspForward.Net.Connection

/-!
# RTP forwarding

`rtp/rtp_forwarder.cc`: one packet becomes an interleaved frame on the RTSP
connection or a datagram on a UDP socket.
-/
namespace RtspForward

/-- `RtpPacket`; stream 0 carries RTP, stream 1 RTCP. -/
structure RtpPacket where
  data : Bytes
  streamIndex : Int
  deriving DecidableEq, Repr

/-- `struct sockaddr_in`; the port is kept in host order. -/
structure SockAddrIn where
  family : Nat := 0
  port : Nat := 0
  addr : Nat := 0
  deriving DecidableEq, Repr

/-- `UdpEndpoint`. -/
structure UdpEndpoint where
  fd : Int := -1
  addr : SockAddrIn := {}
  deriving DecidableEq, Repr

/-- The kernel's answer to `sendto`; a datagram is taken whole or not at all. -/
inductive SendToOutcome where
  | sent
  | wouldBlock
  | hardError
  deriving DecidableEq, Repr

/-- A datagram as it is issued. -/
structure SendToCall where
  fd : Int
  addr : SockAddrIn
  bytes : Bytes
  deriving DecidableEq, Repr

namespace RtpForwarder

/-- `BuildInterleavedHeader`: marker, channel, big-endian 16-bit length. -/
def buildInterleavedHeader (channel : Int) (length : Nat) : Bytes :=
  [kRtpInterleavedMarker, UInt8.ofInt channel, UInt8.ofNat (length / 256), UInt8.ofNat length]

/-- The interleaved frame of a packet. -/
def frame (p : RtpPacket) : Bytes :=
  buildInterleavedHeader p.streamIndex p.data.length ++ p.data

/-- `ForwardTcp`: the status, and what `SendV` did when it was called. -/
def forwardTcp (c : Connection) (p : RtpPacket) (o : WriteOutcome) : WriteResult × Status :=
  if p.data.length = 0 then ({ conn := c, ret := 0 }, .invalidArgument "invalid argument")
  else if c.isClosed then ({ conn := c, ret := 0 }, .closed "connection closed")
  else if p.data.length > kMaxRtpPacketSize then
    ({ conn := c, ret := 0 }, .invalidArgument "packet too large")
  else
    let header := buildInterleavedHeader p.streamIndex p.data.length
    let res := c.sendV [header, p.data] (4 + p.data.length) o
    if res.ret < 0 then (res, .networkError "send failed") else (res, .ok)

/-- `ForwardUdp`: the status and the datagram issued, if any. -/
def forwardUdp (e : UdpEndpoint) (p : RtpPacket) (o : SendToOutcome) :
    Option SendToCall × Status :=
  if e.fd < 0 ∨ p.data.length = 0 then (none, .invalidArgument "invalid argument")
  else
    let call := some { fd := e.fd, addr := e.addr, bytes := p.data }
    match o with
    | .sent => (call, .ok)
    | .wouldBlock => (call, .resourceExhausted "sendto would block")
    | .hardError => (call, .networkError "sendto failed")

/-- A socket and a packet: the datagram is issued, whatever the kernel answers. -/
theorem forwardUdp_call {e : UdpEndpoint} {p : RtpPacket} (hfd : 0 ≤ e.fd)
    (hpos : 1 ≤ p.data.length) (o : SendToOutcome) :
    (forwardUdp e p o).1 = some { fd := e.fd, addr := e.addr, bytes := p.data } := by
  unfold forwardUdp
  rw [if_neg (by omega)]
  cases o <;> rfl

end RtpForwarder

end RtspForward
