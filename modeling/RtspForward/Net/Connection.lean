import RtspForward.Buffer.RingBuffer

/-!
# A client connection

`net/fd_guard.h` and `net/connection.cc`. A function that issues a system call takes
the kernel's answer as an argument and reports the call it issued, so a run of the
connection is determined by its inputs and by the kernel. Every function below that
the source runs under `send_mutex_` is one atomic step.
-/
namespace RtspForward

/-- `FdGuard`: the guarded descriptor number, negative when there is none. -/
structure FdGuard where
  fd : Int := -1
  deriving DecidableEq, Repr

namespace FdGuard

/-- `IsValid`. -/
def isValid (g : FdGuard) : Bool := g.fd ≥ 0

/-- `Close`: the emptied guard and the descriptors passed to `::close`. -/
def close (g : FdGuard) : FdGuard × List Int :=
  if g.fd ≥ 0 then ({ fd := -1 }, [g.fd]) else (g, [])

/-- `Reset`. -/
def reset (g : FdGuard) (fd : Int) : FdGuard × List Int := ({ fd := fd }, g.close.2)

end FdGuard

/-- The kernel's answer to a write on a connected socket. An accepted count is read
as the nearest one between 1 and the length of the request. -/
inductive WriteOutcome where
  | accepted (n : Nat)
  | wouldBlock
  | hardError
  deriving DecidableEq, Repr

/-- The system call that issues a write: `::send` with `MSG_NOSIGNAL`, or `::writev`,
which takes no flags. -/
inductive WriteSite where
  | send
  | writev
  deriving DecidableEq, Repr

/-- A write as it is issued: the call, the descriptor and the bytes offered. -/
structure WriteCall where
  site : WriteSite
  fd : Int
  bytes : Bytes
  deriving DecidableEq, Repr

/-- The return value of a write: a count, `-1` with `EAGAIN`, or `-1` with another
error number. -/
inductive WriteReturn where
  | count (n : Nat)
  | again
  | failed
  deriving DecidableEq, Repr

def WriteOutcome.answer (o : WriteOutcome) (bytes : Bytes) : WriteReturn :=
  match o with
  | .accepted n => .count (min (max n 1) bytes.length)
  | .wouldBlock => .again
  | .hardError => .failed

/-- The kernel's answer to a read: some bytes, end of stream, or an error. -/
inductive RecvOutcome where
  | data (bytes : Bytes)
  | endOfStream
  | wouldBlock
  | hardError
  deriving DecidableEq, Repr

/-- `Connection`. -/
structure Connection where
  fdGuard : FdGuard
  readBuffer : RingBuffer
  writeBuffer : RingBuffer
  consecutiveDrops : Int := 0
  totalDroppedPackets : Nat := 0
  deriving DecidableEq, Repr

/-- The result of a sending function: the connection after it, its return value, the
bytes the kernel took and the call issued, if any. -/
structure WriteResult where
  conn : Connection
  ret : Int
  accepted : Bytes := []
  call : Option WriteCall := none
  deriving DecidableEq, Repr

namespace Connection

/-- The constructor; it aborts when a buffer cannot be allocated. -/
def create (fd : Int) (bufferSize : Nat) (garbage : Nat → UInt8) : Option Connection :=
  match RingBuffer.create bufferSize garbage, RingBuffer.create bufferSize garbage with
  | some readBuffer, some writeBuffer =>
    some { fdGuard := { fd := fd }, readBuffer := readBuffer, writeBuffer := writeBuffer }
  | _, _ => none

def fd (c : Connection) : Int := c.fdGuard.fd

/-- `IsClosed`. -/
def isClosed (c : Connection) : Bool := !c.fdGuard.isValid

/-- `Recv`. The kernel stores at most the contiguous free space at the write pointer. -/
def recv (c : Connection) (o : RecvOutcome) : Connection × Int :=
  if c.isClosed then (c, 0)
  else if c.readBuffer.writableSize = 0 then (c, -1)
  else
    let writable := c.readBuffer.contiguousWritableSize
    match o with
    | .wouldBlock => (c, 0)
    | .hardError => (c, -1)
    | .endOfStream => (c, 0)
    | .data bytes =>
      let received := bytes.take writable
      if received.length = 0 then (c, 0)
      else ({ c with readBuffer := c.readBuffer.fill received }, received.length)

/-- The tail of `Send`: the whole message goes to the write buffer. -/
def bufferMessage (c : Connection) (data : Bytes) (call : Option WriteCall) : WriteResult :=
  let w := c.writeBuffer.write data
  if w.2.isOk then
    { conn := { c with writeBuffer := w.1 }, ret := data.length, call := call }
  else { conn := { c with writeBuffer := w.1 }, ret := -1, call := call }

/-- `Send`. -/
def send (c : Connection) (data : Bytes) (o : WriteOutcome) : WriteResult :=
  if c.isClosed then { conn := c, ret := 0 }
  else if data.length = 0 then { conn := c, ret := 0 }
  else if c.writeBuffer.readableSize = 0 then
    let call := some { site := .send, fd := c.fd, bytes := data }
    match o.answer data with
    | .count sent =>
      if sent < data.length then
        let w := c.writeBuffer.write (data.drop sent)
        if w.2.isOk then
          { conn := { c with writeBuffer := w.1 }, ret := data.length,
            accepted := data.take sent, call := call }
        else
          { conn := { c with writeBuffer := w.1 }, ret := sent,
            accepted := data.take sent, call := call }
      else { conn := c, ret := data.length, accepted := data.take sent, call := call }
    | .again => c.bufferMessage data call
    | .failed => { conn := c, ret := -1, call := call }
  else c.bufferMessage data none

/-- The inner loop of `SendV` after a partial `writev`: the entries behind the split,
up to the first one the buffer refuses. -/
def bufferRest (w : RingBuffer) : List Bytes → RingBuffer × Bool
  | [] => (w, true)
  | v :: iov =>
    let res := w.write v
    if res.2.isOk then bufferRest res.1 iov else (res.1, false)

/-- The outer loop of `SendV` after a partial `writev`: skip what the kernel took, then
buffer the rest of the entry it stopped in and all later entries. -/
def bufferFrom (w : RingBuffer) (skip : Nat) : List Bytes → RingBuffer × Bool
  | [] => (w, true)
  | v :: iov =>
    if skip < v.length then
      let res := w.write (v.drop skip)
      if res.2.isOk then bufferRest res.1 iov else (res.1, false)
    else bufferFrom w (skip - v.length) iov

/-- The last loop of `SendV`: buffer every non-empty entry. -/
def bufferAll (w : RingBuffer) : List Bytes → RingBuffer × Bool
  | [] => (w, true)
  | v :: iov =>
    if v.length > 0 then
      let res := w.write v
      if res.2.isOk then bufferAll res.1 iov else (res.1, false)
    else bufferAll w iov

/-- The tail of `SendV`. -/
def bufferVector (c : Connection) (iov : List Bytes) (totalLen : Nat)
    (call : Option WriteCall) : WriteResult :=
  let w := bufferAll c.writeBuffer iov
  if w.2 then { conn := { c with writeBuffer := w.1 }, ret := totalLen, call := call }
  else { conn := { c with writeBuffer := w.1 }, ret := -1, call := call }

/-- `SendV`. A `writev` of no bytes at all returns 0 and leaves `errno` alone; no caller
issues one, and it is read as a failure here. -/
def sendV (c : Connection) (iov : List Bytes) (totalLen : Nat) (o : WriteOutcome) :
    WriteResult :=
  if c.isClosed then { conn := c, ret := 0 }
  else if iov.length = 0 ∨ totalLen = 0 then { conn := c, ret := 0 }
  else if c.writeBuffer.readableSize = 0 then
    let bytes := iov.flatten
    let call := some { site := .writev, fd := c.fd, bytes := bytes }
    match o.answer bytes with
    | .count 0 => { conn := c, ret := -1, call := call }
    | .count sent =>
      if sent < totalLen then
        let w := bufferFrom c.writeBuffer sent iov
        if w.2 then
          { conn := { c with writeBuffer := w.1 }, ret := totalLen,
            accepted := bytes.take sent, call := call }
        else
          { conn := { c with writeBuffer := w.1 }, ret := sent,
            accepted := bytes.take sent, call := call }
      else { conn := c, ret := totalLen, accepted := bytes.take sent, call := call }
    | .again => c.bufferVector iov totalLen call
    | .failed => { conn := c, ret := -1, call := call }
  else c.bufferVector iov totalLen none

/-- `Flush`: one segment goes out with `send`, two with `writev`. -/
def flush (c : Connection) (o : WriteOutcome) : WriteResult :=
  if c.isClosed then { conn := c, ret := 0 }
  else
    let iov := c.writeBuffer.getReadableIoVec
    if iov.length = 0 then { conn := c, ret := 0 }
    else
      let bytes := (c.writeBuffer.gather iov).flatten
      let site := if iov.length = 1 then WriteSite.send else WriteSite.writev
      let call := some { site := site, fd := c.fd, bytes := bytes }
      match o.answer bytes with
      | .again => { conn := c, ret := 0, call := call }
      | .failed => { conn := c, ret := -1, call := call }
      | .count n =>
        { conn := { c with writeBuffer := c.writeBuffer.consume n }, ret := n,
          accepted := bytes.take n, call := call }

/-- `NeedFlush`. -/
def needFlush (c : Connection) : Bool := c.writeBuffer.readableSize > 0

/-- `Consume` on the read buffer. -/
def consume (c : Connection) (len : Nat) : Connection :=
  { c with readBuffer := c.readBuffer.consume len }

/-- `RecordDrop`: a 32-bit counter and a 64-bit one, both wrapping. -/
def recordDrop (c : Connection) : Connection :=
  { c with
    consecutiveDrops := Int.bmod (c.consecutiveDrops + 1) (2 ^ 32)
    totalDroppedPackets := (c.totalDroppedPackets + 1) % 2 ^ 64 }

/-- `RecordSuccess`. -/
def recordSuccess (c : Connection) : Connection := { c with consecutiveDrops := 0 }

/-- Both buffers satisfy their representation invariant. -/
structure Valid (c : Connection) : Prop where
  read : c.readBuffer.Valid
  write : c.writeBuffer.Valid

end Connection

end RtspForward
