import RtspForward.Lib.Word
import RtspForward.Lib.Circular
import RtspForward.Util

/-!
# The ring buffer

`buffer/ring_buffer.cc`, function by function. Positions and sizes are `size_t`
values: every sum and difference wraps at 64 bits. The memory block is a list of
bytes; bytes that are not readable keep whatever they held before.
-/
namespace RtspForward

open Lib
open Lib.Circular (store slice window)

/-- `RingBuffer`: the block and its four counters. -/
structure RingBuffer where
  buffer : Bytes
  capacity : Nat
  readPos : Nat
  writePos : Nat
  readableSize : Nat
  deriving DecidableEq, Repr

namespace RingBuffer

/-- The constructor. The allocator leaves arbitrary bytes (`garbage`) in the block,
and refuses a block larger than `PTRDIFF_MAX`; the constructor then aborts. -/
def create (capacity : Nat) (garbage : Nat → UInt8) : Option RingBuffer :=
  let c := if capacity > 0 then capacity else 1
  if c < 2 ^ 63 then
    some { buffer := (List.range c).map garbage, capacity := c,
           readPos := 0, writePos := 0, readableSize := 0 }
  else none

/-- `WritableSize`. -/
def writableSize (r : RingBuffer) : Nat := Word.sub 64 r.capacity r.readableSize

/-- `ContiguousWritableSize`. -/
def contiguousWritableSize (r : RingBuffer) : Nat :=
  let writable := r.writableSize
  let toEnd := Word.sub 64 r.capacity r.writePos
  if writable < toEnd then writable else toEnd

/-- `ContiguousReadableSize`. -/
def contiguousReadableSize (r : RingBuffer) : Nat :=
  let readable := r.readableSize
  let toEnd := Word.sub 64 r.capacity r.readPos
  if readable < toEnd then readable else toEnd

/-- `Write`: one copy, or two when the data crosses the end of the block. -/
def write (r : RingBuffer) (data : Bytes) : RingBuffer × Status :=
  let size := data.length
  if size = 0 then (r, .invalidArgument "invalid data or size")
  else if size > r.writableSize then (r, .bufferFull "buffer full")
  else
    let toEnd := Word.sub 64 r.capacity r.writePos
    let buffer :=
      if size > toEnd then
        store (store r.buffer r.writePos (data.take toEnd)) 0 (data.drop toEnd)
      else store r.buffer r.writePos data
    ({ r with
        buffer := buffer
        writePos := Word.add 64 r.writePos size % r.capacity
        readableSize := Word.add 64 r.readableSize size }, .ok)

/-- `Peek`: the bytes copied out, or the error. -/
def peek (r : RingBuffer) (size : Nat) : Except Status Bytes :=
  if size = 0 then .error (.invalidArgument "invalid data or size")
  else if size > r.readableSize then .error (.error "not enough data")
  else
    let toEnd := Word.sub 64 r.capacity r.readPos
    if size > toEnd then
      .ok (slice r.buffer r.readPos toEnd ++
        slice r.buffer 0 (Word.sub 64 size toEnd))
    else .ok (slice r.buffer r.readPos size)

/-- `Consume`, clamped to what is readable. -/
def consume (r : RingBuffer) (size : Nat) : RingBuffer :=
  let size := if size > r.readableSize then r.readableSize else size
  { r with
    readPos := Word.add 64 r.readPos size % r.capacity
    readableSize := Word.sub 64 r.readableSize size }

/-- `Produce`, clamped to what is writable. -/
def produce (r : RingBuffer) (size : Nat) : RingBuffer :=
  let size := if size > r.writableSize then r.writableSize else size
  { r with
    writePos := Word.add 64 r.writePos size % r.capacity
    readableSize := Word.add 64 r.readableSize size }

/-- Bytes stored at `WritePtr()` and then confirmed with `Produce`, as `recv` does. -/
def fill (r : RingBuffer) (data : Bytes) : RingBuffer :=
  { r with buffer := store r.buffer r.writePos data }.produce data.length

/-- The number of bytes a search looks at; a limit of zero means all of them. -/
def searchLen (r : RingBuffer) (maxSearchLen : Nat) : Nat :=
  if maxSearchLen > 0 then min maxSearchLen r.readableSize else r.readableSize

/-- `FindChar`, with `none` for `npos`: one `memchr` up to the end of the block and
one from its start. -/
def findChar (r : RingBuffer) (c : UInt8) (maxSearchLen : Nat) : Option Nat :=
  if r.readableSize = 0 then none
  else
    let len := r.searchLen maxSearchLen
    let contiguous := r.contiguousReadableSize
    match (slice r.buffer r.readPos (min len contiguous)).findIdx? (· == c) with
    | some i => some i
    | none =>
      if len > contiguous then
        ((slice r.buffer 0 (Word.sub 64 len contiguous)).findIdx? (· == c)).map
          (Word.add 64 contiguous)
      else none

/-- The inner loop of `FindSubstring` at offset `i`. -/
def matchesAt (r : RingBuffer) (substr : Bytes) (i : Nat) : Bool :=
  let pos := Word.add 64 r.readPos i % r.capacity
  (List.range substr.length).all fun j =>
    r.buffer.getD (Word.add 64 pos j % r.capacity) default == substr.getD j default

/-- `FindSubstring`, with `none` for `npos`. -/
def findSubstring (r : RingBuffer) (substr : Bytes) (maxSearchLen : Nat) : Option Nat :=
  if r.readableSize = 0 ∨ substr.length = 0 then none
  else
    let len := r.searchLen maxSearchLen
    if len < substr.length then none
    else
      (List.range (Word.sub 64 len substr.length + 1)).find? (r.matchesAt substr)

/-- `GetReadableIoVec`: the offset and length of each segment in the block. -/
def getReadableIoVec (r : RingBuffer) : List (Nat × Nat) :=
  if r.readableSize = 0 then []
  else
    let contiguous := r.contiguousReadableSize
    let remaining := Word.sub 64 r.readableSize contiguous
    if remaining > 0 then [(r.readPos, contiguous), (0, remaining)]
    else [(r.readPos, contiguous)]

/-- The bytes the segments of an I/O vector cover. -/
def gather (r : RingBuffer) (iov : List (Nat × Nat)) : List Bytes :=
  iov.map fun seg => slice r.buffer seg.1 seg.2

/-- The logical contents: the readable bytes, walked from `read_pos_` modulo the size
of the block. -/
def contents (r : RingBuffer) : Bytes := window r.buffer r.readPos r.readableSize

/-- The representation invariant. -/
structure Valid (r : RingBuffer) : Prop where
  capacity_pos : 0 < r.capacity
  capacity_lt : r.capacity < 2 ^ 63
  length_eq : r.buffer.length = r.capacity
  readPos_lt : r.readPos < r.capacity
  readable_le : r.readableSize ≤ r.capacity
  writePos_eq : r.writePos = (r.readPos + r.readableSize) % r.capacity

end RingBuffer

end RtspForward
