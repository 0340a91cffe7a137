import RtspForward.Core.SessionEffects
import RtspForward.Buffer.Search

/-!
# Reading from a connection

The session side of `RtspServer::ProcessConnectionData`: receive, then take complete
messages off the read buffer until none is left. Interleaved frames are skipped; a
request is handed to `ProcessData` as the `request_len` bytes at `GetReadBuffer()`, a raw
pointer into the block.
-/
namespace RtspForward

open Lib

/-- The four bytes that end a request. -/
def requestTerminator : Bytes := [13, 10, 13, 10]

namespace RingBuffer

/-- `len` bytes read straight on from `ReadPtr()`. Behind the end of the block they are
whatever the memory there holds. -/
def rawView (r : RingBuffer) (len : Nat) (beyond : Nat → UInt8) : Bytes :=
  (List.range len).map fun i =>
    if r.readPos + i < r.capacity then r.buffer.getD (r.readPos + i) default
    else beyond (r.readPos + i - r.capacity)

/-- The length of the interleaved frame at the front, when its header is there. -/
def interleavedTotal (r : RingBuffer) : Option Nat :=
  match r.peek 4 with
  | .ok [marker, _, hi, lo] =>
    if marker = kRtpInterleavedMarker then some (4 + (hi.toNat * 256 + lo.toNat)) else none
  | _ => none

end RingBuffer

/-- What one turn of the loop decides. -/
inductive Turn where
  /-- Nothing complete is buffered: the loop is left. -/
  | wait
  /-- The limit is reached without a complete request: the connection is closed. -/
  | tooLarge
  /-- A complete interleaved frame. -/
  | skip (total : Nat)
  /-- A complete request. -/
  | request (requestLen : Nat)
  deriving DecidableEq, Repr

/-- The decision, from the read buffer alone. -/
def turn (r : RingBuffer) : Turn :=
  if r.readableSize = 0 then .wait
  else
    match r.interleavedTotal with
    | some total => if r.readableSize < total then .wait else .skip total
    | none =>
      match r.findSubstring requestTerminator 0 with
      | none => if r.readableSize ≥ kMaxRtspRequestDataLen then .tooLarge else .wait
      | some requestEnd =>
        let requestLen := Word.add 64 requestEnd 4
        if requestLen > r.readableSize then .wait else .request requestLen

/-- A message taken off the read buffer, as the logical bytes it occupied. -/
inductive Removal where
  | skipped (bytes : Bytes)
  | dispatched (bytes : Bytes)
  deriving DecidableEq, Repr

/-- What the outside world contributes to a read event: the answer of `recv`, the
environment of each request handled, and the memory behind the block. -/
structure ReadEnv where
  recv : RecvOutcome
  request : Nat → RequestEnv
  beyond : Nat → UInt8

/-- The outcome of a read event: the session, the messages taken off, how each request
was handled, whether write interest was registered, and whether the connection was
closed. -/
structure ReadResult where
  session : RtspSession
  removed : List Removal := []
  handled : List Handled := []
  writeInterest : Bool := false
  closed : Bool := false

namespace RtspSession

/-- `Consume`. -/
def consume (s : RtspSession) (len : Nat) : RtspSession := { s with conn := s.conn.consume len }

/-- The request at the front of the read buffer is handed to `ProcessData`. -/
def dispatch (s : RtspSession) (env : ReadEnv) (k requestLen : Nat) : Handled :=
  s.processData (s.conn.readBuffer.rawView requestLen env.beyond) (env.request k)

/-- The loop of `ProcessConnectionData`; `k` counts the requests handled so far. Without
fuel there is no result. -/
def readLoop (env : ReadEnv) : Nat → Nat → RtspSession → Option ReadResult
  | 0, _, _ => none
  | fuel + 1, k, s =>
    match turn s.conn.readBuffer with
    | .wait => some { session := s }
    | .tooLarge => some { session := s, closed := true }
    | .skip total =>
      (readLoop env fuel k (s.consume total)).map fun res =>
        { res with removed := .skipped (s.conn.readBuffer.contents.take total) :: res.removed }
    | .request requestLen =>
      let h := s.dispatch env k requestLen
      let next := h.session.consume requestLen
      (readLoop env fuel (k + 1) next).map fun res =>
        { res with
          removed := .dispatched (s.conn.readBuffer.contents.take requestLen) :: res.removed
          handled := h :: res.handled
          writeInterest := next.conn.needFlush || res.writeInterest }

/-- `ProcessConnectionData` on a session that is in the table. Every turn takes at least
one byte off the buffer, so one turn more than there are bytes is fuel enough. -/
def processConnectionData (s : RtspSession) (env : ReadEnv) : Option ReadResult :=
  if s.conn.isClosed then some { session := s, closed := true }
  else
    let received := s.conn.recv env.recv
    let s := { s with conn := received.1 }
    if received.2 < 0 then some { session := s, closed := true }
    else if received.2 = 0 then some { session := s, closed := true }
    else readLoop env (s.conn.readBuffer.readableSize + 1) 0 s

end RtspSession

/-! ## The raw view of a request -/

namespace RingBuffer

variable {r : RingBuffer} {requestEnd : Nat}

theorem find_terminator_le (h : Valid r)
    (hfind : r.findSubstring requestTerminator 0 = some requestEnd) :
    requestEnd + 4 ≤ r.readableSize := by
  rw [findSubstring_all h (by decide)] at hfind
  have hle := (Search.find_eq_some.mp hfind).1.le
  rwa [length_contents] at hle

/-- Up to the end of the block the raw view is the contiguous copy. -/
theorem rawView_eq (h : Valid r) {len : Nat} (hlen : r.readPos + len ≤ r.capacity)
    (beyond : Nat → UInt8) : r.rawView len beyond = Circular.window r.buffer r.readPos len := by
  apply List.map_congr_left
  intro i hi
  rw [List.mem_range] at hi
  rw [if_pos (by omega), h.length_eq, Nat.mod_eq_of_lt (by omega)]

theorem create_readPos {capacity : Nat} {garbage : Nat → UInt8}
    (h : create capacity garbage = some r) : r.readPos = 0 := by
  simp only [create] at h
  generalize (if capacity > 0 then capacity else 1) = c at h
  split at h
  · obtain rfl := Option.some.inj h
    rfl
  · cases h

/-- The read side of a connection: bytes stored by `recv` and bytes consumed. -/
inductive ReadOp where
  | recv (chunk : Bytes)
  | consume (n : Nat)
  deriving DecidableEq, Repr

/-- The read buffer and the number of bytes consumed from it since it was created, that
is, the offset of its front in the incoming stream. -/
structure ReadSide where
  buffer : RingBuffer
  consumed : Nat := 0

/-- `recv` stores at most the contiguous free space. -/
def ReadSide.step (s : ReadSide) : ReadOp → Option ReadSide
  | .recv chunk =>
    if chunk.length ≤ s.buffer.contiguousWritableSize then
      some { s with buffer := s.buffer.fill chunk }
    else none
  | .consume n =>
    some { buffer := s.buffer.consume n, consumed := s.consumed + min n s.buffer.readableSize }

/-- The front of the buffer sits at its stream offset modulo the capacity. -/
structure ReadSide.Aligned (capacity : Nat) (s : ReadSide) : Prop where
  valid : s.buffer.Valid
  capacity_eq : s.buffer.capacity = capacity
  readPos_eq : s.buffer.readPos = s.consumed % capacity

theorem ReadSide.aligned_step {capacity : Nat} {s t : ReadSide} {op : ReadOp}
    (h : s.Aligned capacity) (hstep : s.step op = some t) : t.Aligned capacity := by
  cases op with
  | recv chunk =>
    simp only [ReadSide.step] at hstep
    split at hstep
    · rename_i hfit
      obtain rfl := Option.some.inj hstep
      have happ := fill_appended h.valid hfit
      exact ⟨happ.valid, happ.capacity_eq.trans h.capacity_eq, happ.readPos_eq.trans h.readPos_eq⟩
    · cases hstep
  | consume n =>
    obtain rfl := Option.some.inj hstep
    refine ⟨consume_valid h.valid n, h.capacity_eq, ?_⟩
    have hpos := congrArg RingBuffer.readPos (consume_eq h.valid n)
    simp only at hpos ⊢
    rw [hpos, h.readPos_eq, h.capacity_eq, Nat.mod_add_mod]

/-- **The view handed to the parser.** In every state of the read buffer, reached by any
history of received chunks and `Consume` calls, in which a terminator is found, the raw
view lies in the block and equals the front of the FIFO exactly when the request, taken
as a range of the incoming stream, does not run across a multiple of the capacity. -/
theorem rawView_is_request_iff (capacity : Nat) (garbage : Nat → UInt8) (r₀ : RingBuffer)
    (hcreate : create capacity garbage = some r₀) (ops : List ReadOp) (s : ReadSide)
    (hrun : Transition.run ReadSide.step { buffer := r₀ } ops = some s) (requestEnd : Nat)
    (hfind : s.buffer.findSubstring requestTerminator 0 = some requestEnd) :
    (s.buffer.readPos + (requestEnd + 4) ≤ s.buffer.capacity ∧
      ∀ beyond, s.buffer.rawView (requestEnd + 4) beyond = s.buffer.contents.take (requestEnd + 4) ∧
        s.buffer.peek (requestEnd + 4) = .ok (s.buffer.rawView (requestEnd + 4) beyond)) ↔
      s.consumed % max capacity 1 + (requestEnd + 4) ≤ max capacity 1 := by
  obtain ⟨hvalid, hcap, -⟩ := create_valid hcreate
  have hstart : ReadSide.Aligned (max capacity 1) { buffer := r₀ } :=
    ⟨hvalid, hcap, by rw [create_readPos hcreate, Nat.zero_mod]⟩
  have h : s.Aligned (max capacity 1) := Transition.run_invariant
    (fun _ _ _ h hs => ReadSide.aligned_step h hs) hstart hrun
  have hle := find_terminator_le h.valid hfind
  rw [h.readPos_eq, h.capacity_eq]
  constructor
  · rintro ⟨hin, -⟩
    exact hin
  · intro hin
    refine ⟨hin, fun beyond => ?_⟩
    have hview : s.buffer.rawView (requestEnd + 4) beyond =
        s.buffer.contents.take (requestEnd + 4) := by
      rw [rawView_eq h.valid (by rw [h.readPos_eq, h.capacity_eq]; exact hin), contents,
        Circular.take_window _ _ hle]
    exact ⟨hview, by rw [hview]; exact peek_spec h.valid (by omega) hle⟩

/-- A second request that starts at offset five of the stream and ends at offset ten, in a
block of sixteen bytes. -/
theorem rawView_is_request_contiguous :
    ∃ r₀ s, create 16 (fun _ => 0) = some r₀ ∧
      Transition.run ReadSide.step { buffer := r₀ }
        [.recv [97, 13, 10, 13, 10], .consume 5, .recv [98, 13, 10], .recv [13, 10]] = some s ∧
      s.buffer.rawView 5 (fun _ => 0) = [98, 13, 10, 13, 10] := by
  refine ⟨_, ⟨⟨[97, 13, 10, 13, 10, 98, 13, 10, 13, 10, 0, 0, 0, 0, 0, 0], 16, 5, 10, 5⟩, 5⟩,
    rfl, rfl, ?_⟩
  have hview := (rawView_is_request_iff 16 (fun _ => 0) _ rfl
    [.recv [97, 13, 10, 13, 10], .consume 5, .recv [98, 13, 10], .recv [13, 10]]
    ⟨⟨[97, 13, 10, 13, 10, 98, 13, 10, 13, 10, 0, 0, 0, 0, 0, 0], 16, 5, 10, 5⟩, 5⟩ rfl 1
    (by decide)).mpr (by decide)
  rw [(hview.2 fun _ => 0).1]
  decide

/-- Two requests of five bytes in a block of eight: the second one starts at offset five
of the stream and runs across offset eight. Its last two bytes are at the start of the
block, and the raw view takes them from behind its end. -/
theorem rawView_straddles :
    ∃ r₀ s, create 8 (fun _ => 0) = some r₀ ∧
      Transition.run ReadSide.step { buffer := r₀ }
        [.recv [97, 13, 10, 13, 10], .consume 5, .recv [98, 13, 10], .recv [13, 10]] = some s ∧
      s.buffer.findSubstring requestTerminator 0 = some 1 ∧
      s.buffer.contents.take 5 = [98, 13, 10, 13, 10] ∧
      ¬ (s.buffer.readPos + (1 + 4) ≤ s.buffer.capacity ∧
        ∀ beyond, s.buffer.rawView (1 + 4) beyond = s.buffer.contents.take (1 + 4) ∧
          s.buffer.peek (1 + 4) = .ok (s.buffer.rawView (1 + 4) beyond)) ∧
      s.buffer.rawView 5 (fun _ => 0) = [98, 13, 10, 0, 0] := by
  refine ⟨_, ⟨⟨[13, 10, 10, 13, 10, 98, 13, 10], 8, 5, 2, 5⟩, 5⟩, rfl, ?_, ?_, ?_, ?_, ?_⟩
  · rfl
  · decide
  · decide
  · rintro ⟨hin, -⟩
    exact absurd hin (by decide)
  · decide

end RingBuffer

end RtspForward
