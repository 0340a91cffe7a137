import RtspForward.Core.ConnectionData
import RtspForward.Lib.Framing

/-!
# Framing of the incoming stream

The decision of one turn of the read loop is a function of the logical contents of the
read buffer, and that function delimits interleaved frames and requests. So the loop
takes the same messages off the buffer however the stream is cut into read events.
-/
namespace RtspForward

open Lib Lib.Framing Lib.Search

/-! ## The messages of the stream -/

/-- The length of the interleaved frame that starts with these bytes, once its header is
complete. -/
def frameTotal : Bytes → Option Nat
  | marker :: _ :: hi :: lo :: _ =>
    if marker = kRtpInterleavedMarker then some (4 + (hi.toNat * 256 + lo.toNat)) else none
  | _ => none

/-- The length of the first complete message. -/
def nextMessage (b : Bytes) : Option Nat :=
  match frameTotal b with
  | some total => if b.length < total then none else some total
  | none => (find requestTerminator b).map (· + 4)

/-- An interleaved frame: marker, channel, length and payload. -/
def IsFrame (m : Bytes) : Prop :=
  ∃ channel hi lo payload, m = kRtpInterleavedMarker :: channel :: hi :: lo :: payload ∧
    payload.length = hi.toNat * 256 + lo.toNat

/-- A request of bounded length, ended by the only terminator in it. -/
structure IsRequest (m : Bytes) : Prop where
  head_ne : m.head? ≠ some kRtpInterleavedMarker
  four_le : 4 ≤ m.length
  le_max : m.length ≤ kMaxRtspRequestDataLen
  terminator_iff : ∀ i, OccursAt requestTerminator m i ↔ i + 4 = m.length

def IsMessage (m : Bytes) : Prop := IsFrame m ∨ IsRequest m

theorem frameTotal_short {b : Bytes} (h : b.length < 4) : frameTotal b = none := by
  match b, h with
  | [], _ => rfl
  | [_], _ => rfl
  | [_, _], _ => rfl
  | [_, _, _], _ => rfl

theorem frameTotal_other {b : Bytes} (h : b.head? ≠ some kRtpInterleavedMarker) :
    frameTotal b = none := by
  match b with
  | [] => rfl
  | [_] => rfl
  | [_, _] => rfl
  | [_, _, _] => rfl
  | marker :: _ :: _ :: _ :: _ =>
    rw [frameTotal, if_neg]
    simpa using h

theorem frameTotal_marker {b : Bytes} (h : b.head? = some kRtpInterleavedMarker)
    (hlen : 4 ≤ b.length) : ∃ total, frameTotal b = some total ∧ 4 ≤ total := by
  match b, hlen with
  | marker :: _ :: hi :: lo :: _, _ =>
    obtain rfl : marker = kRtpInterleavedMarker := by simpa using h
    exact ⟨4 + (hi.toNat * 256 + lo.toNat), by rw [frameTotal, if_pos rfl], by omega⟩

theorem find_short {b : Bytes} (h : b.length < 4) : find requestTerminator b = none := by
  rw [find_eq_none]
  intro i hi
  have hle := hi.le
  have hfour : requestTerminator.length = 4 := rfl
  omega

theorem nextMessage_nil : nextMessage [] = none := by decide

theorem IsFrame.delimits {m : Bytes} (h : IsFrame m) : Delimits nextMessage m := by
  obtain ⟨channel, hi, lo, payload, rfl, hlen⟩ := h
  refine ⟨by simp, fun rest => ?_, fun p hp hne => ?_⟩
  · simp only [nextMessage, List.cons_append, frameTotal, if_pos]
    rw [if_neg (by simp only [List.length_cons, List.length_append]; omega)]
    simp only [List.length_cons, Option.some.injEq]
    omega
  · have hlt : p.length < 4 + payload.length := by
      have hle := hp.length_le
      have hneq : p.length ≠ _ := fun heq => hne (hp.eq_of_length heq)
      simp only [List.length_cons] at hle hneq
      omega
    match p with
    | a :: b :: c :: d :: p =>
      obtain ⟨t, ht⟩ := hp
      simp only [List.cons_append, List.cons.injEq] at ht
      obtain ⟨rfl, rfl, rfl, rfl, -⟩ := ht
      simp only [nextMessage, frameTotal, if_pos]
      rw [if_pos (by simp only [List.length_cons] at hlt ⊢; omega)]
    | [] => exact nextMessage_nil
    | [_] | [_, _] | [_, _, _] =>
      simp only [nextMessage, frameTotal]
      rw [find_short (by simp)]
      rfl

/-- A text that ends in the only terminator in it. -/
structure Terminated (m : Bytes) : Prop where
  four_le : 4 ≤ m.length
  terminator_iff : ∀ i, OccursAt requestTerminator m i ↔ i + 4 = m.length

theorem terminated_iff {m : Bytes} :
    Terminated m ↔ 4 ≤ m.length ∧ find requestTerminator m = some (m.length - 4) := by
  have hlen : requestTerminator.length = 4 := rfl
  constructor
  · intro h
    have hfour := h.four_le
    refine ⟨hfour, find_eq_some.mpr ⟨(h.terminator_iff _).mpr (by omega), fun j hj ho => ?_⟩⟩
    have hin := (h.terminator_iff j).mp ho
    omega
  · intro ⟨hfour, hfind⟩
    obtain ⟨hocc, hleast⟩ := find_eq_some.mp hfind
    refine ⟨hfour, fun i => ⟨fun ho => ?_, fun hi => ?_⟩⟩
    · have hle := ho.le
      have hge : ¬ i < m.length - 4 := fun hlt => hleast i hlt ho
      omega
    · obtain rfl : i = m.length - 4 := by omega
      exact hocc

instance (m : Bytes) : Decidable (Terminated m) := decidable_of_iff _ terminated_iff.symm

/-- A request is complete when its last byte is there, however long it is. -/
theorem Terminated.delimits {m : Bytes} (h : Terminated m)
    (hhead : m.head? ≠ some kRtpInterleavedMarker) : Delimits nextMessage m := by
  have hne : m ≠ [] := by
    rintro rfl
    exact absurd h.four_le (by decide)
  have hend : OccursAt requestTerminator m (m.length - 4) :=
    (h.terminator_iff _).mpr (by have := h.four_le; omega)
  refine ⟨hne, fun rest => ?_, fun p hp hpne => ?_⟩
  · have hfirst : (m ++ rest).head? ≠ some kRtpInterleavedMarker := by
      rw [List.head?_append_of_ne_nil _ hne]
      exact hhead
    have hfind : find requestTerminator (m ++ rest) = some (m.length - 4) := by
      refine find_eq_some.mpr ⟨hend.append rest, fun j hj ho => ?_⟩
      have hfour : requestTerminator.length = 4 := rfl
      have hin := (h.terminator_iff j).mp (ho.of_append (by omega))
      omega
    have hfour := h.four_le
    rw [nextMessage, frameTotal_other hfirst, hfind, Option.map_some]
    simp only [Option.some.injEq]
    omega
  · have hfirst : p.head? ≠ some kRtpInterleavedMarker := by
      intro hp'
      obtain ⟨t, rfl⟩ := hp
      apply hhead
      rw [List.head?_append, hp']
      rfl
    have hfind : find requestTerminator p = none := by
      refine find_eq_none.mpr fun i ho => ?_
      have hle := ho.le
      obtain ⟨t, rfl⟩ := hp
      have hin := (h.terminator_iff i).mp (ho.append t)
      rw [List.length_append] at hin
      have hfour : requestTerminator.length = 4 := rfl
      have ht : t = [] := List.eq_nil_of_length_eq_zero (by omega)
      exact hpne (by simp [ht])
    rw [nextMessage, frameTotal_other hfirst, hfind, Option.map_none]

theorem IsRequest.delimits {m : Bytes} (h : IsRequest m) : Delimits nextMessage m := by
  have hend : Terminated m := ⟨h.four_le, h.terminator_iff⟩
  exact hend.delimits h.head_ne

theorem IsMessage.delimits {m : Bytes} (h : IsMessage m) : Delimits nextMessage m := by
  rcases h with hframe | hrequest
  · exact hframe.delimits
  · exact hrequest.delimits

/-! ## One turn of the loop -/

namespace RingBuffer

variable {r : RingBuffer}

theorem interleavedTotal_eq (h : Valid r) : r.interleavedTotal = frameTotal r.contents := by
  by_cases hlen : 4 ≤ r.readableSize
  · rw [interleavedTotal, peek_spec h (by decide) hlen]
    have hfour : 4 ≤ r.contents.length := by rwa [length_contents]
    match r.contents, hfour with
    | a :: b :: c :: d :: rest, _ => rfl
  · obtain ⟨st, hst⟩ := peek_refused (r := r) (n := 4) (by omega)
    rw [interleavedTotal, hst, frameTotal_short (by rw [length_contents]; omega)]

end RingBuffer

open RingBuffer in
/-- The decision of one turn, from the logical contents. -/
theorem turn_eq {r : RingBuffer} (h : r.Valid) :
    turn r = match nextMessage r.contents with
      | some n =>
        if r.contents.head? = some kRtpInterleavedMarker then .skip n else .request n
      | none =>
        if r.contents.head? ≠ some kRtpInterleavedMarker ∧
          kMaxRtspRequestDataLen ≤ r.contents.length then .tooLarge else .wait := by
  have hcap := h.capacity_lt
  have hle := h.readable_le
  have hmax : kMaxRtspRequestDataLen = 4096 := rfl
  unfold turn nextMessage
  rw [interleavedTotal_eq h, findSubstring_all h (by decide)]
  by_cases hzero : r.readableSize = 0
  · have hnil : r.contents = [] := List.eq_nil_of_length_eq_zero (by rw [length_contents, hzero])
    rw [if_pos hzero, hnil]
    decide
  · rw [if_neg hzero]
    by_cases hframe : r.contents.head? = some kRtpInterleavedMarker ∧ 4 ≤ r.readableSize
    · obtain ⟨hhead, hfour⟩ := hframe
      obtain ⟨total, htotal, -⟩ := frameTotal_marker hhead (by rwa [length_contents])
      simp only [htotal, hhead, length_contents]
      by_cases hshort : r.readableSize < total
      · simp [hshort]
      · simp [hshort]
    · have hnone : frameTotal r.contents = none := by
        by_cases hhead : r.contents.head? = some kRtpInterleavedMarker
        · have hfour : ¬ 4 ≤ r.readableSize := fun hfour => hframe ⟨hhead, hfour⟩
          exact frameTotal_short (by rw [length_contents]; omega)
        · exact frameTotal_other hhead
      simp only [hnone]
      cases hfind : find requestTerminator r.contents with
      | none =>
        simp only [Option.map_none, length_contents]
        by_cases hhead : r.contents.head? = some kRtpInterleavedMarker
        · have hfour : ¬ 4 ≤ r.readableSize := fun hfour => hframe ⟨hhead, hfour⟩
          rw [if_neg (by omega), if_neg (fun hc => hc.1 hhead)]
        · simp [hhead]
      | some requestEnd =>
        have hend := (find_eq_some.mp hfind).1.le
        have hfour : requestTerminator.length = 4 := rfl
        rw [length_contents] at hend
        have hhead : ¬ r.contents.head? = some kRtpInterleavedMarker := by
          intro hhead
          exact hframe ⟨hhead, by omega⟩
        simp only [Option.map_some]
        rw [Word.add_exact (by omega), if_neg (by omega), if_neg hhead]

theorem nextMessage_bounds {b : Bytes} {n : Nat} (h : nextMessage b = some n) :
    4 ≤ n ∧ n ≤ b.length := by
  unfold nextMessage at h
  split at h
  · rename_i total htotal
    split at h
    · cases h
    · obtain rfl := Option.some.inj h
      refine ⟨?_, by omega⟩
      unfold frameTotal at htotal
      split at htotal
      · split at htotal
        · obtain rfl := Option.some.inj htotal
          omega
        · cases htotal
      · cases htotal
  · obtain ⟨i, hi, rfl⟩ := Option.map_eq_some_iff.mp h
    have hle := (find_eq_some.mp hi).1.le
    have hfour : requestTerminator.length = 4 := rfl
    omega

/-! ## The loop -/

/-- How a message leaves the buffer. -/
def Removal.of (m : Bytes) : Removal :=
  if m.head? = some kRtpInterleavedMarker then .skipped m else .dispatched m

namespace RtspSession

/-- The read side of a session after some of its buffer was taken off: same connection,
same block size, and `p` is what is left. -/
structure ReadsTo (s t : RtspSession) (p : Bytes) : Prop where
  fd_eq : t.conn.fdGuard = s.conn.fdGuard
  valid : t.conn.readBuffer.Valid
  capacity_eq : t.conn.readBuffer.capacity = s.conn.readBuffer.capacity
  contents_eq : t.conn.readBuffer.contents = p

theorem ReadsTo.trans {s t u : RtspSession} {p q : Bytes} (h : ReadsTo s t p)
    (h' : ReadsTo t u q) : ReadsTo s u q where
  fd_eq := h'.fd_eq.trans h.fd_eq
  valid := h'.valid
  capacity_eq := h'.capacity_eq.trans h.capacity_eq
  contents_eq := h'.contents_eq

variable {s t : RtspSession}

theorem readsTo_consume (hvalid : s.conn.readBuffer.Valid)
    (hread : t.conn.readBuffer = s.conn.readBuffer) (hfd : t.conn.fdGuard = s.conn.fdGuard)
    (n : Nat) : ReadsTo s (t.consume n) (s.conn.readBuffer.contents.drop n) where
  fd_eq := hfd
  valid := by
    simp only [consume, Connection.consume, hread]
    exact RingBuffer.consume_valid hvalid n
  capacity_eq := by
    simp only [consume, Connection.consume, hread, RingBuffer.consume_capacity]
  contents_eq := by
    simp only [consume, Connection.consume, hread]
    exact RingBuffer.consume_contents hvalid n

/-- Handling a request leaves the read side alone. -/
theorem dispatch_read (s : RtspSession) (env : ReadEnv) (k n : Nat) :
    (s.dispatch env k n).session.conn.readBuffer = s.conn.readBuffer ∧
      (s.dispatch env k n).session.conn.fdGuard = s.conn.fdGuard := by
  obtain ⟨w, hw⟩ := s.processData_frame (env.request k) (s.conn.readBuffer.rawView n env.beyond)
  rw [dispatch, hw]
  exact ⟨rfl, rfl⟩

/-- The turn that takes a complete message off. -/
theorem turn_take {b : Bytes} {n : Nat} (hvalid : s.conn.readBuffer.Valid)
    (hb : s.conn.readBuffer.contents = b) (hnext : nextMessage b = some n) :
    turn s.conn.readBuffer =
      if (b.take n).head? = some kRtpInterleavedMarker then .skip n else .request n := by
  have hfour := (nextMessage_bounds hnext).1
  have hhead : (b.take n).head? = b.head? := by
    rw [List.head?_take, if_neg (by omega)]
  rw [turn_eq hvalid, hb, hnext, hhead]

/-- The loop takes off exactly what draining the contents takes off, and closes the connection
when an over-long piece of a request is left. -/
theorem readLoop_drains (env : ReadEnv) {b p : Bytes} {done : List Bytes}
    (hdrain : Drains nextMessage b done p) :
    ∀ {fuel k : Nat} {s : RtspSession}, s.conn.readBuffer.Valid →
      s.conn.readBuffer.contents = b → b.length < fuel →
      ∃ res, readLoop env fuel k s = some res ∧
        (res.closed = true ↔ p.head? ≠ some kRtpInterleavedMarker ∧
          kMaxRtspRequestDataLen ≤ p.length) ∧
        res.removed = done.map Removal.of ∧ ReadsTo s res.session p := by
  induction hdrain with
  | @stop b hnone =>
    intro fuel k s hvalid hb hfuel
    cases fuel with
    | zero => omega
    | succ fuel =>
      have hturn := turn_eq hvalid
      rw [hb, hnone] at hturn
      simp only at hturn
      by_cases hlong : b.head? ≠ some kRtpInterleavedMarker ∧ kMaxRtspRequestDataLen ≤ b.length
      · rw [if_pos hlong] at hturn
        refine ⟨{ session := s, closed := true }, ?_, by simp [hlong], rfl, rfl, hvalid, rfl, hb⟩
        simp only [readLoop, hturn]
      · rw [if_neg hlong] at hturn
        refine ⟨{ session := s }, ?_, by simp [hlong], rfl, rfl, hvalid, rfl, hb⟩
        simp only [readLoop, hturn]
  | @take b rest n ms hnext hrest ih =>
    intro fuel k s hvalid hb hfuel
    obtain ⟨hn, hle⟩ := nextMessage_bounds hnext
    cases fuel with
    | zero => omega
    | succ fuel =>
      have hdrop : (b.drop n).length < fuel := by
        rw [List.length_drop]
        omega
      have hturn := turn_take hvalid hb hnext
      by_cases hmarker : (b.take n).head? = some kRtpInterleavedMarker
      · rw [if_pos hmarker] at hturn
        have hnextS := readsTo_consume (t := s) hvalid rfl rfl n
        obtain ⟨res, hres, hclosed, hremoved, hreads⟩ :=
          ih (k := k) hnextS.valid (by rw [hnextS.contents_eq, hb]) hdrop
        refine ⟨{ res with removed := .skipped (b.take n) :: res.removed }, ?_, hclosed, ?_,
          hnextS.trans hreads⟩
        · simp only [readLoop, hturn, hres, Option.map_some, hb]
        · simp only [hremoved, List.map_cons, Removal.of, hmarker, ↓reduceIte]
      · rw [if_neg hmarker] at hturn
        obtain ⟨hread, hfd⟩ := s.dispatch_read env k n
        have hnextS := readsTo_consume hvalid hread hfd n
        obtain ⟨res, hres, hclosed, hremoved, hreads⟩ :=
          ih (k := k + 1) hnextS.valid (by rw [hnextS.contents_eq, hb]) hdrop
        refine ⟨{ res with
          removed := .dispatched (b.take n) :: res.removed
          handled := s.dispatch env k n :: res.handled
          writeInterest := ((s.dispatch env k n).session.consume n).conn.needFlush ||
            res.writeInterest }, ?_, hclosed, ?_, hnextS.trans hreads⟩
        · simp only [readLoop, hturn, hres, Option.map_some, hb]
        · simp only [hremoved, List.map_cons, Removal.of, hmarker, ↓reduceIte]

/-- A read event that hands over a chunk which fits is never refused. -/
theorem recv_chunk {c : Connection} {chunk : Bytes} (hvalid : c.readBuffer.Valid)
    (hopen : c.isClosed = false) (hpos : 0 < chunk.length)
    (hfit : chunk.length ≤ c.readBuffer.contiguousWritableSize) :
    c.recv (.data chunk) =
      ({ c with readBuffer := c.readBuffer.fill chunk }, (chunk.length : Int)) := by
  have hfree : ¬ c.readBuffer.writableSize = 0 := by
    rw [hvalid.contiguousWritableSize_eq] at hfit
    rw [hvalid.writableSize_eq]
    omega
  have htake : chunk.take c.readBuffer.contiguousWritableSize = chunk := List.take_of_length_le hfit
  simp only [Connection.recv, hopen, hfree, Bool.false_eq_true, ↓reduceIte, htake]
  rw [if_neg (by omega)]

/-- The session when the chunk is in its read buffer. -/
def filled (s : RtspSession) (chunk : Bytes) : RtspSession :=
  { s with conn := { s.conn with readBuffer := s.conn.readBuffer.fill chunk } }

theorem readsTo_filled {chunk : Bytes} (hvalid : s.conn.readBuffer.Valid)
    (hfit : chunk.length ≤ s.conn.readBuffer.contiguousWritableSize) :
    ReadsTo s (s.filled chunk) (s.conn.readBuffer.contents ++ chunk) := by
  have happ := RingBuffer.fill_appended hvalid hfit
  exact ⟨rfl, happ.valid, happ.capacity_eq, happ.contents_eq⟩

/-- A read event that hands over a chunk runs the loop, with fuel enough. -/
theorem processConnectionData_chunk (env : ReadEnv) {chunk : Bytes}
    (hrecv : env.recv = .data chunk) (hvalid : s.conn.readBuffer.Valid)
    (hopen : s.conn.isClosed = false) (hpos : 0 < chunk.length)
    (hfit : chunk.length ≤ s.conn.readBuffer.contiguousWritableSize) :
    s.processConnectionData env =
      readLoop env ((s.conn.readBuffer.contents ++ chunk).length + 1) 0 (s.filled chunk) := by
  have hlen : (s.conn.readBuffer.contents ++ chunk).length =
      (s.conn.readBuffer.fill chunk).readableSize := by
    rw [← RingBuffer.length_contents, (RingBuffer.fill_appended hvalid hfit).contents_eq]
  simp only [processConnectionData, hopen, Bool.false_eq_true, ↓reduceIte, hrecv,
    recv_chunk hvalid hopen hpos hfit, hlen, filled]
  rw [if_neg (by omega), if_neg (by omega)]

/-- A read event on a buffer that holds `p`, when the messages the chunk completes are
`done` and `p'` is left. -/
theorem processConnectionData_drains (env : ReadEnv) {chunk p' : Bytes} {done : List Bytes}
    (hrecv : env.recv = .data chunk) (hvalid : s.conn.readBuffer.Valid)
    (hopen : s.conn.isClosed = false) (hpos : 0 < chunk.length)
    (hfit : chunk.length ≤ s.conn.readBuffer.contiguousWritableSize)
    (hdrain : Drains nextMessage (s.conn.readBuffer.contents ++ chunk) done p') :
    ∃ res, s.processConnectionData env = some res ∧
      (res.closed = true ↔ p'.head? ≠ some kRtpInterleavedMarker ∧
        kMaxRtspRequestDataLen ≤ p'.length) ∧
      res.removed = done.map Removal.of ∧ ReadsTo s res.session p' := by
  have hfilled := readsTo_filled hvalid hfit
  obtain ⟨res, hres, hclosed, hremoved, hreads⟩ :=
    readLoop_drains env hdrain (k := 0) hfilled.valid hfilled.contents_eq (Nat.lt_succ_self _)
  refine ⟨res, ?_, hclosed, hremoved, hfilled.trans hreads⟩
  rw [processConnectionData_chunk env hrecv hvalid hopen hpos hfit]
  exact hres

end RtspSession

theorem RtspSession.create_read {fd now : Int} {bufferSize timestamp seq : Nat}
    {garbage : Nat → UInt8} {s : RtspSession}
    (h : RtspSession.create fd bufferSize garbage timestamp seq now = some s) (hfd : 0 ≤ fd) :
    s.conn.readBuffer.Valid ∧ s.conn.isClosed = false ∧
      s.conn.readBuffer.capacity = max bufferSize 1 ∧ s.conn.readBuffer.contents = [] := by
  obtain ⟨conn, hconn, rfl⟩ := Option.map_eq_some_iff.mp h
  unfold Connection.create at hconn
  split at hconn
  · rename_i r w hr hw
    obtain rfl := Option.some.inj hconn
    obtain ⟨hvalid, hcap, hnil⟩ := RingBuffer.create_valid hr
    exact ⟨hvalid, by simp [Connection.isClosed, FdGuard.isValid, hfd], hcap, hnil⟩
  · cases hconn

/-! ## Whole deliveries -/

/-- A read event that hands `Recv` a chunk of the stream. -/
structure ReadEvent where
  chunk : Bytes
  request : Nat → RequestEnv
  beyond : Nat → UInt8

/-- A session and the messages taken off its read buffer so far. -/
structure Reader where
  session : RtspSession
  removed : List Removal := []

/-- One read event. There is no state after one that closes the connection, nor after one
whose loop does not come to an end. -/
def Reader.step (s : Reader) (ev : ReadEvent) : Option Reader :=
  match s.session.processConnectionData
      { recv := .data ev.chunk, request := ev.request, beyond := ev.beyond } with
  | none => none
  | some res => if res.closed then none else some ⟨res.session, s.removed ++ res.removed⟩

/-- A chunk that `recv` can be handed. -/
def Reader.Fits (s : Reader) (ev : ReadEvent) : Prop :=
  1 ≤ ev.chunk.length ∧ ev.chunk.length ≤ s.session.conn.readBuffer.contiguousWritableSize

/-- The state of the receiver while `todo` is still to come. -/
structure Reader.Holds (capacity : Nat) (todo : List Bytes) (s : Reader) : Prop where
  valid : s.session.conn.readBuffer.Valid
  opened : s.session.conn.isClosed = false
  capacity_eq : s.session.conn.readBuffer.capacity = capacity
  leftover : Leftover todo s.session.conn.readBuffer.contents

/-- A proper prefix of a message never looks like an over-long request. -/
theorem leftover_short {todo : List Bytes} {p : Bytes} (hmsg : ∀ m ∈ todo, IsMessage m)
    (h : Leftover todo p) :
    p.head? = some kRtpInterleavedMarker ∨ p.length < kMaxRtspRequestDataLen := by
  cases todo with
  | nil =>
    obtain rfl : p = [] := h
    exact .inr (by decide)
  | cons m todo =>
    obtain ⟨t, ht⟩ := h.1
    rcases hmsg m (by simp) with ⟨channel, hi, lo, payload, hm, -⟩ | hreq
    · match p with
      | [] => exact .inr (by decide)
      | a :: p =>
        rw [hm, List.cons_append, List.cons.injEq] at ht
        exact .inl (by simp [ht.1])
    · have hle := h.1.length_le
      have hne : p.length ≠ m.length := fun hlen => h.2 (h.1.eq_of_length hlen)
      exact .inr (by have := hreq.le_max; omega)

theorem leftover_nil {messages : List Bytes} (hmsg : ∀ m ∈ messages, IsMessage m) :
    Leftover messages [] := by
  cases messages with
  | nil => rfl
  | cons m messages =>
    exact ⟨List.nil_prefix, fun h => (hmsg m (by simp)).delimits.ne_nil h.symm⟩

/-- One read event: the messages the chunk completes are taken off. -/
theorem Reader.step_holds {capacity : Nat} {todo : List Bytes} {s : Reader} {ev : ReadEvent}
    (h : s.Holds capacity todo) (hmsg : ∀ m ∈ todo, IsMessage m) (hfit : s.Fits ev)
    (hstream : s.session.conn.readBuffer.contents ++ ev.chunk <+: todo.flatten) :
    ∃ t done todo', s.step ev = some t ∧ todo = done ++ todo' ∧ t.Holds capacity todo' ∧
      t.removed = s.removed ++ done.map Removal.of ∧
      s.session.conn.readBuffer.contents ++ ev.chunk =
        done.flatten ++ t.session.conn.readBuffer.contents := by
  obtain ⟨done, todo', p', hsplit, hbytes, hdrain, hleft⟩ :=
    deliver nextMessage_nil (fun m hm => (hmsg m hm).delimits) hstream
  have hshort := leftover_short (fun m hm => hmsg m (by simp [hsplit, hm])) hleft
  obtain ⟨res, hres, hclosed, hremoved, hreads⟩ :=
    RtspSession.processConnectionData_drains
      { recv := .data ev.chunk, request := ev.request, beyond := ev.beyond } rfl h.valid h.opened
      hfit.1 hfit.2 hdrain
  have hopen : res.closed = false := by
    rw [Bool.eq_false_iff, ne_eq, hclosed]
    intro ⟨hhead, hlong⟩
    rcases hshort with hmarker | hlt
    · exact hhead hmarker
    · omega
  refine ⟨⟨res.session, s.removed ++ res.removed⟩, done, todo', ?_, hsplit, ?_, ?_, ?_⟩
  · simp only [Reader.step, hres, hopen, Bool.false_eq_true, ↓reduceIte]
  · refine ⟨hreads.valid, ?_, hreads.capacity_eq.trans h.capacity_eq, ?_⟩
    · have hopen := h.opened
      rwa [Connection.isClosed, ← hreads.fd_eq] at hopen
    · rw [hreads.contents_eq]
      exact hleft
  · rw [hremoved]
  · rw [hbytes, hreads.contents_eq]

/-- Whole deliveries, by induction on the read events. -/
theorem Reader.run_holds {capacity : Nat} {events : List ReadEvent} :
    ∀ {todo : List Bytes} {s : Reader}, s.Holds capacity todo → (∀ m ∈ todo, IsMessage m) →
      Transition.Along Reader.step Reader.Fits s events →
      s.session.conn.readBuffer.contents ++ (events.map ReadEvent.chunk).flatten <+: todo.flatten →
      ∃ t done todo', Transition.run Reader.step s events = some t ∧ todo = done ++ todo' ∧
        t.Holds capacity todo' ∧ t.removed = s.removed ++ done.map Removal.of ∧
        s.session.conn.readBuffer.contents ++ (events.map ReadEvent.chunk).flatten =
          done.flatten ++ t.session.conn.readBuffer.contents := by
  induction events with
  | nil =>
    intro todo s h _ _ _
    exact ⟨s, [], todo, rfl, rfl, h, by simp, by simp⟩
  | cons ev events ih =>
    intro todo s h hmsg hfit hstream
    rw [List.map_cons, List.flatten_cons, ← List.append_assoc] at hstream ⊢
    obtain ⟨t, done, todo', hstep, rfl, ht, hremoved, hbytes⟩ :=
      step_holds h hmsg hfit.1 ((List.prefix_append _ _).trans hstream)
    have hstream' : t.session.conn.readBuffer.contents ++
        (events.map ReadEvent.chunk).flatten <+: todo'.flatten := by
      rwa [hbytes, List.flatten_append, List.append_assoc, List.prefix_append_right_inj] at hstream
    obtain ⟨u, done', todo'', hrun, rfl, hu, hremoved', hbytes'⟩ :=
      ih ht (fun m hm => hmsg m (by simp [hm])) (hfit.2 t hstep) hstream'
    refine ⟨u, done ++ done', todo'', Transition.run_cons.mpr ⟨t, hstep, hrun⟩, by simp, hu, ?_, ?_⟩
    · rw [hremoved', hremoved, List.map_append, List.append_assoc]
    · rw [hbytes, List.append_assoc, hbytes', List.flatten_append, List.append_assoc]

/-- **Framing does not depend on segmentation.** A fresh session is handed any prefix of the
concatenation of some messages, none longer than the read buffer, cut into chunks in any
way `recv` allows. Every read event comes to an end and leaves the connection open; the
messages taken off are, in order, the first ones of the sequence, frames skipped and
requests dispatched; what is left is a proper prefix of the next message, so the buffer is
never full; and when all of the stream has arrived, all messages have been taken off. -/
theorem framing_independent_of_segmentation (fd : Int) (bufferSize : Nat)
    (garbage : Nat → UInt8) (timestamp seq : Nat) (now : Int) (s : RtspSession)
    (hcreate : RtspSession.create fd bufferSize garbage timestamp seq now = some s) (hfd : 0 ≤ fd)
    (messages : List Bytes) (hmsg : ∀ m ∈ messages, IsMessage m)
    (hcap : ∀ m ∈ messages, m.length ≤ bufferSize) (events : List ReadEvent)
    (hfit : Transition.Along Reader.step Reader.Fits { session := s } events)
    (hstream : (events.map ReadEvent.chunk).flatten <+: messages.flatten) :
    ∃ t done todo, Transition.run Reader.step { session := s } events = some t ∧
      messages = done ++ todo ∧ t.removed = done.map Removal.of ∧
      (events.map ReadEvent.chunk).flatten =
        done.flatten ++ t.session.conn.readBuffer.contents ∧
      Leftover todo t.session.conn.readBuffer.contents ∧
      t.session.conn.readBuffer.readableSize < t.session.conn.readBuffer.capacity ∧
      ((events.map ReadEvent.chunk).flatten = messages.flatten →
        t.removed = messages.map Removal.of ∧ t.session.conn.readBuffer.contents = []) := by
  obtain ⟨hvalid, hopen, hsize, hnil⟩ := RtspSession.create_read hcreate hfd
  have hstart : Reader.Holds (max bufferSize 1) messages { session := s } :=
    ⟨hvalid, hopen, hsize, by rw [hnil]; exact leftover_nil hmsg⟩
  obtain ⟨t, done, todo, hrun, rfl, ht, hremoved, hbytes⟩ :=
    Reader.run_holds hstart hmsg hfit (by simpa [hnil] using hstream)
  rw [hnil, List.nil_append] at hbytes
  refine ⟨t, done, todo, hrun, rfl, by simpa using hremoved, hbytes, ht.leftover, ?_, fun hall => ?_⟩
  · have hlt := ht.leftover.length_lt (by omega : 0 < max bufferSize 1)
      fun m hm => (hcap m (by simp [hm])).trans (by omega)
    rwa [RingBuffer.length_contents, ← ht.capacity_eq] at hlt
  · have hrest : t.session.conn.readBuffer.contents = todo.flatten := by
      rw [hbytes, List.flatten_append] at hall
      exact List.append_cancel_left hall
    obtain rfl := ht.leftover.all_arrived hrest
    exact ⟨by simpa using hremoved, hrest⟩

/-- A frame and a request in three read events. The request is cut inside its terminator, and
its last two bytes are stored at the start of the block. -/
def segmentedReads : List ReadEvent :=
  [⟨[0x24, 0, 0], fun _ => .quiet, fun _ => 0⟩,
    ⟨[1, 7, 97, 13, 10], fun _ => .quiet, fun _ => 0⟩,
    ⟨[13, 10], fun _ => .quiet, fun _ => 0⟩]

theorem framing_three_reads :
    ∃ s t, RtspSession.create 7 8 (fun _ => 0) 0 0 0 = some s ∧
      Transition.run Reader.step { session := s } segmentedReads = some t ∧
      t.removed = [.skipped [0x24, 0, 0, 1, 7], .dispatched [97, 13, 10, 13, 10]] := by
  have hmsg : ∀ m ∈ [[0x24, 0, 0, 1, 7], [97, 13, 10, 13, 10]], IsMessage m := by
    intro m hm
    simp only [List.mem_cons, List.not_mem_nil, or_false] at hm
    rcases hm with rfl | rfl
    · exact .inl ⟨0, 0, 1, [7], rfl, rfl⟩
    · refine .inr ⟨by decide, by decide, by decide, fun i => ⟨fun hi => ?_, fun hi => ?_⟩⟩
      · have hle : i + 4 ≤ 5 := hi.le
        have hne : i ≠ 0 := by
          rintro rfl
          exact absurd hi (by decide)
        show i + 4 = 5
        omega
      · obtain rfl : i = 1 := by simpa using hi
        decide
  obtain ⟨t, done, todo, hrun, hms, hremoved, -, -, -, hall⟩ :=
    framing_independent_of_segmentation 7 8 (fun _ => 0) 0 0 0 _ rfl (by decide)
      [[0x24, 0, 0, 1, 7], [97, 13, 10, 13, 10]] hmsg (by decide) segmentedReads
      (by
        refine ⟨⟨by decide, by decide⟩, fun t ht => ?_⟩
        obtain rfl := Option.some.inj ht
        refine ⟨⟨by decide, by decide⟩, fun t ht => ?_⟩
        obtain rfl := Option.some.inj ht
        refine ⟨⟨by decide, by decide⟩, fun t ht => trivial⟩)
      (by decide)
  exact ⟨_, t, rfl, hrun, (hall rfl).1⟩
end RtspForward
