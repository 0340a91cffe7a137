import RtspForward.Net.WritePath
import RtspForward.Lib.Transition

/-!
# The outgoing stream over whole runs

Runs of `Send`, `SendV`, `ForwardTcp` and `Flush` in any order, with any answer of the
kernel to each write. When every message fits the free space at the time of its call,
the stream is the concatenation of the messages whose calls returned their full length.
Without that condition a call can leave a piece of its message in the stream; the
second half of the module says exactly when.
-/
namespace RtspForward

open Lib Connection

/-- A connection together with the bytes the kernel has accepted from it so far. -/
structure Wire where
  conn : Connection
  sent : Bytes := []

/-- A call on the write path. Every entry of a vector is non-empty; its total length is
the sum of the entries. -/
inductive WriteOp where
  | send (data : Bytes) (o : WriteOutcome)
  | sendV (iov : List Bytes) (hne : ∀ v ∈ iov, 0 < v.length) (o : WriteOutcome)
  | forwardTcp (p : RtpPacket) (o : WriteOutcome)
  | flush (o : WriteOutcome)

/-- The message a call is asked to send; `Flush` has none of its own. -/
def WriteOp.message : WriteOp → Bytes
  | .send data _ => data
  | .sendV iov _ _ => iov.flatten
  | .forwardTcp p _ => RtpForwarder.frame p
  | .flush _ => []

/-- The size of the first piece a call hands to the write buffer, and the kernel's
answer; `Flush` and a packet that `ForwardTcp` refuses offer nothing. -/
def WriteOp.offer : WriteOp → Option (Nat × WriteOutcome)
  | .send data o => some (data.length, o)
  | .sendV iov _ o => some ((iov.headD []).length, o)
  | .forwardTcp p o =>
    if 0 < p.data.length ∧ p.data.length ≤ kMaxRtpPacketSize then some (4, o) else none
  | .flush _ => none

namespace Wire

/-- The outgoing stream. -/
def stream (w : Wire) : Bytes := w.sent ++ w.conn.writeBuffer.contents

/-- What a call returns. -/
def result (w : Wire) : WriteOp → WriteResult
  | .send data o => w.conn.send data o
  | .sendV iov _ o => w.conn.sendV iov (iov.map List.length).sum o
  | .forwardTcp p o => (RtpForwarder.forwardTcp w.conn p o).1
  | .flush o => w.conn.flush o

def next (w : Wire) (op : WriteOp) : Wire where
  conn := (w.result op).conn
  sent := w.sent ++ (w.result op).accepted

/-- The state after a list of calls. -/
def after (w : Wire) (ops : List WriteOp) : Wire := ops.foldl next w

variable {w : Wire} {op : WriteOp} {part : Bytes}

theorem stream_next (h : Adds w.conn (w.result op) part) :
    (w.next op).stream = w.stream ++ part := by
  simp only [stream, next, List.append_assoc]
  rw [← h.balance]

theorem frame_flatten (p : RtpPacket) :
    [RtpForwarder.buildInterleavedHeader p.streamIndex p.data.length, p.data].flatten =
      RtpForwarder.frame p := by
  simp [RtpForwarder.frame]

@[simp] theorem length_frame (p : RtpPacket) :
    (RtpForwarder.frame p).length = 4 + p.data.length := by
  rw [RtpForwarder.frame, List.length_append]
  rfl

/-- `ForwardTcp` refuses packets of the wrong size before it touches the connection, and
otherwise is `SendV` of the header and the payload. -/
theorem forwardTcp_cases (c : Connection) (p : RtpPacket) (o : WriteOutcome) :
    (¬ (0 < p.data.length ∧ p.data.length ≤ kMaxRtpPacketSize) ∧
      (RtpForwarder.forwardTcp c p o).1 = { conn := c, ret := 0 } ∧
      (RtpForwarder.forwardTcp c p o).2.isOk = false) ∨
    (0 < p.data.length ∧ p.data.length ≤ kMaxRtpPacketSize ∧
      (RtpForwarder.forwardTcp c p o).1 =
        c.sendV [RtpForwarder.buildInterleavedHeader p.streamIndex p.data.length, p.data]
          (4 + p.data.length) o) := by
  unfold RtpForwarder.forwardTcp
  by_cases hzero : p.data.length = 0
  · exact .inl ⟨by omega, by simp [hzero], by simp [hzero]⟩
  · by_cases hbig : p.data.length > kMaxRtpPacketSize
    · refine .inl ⟨by omega, ?_, ?_⟩ <;> simp only [hzero, hbig, ↓reduceIte] <;> split <;> rfl
    · refine .inr ⟨by omega, by omega, ?_⟩
      simp only [hzero, hbig, ↓reduceIte]
      by_cases hclosed : c.isClosed = true
      · simp [hclosed, sendV]
      · simp only [hclosed, Bool.false_eq_true, ↓reduceIte]
        split <;> rfl

theorem forwardTcp_call (c : Connection) (p : RtpPacket) (o : WriteOutcome) :
    (RtpForwarder.forwardTcp c p o).1.call =
      if 0 < p.data.length ∧ p.data.length ≤ kMaxRtpPacketSize ∧ c.isClosed = false ∧
          c.writeBuffer.readableSize = 0 then
        some { site := .writev, fd := c.fd, bytes := RtpForwarder.frame p }
      else none := by
  rcases forwardTcp_cases c p o with ⟨hsize, hsame, -⟩ | ⟨hpos, hmax, hsend⟩
  · rw [hsame, if_neg (fun h => hsize ⟨h.1, h.2.1⟩)]
  · have hrouted := sendV_routed c
      [RtpForwarder.buildInterleavedHeader p.streamIndex p.data.length, p.data] o
    rw [frame_flatten, length_frame] at hrouted
    rw [hsend, hrouted, routed_call, length_frame]
    have hframe : 0 < 4 + p.data.length := by omega
    simp only [hpos, hmax, hframe, true_and]

theorem forwardTcp_effect {c : Connection} {p : RtpPacket} (h : c.Valid) (hpos : 0 < p.data.length)
    (hmax : p.data.length ≤ kMaxRtpPacketSize) (o : WriteOutcome) :
    Effect c (RtpForwarder.frame p) 4 o (RtpForwarder.forwardTcp c p o).1 := by
  rcases forwardTcp_cases c p o with ⟨hsize, -⟩ | ⟨-, -, hsend⟩
  · exact absurd ⟨hpos, hmax⟩ hsize
  · have heff := sendV_effect h
      [RtpForwarder.buildInterleavedHeader p.streamIndex p.data.length, p.data]
      (by simpa [RtpForwarder.buildInterleavedHeader] using hpos) o
    rw [frame_flatten, length_frame] at heff
    rw [hsend]
    exact heff

/-- A call either offers nothing and adds nothing, or has the effect of its route. -/
theorem result_effect (h : w.conn.Valid) (op : WriteOp) :
    (op.offer = none ∧ Adds w.conn (w.result op) []) ∨
      ∃ head o, op.offer = some (head, o) ∧ Effect w.conn op.message head o (w.result op) := by
  cases op with
  | send data o => exact .inr ⟨_, _, rfl, send_effect h data o⟩
  | sendV iov hne o =>
    refine .inr ⟨_, _, rfl, ?_⟩
    have heff := sendV_effect h iov hne o
    rwa [List.length_flatten] at heff
  | forwardTcp p o =>
    simp only [WriteOp.offer, result]
    rcases forwardTcp_cases w.conn p o with ⟨hsize, hsame, -⟩ | ⟨hpos, hmax, hsend⟩
    · rw [hsame, if_neg hsize]
      exact .inl ⟨rfl, adds_unchanged h 0 none⟩
    · rw [hsend, if_pos ⟨hpos, hmax⟩]
      refine .inr ⟨4, o, rfl, ?_⟩
      have heff := forwardTcp_effect h hpos hmax o
      rwa [hsend] at heff
  | flush o => exact .inl ⟨rfl, flush_adds h o⟩

theorem result_adds (h : w.conn.Valid) (op : WriteOp) :
    ∃ part, Adds w.conn (w.result op) part := by
  rcases result_effect h op with ⟨-, hadds⟩ | ⟨head, o, -, heff⟩
  · exact ⟨[], hadds⟩
  · exact heff.adds

theorem next_valid (h : w.conn.Valid) (op : WriteOp) : (w.next op).conn.Valid := by
  obtain ⟨part, hadds⟩ := result_adds h op
  exact hadds.valid

theorem after_valid (h : w.conn.Valid) (ops : List WriteOp) : (w.after ops).conn.Valid := by
  induction ops generalizing w with
  | nil => exact h
  | cons op ops ih => exact ih (next_valid h op)

/-! ## Messages that fit -/

/-- A call is admissible when its message fits the free space of the write buffer. -/
def Admissible (w : Wire) (op : WriteOp) : Prop := op.message.length ≤ w.conn.room

/-- The messages of the calls that return their full length, in call order. -/
def credited : Wire → List WriteOp → Bytes
  | _, [] => []
  | w, op :: ops =>
    (if (w.result op).ret = op.message.length then op.message else []) ++
      credited (w.next op) ops

/-- An admissible call adds its whole message if it returns its full length, and nothing
otherwise. -/
theorem adds_of_admissible (h : w.conn.Valid) (hfit : w.Admissible op) :
    Adds w.conn (w.result op)
      (if (w.result op).ret = op.message.length then op.message else []) := by
  rcases result_effect h op with ⟨hnone, hadds⟩ | ⟨head, o, -, heff⟩
  · -- a call that offers nothing returns 0, or is a flush and has no message
    cases op with
    | flush o =>
      have hnone : (WriteOp.flush o).message = [] := rfl
      rw [hnone, ite_self]
      exact hadds
    | forwardTcp p o =>
      simp only [WriteOp.offer] at hnone
      rcases forwardTcp_cases w.conn p o with ⟨-, hsame, -⟩ | ⟨hpos, hmax, -⟩
      · rw [if_neg]
        · exact hadds
        · simp only [result, hsame, WriteOp.message, length_frame]
          omega
      · rw [if_pos ⟨hpos, hmax⟩] at hnone
        cases hnone
    | send data o => cases hnone
    | sendV iov hne o => cases hnone
  · exact heff.adds_of_fits hfit

theorem stream_after_admissible (h : w.conn.Valid) {ops : List WriteOp}
    (hadm : Transition.Along (Transition.total next) Admissible w ops) :
    (w.after ops).stream = w.stream ++ credited w ops := by
  induction ops generalizing w with
  | nil => simp [after, credited]
  | cons op ops ih =>
    obtain ⟨hfit, hrest⟩ := Transition.along_total_cons.mp hadm
    have htail := ih (next_valid h op) hrest
    rw [stream_next (adds_of_admissible h hfit)] at htail
    simpa [after, credited] using htail

/-- **Byte conservation of the write path.** On a fresh connection of any buffer size,
after any run of admissible calls, the stream is the concatenation of the messages of
the calls that returned their full length. In every state so reached an admissible call
that returns -1 adds nothing, `Flush` changes nothing, and `SendV` leaves the same
connection, returns the same value and hands the kernel the same bytes as `Send` of the
concatenated vector. -/
theorem write_path_conserves_bytes (fd : Int) (bufferSize : Nat) (garbage : Nat → UInt8)
    (c : Connection) (hc : Connection.create fd bufferSize garbage = some c) (ops : List WriteOp)
    (hadm : Transition.Along (Transition.total next) Admissible { conn := c } ops) :
    let w := Wire.after { conn := c } ops
    w.stream = credited { conn := c } ops ∧
      (∀ op, w.Admissible op → (w.result op).ret = -1 → (w.next op).stream = w.stream) ∧
      (∀ o, (w.next (.flush o)).stream = w.stream) ∧
      (∀ iov hne o, w.Admissible (.sendV iov hne o) →
        WriteResult.observed (w.result (.sendV iov hne o)) =
          WriteResult.observed (w.result (.send iov.flatten o))) := by
  intro w
  obtain ⟨hvalid, hnil⟩ := create_spec hc
  have hw : w.conn.Valid := after_valid hvalid ops
  refine ⟨?_, ?_, ?_, ?_⟩
  · rw [stream_after_admissible hvalid hadm]
    simp [stream, hnil]
  · intro op hfit hret
    rw [stream_next (adds_of_admissible hw hfit), if_neg (by omega), List.append_nil]
  · intro o
    rw [stream_next (flush_adds hw o), List.append_nil]
  · intro iov hne o hfit
    have hobs := sendV_observed hw iov hne hfit o
    rwa [List.length_flatten] at hobs

/-- The vector is split by the kernel inside its second entry, the next message is
queued behind the remainder, and a flush moves one byte. -/
theorem write_path_conserves_bytes_split :
    ∃ c, Connection.create 5 8 (fun _ => 0) = some c ∧
      (Wire.after { conn := c } [.sendV [[1], [2, 3]] (by decide) (.accepted 2),
        .send [4, 5] .wouldBlock, .flush (.accepted 1)]).stream = [1, 2, 3, 4, 5] := by
  refine ⟨_, rfl, ?_⟩
  have hrun := write_path_conserves_bytes 5 8 (fun _ => 0) _ rfl
    [.sendV [[1], [2, 3]] (by decide) (.accepted 2), .send [4, 5] .wouldBlock, .flush (.accepted 1)]
    (by
      refine Transition.along_total_cons.mpr ⟨?_, Transition.along_total_cons.mpr ⟨?_,
        Transition.along_total_cons.mpr ⟨?_, trivial⟩⟩⟩ <;> unfold Admissible <;> decide)
  rw [hrun.1]
  decide

/-! ## Messages in general -/

/-- The condition under which a call adds its whole message or nothing, as a condition on
the state before the call and on the kernel's answer. -/
def keepsWhole (w : Wire) (op : WriteOp) : Bool :=
  match op.offer with
  | none => true
  | some (head, o) => w.conn.keepsWhole op.message.length head o

theorem whole_iff_keepsWhole (h : w.conn.Valid) (op : WriteOp) :
    (∃ part, (part = [] ∨ part = op.message) ∧ Adds w.conn (w.result op) part) ↔
      w.keepsWhole op = true := by
  unfold keepsWhole
  rcases result_effect h op with ⟨hnone, hadds⟩ | ⟨head, o, hsome, heff⟩
  · rw [hnone]
    exact ⟨fun _ => rfl, fun _ => ⟨[], .inl rfl, hadds⟩⟩
  · rw [hsome]
    exact heff.whole_iff

theorem stream_whole_iff (h : w.conn.Valid) (op : WriteOp) :
    (∃ part, (part = [] ∨ part = op.message) ∧ (w.next op).stream = w.stream ++ part) ↔
      w.keepsWhole op = true := by
  rw [← whole_iff_keepsWhole h op]
  constructor
  · intro ⟨part, hpart, hstream⟩
    obtain ⟨added, hadds⟩ := result_adds h op
    rw [stream_next hadds] at hstream
    obtain rfl := List.append_cancel_left hstream
    exact ⟨added, hpart, hadds⟩
  · intro ⟨part, hpart, hadds⟩
    exact ⟨part, hpart, stream_next hadds⟩

/-- Every call of a run contributes its whole message or no byte at all: after each
prefix of the run the stream has grown by the contributions of that prefix, in call
order. -/
def Intact (w : Wire) (ops : List WriteOp) : Prop :=
  ∃ parts : List Bytes, List.Forall₂ (fun op part => part = [] ∨ part = op.message) ops parts ∧
    ∀ k ≤ ops.length, (w.after (ops.take k)).stream = w.stream ++ (parts.take k).flatten

theorem intact_cons {ops : List WriteOp} :
    w.Intact (op :: ops) ↔
      (∃ part, (part = [] ∨ part = op.message) ∧ (w.next op).stream = w.stream ++ part) ∧
        (w.next op).Intact ops := by
  constructor
  · intro ⟨parts, hparts, hstream⟩
    cases hparts with
    | @cons _ part _ parts hpart hparts =>
      have hfirst : (w.next op).stream = w.stream ++ part := by
        simpa [after] using hstream 1 (by simp)
      refine ⟨⟨part, hpart, hfirst⟩, parts, hparts, fun k hk => ?_⟩
      have hk' := hstream (k + 1) (by simpa using hk)
      rw [hfirst]
      simpa [after] using hk'
  · intro ⟨⟨part, hpart, hfirst⟩, parts, hparts, hstream⟩
    refine ⟨part :: parts, .cons hpart hparts, fun k hk => ?_⟩
    cases k with
    | zero => simp [after]
    | succ k =>
      have hk' := hstream k (by simpa using hk)
      rw [hfirst] at hk'
      simpa [after] using hk'

/-- A run is intact exactly when each of its calls meets the condition when it is made. -/
theorem intact_iff_along (h : w.conn.Valid) (ops : List WriteOp) :
    w.Intact ops ↔ Transition.Along (Transition.total next) (fun w op => w.keepsWhole op) w ops := by
  induction ops generalizing w with
  | nil =>
    refine ⟨fun _ => trivial, fun _ => ⟨[], .nil, fun k hk => ?_⟩⟩
    obtain rfl : k = 0 := by simpa using hk
    simp [after]
  | cons op ops ih =>
    rw [intact_cons, stream_whole_iff h op, ih (next_valid h op), Transition.along_total_cons]

/-- **Integrity of the outgoing stream.** On a fresh connection of any buffer size, the
stream is a concatenation of complete messages after every call of a run exactly when
every call of the run meets `keepsWhole`. -/
theorem stream_intact_iff_keepsWhole (fd : Int) (bufferSize : Nat) (garbage : Nat → UInt8)
    (c : Connection) (hc : Connection.create fd bufferSize garbage = some c)
    (ops : List WriteOp) :
    Wire.Intact { conn := c } ops ↔
      Transition.Along (Transition.total next) (fun w op => w.keepsWhole op) { conn := c } ops :=
  intact_iff_along (create_spec hc).1 ops

/-- A response queued behind a blocked socket and a frame that still fits behind it. -/
theorem stream_intact_queue :
    ∃ c, Connection.create 5 16 (fun _ => 0) = some c ∧
      Wire.Intact { conn := c }
        [.send [1, 2] .wouldBlock, .forwardTcp ⟨[7, 8, 9], 0⟩ .wouldBlock] := by
  refine ⟨_, rfl, ?_⟩
  rw [stream_intact_iff_keepsWhole 5 16 (fun _ => 0) _ rfl]
  exact Transition.along_total_cons.mpr ⟨by decide,
    Transition.along_total_cons.mpr ⟨by decide, trivial⟩⟩

/-- The header of a frame is left behind: with eight bytes of buffer and two in use, the
four bytes of the header still fit and the three of the payload do not. The call returns
-1, and the next message follows the orphaned header. -/
theorem orphaned_header :
    ∃ c, Connection.create 5 8 (fun _ => 0) = some c ∧
      (Wire.after { conn := c } [.send [1, 2] .wouldBlock,
        .forwardTcp ⟨[7, 8, 9], 0⟩ .wouldBlock, .send [3] .wouldBlock]).stream =
          [1, 2, 0x24, 0, 0, 3, 3] ∧
      ¬ Wire.Intact { conn := c } [.send [1, 2] .wouldBlock,
        .forwardTcp ⟨[7, 8, 9], 0⟩ .wouldBlock, .send [3] .wouldBlock] := by
  refine ⟨_, rfl, by decide, ?_⟩
  have hfresh := create_spec (show Connection.create 5 8 (fun _ => 0) = some _ from rfl)
  rw [intact_iff_along hfresh.1]
  rintro ⟨-, hrest⟩
  exact absurd (hrest _ rfl).1 (by decide)

end Wire

end RtspForward
