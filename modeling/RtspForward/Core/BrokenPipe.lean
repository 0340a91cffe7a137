import RtspForward.Core.SystemInvariant

/-!
# Writes on broken connections

There are four places that write on a client's connection. `Send`, and `Flush` of one
segment, pass `MSG_NOSIGNAL`; `SendV`, and `Flush` of two segments, call `writev`. A client
that goes away in front of one of the latter ends the process.
-/
namespace RtspForward

namespace Connection

/-- `ForwardTcp` will offer the frame to the kernel at once. -/
def writesThrough (c : Connection) (p : RtpPacket) : Bool :=
  0 < p.data.length && p.data.length ≤ kMaxRtpPacketSize && !c.isClosed &&
    c.writeBuffer.readableSize = 0

/-- The pending data wraps around the end of the write buffer. -/
def wrapped (c : Connection) : Bool := !c.isClosed && c.writeBuffer.getReadableIoVec.length ≥ 2

theorem send_hardError (c : Connection) (data : Bytes)
    (h : (c.send data .hardError).call.isSome = true) : (c.send data .hardError).ret = -1 := by
  rw [send_call] at h
  split at h
  · rename_i hissued
    obtain ⟨hopen, hpos, hempty⟩ := hissued
    have hlen : ¬ data.length = 0 := by omega
    simp [send, hopen, hlen, hempty, WriteOutcome.answer]
  · cases h

theorem flush_writev (c : Connection) (o : WriteOutcome) :
    (c.flush o).call.any (fun call => call.site = .writev) = c.wrapped := by
  rw [flush_call]
  unfold wrapped
  by_cases hclosed : c.isClosed = true
  · simp [hclosed]
  · rcases hlen : c.writeBuffer.getReadableIoVec.length with _ | _ | n <;> simp [hclosed]

theorem flush_hardError (c : Connection) (h : (c.flush .hardError).call.isSome = true) :
    (c.flush .hardError).ret = -1 := by
  rw [flush_call] at h
  split at h
  · rename_i hissued
    obtain ⟨hopen, hpos⟩ := hissued
    have hlen : ¬ c.writeBuffer.getReadableIoVec.length = 0 := by omega
    simp only [flush, hopen, hlen, Bool.false_eq_true, ↓reduceIte, WriteOutcome.answer]
  · cases h

theorem forwardTcp_hardError (c : Connection) (p : RtpPacket)
    (h : (RtpForwarder.forwardTcp c p .hardError).1.call.isSome = true) :
    (RtpForwarder.forwardTcp c p .hardError).1.ret = -1 := by
  rw [Wire.forwardTcp_call] at h
  split at h
  · rename_i hthrough
    obtain ⟨hpos, hmax, hopen, hempty⟩ := hthrough
    have hzero : ¬ p.data.length = 0 := by omega
    have hbig : ¬ p.data.length > kMaxRtpPacketSize := by omega
    simp [RtpForwarder.forwardTcp, hzero, hbig, hopen, sendV, hempty, WriteOutcome.answer]
  · cases h

theorem forwardTcp_writev (c : Connection) (p : RtpPacket) (o : WriteOutcome) :
    (RtpForwarder.forwardTcp c p o).1.call.any (fun call => call.site = .writev) =
      c.writesThrough p := by
  rw [Wire.forwardTcp_call]
  unfold writesThrough
  split
  · simp_all
  · rename_i hthrough
    simp only [Option.any_none]
    symm
    simpa [and_assoc] using hthrough

end Connection

namespace System

open Lib

variable {s t : System} {l : Label}

/-- A write on a broken connection returns an error. -/
def ReportsBreak (s : System) (l : Label) : Prop :=
  ∀ sid res, s.issued l = some (sid, res) → res.call.isSome = true → s.broken sid = true →
    res.ret = -1

/-- The step calls `writev` on a broken connection: `SendV` with nothing buffered, or
`Flush` with wrapped data. -/
def endangers (s : System) : Label → Bool
  | .sendV _ =>
    match s.stream.pc with
    | .tcp sid _ => s.broken sid &&
        (s.server.heap sid).any fun session => session.conn.writesThrough s.stream.packet
    | _ => false
  | .flush _ =>
    match s.loop.pc with
    | .flushing sid => s.broken sid && (s.server.heap sid).any fun session => session.conn.wrapped
    | _ => false
  | _ => false

theorem closeAndLeave_killed (s : System) (held : List Nat) :
    (s.closeAndLeave held).killed = s.killed := release_killed _ _

/-- The reply to a request goes out with `send`, so it raises nothing. -/
theorem request_raises (broken : Bool) (session : RtspSession) (data : Bytes) (env : RequestEnv) :
    raises broken ((session.processData data env).reply.bind fun reply => reply.result.call) =
      false := by
  simp only [raises, Bool.and_eq_false_iff]
  refine .inr ?_
  cases hreply : (session.processData data env).reply with
  | none => rfl
  | some reply =>
    obtain ⟨response, hres⟩ := session.processData_reply env data hreply
    simp only [Option.bind_some, hres, Connection.send_call]
    split <;> rfl

/-- A step leaves the process alive exactly when it does not endanger it. -/
theorem step_killed (h : s.step l = some t) :
    t.killed = false ↔ s.killed = false ∧ s.endangers l = false := by
  have halive := alive_of_step h
  simp only [halive, true_and]
  cases step_cases h with
  | broadcast =>
    unfold System.broadcast
    split
    · exact iff_of_true halive rfl
    · exact iff_of_true halive rfl
  | load | sendTo | recordDrop | recordSuccess | streamModify | wait | skip | enter | absent
  | receive | writable | skipFrame | checkRead | registerRead | drained | disconnect =>
    exact iff_of_true halive rfl
  | @sendV o sid fd session hpc hs _ =>
    simp [System.sendV, raises, endangers, hpc, hs, Connection.forwardTcp_writev]
  | finish | accept | sweep | drop | hangUp | readDone | tooLarge | pending | unregister =>
    exact iff_of_true ((release_killed _ _).trans halive) rfl
  | request hpc hs hturn hh _ hkernel =>
    subst hh
    exact iff_of_true (request_raises _ _ _ _) rfl
  | @flushFailed o sid session hpc hs _ | @flush o sid session hpc hs _ =>
    simp [closeAndLeave_killed, System.flushed, System.goto, raises, endangers, hpc, hs,
      Connection.flush_writev]

theorem hardError_of_answerable {broken : Bool} {call : Option WriteCall} {o : WriteOutcome}
    (h : answerable broken call o = true) (hcall : call.isSome = true) (hbroken : broken = true) :
    o = .hardError := by
  simpa [answerable, hcall, hbroken] using h

theorem step_reportsBreak (h : s.step l = some t) : s.ReportsBreak l := by
  intro sid res hissued hcall hbroken
  cases step_cases h with
  | @sendV o sid' fd session hpc hs hans =>
    simp only [issued, hpc, hs, Option.map_some, Option.some.injEq, Prod.mk.injEq] at hissued
    obtain ⟨rfl, rfl⟩ := hissued
    obtain rfl := hardError_of_answerable hans hcall hbroken
    exact Connection.forwardTcp_hardError _ _ hcall
  | @flushFailed o sid' session hpc hs hans | @flush o sid' session hpc hs hans =>
    simp only [issued, hpc, hs, Option.map_some, Option.some.injEq, Prod.mk.injEq] at hissued
    obtain ⟨rfl, rfl⟩ := hissued
    obtain rfl := hardError_of_answerable hans hcall hbroken
    exact Connection.flush_hardError _ hcall
  | @request env beyond sid' session requestLen _ kernel hpc hs hturn hh hans hkernel =>
    subst hh
    simp only [issued, hpc, hs, hturn, Option.bind_some] at hissued
    obtain ⟨reply, hreply, heq⟩ := Option.map_eq_some_iff.mp hissued
    obtain ⟨rfl, rfl⟩ := Prod.mk.inj heq
    simp only [hreply, Option.bind_some] at hans
    have ho := hardError_of_answerable hans hcall hbroken
    obtain ⟨response, hres⟩ := session.processData_reply env _ hreply
    rw [hres, ho] at hcall ⊢
    exact Connection.send_hardError _ _ hcall
  | readDone hpc hs hturn | tooLarge hpc hs hturn | skipFrame hpc hs hturn =>
    simp [issued, hpc, hs, hturn] at hissued
  | broadcast | load | sendTo | recordDrop | recordSuccess | streamModify | finish | wait | skip
  | accept | sweep | enter | absent | drop | hangUp | receive | writable | checkRead
  | registerRead | pending | drained | unregister | disconnect => cases hissued

/-- A client goes away with a frame of it half sent; the rest is refused with an error. -/
def goesAwayBuffered : List Label :=
  playsTcp 7 ++ [.broadcast ⟨[1, 2, 3], 0⟩, .load 0, .sendV (.accepted 2), .recordSuccess,
    .streamModify, .finish, .disconnect 0, .wait [{ fd := 7, write := true }],
    .dispatch .failed none, .handle .wouldBlock, .flush .hardError]

/-- A client goes away between two packets; the `writev` of the second one ends the process. -/
def goesAwayIdle : List Label :=
  playsTcp 7 ++ [.broadcast ⟨[1, 2, 3], 0⟩, .load 0, .disconnect 0, .sendV .hardError]

end System

end RtspForward
