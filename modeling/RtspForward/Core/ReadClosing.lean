import RtspForward.Core.SystemInvariant
import RtspForward.Core.MessageFraming

/-!
# What a read event closes a connection for

`ProcessConnectionData` closes a connection when `Recv` returns nothing or an error, and when
the limit is reached without a complete message. `Recv` returns the same nothing at the end of
the stream and when it would have to wait, so a wake-up without data closes the connection too.
-/
namespace RtspForward

open Lib

namespace Connection

variable {c : Connection}

/-- The limit is reached, and no message is complete. -/
def overLimit (c : Connection) : Bool :=
  kMaxRtspRequestDataLen ≤ c.readBuffer.contents.length &&
    (nextMessage c.readBuffer.contents).isNone

/-- The reasons a connection may be closed for when its peer has sent something, or seems to
have. A read of no bytes is the end of the stream. -/
inductive CauseToClose (c : Connection) : RecvOutcome → Prop
  | ended : CauseToClose c .endOfStream
  | nothing : CauseToClose c (.data [])
  | failed : CauseToClose c .hardError
  | full {recv : RecvOutcome} :
      c.readBuffer.readableSize = c.readBuffer.capacity → CauseToClose c recv
  | tooLarge {recv : RecvOutcome} : c.overLimit = true → CauseToClose c recv

/-- When `Recv` returns nothing or an error. -/
theorem recv_le_zero_iff (hopen : c.isClosed = false) (hvalid : c.readBuffer.Valid)
    (recv : RecvOutcome) :
    (c.recv recv).2 ≤ 0 ↔ c.readBuffer.readableSize = c.readBuffer.capacity ∨
      recv = .endOfStream ∨ recv = .data [] ∨ recv = .hardError ∨ recv = .wouldBlock := by
  have hle := hvalid.readable_le
  have hw := hvalid.writePos_lt
  unfold Connection.recv
  rw [if_neg (by simp [hopen]), hvalid.writableSize_eq]
  by_cases hfull : c.readBuffer.readableSize = c.readBuffer.capacity
  · rw [if_pos (by omega)]
    exact iff_of_true (Int.negSucc_le_zero 0) (.inl hfull)
  · rw [if_neg (by omega)]
    cases recv with
    | endOfStream | hardError | wouldBlock => simp
    | data bytes =>
      simp only [hfull, reduceCtorEq, RecvOutcome.data.injEq, false_or, or_false,
        hvalid.contiguousWritableSize_eq, List.length_take]
      split
      · rename_i hzero
        refine iff_of_true le_rfl (List.eq_nil_of_length_eq_zero ?_)
        omega
      · rename_i hsome
        refine iff_of_false ?_ ?_
        · show ¬ ((_ : Nat) : Int) ≤ 0
          omega
        · rintro rfl
          exact hsome (by simp)

end Connection

namespace System

variable {s t : System} {l : Label} {sid : Nat} {session : RtspSession}

/-- The session `ProcessConnectionData` works on in a step. -/
def reads (s : System) : Label → Option Nat
  | .handle _ =>
    match s.loop.handlers with
    | .onRead :: _ => s.server.sessions[s.loop.fd]?
    | _ => none
  | .turn _ _ | .checkRead | .registerRead => s.loop.pc.session
  | _ => none

/-- The session is in the table, and its descriptor registered. -/
def Served (s : System) (fd : Int) (sid : Nat) : Prop :=
  s.server.sessions[fd]? = some sid ∧ (s.server.kernel.interest fd).isSome = true

/-- The reasons a step of `ProcessConnectionData` has. -/
def Cause (session : RtspSession) : Label → Prop
  | .handle recv => session.conn.CauseToClose recv
  | _ => session.conn.overLimit = true

/-- A step of `ProcessConnectionData` keeps the session it works on, or has a cause. -/
def ClosesForCause (_ : List (System × Label)) (s : System) (l : Label) (t : System) : Prop :=
  ∀ sid session, s.reads l = some sid → s.server.heap sid = some session →
    t.Served s.loop.fd sid ∨ Cause session l

/-- A wake-up without data: `recv` would have to wait, although there is room and no cause. -/
def spurious (s : System) : Label → Bool
  | .handle .wouldBlock =>
    (s.reads (.handle .wouldBlock)).any fun sid => (s.server.heap sid).any fun session =>
      session.conn.readBuffer.readableSize ≠ session.conn.readBuffer.capacity &&
        !session.conn.overLimit
  | _ => false

theorem Inv.served {fd : Int} (h : s.Inv) (hsid : s.server.sessions[fd]? = some sid) :
    s.Served fd sid :=
  ⟨hsid, h.server.registered fd sid hsid⟩

theorem not_served_closeAndLeave (s : System) (held : List Nat) (sid : Nat) :
    ¬ (s.closeAndLeave held).Served s.loop.fd sid := by
  rintro ⟨hsid, -⟩
  obtain ⟨-, -, -, -, hsessions, -⟩ := Server.closeConnection_frame s.server s.loop.fd
  unfold System.closeAndLeave at hsid
  rw [release_sessions] at hsid
  have hnone : (s.server.closeConnection s.loop.fd).1.sessions[s.loop.fd]? = none := by
    rw [hsessions, if_pos rfl]
  exact absurd (hnone.symm.trans hsid) (by simp)

/-- The step that calls `Recv`. -/
theorem step_handle_read {handlers : List Handler} {recv : RecvOutcome}
    (hhandlers : s.loop.handlers = .onRead :: handlers)
    (hsid : s.server.sessions[s.loop.fd]? = some sid) (hs : s.server.heap sid = some session)
    (hstep : s.step (.handle recv) = some t) :
    t = (s.takeHandler handlers).onRead sid session recv := by
  unfold step at hstep
  split at hstep
  · cases hstep
  · simp only at hstep
    split at hstep
    · rename_i hpc hd rest hhandlers'
      rw [hhandlers] at hhandlers'
      obtain ⟨rfl, rfl⟩ := List.cons.inj hhandlers'
      have hsid' : (s.takeHandler handlers).server.sessions[(s.takeHandler handlers).loop.fd]? =
          some sid := hsid
      have hs' : (s.takeHandler handlers).server.heap sid = some session := hs
      simp only [handle, hsid', hs', Option.map_some, Option.some.injEq] at hstep
      exact hstep.symm
    · cases hstep

theorem spurious_iff {handlers : List Handler} (hhandlers : s.loop.handlers = .onRead :: handlers)
    (hsid : s.server.sessions[s.loop.fd]? = some sid) (hs : s.server.heap sid = some session)
    (recv : RecvOutcome) :
    s.spurious (.handle recv) = true ↔ recv = .wouldBlock ∧
      session.conn.readBuffer.readableSize ≠ session.conn.readBuffer.capacity ∧
      session.conn.overLimit = false := by
  cases recv <;> simp [spurious, reads, hhandlers, hsid, hs]

/-- A read event closes for a cause exactly when it is not a spurious wake-up. -/
theorem handle_closes_iff (h : s.Inv) {handlers : List Handler} {recv : RecvOutcome}
    (hhandlers : s.loop.handlers = .onRead :: handlers)
    (hsid : s.server.sessions[s.loop.fd]? = some sid) (hs : s.server.heap sid = some session)
    (hstep : s.step (.handle recv) = some t) :
    (t.Served s.loop.fd sid ∨ session.conn.CauseToClose recv) ↔
      s.spurious (.handle recv) = false := by
  have hopen := h.server.conn_open hs
  have hvalid := (h.server.buffers sid session hs).read
  have hzero := Connection.recv_le_zero_iff hopen hvalid recv
  have ht := step_handle_read hhandlers hsid hs hstep
  have hspurious := spurious_iff hhandlers hsid hs recv
  unfold onRead at ht
  rw [if_neg (by simp [hopen])] at ht
  simp only at ht
  by_cases hret : (session.conn.recv recv).2 ≤ 0
  · rw [if_pos hret] at ht
    have hgone : ¬ t.Served s.loop.fd sid := by
      rw [ht]
      exact not_served_closeAndLeave _ _ _
    rw [← Bool.not_eq_true, hspurious, or_iff_right hgone]
    constructor
    · rintro hcause ⟨rfl, hroom, hlimit⟩
      cases hcause with
      | full hfull => exact hroom hfull
      | tooLarge hover => simp [hlimit] at hover
    · intro hno
      rcases hzero.mp hret with hfull | rfl | rfl | rfl | rfl
      · exact .full hfull
      · exact .ended
      · exact .nothing
      · exact .failed
      · by_cases hfull : session.conn.readBuffer.readableSize = session.conn.readBuffer.capacity
        · exact .full hfull
        · refine .tooLarge ?_
          by_contra hlimit
          exact hno ⟨rfl, hfull, by simpa using hlimit⟩
  · rw [if_neg hret] at ht
    refine iff_of_true (.inl ?_) ?_
    · apply (step_inv h hstep).served
      rw [ht]
      exact hsid
    · rw [← Bool.not_eq_true, hspurious]
      rintro ⟨rfl, -⟩
      exact hret (hzero.mpr (by simp))

theorem turn_closes (h : s.Inv) {env : RequestEnv} {beyond : Nat → UInt8}
    (hpc : s.loop.pc.session = some sid) (hs : s.server.heap sid = some session)
    (hstep : s.step (.turn env beyond) = some t) :
    t.Served s.loop.fd sid ∨ session.conn.overLimit = true := by
  have hsid := h.handler sid hpc
  have hinv := step_inv h hstep
  have hsame {x : Nat} (hx : s.loop.pc = .reading x) : x = sid := by
    rw [hx] at hpc
    exact Option.some.inj hpc
  cases step_cases hstep with
  | @readDone _ _ x y hx =>
    refine .inl (hinv.served ?_)
    unfold leave
    rw [release_sessions]
    exact hsid
  | @tooLarge _ _ x y hx hy hturn =>
    obtain rfl := hsame hx
    obtain rfl : y = session := by simpa [hs] using hy.symm
    have hvalid := (h.server.buffers _ _ hs).read
    refine .inr ?_
    rw [turn_eq hvalid] at hturn
    cases hnext : nextMessage y.conn.readBuffer.contents with
    | some n =>
      simp only [hnext] at hturn
      split at hturn <;> cases hturn
    | none =>
      simp only [hnext] at hturn
      split at hturn
      · rename_i hlong
        rw [Connection.overLimit, hnext, decide_eq_true hlong.2]
        rfl
      · cases hturn
  | skipFrame => exact .inl (hinv.served hsid)
  | request => exact .inl (hinv.served hsid)

/-- One step of `ProcessConnectionData`. -/
theorem closesForCause_iff (h : s.Inv) (taken : List (System × Label))
    (hstep : s.step l = some t) :
    ClosesForCause taken s l t ↔ s.spurious l = false := by
  cases l with
  | handle recv =>
    cases hreads : s.reads (.handle recv) with
    | none =>
      have hnone : s.reads (.handle .wouldBlock) = none := hreads
      refine iff_of_true (fun sid session hsid => ?_) ?_
      · rw [hreads] at hsid
        cases hsid
      · cases recv <;> simp [spurious, hnone]
    | some sid =>
      simp only [reads] at hreads
      split at hreads
      · rename_i handlers hhandlers
        obtain ⟨session, hs, -⟩ := h.server.table _ _ hreads
        rw [← handle_closes_iff h hhandlers hreads hs hstep]
        constructor
        · intro hclose
          exact hclose sid session (by simp [reads, hhandlers, hreads]) hs
        · intro hclose a x ha hx
          obtain rfl : sid = a := by simpa [reads, hhandlers, hreads] using ha
          obtain rfl := Option.some.inj (hs.symm.trans hx)
          exact hclose
      · cases hreads
  | turn env beyond =>
    exact iff_of_true (fun sid session hpc hs => turn_closes h hpc hs hstep) rfl
  | checkRead =>
    refine iff_of_true (fun sid session hpc _ => .inl ?_) rfl
    apply (step_inv h hstep).served
    cases step_cases hstep with
    | checkRead => exact h.handler sid hpc
  | registerRead =>
    refine iff_of_true (fun sid session hpc _ => .inl ?_) rfl
    apply (step_inv h hstep).served
    cases step_cases hstep with
    | registerRead =>
      show (s.server.modifyFd s.loop.fd { write := true }).1.sessions[s.loop.fd]? = some sid
      rw [(Server.modifyFd_frame _ _ _).1]
      exact h.handler sid hpc
  | broadcast | load | sendTo | sendV | recordDrop | recordSuccess | streamModify | finish | wait
  | dispatch | flush | checkWrite | unregister | disconnect =>
    refine iff_of_true (fun sid session hsid => ?_) rfl
    cases hsid

/-- Every step of `ProcessConnectionData` in the run keeps its session, or has a cause. -/
def ReadsCloseForCause (s : System) (labels : List Label) : Prop :=
  ∀ done l rest u v, labels = done ++ l :: rest → Transition.run step s done = some u →
    u.step l = some v → ClosesForCause (Transition.trace step s done) u l v

/-- **A read event closes a connection for cause** except when it is a spurious one. In every
run, every step of `ProcessConnectionData` leaves its session in the table and registered, or
the stream has ended, or `recv` has failed, or the read buffer was full, or the limit is reached
without a complete message, if and only if `recv` never has to wait in a read event that has
none of these causes. -/
theorem reads_close_for_cause_iff (config : Config) (labels : List Label) (s : System)
    (hs : Transition.run step (System.start config) labels = some s) :
    ReadsCloseForCause (System.start config) labels ↔
      Transition.Along step (fun s l => s.spurious l = false) (System.start config) labels := by
  have hiff := Transition.along_iff_steps (P := ClosesForCause) (I := Inv) (fun _ _ _ => step_inv)
    (fun taken _ _ _ h hstep => closesForCause_iff h taken hstep) [] (start_inv config) hs
  simp only [List.nil_append] at hiff
  exact hiff

/-- The client on 7 is reported readable. -/
def wakes : List Label := [.wait [{ fd := 7, read := true }], .dispatch .failed none]

/-- A client that plays and leaves. -/
theorem reads_close_at_end :
    ∃ s, Transition.run step (System.start smallConfig)
        (playsTcp 7 ++ wakes ++ [.handle .endOfStream]) = some s ∧
      s.server.sessions[(7 : Int)]? = none ∧
      ReadsCloseForCause (System.start smallConfig)
        (playsTcp 7 ++ wakes ++ [.handle .endOfStream]) := by
  have hrun : (Transition.run step (System.start smallConfig)
      (playsTcp 7 ++ wakes ++ [.handle .endOfStream])).any (fun s =>
        s.server.sessions[(7 : Int)]? = none) = true := by
    decide
  obtain ⟨s, hs, hgone⟩ := (Option.any_eq_true _ _).mp hrun
  exact ⟨s, hs, of_decide_eq_true hgone,
    (reads_close_for_cause_iff smallConfig _ s hs).mpr (by decide)⟩

/-- A client that has sent nothing yet is woken up for nothing, and gone. -/
theorem spurious_read_closes :
    ∃ s, Transition.run step (System.start smallConfig)
        (accepts 7 ++ wakes ++ [.handle .wouldBlock]) = some s ∧
      s.server.sessions[(7 : Int)]? = none ∧
      ¬ ReadsCloseForCause (System.start smallConfig)
        (accepts 7 ++ wakes ++ [.handle .wouldBlock]) := by
  have hrun : (Transition.run step (System.start smallConfig) (accepts 7 ++ wakes)).any (fun u =>
      u.spurious (.handle .wouldBlock) && (u.step (.handle .wouldBlock)).any fun v =>
        v.server.sessions[(7 : Int)]? = none) = true := by
    decide
  obtain ⟨u, hu, hfacts⟩ := (Option.any_eq_true _ _).mp hrun
  obtain ⟨hspurious, hstep⟩ := Bool.and_eq_true_iff.mp hfacts
  obtain ⟨v, hv, hgone⟩ := (Option.any_eq_true _ _).mp hstep
  have hinv : u.Inv := Transition.run_invariant (fun _ _ _ => step_inv) (start_inv smallConfig) hu
  have hlast : Transition.run step u [.handle .wouldBlock] = some v := by
    rw [Transition.run_cons]
    exact ⟨v, hv, rfl⟩
  refine ⟨v, Transition.run_append hu hlast, of_decide_eq_true hgone, fun hall => ?_⟩
  have hclose := hall (accepts 7 ++ wakes) (.handle .wouldBlock) [] u v rfl hu hv
  rw [closesForCause_iff hinv _ hv, hspurious] at hclose
  cases hclose

end System

end RtspForward
