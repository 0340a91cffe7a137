import RtspForward.Core.RequestBodies
import RtspForward.Core.SessionCalls

/-!
# The incoming stream of a session

What `Recv` stores for a session comes off its read buffer in messages: however the bytes
arrive, and whatever happens to the other sessions in between, the messages are those of the
stream, and when the event-loop thread is not at work on the session none of them is left
waiting.
-/
namespace RtspForward

open Lib Transition Framing

/-- A message that is complete stays the first one, whatever follows it. -/
theorem nextMessage_append (b rest : Bytes) (n : Nat) (h : nextMessage b = some n) :
    nextMessage (b ++ rest) = some n := by
  obtain ⟨hfour, hle⟩ := nextMessage_bounds h
  unfold nextMessage at h ⊢
  rw [frameTotal_append (hfour.trans hle)]
  cases htotal : frameTotal b with
  | some total =>
    simp only [htotal] at h ⊢
    split at h
    · cases h
    · rw [if_neg (by rw [List.length_append]; omega)]
      exact h
  | none =>
    simp only [htotal] at h ⊢
    obtain ⟨i, hfind, rfl⟩ := Option.map_eq_some_iff.mp h
    obtain ⟨hoccurs, hfirst⟩ := Search.find_eq_some.mp hfind
    have hfind' : Search.find requestTerminator (b ++ rest) = some i := by
      refine Search.find_eq_some.mpr ⟨hoccurs.append rest, fun j hj ho => hfirst j hj ?_⟩
      have hend := hoccurs.le
      exact ho.of_append (by omega)
    rw [hfind', Option.map_some]

/-- What a turn takes off is the first complete message, skipped when it starts with the marker. -/
theorem turn_skip {r : RingBuffer} (h : r.Valid) {n : Nat} (hturn : turn r = .skip n) :
    nextMessage r.contents = some n ∧ r.contents.head? = some kRtpInterleavedMarker := by
  rw [turn_eq h] at hturn
  cases hmessage : nextMessage r.contents with
  | none =>
    simp only [hmessage] at hturn
    split at hturn <;> cases hturn
  | some m =>
    simp only [hmessage] at hturn
    split at hturn
    · rename_i hhead
      obtain rfl := Turn.skip.inj hturn
      exact ⟨rfl, hhead⟩
    · cases hturn

theorem turn_request {r : RingBuffer} (h : r.Valid) {n : Nat} (hturn : turn r = .request n) :
    nextMessage r.contents = some n ∧ r.contents.head? ≠ some kRtpInterleavedMarker := by
  rw [turn_eq h] at hturn
  cases hmessage : nextMessage r.contents with
  | none =>
    simp only [hmessage] at hturn
    split at hturn <;> cases hturn
  | some m =>
    simp only [hmessage] at hturn
    split at hturn
    · cases hturn
    · rename_i hhead
      obtain rfl := Turn.request.inj hturn
      exact ⟨rfl, hhead⟩

namespace Connection

variable (c : Connection)

/-! The write path changes the write buffer only. -/

theorem flush_frame (o : WriteOutcome) : ∃ w, (c.flush o).conn = { c with writeBuffer := w } := by
  unfold flush
  split
  · exact ⟨c.writeBuffer, rfl⟩
  · simp only
    split
    · exact ⟨c.writeBuffer, rfl⟩
    · split
      · exact ⟨c.writeBuffer, rfl⟩
      · exact ⟨c.writeBuffer, rfl⟩
      · exact ⟨_, rfl⟩

theorem forwardTcp_frame (p : RtpPacket) (o : WriteOutcome) :
    ∃ w, (RtpForwarder.forwardTcp c p o).1.conn = { c with writeBuffer := w } := by
  rcases Wire.forwardTcp_cases c p o with ⟨-, hsame, -⟩ | ⟨-, -, hsend⟩
  · rw [hsame]
    exact ⟨c.writeBuffer, rfl⟩
  · have hrouted := sendV_routed c
      [RtpForwarder.buildInterleavedHeader p.streamIndex p.data.length, p.data] o
    rw [Wire.frame_flatten, Wire.length_frame] at hrouted
    rw [hsend, hrouted]
    exact c.routed_frame (RtpForwarder.frame p) o _ _ _

end Connection

/-- The bytes `Recv` stores. -/
def Connection.received (c : Connection) (o : RecvOutcome) : Bytes :=
  if c.isClosed ∨ c.readBuffer.writableSize = 0 then []
  else
    match o with
    | .data bytes => bytes.take c.readBuffer.contiguousWritableSize
    | .wouldBlock | .hardError | .endOfStream => []

theorem Connection.recv_received {c : Connection} (h : c.readBuffer.Valid) (o : RecvOutcome) :
    (c.recv o).1.readBuffer.contents = c.readBuffer.contents ++ c.received o ∧
      ((c.recv o).2 ≤ 0 → c.received o = []) := by
  unfold recv received
  by_cases hclosed : c.isClosed = true
  · simp [hclosed]
  · by_cases hfull : c.readBuffer.writableSize = 0
    · simp [hclosed, hfull]
    · simp only [hclosed, hfull, Bool.false_eq_true, or_self, ↓reduceIte]
      cases o with
      | wouldBlock | hardError | endOfStream => simp
      | data bytes =>
        simp only
        split
        · rename_i hzero
          have hnil := List.eq_nil_of_length_eq_zero hzero
          rw [hnil]
          exact ⟨(List.append_nil _).symm, fun _ => rfl⟩
        · rename_i hpos
          have hfits : (bytes.take c.readBuffer.contiguousWritableSize).length ≤
              c.readBuffer.contiguousWritableSize := List.length_take_le _ _
          refine ⟨(RingBuffer.fill_appended h hfits).contents_eq, fun hle => ?_⟩
          change ((_ : Nat) : Int) ≤ 0 at hle
          omega

namespace RtspSession

variable {s t : RtspSession} {c : SessionCall}

/-- The bytes a call stores in the read buffer. -/
def stores (s : RtspSession) : SessionCall → Bytes
  | .recv o => s.conn.received o
  | _ => []

/-- The message a call takes off the read buffer. -/
def takesOff (s : RtspSession) : SessionCall → Option Bytes
  | .consume len | .processData len _ _ => some (s.conn.readBuffer.contents.take len)
  | _ => none

/-- All that was stored in the read buffer in the course of some calls. -/
def received (taken : List (RtspSession × SessionCall)) : Bytes :=
  taken.flatMap fun p => p.1.stores p.2

/-- The messages that were taken off. -/
def messages (taken : List (RtspSession × SessionCall)) : List Bytes :=
  taken.filterMap fun p => p.1.takesOff p.2

theorem received_concat (taken : List (RtspSession × SessionCall)) (s : RtspSession)
    (c : SessionCall) : received (taken ++ [(s, c)]) = received taken ++ s.stores c := by
  simp [received]

theorem messages_concat (taken : List (RtspSession × SessionCall)) (s : RtspSession)
    (c : SessionCall) : messages (taken ++ [(s, c)]) = messages taken ++ (s.takesOff c).toList :=
  calls_concat takesOff taken s c

/-- A call that takes nothing off stores what it stores behind the contents; one that takes
something off takes the first complete message. -/
theorem after_contents (h : s.conn.Valid) (hallows : s.allows c = true) :
    (s.takesOff c = none ∧
      (s.after c).conn.readBuffer.contents = s.conn.readBuffer.contents ++ s.stores c) ∨
    (s.stores c = [] ∧ ∃ n, nextMessage s.conn.readBuffer.contents = some n ∧
      s.takesOff c = some (s.conn.readBuffer.contents.take n) ∧
      (s.after c).conn.readBuffer.contents = s.conn.readBuffer.contents.drop n) := by
  cases c with
  | recv o => exact .inl ⟨rfl, (Connection.recv_received h.read o).1⟩
  | consume len =>
    exact .inr ⟨rfl, len, (turn_skip h.read (of_decide_eq_true hallows)).1, rfl,
      RingBuffer.consume_contents h.read len⟩
  | processData len beyond env =>
    refine .inr ⟨rfl, len, (turn_request h.read (of_decide_eq_true hallows)).1, rfl, ?_⟩
    obtain ⟨w, hw⟩ := s.processData_frame env (s.conn.readBuffer.rawView len beyond)
    simp only [after, RtspSession.consume, Connection.consume, hw]
    exact RingBuffer.consume_contents h.read len
  | forwardTcp packet o =>
    obtain ⟨w, hw⟩ := s.conn.forwardTcp_frame packet o
    exact .inl ⟨rfl, by simp [after, hw, stores]⟩
  | flush o =>
    obtain ⟨w, hw⟩ := s.conn.flush_frame o
    exact .inl ⟨rfl, by simp [after, hw, stores]⟩
  | updateActivity | recordDrop | recordSuccess => exact .inl ⟨rfl, (List.append_nil _).symm⟩

/-- The read side of a session that has come to its state by some calls. -/
structure ReadBy (s : RtspSession) (taken : List (RtspSession × SessionCall)) : Prop where
  valid : s.conn.Valid
  cuts : Cuts nextMessage (received taken) (messages taken) s.conn.readBuffer.contents

theorem readBy_born {config : Config} {sid : Nat} (h : s.BornAs config sid) : s.ReadBy [] := by
  obtain ⟨fd, timestamp, garbage, now, hcreate⟩ := h
  obtain ⟨-, -, -, hnil⟩ := RtspSession.create_read hcreate (Int.natCast_nonneg fd)
  refine ⟨(Server.create_fresh hcreate).valid, ?_⟩
  rw [hnil]
  exact .stop

theorem step_readBy (s : RtspSession) (taken : List (RtspSession × SessionCall)) (c : SessionCall)
    (t : RtspSession) (h : s.ReadBy taken) (_ : True) (hstep : s.step c = some t) :
    t.ReadBy (taken ++ [(s, c)]) := by
  obtain ⟨hallows, rfl⟩ := step_eq_some.mp hstep
  refine ⟨after_valid h.valid c, ?_⟩
  rw [received_concat, messages_concat]
  rcases after_contents h.valid hallows with ⟨hnone, hstored⟩ | ⟨hnone, n, hnext, htaken, hleft⟩
  · rw [hstored, hnone, Option.toList_none, List.append_nil]
    exact h.cuts.append (s.stores c)
  · rw [hleft, hnone, htaken, List.append_nil, Option.toList_some]
    exact h.cuts.trans (.take List.prefix_rfl hnext (nextMessage_bounds hnext).2 .stop)

/-- The read side of a session after a run of its own. -/
theorem run_readBy {config : Config} {sid : Nat} {cs : List SessionCall} (h : s.BornAs config sid)
    (hrun : run step s cs = some t) : t.ReadBy (trace step s cs) :=
  Along.trace_invariant (I := ReadBy) step_readBy (readBy_born h) (along_true _ _) hrun

end RtspSession

/-- The session `ProcessConnectionData` is reading. -/
def LoopPc.readingOf : LoopPc → Option Nat
  | .reading sid | .checkRead sid | .registerRead sid => some sid
  | .idle | .flushing _ | .checkWrite _ | .unregister _ => none

namespace System

variable {s t : System} {l : Label}

/-- Sessions that are not being read hold no complete message. -/
def NoneWaiting (s : System) : Prop :=
  ∀ sid x, s.server.heap sid = some x → s.loop.pc.readingOf ≠ some sid →
    nextMessage x.conn.readBuffer.contents = none

/-- The calls outside `ProcessConnectionData` leave the read buffer alone. -/
theorem call_leaves {x : RtspSession} {sid : Nat} {c : SessionCall} (hcall : s.call l = some (sid, c))
    (hhandle : ∀ recv, l ≠ .handle recv) (hturn : ∀ env beyond, l ≠ .turn env beyond) :
    x.takesOff c = none ∧ x.stores c = [] := by
  cases l with
  | handle recv => exact absurd rfl (hhandle recv)
  | turn env beyond => exact absurd rfl (hturn env beyond)
  | load | sendV | recordDrop | recordSuccess | flush =>
    simp only [call] at hcall
    split at hcall
    · obtain ⟨-, rfl⟩ := Prod.mk.inj (Option.some.inj hcall)
      exact ⟨rfl, rfl⟩
    · cases hcall
  | broadcast | sendTo | streamModify | finish | wait | dispatch | checkRead | registerRead
  | checkWrite | unregister | disconnect => cases hcall

/-- What becomes of the read buffer of a session that is not being read after the step. -/
def Settles (s : System) (l : Label) (sid : Nat) (x : RtspSession) : Prop :=
  (s.loop.pc.readingOf ≠ some sid ∧
    ∀ c, s.callOn l sid = some c → x.takesOff c = none ∧ x.stores c = []) ∨
  (s.callOn l sid = none ∧ nextMessage x.conn.readBuffer.contents = none)

theorem handle_settles (h : s.Inv) {recv : RecvOutcome} (hstep : s.step (.handle recv) = some t)
    {sid : Nat} {x : RtspSession} (hx : s.server.heap sid = some x)
    (hnot : t.loop.pc.readingOf ≠ some sid) : s.Settles (.handle recv) sid x := by
  have hidle : s.loop.pc.readingOf ≠ some sid := by
    cases step_cases hstep with
    | absent hpc | drop hpc | hangUp hpc | receive hpc | writable hpc => simp [hpc, LoopPc.readingOf]
  refine .inl ⟨hidle, fun c hc => ?_⟩
  have hcall := callOn_eq_some hc
  simp only [call] at hcall
  split at hcall
  · rename_i handlers hhandlers
    obtain ⟨a, hsid, heq⟩ := Option.map_eq_some_iff.mp hcall
    obtain ⟨rfl, rfl⟩ := Prod.mk.inj heq
    have ht := step_handle_read hhandlers hsid hx hstep
    unfold onRead at ht
    rw [if_neg (by simp [h.server.conn_open hx])] at ht
    simp only at ht
    refine ⟨rfl, (Connection.recv_received (h.server.buffers _ _ hx).read recv).2 ?_⟩
    by_contra hpos
    rw [if_neg hpos] at ht
    exact hnot (by rw [ht]; rfl)
  · cases hcall

theorem turn_settles (h : s.Inv) {env : RequestEnv} {beyond : Nat → UInt8}
    (hstep : s.step (.turn env beyond) = some t) {sid : Nat} {x : RtspSession}
    (hx : s.server.heap sid = some x) (hnot : t.loop.pc.readingOf ≠ some sid) :
    s.Settles (.turn env beyond) sid x := by
  have hother {a : Nat} {c : Option SessionCall} (hpc : s.loop.pc = .reading a) (ha : a ≠ sid)
      (hcall : s.call (.turn env beyond) = c.map fun c => (a, c)) :
      s.Settles (.turn env beyond) sid x := by
    refine .inl ⟨by simp [hpc, LoopPc.readingOf, ha], fun c' hc' => ?_⟩
    cases c <;> simp [callOn, hcall, ha] at hc'
  have hends {a : Nat} {y : RtspSession} (hpc : s.loop.pc = .reading a)
      (hy : s.server.heap a = some y) (hcall : s.call (.turn env beyond) = none)
      (hturn : RtspForward.turn y.conn.readBuffer = .wait ∨
        RtspForward.turn y.conn.readBuffer = .tooLarge) : s.Settles (.turn env beyond) sid x := by
    by_cases ha : a = sid
    · subst ha
      obtain rfl := Option.some.inj (hx.symm.trans hy)
      refine .inr ⟨by simp [callOn, hcall], ?_⟩
      rw [turn_eq (h.server.buffers _ _ hx).read] at hturn
      cases hmessage : nextMessage x.conn.readBuffer.contents with
      | none => rfl
      | some n =>
        simp only [hmessage] at hturn
        split at hturn <;> simp at hturn
    · exact hother (c := none) hpc ha hcall
  cases step_cases hstep with
  | readDone hpc hy hturn =>
    exact hends hpc hy (by simp [call, hpc, hy, hturn]) (.inl hturn)
  | tooLarge hpc hy hturn =>
    exact hends hpc hy (by simp [call, hpc, hy, hturn]) (.inr hturn)
  | @skipFrame _ _ a y total hpc hy hturn =>
    refine hother (c := some (.consume total)) hpc (fun ha => hnot ?_)
      (by simp [call, hpc, hy, hturn])
    show s.loop.pc.readingOf = some sid
    rw [hpc, ha]
    rfl
  | @request _ _ a y requestLen _ kernel hpc hy hturn =>
    refine hother (c := some (.processData requestLen beyond env)) hpc (fun ha => hnot ?_)
      (by simp [call, hpc, hy, hturn])
    show some a = some sid
    rw [ha]

theorem step_settles (h : s.Inv) (hstep : s.step l = some t) {sid : Nat} {x : RtspSession}
    (hx : s.server.heap sid = some x) (hnot : t.loop.pc.readingOf ≠ some sid) :
    s.Settles l sid x := by
  have hsame (hhandle : ∀ recv, l ≠ .handle recv) (hturn : ∀ env beyond, l ≠ .turn env beyond)
      (hpc : s.loop.pc.readingOf ≠ some sid) : s.Settles l sid x :=
    .inl ⟨hpc, fun c hc => call_leaves (callOn_eq_some hc) hhandle hturn⟩
  cases step_cases hstep with
  | absent | drop | hangUp | receive | writable => exact handle_settles h hstep hx hnot
  | readDone | tooLarge | skipFrame | request => exact turn_settles h hstep hx hnot
  | broadcast =>
    refine hsame (by simp) (by simp) ?_
    unfold System.broadcast at hnot
    split at hnot <;> exact hnot
  | load | sendTo | sendV | recordDrop | recordSuccess | streamModify | disconnect =>
    exact hsame (by simp) (by simp) hnot
  | finish =>
    refine hsame (by simp) (by simp) ?_
    rwa [System.finish, release_loop] at hnot
  | wait hpc | skip hpc | accept hpc | sweep hpc | enter hpc | flushFailed hpc | flush hpc
  | pending hpc | drained hpc | unregister hpc =>
    exact hsame (by simp) (by simp) (by simp [hpc, LoopPc.readingOf])
  | @checkRead a y hpc hy =>
    refine hsame (by simp) (by simp) ?_
    have hpc' : (s.checkRead a y).loop.pc.readingOf = some a := by
      unfold System.checkRead
      split <;> rfl
    rw [hpc'] at hnot
    simpa [hpc, LoopPc.readingOf] using hnot
  | @registerRead a hpc =>
    refine hsame (by simp) (by simp) ?_
    have hpc' : (s.registerRead a).loop.pc.readingOf = some a := rfl
    rw [hpc'] at hnot
    simpa [hpc, LoopPc.readingOf] using hnot

theorem start_noneWaiting (config : Config) : (System.start config).NoneWaiting :=
  fun sid x hx => by simp [System.start, Server.start] at hx

theorem step_noneWaiting (h : s.Inv) (hn : s.NoneWaiting) (hstep : s.step l = some t) :
    t.NoneWaiting := by
  intro sid y hy hnot
  rcases (session_projects s.server.config sid).step_eq s l t y ⟨h, rfl⟩ hstep hy with
    ⟨-, -, hborn⟩ | ⟨x, hx, hrun⟩
  · obtain ⟨fd, timestamp, garbage, now, hcreate⟩ := hborn
    obtain ⟨-, -, -, hnil⟩ := RtspSession.create_read hcreate (Int.natCast_nonneg fd)
    rw [hnil]
    exact nextMessage_nil
  · have hvalid := h.server.buffers sid x hx
    rcases step_settles h hstep hx hnot with ⟨hpc, hleaves⟩ | ⟨hnone, hmessage⟩
    · have hold := hn sid x hx hpc
      cases hcall : s.callOn l sid with
      | none =>
        rw [hcall] at hrun
        obtain rfl := Option.some.inj hrun
        exact hold
      | some c =>
        rw [hcall] at hrun
        obtain ⟨y', hy', hrun⟩ := run_cons.mp hrun
        obtain rfl := Option.some.inj hrun
        obtain ⟨hallows, rfl⟩ := RtspSession.step_eq_some.mp hy'
        obtain ⟨htaken, hstored⟩ := hleaves c hcall
        rcases RtspSession.after_contents hvalid hallows with ⟨-, hcontents⟩ | ⟨-, n, -, hsome, -⟩
        · rwa [hcontents, hstored, List.append_nil]
        · rw [htaken] at hsome
          cases hsome
    · rw [hnone] at hrun
      obtain rfl := Option.some.inj hrun
      exact hmessage

theorem run_noneWaiting {config : Config} {labels : List Label}
    (hs : run step (System.start config) labels = some s) : s.NoneWaiting := by
  have hkeep (s : System) (l : Label) (t : System) (h : s.Inv ∧ s.NoneWaiting)
      (hstep : s.step l = some t) : t.Inv ∧ t.NoneWaiting :=
    ⟨step_inv h.1 hstep, step_noneWaiting h.1 h.2 hstep⟩
  exact (run_invariant hkeep ⟨start_inv config, start_noneWaiting config⟩ hs).2

/-- **Messages are taken off as the stream says.** In every run, and for every live session: what
`Recv` has stored is the messages taken off, in order, and what is left in the read buffer; and
unless the event-loop thread is reading the session, these messages are exactly those that draining
the whole stream at once takes off, so that no complete one is left waiting. -/
theorem messages_drain_stream (config : Config) (labels : List Label) (s : System)
    (hs : run step (System.start config) labels = some s) (sid : Nat) (y : RtspSession)
    (hy : s.server.heap sid = some y) :
    ∃ x, x.BornAs config sid ∧
      let taken := trace RtspSession.step x (callsOn sid (trace step (System.start config) labels))
      RtspSession.received taken =
        (RtspSession.messages taken).flatten ++ y.conn.readBuffer.contents ∧
      (s.loop.pc.readingOf ≠ some sid → Drains nextMessage (RtspSession.received taken)
        (RtspSession.messages taken) y.conn.readBuffer.contents) := by
  obtain ⟨x, hborn, hrun⟩ :=
    (session_projects config sid).run_component ⟨start_inv config, rfl⟩ (Nat.zero_le sid) hs hy
  have hread := RtspSession.run_readBy hborn hrun
  refine ⟨x, hborn, hread.cuts.flatten_append.symm, fun hnot => ?_⟩
  exact hread.cuts.drains nextMessage_append (run_noneWaiting hs sid y hy hnot)

/-- What the client on 7 sends comes in two reads, with a broadcast and another client's request
between them: half of a request, and the rest of it with a frame behind it. -/
def inTwoReads : List Label :=
  accepts 7 ++ playsTcp 8 ++ wakes ++
    [.handle (.data (ascii "OPTIONS * RTSP/1.0\r\nCSe")), .turn .quiet fun _ => 0,
      .broadcast ⟨[9], 0⟩, .load 0, .sendV (.accepted 5)] ++ wakes ++
    [.handle (.data (ascii "q: 1\r\n\r\n" ++ [0x24, 1, 0, 1, 7])), .turn .quiet fun _ => 0,
      .checkRead, .turn .quiet fun _ => 0, .turn .quiet fun _ => 0]

theorem messages_drain_inTwoReads :
    ∃ s y x, run step (System.start smallConfig) inTwoReads = some s ∧
      s.server.heap 0 = some y ∧ y.conn.readBuffer.contents = [] ∧ x.BornAs smallConfig 0 ∧
      let taken := trace RtspSession.step x
        (callsOn 0 (trace step (System.start smallConfig) inTwoReads))
      Drains nextMessage (RtspSession.received taken) (RtspSession.messages taken)
        y.conn.readBuffer.contents := by
  have hrun : (run step (System.start smallConfig) inTwoReads).any (fun s =>
      s.loop.pc = .idle && (s.server.heap 0).any fun y => y.conn.readBuffer.contents = []) =
        true := by
    decide +kernel
  obtain ⟨s, hs, hfacts⟩ := (Option.any_eq_true _ _).mp hrun
  obtain ⟨hpc, hheap⟩ := Bool.and_eq_true_iff.mp hfacts
  obtain ⟨y, hy, hnil⟩ := (Option.any_eq_true _ _).mp hheap
  obtain ⟨x, hborn, -, hdrain⟩ := messages_drain_stream smallConfig inTwoReads s hs 0 y hy
  refine ⟨s, y, x, hs, hy, of_decide_eq_true hnil, hborn, hdrain ?_⟩
  rw [of_decide_eq_true hpc]
  simp [LoopPc.readingOf]

end System

end RtspForward
