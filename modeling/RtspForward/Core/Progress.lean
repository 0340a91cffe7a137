import RtspForward.Core.Broadcasts
import RtspForward.Core.Dispatch

/-!
# Progress

Neither thread takes steps for ever without new work. What the stream thread has to do is set by
the broadcast it is in; what the event-loop thread has to do, by the events that `Wait` has
reported and the bytes that wait in the read buffers: every turn of `ProcessConnectionData` takes
at least four of them off. These are bounds on steps and not on time. The sockets of the clients
are blocking: a write, and with it whoever waits for `send_mutex_`, waits for the kernel's answer,
so a next step is shown for some answer only.
-/
namespace RtspForward

open Lib Transition

/-! ## What is left to do -/

/-- The steps the stream thread takes for the session it is working on. -/
def StreamPc.left : StreamPc → Nat
  | .idle => 0
  | .next => 1
  | .udp _ _ | .tcp _ _ => 4
  | .failed _ | .sent _ => 3
  | .register _ _ => 2

/-- A bound on the steps to the end of the broadcast. -/
def Stream.left (s : Stream) : Nat :=
  match s.pc with
  | .idle => 0
  | pc => pc.left + 4 * s.todo.length

/-- The steps of a handler, apart from its turns. -/
def LoopPc.left : LoopPc → Nat
  | .idle => 0
  | .reading _ | .unregister _ => 1
  | .registerRead _ | .checkWrite _ => 2
  | .checkRead _ | .flushing _ => 3

/-- A bound on the steps to the next `Wait`, apart from the turns. -/
def Loop.left (s : Loop) : Nat :=
  s.pc.left + 4 * s.handlers.length + 13 * s.batch.length

/-- The bytes in the read buffer of a session. -/
def Server.unread (srv : Server) (sid : Nat) : Nat :=
  (srv.heap sid).elim 0 fun x => x.conn.readBuffer.readableSize

namespace System

variable {s t : System} {l : Label}

/-- The bytes in the read buffers of all sessions. -/
def backlog (s : System) : Nat := ∑ sid ∈ Finset.range s.server.created, s.server.unread sid

/-- The bytes `Recv` stores in a step. -/
def arriving (s : System) (l : Label) : Nat :=
  (s.call l).elim 0 fun p => (s.server.heap p.1).elim 0 fun x => (x.stores p.2).length

/-- The messages that are taken off in a step. -/
def takenOff (s : System) (l : Label) : Nat :=
  (s.call l).elim 0 fun p => (s.server.heap p.1).elim 0 fun x => (x.takesOff p.2).toList.length

/-- The steps of the event-loop thread. -/
def ofLoop : Label → Bool
  | .wait _ | .dispatch _ _ => true
  | l => ofHandler l

/-! ## The stream thread -/

/-- The work that a broadcast gives the stream thread. -/
def broadcastWork (s : System) : Label → Nat
  | .broadcast _ => 2 + 4 * s.server.playingSessions.length
  | _ => 0

theorem step_stream_left (hstep : s.step l = some t) :
    (ofStream l).toNat + t.stream.left ≤ s.stream.left + s.broadcastWork l := by
  by_cases hthread : ofStream l = true
  · rw [hthread]
    cases step_cases hstep with
    | broadcast hpc =>
      unfold System.broadcast
      split
      · simp [Stream.left, StreamPc.left, broadcastWork]
        omega
      · simp [Stream.left, hpc, broadcastWork]
        omega
    | @load now a todo session hpc htodo hs =>
      unfold System.load
      cases hudp : (session.updateActivity now).isUdp <;>
        simp [Stream.left, StreamPc.left, hpc, htodo, hudp]
      all_goals omega
    | @sendTo o a endpoint hpc =>
      unfold System.sendTo
      cases hok : (RtpForwarder.forwardUdp endpoint s.stream.packet o).2.isOk <;>
        simp [Stream.left, StreamPc.left, hpc, hok]
      all_goals omega
    | @sendV o a fd session hpc hs =>
      unfold System.sendV
      cases (RtpForwarder.forwardTcp session.conn s.stream.packet o).2.isOk <;>
        simp [Stream.left, StreamPc.left, hpc]
      all_goals omega
    | recordDrop hpc | streamModify hpc =>
      simp [Stream.left, StreamPc.left, hpc, System.recordDrop, System.streamModify]
      omega
    | @recordSuccess a session hpc =>
      unfold System.recordSuccess
      cases hneed : session.recordSuccess.conn.needFlush <;>
        simp [Stream.left, StreamPc.left, hpc, hneed]
      all_goals omega
    | finish hpc htodo =>
      simp [Stream.left, StreamPc.left, hpc, htodo, System.finish]
    | wait | skip | accept | sweep | enter | absent | drop | hangUp | receive | writable | readDone
    | tooLarge | skipFrame | request | checkRead | registerRead | flushFailed | flush | pending
    | drained | unregister | disconnect => cases hthread
  · rw [step_stream hstep (Bool.eq_false_of_not_eq_true hthread),
      Bool.eq_false_of_not_eq_true hthread]
    simp

/-! ## The event-loop thread -/

/-- The call of a step is one that its session is ready for. -/
theorem call_allows {sid : Nat} {c : SessionCall} {x : RtspSession}
    (hcall : s.call l = some (sid, c)) (hx : s.server.heap sid = some x) : x.allows c = true := by
  cases l with
  | turn env beyond =>
    simp only [call] at hcall
    split at hcall
    · obtain ⟨x', hx', hcall⟩ := Option.bind_eq_some_iff.mp hcall
      split at hcall
      · rename_i hturn
        obtain ⟨rfl, rfl⟩ := Prod.mk.inj (Option.some.inj hcall)
        obtain rfl := Option.some.inj (hx.symm.trans hx')
        exact decide_eq_true hturn
      · rename_i hturn
        obtain ⟨rfl, rfl⟩ := Prod.mk.inj (Option.some.inj hcall)
        obtain rfl := Option.some.inj (hx.symm.trans hx')
        exact decide_eq_true hturn
      · cases hcall
      · cases hcall
    · cases hcall
  | handle recv =>
    simp only [call] at hcall
    split at hcall
    · obtain ⟨a, -, heq⟩ := Option.map_eq_some_iff.mp hcall
      obtain ⟨-, rfl⟩ := Prod.mk.inj heq
      rfl
    · cases hcall
  | load | sendV | recordDrop | recordSuccess | flush =>
    simp only [call] at hcall
    split at hcall
    · obtain ⟨-, rfl⟩ := Prod.mk.inj (Option.some.inj hcall)
      rfl
    · cases hcall
  | broadcast | sendTo | streamModify | finish | wait | dispatch | checkRead | registerRead
  | checkWrite | unregister | disconnect => cases hcall

/-- A message that is taken off has at least four bytes. -/
theorem takesOff_unread {c : SessionCall} {x : RtspSession} (h : x.conn.Valid)
    (hallows : x.allows c = true) :
    (x.after c).conn.readBuffer.readableSize + 4 * (x.takesOff c).toList.length ≤
      x.conn.readBuffer.readableSize + (x.stores c).length := by
  rw [← RingBuffer.length_contents, ← RingBuffer.length_contents]
  rcases RtspSession.after_contents h hallows with ⟨hnone, hstored⟩ |
    ⟨hstores, n, hnext, htaken, hleft⟩
  · rw [hnone, hstored, List.length_append]
    simp
  · obtain ⟨hfour, hle⟩ := nextMessage_bounds hnext
    rw [hstores, htaken, hleft, List.length_drop, Option.toList_some, List.length_singleton,
      List.length_nil]
    omega

theorem unread_call (h : s.Inv) {sid : Nat} {c : SessionCall} {x : RtspSession}
    (hcall : s.call l = some (sid, c)) (hx : s.server.heap sid = some x)
    (hstep : s.step l = some t) :
    t.server.unread sid + 4 * (x.takesOff c).toList.length ≤
      s.server.unread sid + (x.stores c).length := by
  have hallows := call_allows hcall hx
  have htaken := takesOff_unread (h.server.buffers sid x hx) hallows
  have hold : s.server.unread sid = x.conn.readBuffer.readableSize := by
    simp [Server.unread, hx]
  rw [hold]
  unfold Server.unread
  cases hy : t.server.heap sid with
  | none =>
    simp only [Option.elim_none]
    omega
  | some y =>
    have hcallOn : s.callOn l sid = some c := by simp [callOn, hcall]
    rcases (session_projects s.server.config sid).step_eq s l t y ⟨h, rfl⟩ hstep hy with
      ⟨-, hnone, -⟩ | ⟨x', hx', hrun⟩
    · rw [hcallOn] at hnone
      cases hnone
    · obtain rfl := Option.some.inj (hx.symm.trans hx')
      rw [hcallOn] at hrun
      obtain ⟨y', hy', hrun⟩ := run_cons.mp hrun
      obtain rfl := Option.some.inj hrun
      obtain ⟨-, rfl⟩ := RtspSession.step_eq_some.mp hy'
      exact htaken

/-- The sessions that a step does not call have no more to read than before. -/
theorem unread_other (h : s.Inv) {sid : Nat} (hcall : s.callOn l sid = none)
    (hstep : s.step l = some t) : t.server.unread sid ≤ s.server.unread sid := by
  unfold Server.unread
  cases hy : t.server.heap sid with
  | none => exact Nat.zero_le _
  | some y =>
    rcases (session_projects s.server.config sid).step_eq s l t y ⟨h, rfl⟩ hstep hy with
      ⟨-, -, fd, timestamp, garbage, now, hcreate⟩ | ⟨x, hx, hrun⟩
    · obtain ⟨-, -, -, hnil⟩ := RtspSession.create_read hcreate (Int.natCast_nonneg fd)
      have hlen := congrArg List.length hnil
      rw [RingBuffer.length_contents, List.length_nil] at hlen
      simp only [Option.elim_some, hlen]
      exact Nat.zero_le _
    · rw [hcall] at hrun
      obtain rfl := Option.some.inj hrun
      rw [hx]

/-- The messages taken off in a step, and what it stores. -/
theorem step_backlog (h : s.Inv) (hstep : s.step l = some t) :
    t.backlog + 4 * s.takenOff l ≤ s.backlog + s.arriving l := by
  have hrange : s.backlog = ∑ sid ∈ Finset.range t.server.created, s.server.unread sid := by
    apply Finset.sum_subset (Finset.range_subset_range.mpr (step_fixed hstep).2)
    intro sid _ hsid
    have hfresh := h.server.fresh sid (Nat.le_of_not_lt fun hlt => hsid (Finset.mem_range.mpr hlt))
    simp [Server.unread, hfresh]
  rw [hrange, backlog, takenOff, arriving]
  cases hcall : s.call l with
  | none =>
    simp only [Option.elim_none, Nat.mul_zero, Nat.add_zero]
    refine Finset.sum_le_sum fun sid _ => unread_other h ?_ hstep
    simp [callOn, hcall]
  | some p =>
    obtain ⟨sid, c⟩ := p
    obtain ⟨x, hx⟩ := call_alive h hcall
    simp only [Option.elim_some, hx]
    refine sum_range_change (a := sid) ?_ (fun a ha => unread_other h ?_ hstep)
      (unread_call h hcall hx hstep)
    · by_contra hge
      rw [h.server.fresh sid ((step_fixed hstep).2.trans (Nat.le_of_not_lt hge))] at hx
      cases hx
    · simp [callOn, hcall, Ne.symm ha]

/-- The work that `Wait` gives the event-loop thread. -/
def reportedWork : Label → Nat
  | .wait results => 1 + 13 * results.length
  | _ => 0

theorem length_handlersOf (e : EventResult) : (handlersOf e).length ≤ 3 := by
  unfold handlersOf
  split
  · cases e.read <;> cases e.write <;> cases e.error <;> decide
  · exact Nat.zero_le 3

/-- A step that takes its handler on is paid for by the place the handler was in. -/
theorem left_of_pc (pc : LoopPc) (hloop : t.loop = { s.loop with pc := pc })
    (hlt : pc.left + 1 ≤ s.loop.pc.left + 4 * s.takenOff l) :
    1 + t.loop.left ≤ s.loop.left + 4 * s.takenOff l := by
  simp only [hloop, Loop.left]
  omega

/-- A step that takes a handler is paid for by the callback. -/
theorem left_of_handler (pc : LoopPc) {h : Handler} {handlers : List Handler}
    (hhandlers : s.loop.handlers = h :: handlers)
    (hloop : t.loop = { s.loop with handlers := handlers, pc := pc }) :
    1 + t.loop.left ≤ s.loop.left + 4 * s.takenOff l := by
  have hpc : pc.left ≤ 3 := by cases pc <;> simp [LoopPc.left]
  simp only [hloop, Loop.left, hhandlers, List.length_cons]
  omega

/-- A step that takes an entry is paid for by the entry. -/
theorem left_of_entry (fd : Int) (handlers : List Handler) {e : EventResult}
    {batch : List EventResult} (hhandlers : s.loop.handlers = []) (hbatch : s.loop.batch = e :: batch)
    (hthree : handlers.length ≤ 3)
    (hloop : t.loop = { s.loop with batch := batch, fd := fd, handlers := handlers }) :
    1 + t.loop.left ≤ s.loop.left + 4 * s.takenOff l := by
  simp only [hloop, Loop.left, hhandlers, hbatch, List.length_cons, List.length_nil]
  omega

/-- A turn that takes a message off. -/
theorem takenOff_turn {env : RequestEnv} {beyond : Nat → UInt8} {sid len : Nat}
    {session : RtspSession} (hpc : s.loop.pc = .reading sid) (hs : s.server.heap sid = some session)
    (hturn : RtspForward.turn session.conn.readBuffer = .skip len ∨
      RtspForward.turn session.conn.readBuffer = .request len) :
    s.takenOff (.turn env beyond) = 1 := by
  rcases hturn with hturn | hturn <;>
    simp [takenOff, call, hpc, hs, hturn, RtspSession.takesOff]

/-- A step of the event-loop thread is paid for by the work it was given, or by a message. -/
theorem step_loop_left (hstep : s.step l = some t) :
    (ofLoop l).toNat + t.loop.left ≤ s.loop.left + 4 * s.takenOff l + reportedWork l := by
  have hown (hreported : reportedWork l = 0)
      (hpaid : 1 + t.loop.left ≤ s.loop.left + 4 * s.takenOff l) :
      (ofLoop l).toNat + t.loop.left ≤ s.loop.left + 4 * s.takenOff l + reportedWork l := by
    have hone : (ofLoop l).toNat ≤ 1 := Bool.toNat_le _
    omega
  have hforeign (hl : ofLoop l = false) (hloop : t.loop = s.loop) :
      (ofLoop l).toNat + t.loop.left ≤ s.loop.left + 4 * s.takenOff l + reportedWork l := by
    rw [hl, hloop, Bool.toNat_false]
    omega
  cases step_cases hstep with
  | broadcast =>
    refine hforeign rfl ?_
    unfold System.broadcast
    split <;> rfl
  | load | sendTo | sendV | recordDrop | recordSuccess | streamModify | disconnect =>
    exact hforeign rfl rfl
  | finish => exact hforeign rfl (release_loop _ _)
  | wait hpc hhandlers hbatch =>
    simp only [ofLoop, reportedWork, Loop.left, LoopPc.left, System.wait, Bool.toNat_true,
      List.length_nil]
    omega
  | skip hpc hhandlers hbatch =>
    refine hown rfl (left_of_entry s.loop.fd [] hhandlers hbatch (Nat.zero_le 3) ?_)
    rw [← hhandlers]
    rfl
  | accept hpc hhandlers hbatch | sweep hpc hhandlers hbatch =>
    refine hown rfl (left_of_entry s.loop.fd [] hhandlers hbatch (Nat.zero_le 3) ?_)
    rw [release_loop, ← hhandlers]
    rfl
  | @enter accept expired e batch hpc hhandlers hbatch =>
    exact hown rfl (left_of_entry e.fd _ hhandlers hbatch (length_handlersOf e) rfl)
  | absent hpc hhandlers => exact hown rfl (left_of_handler s.loop.pc hhandlers rfl)
  | drop hpc hhandlers | hangUp hpc hhandlers =>
    exact hown rfl (left_of_handler .idle hhandlers (closeAndLeave_loop _ _))
  | receive hpc hhandlers | writable hpc hhandlers =>
    exact hown rfl (left_of_handler _ hhandlers rfl)
  | readDone hpc | unregister hpc | pending hpc =>
    exact hown rfl (left_of_pc .idle (leave_loop _ _) (by rw [hpc]; simp only [LoopPc.left]; omega))
  | tooLarge hpc | flushFailed hpc =>
    refine hown rfl (left_of_pc .idle (closeAndLeave_loop _ _) ?_)
    rw [hpc]
    simp only [LoopPc.left]
    omega
  | flush hpc | drained hpc | registerRead hpc =>
    refine hown rfl (left_of_pc _ rfl ?_)
    rw [hpc]
    simp only [LoopPc.left]
    omega
  | checkRead hpc =>
    refine hown rfl (left_of_pc _ rfl ?_)
    rw [hpc]
    split <;> simp only [LoopPc.left] <;> omega
  | skipFrame hpc hs hturn =>
    refine hown rfl (left_of_pc s.loop.pc rfl ?_)
    rw [takenOff_turn hpc hs (.inl hturn)]
    omega
  | request hpc hs hturn =>
    refine hown rfl (left_of_pc _ rfl ?_)
    rw [takenOff_turn hpc hs (.inr hturn), hpc]
    simp only [LoopPc.left]
    omega

/-! ## A next step, for some answer of the kernel -/

/-- In every state some answer of the kernel gives the stream thread a step. -/
theorem stream_enabled (h : s.Inv) (hlive : s.killed = false) :
    ∃ l, ofStream l = true ∧ (s.step l).isSome = true := by
  have halive {sid : Nat} (hsid : s.stream.pc.session = some sid) :
      ∃ x, s.server.heap sid = some x := h.snapshot sid (h.stream sid hsid)
  cases hpc : s.stream.pc with
  | idle => exact ⟨.broadcast ⟨[], 0⟩, rfl, by simp [step, hlive, hpc]⟩
  | next =>
    cases htodo : s.stream.todo with
    | nil => exact ⟨.finish, rfl, by simp [step, hlive, hpc, htodo]⟩
    | cons sid todo =>
      obtain ⟨x, hx⟩ := h.snapshot sid (h.todo sid (by simp [htodo]))
      exact ⟨.load 0, rfl, by simp [step, hlive, hpc, htodo, hx]⟩
  | udp sid endpoint => exact ⟨.sendTo .hardError, rfl, by simp [step, hlive, hpc]⟩
  | tcp sid fd =>
    obtain ⟨x, hx⟩ := halive (by rw [hpc]; rfl)
    exact ⟨.sendV .hardError, rfl, by simp [step, hlive, hpc, hx, answerable]⟩
  | failed sid =>
    obtain ⟨x, hx⟩ := halive (by rw [hpc]; rfl)
    exact ⟨.recordDrop, rfl, by simp [step, hlive, hpc, hx]⟩
  | sent sid =>
    obtain ⟨x, hx⟩ := halive (by rw [hpc]; rfl)
    exact ⟨.recordSuccess, rfl, by simp [step, hlive, hpc, hx]⟩
  | register sid fd => exact ⟨.streamModify, rfl, by simp [step, hlive, hpc]⟩

/-- Closing descriptors never fails. -/
theorem events_closed {k : Kernel} {es : List FdEvent} (h : ∀ e ∈ es, ∃ fd, e = .closed fd) :
    (k.events es).isSome = true := by
  induction es generalizing k with
  | nil => rfl
  | cons e es ih =>
    obtain ⟨fd, rfl⟩ := h e (by simp)
    exact ih fun e' he' => h e' (by simp [he'])

/-- Neither the sockets nor the connection work. -/
def outage : RequestEnv where
  now := 0
  sdp := []
  reply := .hardError
  rtpSocket := .socketFailed
  rtcpSocket := .socketFailed
  serverRtpPort := 0
  serverRtcpPort := 0
  peer := {}

theorem outage_setup (x : RtspSession) (request : RtspRequest) :
    ((x.setupUdp request outage).fdEvents) = [] := by
  unfold RtspSession.setupUdp
  simp only
  split
  · rfl
  · rw [if_pos (.inl (by decide))]
    rfl

/-- Without sockets a request opens nothing. -/
theorem outage_events (x : RtspSession) (data : Bytes) :
    ∀ e ∈ (x.processData data outage).fdEvents, ∃ fd, e = .closed fd := by
  rcases x.processData_cases outage data with ⟨status, -, heq⟩ | ⟨request, -, heq⟩
  · rw [heq]
    intro e he
    cases he
  · rw [heq]
    have hnone {h : Handled} (hnil : h.fdEvents = []) : ∀ e ∈ h.fdEvents, ∃ fd, e = .closed fd := by
      rw [hnil]
      intro e he
      cases he
    unfold RtspSession.handleRequest
    cases request.method with
    | kDescribe =>
      refine hnone ?_
      unfold RtspSession.handleDescribe
      simp only
      split <;> rfl
    | kSetup =>
      refine hnone ?_
      unfold RtspSession.handleSetup
      simp only
      split
      · exact outage_setup _ request
      · split <;> rfl
    | kTeardown =>
      intro e he
      obtain ⟨fd, -, rfl⟩ := List.mem_map.mp he
      exact ⟨fd, rfl⟩
    | kOptions | kPlay | kPause | kGetParameter | kSetParameter | kUnknown => exact hnone rfl

theorem dispatch_enabled (s : System) (e : EventResult) :
    (s.dispatch e .failed none).isSome = true := by
  unfold dispatch
  split <;> rfl

theorem handle_enabled (h : s.Inv) (hd : Handler) (handlers : List Handler) :
    ((s.takeHandler handlers).handle hd .wouldBlock).isSome = true := by
  have halive {sid : Nat} (hsid : s.server.sessions[s.loop.fd]? = some sid) :
      ∃ x, s.server.heap sid = some x := by
    obtain ⟨x, hx, -⟩ := h.server.table _ _ hsid
    exact ⟨x, hx⟩
  unfold handle
  cases hd with
  | onError => rfl
  | onRead | onWrite =>
    simp only
    split
    · rfl
    · rename_i sid hsid
      obtain ⟨x, hx⟩ := halive hsid
      rw [show (s.takeHandler handlers).server.heap sid = some x from hx]
      rfl

theorem turn_enabled (s : System) (sid : Nat) (x : RtspSession) :
    (s.turn sid x outage fun _ => 0).isSome = true := by
  unfold turn
  split
  · rfl
  · rfl
  · rfl
  · rename_i len _
    simp only
    rw [if_pos (by simp [answerable, outage]), Option.isSome_map]
    exact events_closed (outage_events x _)

/-- In every state some answer of the kernel gives the event-loop thread a step. -/
theorem loop_enabled (h : s.Inv) (hlive : s.killed = false) :
    ∃ l, ofLoop l = true ∧ (s.step l).isSome = true := by
  have halive {sid : Nat} (hsid : s.loop.pc.session = some sid) :
      ∃ x, s.server.heap sid = some x := by
    obtain ⟨x, hx, -⟩ := h.server.table _ _ (h.handler sid hsid)
    exact ⟨x, hx⟩
  cases hpc : s.loop.pc with
  | idle =>
    cases hhandlers : s.loop.handlers with
    | cons hd handlers =>
      refine ⟨.handle .wouldBlock, rfl, ?_⟩
      simp only [step, hlive, hpc, hhandlers]
      exact handle_enabled h hd handlers
    | nil =>
      cases hbatch : s.loop.batch with
      | nil => exact ⟨.wait [], rfl, by simp [step, hlive, hpc, hhandlers, hbatch, ready]⟩
      | cons e batch =>
        refine ⟨.dispatch .failed none, rfl, ?_⟩
        simp only [step, hlive, hpc, hhandlers, hbatch]
        exact dispatch_enabled _ e
  | reading sid =>
    obtain ⟨x, hx⟩ := halive (by rw [hpc]; rfl)
    refine ⟨.turn outage (fun _ => 0), rfl, ?_⟩
    simp only [step, hlive, hpc, hx, Option.bind_some]
    exact turn_enabled s sid x
  | checkRead sid =>
    obtain ⟨x, hx⟩ := halive (by rw [hpc]; rfl)
    exact ⟨.checkRead, rfl, by simp [step, hlive, hpc, hx]⟩
  | registerRead sid => exact ⟨.registerRead, rfl, by simp [step, hlive, hpc]⟩
  | flushing sid =>
    obtain ⟨x, hx⟩ := halive (by rw [hpc]; rfl)
    exact ⟨.flush .hardError, rfl, by simp [step, hlive, hpc, hx, answerable]⟩
  | checkWrite sid =>
    obtain ⟨x, hx⟩ := halive (by rw [hpc]; rfl)
    exact ⟨.checkWrite, rfl, by simp [step, hlive, hpc, hx]⟩
  | unregister sid => exact ⟨.unregister, rfl, by simp [step, hlive, hpc]⟩

/-! ## Whole runs -/

/-- **The steps of a broadcast are bounded.** From every reachable state on, whatever the event loop
and the clients do in between: the stream thread takes at most four steps for each session of a
broadcast, and two more, until the broadcast is over. While the process lives, it can take the next
one for some answer of the kernel; whether a write on a blocking socket is ever answered is up to
the client. -/
theorem broadcast_steps_bounded (config : Config) (before labels : List Label) (s u : System)
    (hs : run step (System.start config) before = some s) (hu : run step s labels = some u) :
    sumOf (fun _ l => (ofStream l).toNat) (trace step s labels) + u.stream.left ≤
        s.stream.left + sumOf broadcastWork (trace step s labels) ∧
      (u.stream.left = 0 ↔ u.stream.pc = .idle) ∧
      (u.killed = false → ∃ l, ofStream l = true ∧ (u.step l).isSome = true) := by
  have hinv : s.Inv := run_invariant (fun _ _ _ => step_inv) (start_inv config) hs
  refine ⟨run_potential (fun _ _ _ => step_inv) (fun _ _ _ _ => step_stream_left) hinv hu, ?_,
    stream_enabled (run_invariant (fun _ _ _ => step_inv) hinv hu)⟩
  unfold Stream.left
  cases u.stream.pc <;> simp [StreamPc.left]

/-- Half of a broadcast. -/
theorem broadcast_steps_bounded_serving :
    ∃ s u, run step (System.start smallConfig) (playsTcp 7) = some s ∧
      run step s [.broadcast ⟨[1], 0⟩, .load 0, .sendV (.accepted 5)] = some u ∧
      u.stream.pc = .sent 0 ∧ u.stream.left ≠ 0 ∧ u.killed = false ∧
      ∃ l, ofStream l = true ∧ (u.step l).isSome = true := by
  have hrun : (run step (System.start smallConfig) (playsTcp 7)).any (fun s =>
      (run step s [.broadcast ⟨[1], 0⟩, .load 0, .sendV (.accepted 5)]).any fun u =>
        u.stream.pc = .sent 0 && !u.killed) = true := by
    decide
  obtain ⟨s, hs, hrest⟩ := (Option.any_eq_true _ _).mp hrun
  obtain ⟨u, hu, hfacts⟩ := (Option.any_eq_true _ _).mp hrest
  obtain ⟨hpc, hlive⟩ := Bool.and_eq_true_iff.mp hfacts
  have hlive : u.killed = false := by simpa using hlive
  have hpc : u.stream.pc = .sent 0 := of_decide_eq_true hpc
  obtain ⟨-, hidle, henabled⟩ := broadcast_steps_bounded smallConfig (playsTcp 7) _ s u hs hu
  refine ⟨s, u, hs, hu, hpc, fun hzero => ?_, hlive, henabled hlive⟩
  rw [hpc] at hidle
  cases hidle.mp hzero

/-- **The steps from one `Wait` to the next are bounded.** From every reachable state on, whatever
the stream thread and the clients do in between: the steps of the event-loop thread are at most
thirteen for each event reported by `Wait`, one for the `Wait`, and one for each byte that is
received or has been waiting in a read buffer. While the process lives, it can take the next one
for some answer of the kernel; whether a write on a blocking socket is ever answered is up to the
client. -/
theorem wait_steps_bounded (config : Config) (before labels : List Label) (s u : System)
    (hs : run step (System.start config) before = some s) (hu : run step s labels = some u) :
    sumOf (fun _ l => (ofLoop l).toNat) (trace step s labels) + (u.loop.left + u.backlog) ≤
        s.loop.left + s.backlog +
          sumOf (fun s l => reportedWork l + s.arriving l) (trace step s labels) ∧
      (u.loop.left = 0 ↔ u.loop.pc = .idle ∧ u.loop.handlers = [] ∧ u.loop.batch = []) ∧
      (u.killed = false → ∃ l, ofLoop l = true ∧ (u.step l).isSome = true) := by
  have hinv : s.Inv := run_invariant (fun _ _ _ => step_inv) (start_inv config) hs
  have hstep (s : System) (l : Label) (t : System) (h : s.Inv) (hstep : s.step l = some t) :
      (ofLoop l).toNat + (t.loop.left + t.backlog) ≤
        s.loop.left + s.backlog + (reportedWork l + s.arriving l) := by
    have hleft := step_loop_left hstep
    have hbacklog := step_backlog h hstep
    omega
  refine ⟨run_potential (fun _ _ _ => step_inv) hstep hinv hu, ?_,
    loop_enabled (run_invariant (fun _ _ _ => step_inv) hinv hu)⟩
  unfold Loop.left
  rw [← List.length_eq_zero_iff, ← List.length_eq_zero_iff]
  cases u.loop.pc <;> simp [LoopPc.left]

/-- Two requests that come in one read. -/
theorem wait_steps_bounded_reading :
    ∃ s u, run step (System.start smallConfig) (playsTcp 7) = some s ∧
      run step s (wakes ++ [.handle (.data (ascii "PLAY\r\n\r\nPLAY\r\n\r\n")),
        .turn .quiet fun _ => 0]) = some u ∧
      u.loop.pc = .checkRead 0 ∧ u.loop.left ≠ 0 ∧ u.killed = false ∧
      ∃ l, ofLoop l = true ∧ (u.step l).isSome = true := by
  have hrun : (run step (System.start smallConfig) (playsTcp 7)).any (fun s =>
      (run step s (wakes ++ [.handle (.data (ascii "PLAY\r\n\r\nPLAY\r\n\r\n")),
        .turn .quiet fun _ => 0])).any fun u => u.loop.pc = .checkRead 0 && !u.killed) = true := by
    decide
  obtain ⟨s, hs, hrest⟩ := (Option.any_eq_true _ _).mp hrun
  obtain ⟨u, hu, hfacts⟩ := (Option.any_eq_true _ _).mp hrest
  obtain ⟨hpc, hlive⟩ := Bool.and_eq_true_iff.mp hfacts
  have hlive : u.killed = false := by simpa using hlive
  have hpc : u.loop.pc = .checkRead 0 := of_decide_eq_true hpc
  obtain ⟨-, hwaits, henabled⟩ := wait_steps_bounded smallConfig (playsTcp 7) _ s u hs hu
  refine ⟨s, u, hs, hu, hpc, fun hzero => ?_, hlive, henabled hlive⟩
  rw [hpc] at hwaits
  cases (hwaits.mp hzero).1

end System

end RtspForward
