import RtspForward.Core.ReadClosing
import RtspForward.Core.SessionSteps
import RtspForward.Core.SessionTable
import RtspForward.Lib.Components

/-!
# The calls on one session

Both threads work on a session through a handful of its functions, and no step does anything
else to it: whatever the other clients do and however the two threads are interleaved, a live
session is what the calls made on it make of the session the constructor left.
-/
namespace RtspForward

open Lib Transition

/-- A call of one of the two threads on a session. `ProcessData` gets the bytes at the read
pointer, and comes with the `Consume` of its request. -/
inductive SessionCall where
  | updateActivity (now : Int)
  | forwardTcp (packet : RtpPacket) (o : WriteOutcome)
  | recordDrop
  | recordSuccess
  | recv (o : RecvOutcome)
  | consume (len : Nat)
  | processData (len : Nat) (beyond : Nat → UInt8) (env : RequestEnv)
  | flush (o : WriteOutcome)

namespace RtspSession

/-- The session after a call. -/
def after (s : RtspSession) : SessionCall → RtspSession
  | .updateActivity now => s.updateActivity now
  | .forwardTcp packet o => { s with conn := (RtpForwarder.forwardTcp s.conn packet o).1.conn }
  | .recordDrop => s.recordDrop
  | .recordSuccess => s.recordSuccess
  | .recv o => { s with conn := (s.conn.recv o).1 }
  | .consume len => s.consume len
  | .processData len beyond env =>
    (s.processData (s.conn.readBuffer.rawView len beyond) env).session.consume len
  | .flush o => { s with conn := (s.conn.flush o).conn }

/-- When the loop of `ProcessConnectionData` makes its calls; the others are made at any time. -/
def allows (s : RtspSession) : SessionCall → Bool
  | .consume len => RtspForward.turn s.conn.readBuffer = .skip len
  | .processData len _ _ => RtspForward.turn s.conn.readBuffer = .request len
  | _ => true

/-- A session by itself: one call after the other. -/
def step (s : RtspSession) (c : SessionCall) : Option RtspSession :=
  if s.allows c then some (s.after c) else none

/-- The session with the number `sid`, as the constructor leaves it. -/
def BornAs (config : Config) (sid : Nat) (s : RtspSession) : Prop :=
  ∃ (fd timestamp : Nat) (garbage : Nat → UInt8) (now : Int),
    create fd config.bufferSize garbage timestamp (sid % 2 ^ 64) now = some s

variable {s t : RtspSession} {c : SessionCall}

theorem step_eq_some : s.step c = some t ↔ s.allows c = true ∧ t = s.after c := by
  unfold step
  split
  · rename_i hallows
    simp [hallows, eq_comm]
  · rename_i hrefuses
    simp [hrefuses]

theorem after_valid (h : s.conn.Valid) (c : SessionCall) : (s.after c).conn.Valid := by
  cases c with
  | updateActivity now => exact h
  | forwardTcp packet o => exact (s.keeps_forwardTcp packet o h).valid h
  | recordDrop => exact s.keeps_recordDrop.valid h
  | recordSuccess => exact s.keeps_recordSuccess.valid h
  | recv o => exact (s.keeps_recv o).valid h
  | consume len => exact (s.keeps_consume len).valid h
  | processData len beyond env =>
    have hvalid := s.processData_valid (s.conn.readBuffer.rawView len beyond) env h
    exact (RtspSession.keeps_consume _ len).valid hvalid
  | flush o => exact (s.keeps_flush o h).valid h

end RtspSession

namespace System

/-- The session a step calls, and the call. -/
def call (s : System) : Label → Option (Nat × SessionCall)
  | .load now =>
    match s.stream.pc, s.stream.todo with
    | .next, sid :: _ => some (sid, .updateActivity now)
    | _, _ => none
  | .sendV o =>
    match s.stream.pc with
    | .tcp sid _ => some (sid, .forwardTcp s.stream.packet o)
    | _ => none
  | .recordDrop =>
    match s.stream.pc with
    | .failed sid => some (sid, .recordDrop)
    | _ => none
  | .recordSuccess =>
    match s.stream.pc with
    | .sent sid => some (sid, .recordSuccess)
    | _ => none
  | .handle recv =>
    match s.loop.handlers with
    | .onRead :: _ => (s.server.sessions[s.loop.fd]?).map fun sid => (sid, .recv recv)
    | _ => none
  | .turn env beyond =>
    match s.loop.pc with
    | .reading sid => (s.server.heap sid).bind fun session =>
        match RtspForward.turn session.conn.readBuffer with
        | .skip total => some (sid, .consume total)
        | .request requestLen => some (sid, .processData requestLen beyond env)
        | .wait | .tooLarge => none
    | _ => none
  | .flush o =>
    match s.loop.pc with
    | .flushing sid => some (sid, .flush o)
    | _ => none
  | _ => none

/-- The call of a step on the session `sid`, if it makes one. -/
def callOn (s : System) (l : Label) (sid : Nat) : Option SessionCall :=
  (s.call l).bind fun p => if p.1 = sid then some p.2 else none

/-- The calls on a session in the course of a run, in order. -/
def callsOn (sid : Nat) (taken : List (System × Label)) : List SessionCall :=
  calls (fun s l => s.callOn l sid) taken

/-- What a step does to the sessions that are alive after it, when it makes the call `c`. -/
def Acts (s : System) (c : Option (Nat × SessionCall)) (t : System) : Prop :=
  ∀ a y, t.server.heap a = some y → ∃ x, s.server.heap a = some x ∧
    run RtspSession.step x (c.bind fun p => if p.1 = a then some p.2 else none).toList = some y

variable {s t : System} {l : Label} {sid : Nat} {session : RtspSession} {c : SessionCall}

theorem acts_of_heap (h : t.server.heap = s.server.heap) : Acts s none t :=
  fun _ y hy => ⟨y, h ▸ hy, rfl⟩

theorem acts_call (hs : s.server.heap sid = some session) (hallows : session.allows c = true)
    (hheap : t.server.heap = (s.server.setSession sid (session.after c)).heap) :
    Acts s (some (sid, c)) t := by
  intro a y hy
  rw [hheap] at hy
  by_cases ha : sid = a
  · subst ha
    rw [Server.setSession_heap] at hy
    obtain rfl := Option.some.inj hy
    exact ⟨session, hs, by simp [run, RtspSession.step, hallows]⟩
  · rw [Server.setSession_heap_ne _ _ (Ne.symm ha)] at hy
    exact ⟨y, hy, by simp [ha]⟩

theorem Acts.release {c : Option (Nat × SessionCall)} (h : Acts s c t) (sids : List Nat) :
    Acts s c (t.release sids) :=
  fun a y hy => h a y (release_heap hy)

theorem Acts.closeAndLeave {c : Option (Nat × SessionCall)} (h : Acts s c t) (held : List Nat) :
    Acts s c (t.closeAndLeave held) := by
  apply Acts.release
  intro a y hy
  obtain ⟨hheap, -⟩ := Server.closeConnection_frame t.server t.loop.fd
  exact h a y (by simpa [System.goto, hheap] using hy)

theorem Acts.leave {c : Option (Nat × SessionCall)} (h : Acts s c t) (sid : Nat) :
    Acts s c (t.leave sid) := by
  have hgoto : Acts s c (t.goto .idle) := h
  exact hgoto.release [sid]

/-- The step that takes a handler. -/
theorem step_handle {recv : RecvOutcome} (hstep : s.step (.handle recv) = some t) :
    ∃ h handlers, s.loop.handlers = h :: handlers ∧
      (s.takeHandler handlers).handle h recv = some t := by
  unfold step at hstep
  split at hstep
  · cases hstep
  · simp only at hstep
    split at hstep
    · exact ⟨_, _, by assumption, hstep⟩
    · cases hstep

theorem handle_acts (h : s.Inv) {recv : RecvOutcome} (hstep : s.step (.handle recv) = some t) :
    Acts s (s.call (.handle recv)) t := by
  obtain ⟨hd, handlers, hhandlers, hhandle⟩ := step_handle hstep
  cases hd with
  | onError =>
    obtain rfl := Option.some.inj hhandle
    simp only [call, hhandlers]
    apply Acts.closeAndLeave
    exact acts_of_heap rfl
  | onRead =>
    cases hsid : s.server.sessions[s.loop.fd]? with
    | none =>
      have hsame : t = s.takeHandler handlers := by
        have hnone : (s.takeHandler handlers).server.sessions[(s.takeHandler handlers).loop.fd]? =
            none := hsid
        simp only [handle, hnone, Option.some.injEq] at hhandle
        exact hhandle.symm
      simp only [call, hhandlers, hsid, Option.map_none]
      exact acts_of_heap (by rw [hsame]; rfl)
    | some sid =>
      obtain ⟨session, hs, -⟩ := h.server.table _ _ hsid
      have ht := step_handle_read hhandlers hsid hs hstep
      have hupdate : Acts s (some (sid, .recv recv)) ((s.takeHandler handlers).update sid
          { session with conn := (session.conn.recv recv).1 }) := acts_call hs rfl rfl
      simp only [call, hhandlers, hsid, Option.map_some]
      unfold onRead at ht
      rw [if_neg (by simp [h.server.conn_open hs])] at ht
      simp only at ht
      split at ht
      · rw [ht]
        exact hupdate.closeAndLeave _
      · rw [ht]
        exact hupdate
  | onWrite =>
    simp only [call, hhandlers]
    simp only [handle] at hhandle
    split at hhandle
    · obtain rfl := Option.some.inj hhandle
      exact acts_of_heap rfl
    · obtain ⟨session, -, rfl⟩ := Option.map_eq_some_iff.mp hhandle
      unfold onWrite
      split
      · apply Acts.closeAndLeave
        exact acts_of_heap rfl
      · exact acts_of_heap rfl

end System

/-- What `OnNewConnection` adds to the heap: a session from the constructor, under the next
number. -/
theorem Server.onNewConnection_born {srv : Server} {o : AcceptOutcome} {res : Server × List Nat}
    (h : srv.onNewConnection o = some res) {a : Nat} {y : RtspSession}
    (hy : res.1.heap a = some y) :
    srv.heap a = some y ∨ (a = srv.created ∧ y.BornAs srv.config a) := by
  cases o with
  | failed =>
    obtain rfl := Option.some.inj h
    exact .inl hy
  | accepted fd addOk timestamp now garbage =>
    simp only [onNewConnection, Option.bind_eq_bind] at h
    obtain ⟨kernel, -, h⟩ := Option.bind_eq_some_iff.mp h
    split at h
    · obtain rfl := Option.some.inj h
      exact .inl hy
    · have hframe := addFd_frame { srv with
        kernel := kernel, totalConnections := (srv.totalConnections + 1) % 2 ^ 64 } fd {} .client addOk
      have hcounts := addFd_sameCounts { srv with
        kernel := kernel, totalConnections := (srv.totalConnections + 1) % 2 ^ 64 } fd {} .client addOk
      generalize Server.addFd _ _ _ _ _ = added at h hframe hcounts
      obtain ⟨hheap, hcreated, -⟩ := hframe
      simp only at hheap hcreated
      split at h
      · obtain ⟨x, hx, h⟩ := Option.bind_eq_some_iff.mp h
        obtain rfl := Option.some.inj h
        rw [hcreated, hcounts.config] at hx
        simp only [hheap, hcreated] at hy
        by_cases ha : a = srv.created
        · rw [ha, Function.update_self, Option.some.injEq] at hy
          subst hy ha
          exact .inr ⟨rfl, fd, timestamp, garbage, now, hx⟩
        · rw [Function.update_of_ne ha] at hy
          exact .inl hy
      · obtain rfl := Option.some.inj h
        simp only [hheap] at hy
        exact .inl hy

namespace System

variable {s t : System} {l : Label} {sid : Nat} {session : RtspSession}

/-- A session that is alive after a step was there before it, and the step has done what its
call does, or the step has created it. -/
theorem step_acts (h : s.Inv) (hstep : s.step l = some t) :
    Acts s (s.call l) t ∨ (s.call l = none ∧ ∀ a y, t.server.heap a = some y →
      s.server.heap a = some y ∨ (a = s.server.created ∧ y.BornAs s.server.config a)) := by
  cases step_cases hstep with
  | @accept accept expired e batch res hpc hhandlers hbatch hcb hres =>
    exact .inr ⟨rfl, fun a y hy => Server.onNewConnection_born hres (release_heap hy)⟩
  | broadcast =>
    refine .inl (acts_of_heap ?_)
    unfold System.broadcast
    split <;> rfl
  | load hpc htodo hs =>
    refine .inl ?_
    simp only [call, hpc, htodo]
    exact acts_call hs rfl rfl
  | sendV hpc hs =>
    refine .inl ?_
    simp only [call, hpc]
    exact acts_call hs rfl rfl
  | recordDrop hpc hs =>
    refine .inl ?_
    simp only [call, hpc]
    exact acts_call hs rfl rfl
  | recordSuccess hpc hs =>
    refine .inl ?_
    simp only [call, hpc]
    exact acts_call hs rfl rfl
  | streamModify | registerRead => exact .inl (acts_of_heap (Server.modifyFd_frame _ _ _).2.1)
  | finish =>
    refine .inl (Acts.release ?_ _)
    exact acts_of_heap rfl
  | @sweep accept now e batch hpc hhandlers hbatch hcb =>
    refine .inl (Acts.release ?_ _)
    exact acts_of_heap (Server.checkTimeouts_frame s.server now).1
  | sendTo | wait | skip | enter | checkRead | drained | disconnect => exact .inl (acts_of_heap rfl)
  | absent | drop | hangUp | receive | writable => exact .inl (handle_acts h hstep)
  | readDone hpc hs hturn =>
    refine .inl ?_
    simp only [call, hpc, hs, Option.bind_some, hturn]
    exact (acts_of_heap rfl).leave _
  | tooLarge hpc hs hturn =>
    refine .inl ?_
    simp only [call, hpc, hs, Option.bind_some, hturn]
    exact (acts_of_heap rfl).closeAndLeave _
  | skipFrame hpc hs hturn =>
    refine .inl ?_
    simp only [call, hpc, hs, Option.bind_some, hturn]
    exact acts_call hs (decide_eq_true hturn) rfl
  | request hpc hs hturn hh =>
    subst hh
    refine .inl ?_
    simp only [call, hpc, hs, Option.bind_some, hturn]
    exact acts_call hs (decide_eq_true hturn) rfl
  | pending => exact .inl ((acts_of_heap rfl).leave _)
  | flushFailed hpc hs =>
    refine .inl (Acts.closeAndLeave ?_ _)
    simp only [call, hpc]
    exact acts_call hs rfl rfl
  | flush hpc hs =>
    refine .inl ?_
    simp only [call, hpc]
    exact acts_call hs rfl rfl
  | unregister =>
    refine .inl (Acts.leave ?_ _)
    exact acts_of_heap (Server.modifyFd_frame _ _ _).2.1

/-- A session that is called is alive. -/
theorem call_alive (h : s.Inv) {c : SessionCall} (hcall : s.call l = some (sid, c)) :
    ∃ x, s.server.heap sid = some x := by
  have hstream (hsid : s.stream.pc.session = some sid) : ∃ x, s.server.heap sid = some x :=
    h.snapshot sid (h.stream sid hsid)
  have htable (hsid : s.server.sessions[s.loop.fd]? = some sid) :
      ∃ x, s.server.heap sid = some x := by
    obtain ⟨x, hx, -⟩ := h.server.table _ _ hsid
    exact ⟨x, hx⟩
  cases l with
  | load now =>
    simp only [call] at hcall
    split at hcall
    · rename_i sid' todo hpc htodo
      obtain ⟨rfl, -⟩ := Prod.mk.inj (Option.some.inj hcall)
      exact h.snapshot _ (h.todo _ (by simp [htodo]))
    · cases hcall
  | sendV o =>
    simp only [call] at hcall
    split at hcall
    · rename_i hpc
      obtain ⟨rfl, -⟩ := Prod.mk.inj (Option.some.inj hcall)
      exact hstream (by rw [hpc]; rfl)
    · cases hcall
  | recordDrop | recordSuccess =>
    simp only [call] at hcall
    split at hcall
    · rename_i hpc
      obtain ⟨rfl, -⟩ := Prod.mk.inj (Option.some.inj hcall)
      exact hstream (by rw [hpc]; rfl)
    · cases hcall
  | handle recv =>
    simp only [call] at hcall
    split at hcall
    · obtain ⟨a, ha, heq⟩ := Option.map_eq_some_iff.mp hcall
      obtain ⟨rfl, -⟩ := Prod.mk.inj heq
      exact htable ha
    · cases hcall
  | turn env beyond =>
    simp only [call] at hcall
    split at hcall
    · obtain ⟨x, hx, hcall⟩ := Option.bind_eq_some_iff.mp hcall
      split at hcall
      · obtain ⟨rfl, -⟩ := Prod.mk.inj (Option.some.inj hcall)
        exact ⟨x, hx⟩
      · obtain ⟨rfl, -⟩ := Prod.mk.inj (Option.some.inj hcall)
        exact ⟨x, hx⟩
      · cases hcall
      · cases hcall
    · cases hcall
  | flush o =>
    simp only [call] at hcall
    split at hcall
    · rename_i hpc
      obtain ⟨rfl, -⟩ := Prod.mk.inj (Option.some.inj hcall)
      exact htable (h.handler _ (by rw [hpc]; rfl))
    · cases hcall
  | broadcast | sendTo | streamModify | finish | wait | dispatch | checkRead | registerRead
  | checkWrite | unregister | disconnect => cases hcall

theorem callOn_eq_some {c : SessionCall} (h : s.callOn l sid = some c) :
    s.call l = some (sid, c) := by
  obtain ⟨⟨a, c'⟩, hcall, heq⟩ := Option.bind_eq_some_iff.mp h
  simp only at heq
  split at heq
  · rename_i ha
    obtain rfl := Option.some.inj heq
    rw [hcall, ha]
  · cases heq

/-- A number that has not been given away is the number of no session that is called. -/
theorem callOn_unborn (h : s.Inv) (hsid : s.server.created ≤ sid) : s.callOn l sid = none := by
  by_contra hne
  obtain ⟨c, hc⟩ := Option.ne_none_iff_exists'.mp hne
  obtain ⟨x, hx⟩ := call_alive h (callOn_eq_some hc)
  rw [h.server.fresh sid hsid] at hx
  cases hx

/-- A session is a component of the system. -/
theorem session_projects (config : Config) (sid : Nat) :
    Projects step (fun s => s.Inv ∧ s.server.config = config) (fun s => s.server.created ≤ sid)
      (fun s => s.server.heap sid) (RtspSession.BornAs config sid) (fun s l => s.callOn l sid)
      RtspSession.step where
  keep s l t h hstep := ⟨step_inv h.1 hstep, (step_fixed hstep).1.trans h.2⟩
  unborn_back s l t h hstep hsid := by
    have hold : s.server.created ≤ sid := (step_fixed hstep).2.trans hsid
    exact ⟨hold, callOn_unborn h.1 hold⟩
  none_of_unborn s h hsid := h.1.server.fresh sid hsid
  step_eq s l t y h hstep hy := by
    rcases step_acts h.1 hstep with hacts | ⟨hnone, hborn⟩
    · exact .inr (hacts sid y hy)
    · rcases hborn sid y hy with hold | ⟨hsid, hnew⟩
      · refine .inr ⟨y, hold, ?_⟩
        simp [callOn, hnone]
      · rw [h.2] at hnew
        exact .inl ⟨hsid.ge, callOn_unborn h.1 hsid.ge, hnew⟩

/-- **A session is what its own calls make of it.** In every run, whatever the other sessions do
and however the two threads are interleaved, a live session is where the calls that were made on
it lead, in their order and by themselves, from the session its constructor left. -/
theorem session_is_its_calls (config : Config) (labels : List Label) (s : System)
    (hs : run step (System.start config) labels = some s) (sid : Nat) (y : RtspSession)
    (hy : s.server.heap sid = some y) :
    ∃ x, x.BornAs config sid ∧
      run RtspSession.step x (callsOn sid (trace step (System.start config) labels)) = some y :=
  (session_projects config sid).run_component ⟨start_inv config, rfl⟩ (Nat.zero_le sid) hs hy

/-- The second of two clients, after the first one has started to play. -/
theorem session_is_its_calls_accepted :
    ∃ s y x, run step (System.start smallConfig) twoClients = some s ∧
      s.server.heap 1 = some y ∧ x.BornAs smallConfig 1 ∧
      run RtspSession.step x (callsOn 1 (trace step (System.start smallConfig) twoClients)) =
        some y := by
  have hrun : (run step (System.start smallConfig) twoClients).any
      (fun s => (s.server.heap 1).isSome) = true := by
    decide
  obtain ⟨s, hs, hsome⟩ := (Option.any_eq_true _ _).mp hrun
  obtain ⟨y, hy⟩ := Option.isSome_iff_exists.mp hsome
  obtain ⟨x, hborn, heq⟩ := session_is_its_calls smallConfig twoClients s hs 1 y hy
  exact ⟨s, y, x, hs, hy, hborn, heq⟩

end System

end RtspForward
