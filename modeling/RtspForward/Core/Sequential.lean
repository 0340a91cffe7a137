import RtspForward.Core.SystemInvariant

/-!
# Undisturbed runs

The functions of the source that the two threads take in several steps, run without
interruption: the steps end where the function does.
-/
namespace RtspForward

/-! ## Events and the descriptors that are open -/

namespace Kernel

theorem event_congr {k k' k₁ : Kernel} {e : FdEvent} (hopen : k'.opened = k.opened)
    (h : k.event e = some k₁) : ∃ k₁', k'.event e = some k₁' ∧ k₁'.opened = k₁.opened := by
  cases e with
  | opened fd =>
    simp only [event, acquire] at h ⊢
    rw [hopen]
    split at h
    · cases h
    · rename_i hfree
      obtain rfl := Option.some.inj h
      exact ⟨_, if_neg hfree, rfl⟩
  | closed fd =>
    obtain rfl := Option.some.inj h
    exact ⟨_, rfl, by simp only [close, hopen]⟩

/-- Which events are possible depends on the open descriptors only. -/
theorem events_congr {es : List FdEvent} : ∀ {k k' k₁ : Kernel}, k'.opened = k.opened →
    k.events es = some k₁ → ∃ k₁', k'.events es = some k₁' ∧ k₁'.opened = k₁.opened := by
  induction es with
  | nil =>
    intro k k' k₁ hopen h
    obtain rfl := Option.some.inj h
    exact ⟨k', rfl, hopen⟩
  | cons e es ih =>
    intro k k' k₁ hopen h
    obtain ⟨k₂, he, h⟩ := Option.bind_eq_some_iff.mp h
    obtain ⟨k₂', he', hopen₂⟩ := event_congr hopen he
    obtain ⟨k₁', h', hopen₁⟩ := ih hopen₂ h
    exact ⟨k₁', Option.bind_eq_some_iff.mpr ⟨k₂', he', h'⟩, hopen₁⟩

end Kernel

namespace System

open Lib.Transition

variable {s : System} {sid : Nat} {session : RtspSession}

/-! ## ForwardRtp -/

/-- The stream thread's two steps on a session do what `ForwardRtp` does. -/
theorem forwardRtp_steps {todo : List Nat}
    (halive : s.killed = false) (hbroken : s.broken sid = false) (hpc : s.stream.pc = .next)
    (htodo : s.stream.todo = sid :: todo) (hs : s.server.heap sid = some session) (now : Int)
    (tcp : WriteOutcome) (udp : SendToOutcome) :
    ∃ t, run System.step s
        [.load now, if session.isUdp then .sendTo udp else .sendV tcp] = some t ∧
      t.server.heap sid = some (session.forwardRtp s.stream.packet now tcp udp).session ∧
      t.stream.pc = if (session.forwardRtp s.stream.packet now tcp udp).status.isOk then .sent sid
        else .failed sid := by
  have hload : s.step (.load now) = some (s.load sid todo session now) := by
    simp [step, halive, hpc, htodo, hs]
  unfold RtspSession.forwardRtp
  by_cases hudp : session.isUdp = true
  · have hsend : (s.load sid todo session now).step (.sendTo udp) = some
        ((s.load sid todo session now).sendTo sid
          ((session.updateActivity now).udpEndpoint s.stream.packet) udp) := by
      simp [step, System.load, RtspSession.updateActivity, halive, hudp]
    rw [if_pos hudp]
    refine ⟨_, run_cons.mpr ⟨_, hload, run_cons.mpr ⟨_, hsend, rfl⟩⟩, ?_, ?_⟩
    · simp [System.sendTo, System.load, Server.setSession, RtspSession.updateActivity, hudp]
    · simp [System.sendTo, System.load, RtspSession.updateActivity, hudp]
  · have hsend : (s.load sid todo session now).step (.sendV tcp) = some
        ((s.load sid todo session now).sendV sid (session.updateActivity now)
          (RtpForwarder.forwardTcp session.conn s.stream.packet tcp)) := by
      simp [step, System.load, Server.setSession, RtspSession.updateActivity, answerable, halive,
        hbroken, hudp]
    rw [if_neg hudp]
    refine ⟨_, run_cons.mpr ⟨_, hload, run_cons.mpr ⟨_, hsend, rfl⟩⟩, ?_, ?_⟩
    · simp [System.sendV, System.load, Server.setSession, RtspSession.updateActivity, hudp]
    · simp [System.sendV, System.load, RtspSession.updateActivity, hudp]

/-! ## ProcessConnectionData -/

variable {env : ReadEnv}

/-- A state in the loop of `ProcessConnectionData`, on a connection that is not broken. -/
structure Reading (s : System) (sid : Nat) (session : RtspSession) : Prop where
  alive : s.killed = false
  sound : s.broken sid = false
  pc : s.loop.pc = .reading sid
  heap : s.server.heap sid = some session

theorem Reading.skip (h : s.Reading sid session) (env : ReadEnv) (k : Nat) {total : Nat}
    (hturn : RtspForward.turn session.conn.readBuffer = .skip total) :
    s.step (.turn (env.request k) env.beyond) = some (s.update sid (session.consume total)) ∧
      (s.update sid (session.consume total)).Reading sid (session.consume total) := by
  refine ⟨?_, h.alive, h.sound, h.pc, by simp [System.update, Server.setSession]⟩
  simp [step, turn, h.alive, h.pc, h.heap, hturn]

/-- The check of the write buffer after a request and, where needed, the registration. -/
theorem reading_of_checkRead (halive : s.killed = false) (hsound : s.broken sid = false)
    (hpc : s.loop.pc = .checkRead sid) (hheap : s.server.heap sid = some session) :
    ∃ labels t, run System.step s labels = some t ∧ t.Reading sid session ∧
      t.server.kernel.opened = s.server.kernel.opened := by
  have hcheck : s.step .checkRead = some (s.checkRead sid session) := by
    simp [step, halive, hpc, hheap]
  by_cases hneed : session.conn.needFlush = true
  · have hregister : (s.checkRead sid session).step .registerRead =
        some ((s.checkRead sid session).registerRead sid) := by
      simp [step, System.checkRead, System.goto, halive, hneed]
    obtain ⟨-, hheap', -, hopened, -⟩ :=
      Server.modifyFd_frame s.server s.loop.fd { write := true }
    refine ⟨[.checkRead, .registerRead], _,
      run_cons.mpr ⟨_, hcheck, run_cons.mpr ⟨_, hregister, rfl⟩⟩, ⟨halive, hsound, rfl, ?_⟩, hopened⟩
    exact (congrFun hheap' sid).trans hheap
  · refine ⟨[.checkRead], _, run_cons.mpr ⟨_, hcheck, rfl⟩, ⟨halive, hsound, ?_, hheap⟩, rfl⟩
    simp [System.checkRead, System.goto, hneed]

theorem Reading.request (h : s.Reading sid session) {requestLen k : Nat} {kernel : Kernel}
    (hturn : RtspForward.turn session.conn.readBuffer = .request requestLen)
    (hk : s.server.kernel.events (session.dispatch env k requestLen).fdEvents = some kernel) :
    ∃ labels t, run System.step s labels = some t ∧
      t.Reading sid ((session.dispatch env k requestLen).session.consume requestLen) ∧
      t.server.kernel.opened = kernel.opened := by
  have hrequest : s.step (.turn (env.request k) env.beyond) =
      some (s.handled sid requestLen (session.dispatch env k requestLen) kernel) := by
    unfold RtspSession.dispatch at hk ⊢
    simp [step, turn, h.alive, h.pc, h.heap, hturn, answerable, h.sound, hk]
  obtain ⟨labels, t, hrun, hreading, hopened⟩ := reading_of_checkRead
    (s := s.handled sid requestLen (session.dispatch env k requestLen) kernel)
    (by simp [handled, raises, h.sound]) h.sound rfl (by simp [handled, Server.setSession]; rfl)
  exact ⟨_, t, run_cons.mpr ⟨_, hrequest, hrun⟩, hreading, hopened⟩

/-- The steps of the event-loop thread do what the loop of `ProcessConnectionData` does: they
lead to the session it returns, where the next turn leaves the loop as it does. The kernel has
to be able to hand out the descriptors that the requests ask for. -/
theorem readLoop_steps {fuel : Nat} : ∀ {s : System} {session : RtspSession} {k : Nat}
    {res : ReadResult} {kernel : Kernel}, s.Reading sid session →
    session.readLoop env fuel k = some res →
    s.server.kernel.events (res.handled.flatMap Handled.fdEvents) = some kernel →
    ∃ labels t, run System.step s labels = some t ∧ t.Reading sid res.session ∧
      RtspForward.turn res.session.conn.readBuffer = if res.closed then .tooLarge else .wait := by
  induction fuel with
  | zero =>
    intro s session k res kernel _ hloop
    cases hloop
  | succ fuel ih =>
    intro s session k res kernel h hloop hk
    unfold RtspSession.readLoop at hloop
    split at hloop
    · rename_i hturn
      obtain rfl := Option.some.inj hloop
      exact ⟨[], s, rfl, h, hturn⟩
    · rename_i hturn
      obtain rfl := Option.some.inj hloop
      exact ⟨[], s, rfl, h, hturn⟩
    · rename_i total hturn
      obtain ⟨res', hrest, rfl⟩ := Option.map_eq_some_iff.mp hloop
      obtain ⟨hstep, hreading⟩ := h.skip env k hturn
      obtain ⟨labels, t, hrun, ht⟩ := ih hreading hrest hk
      exact ⟨_, t, run_cons.mpr ⟨_, hstep, hrun⟩, ht⟩
    · rename_i requestLen hturn
      obtain ⟨res', hrest, rfl⟩ := Option.map_eq_some_iff.mp hloop
      obtain ⟨k₂, hk₂, hk⟩ := Kernel.events_append hk
      obtain ⟨labels, t, hrun, hreading, hopened⟩ := h.request hturn hk₂
      obtain ⟨k₁, hk₁, -⟩ := Kernel.events_congr hopened hk
      obtain ⟨labels', u, hrun', hu⟩ := ih hreading hrest hk₁
      exact ⟨labels ++ labels', u, run_append hrun hrun', hu⟩

end System

end RtspForward
