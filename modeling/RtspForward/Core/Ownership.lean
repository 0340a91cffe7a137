import RtspForward.Core.Snapshot

/-!
# Who owns the descriptors a broadcast uses

The stream thread reads a descriptor and uses it in a later step. The snapshot keeps the
session alive, and the descriptor of a connection is closed with its session only, so a
TCP write and a `ModifyFd` are safe. The UDP descriptors are closed by requests: between
the load and the `sendto` the number can be given back and handed out again.
-/
namespace RtspForward

/-- The session of which a UDP descriptor has been read and not yet used. -/
def StreamPc.loadedUdp : StreamPc → Option Nat
  | .udp sid endpoint => if 0 ≤ endpoint.fd then some sid else none
  | _ => none

namespace System

open Lib

variable {s t : System} {sid : Nat} {l : Label} {session : RtspSession}

/-- The descriptor is open, the session holds it, and no other session does. -/
structure Owned (srv : Server) (sid : Nat) (fd : Int) : Prop where
  opened : srv.kernel.opened fd = true
  owns : ∃ session, srv.heap sid = some session ∧ session.Owns fd
  exclusive : ∀ a session, srv.heap a = some session → session.Owns fd → a = sid

/-- Every descriptor that a step passes to the kernel on behalf of a session is owned by that
session: by a write on a connection, by a `sendto`, and by a `ModifyFd` of either thread. -/
structure UsesOwned (s : System) (l : Label) : Prop where
  write : ∀ sid res call, s.issued l = some (sid, res) → res.call = some call →
    Owned s.server sid call.fd
  datagram : ∀ o sid endpoint call, l = .sendTo o → s.stream.pc = .udp sid endpoint →
    (RtpForwarder.forwardUdp endpoint s.stream.packet o).1 = some call → Owned s.server sid call.fd
  streamModify : ∀ sid fd, l = .streamModify → s.stream.pc = .register sid fd → Owned s.server sid fd
  loopModify : ∀ sid, l = .registerRead ∨ l = .unregister → s.loop.pc.session = some sid →
    Owned s.server sid s.loop.fd

/-- While the stream thread has read a UDP descriptor of a session and not yet used it, the event
loop handles no request of that session that gives up the UDP descriptors it holds. -/
def LeavesLoaded (s : System) (l : Label) : Prop :=
  ∀ sid ∈ s.stream.pc.loadedUdp, s.releases l sid = false

instance (s : System) (l : Label) : Decidable (s.LeavesLoaded l) :=
  inferInstanceAs (Decidable (∀ sid ∈ s.stream.pc.loadedUdp, s.releases l sid = false))

/-! ## The UDP descriptor the stream thread has read -/

/-- The UDP descriptor the stream thread has read still belongs to the session it read it
from. -/
def LoadedUdp (s : System) : Prop :=
  ∀ sid endpoint, s.stream.pc = .udp sid endpoint → 0 ≤ endpoint.fd →
    ∃ session, s.server.heap sid = some session ∧ endpoint.fd ∈ session.udpFds

theorem loadedUdp_of_pc (h : ∀ sid endpoint, s.stream.pc ≠ .udp sid endpoint) : s.LoadedUdp :=
  fun sid endpoint hpc => absurd hpc (h sid endpoint)

theorem udpEndpoint_mem {p : RtpPacket} (h : 0 ≤ (session.udpEndpoint p).fd) :
    (session.udpEndpoint p).fd ∈ session.udpFds := by
  refine RtspSession.mem_udpFds.mpr ⟨h, ?_⟩
  unfold RtspSession.udpEndpoint
  split
  · exact .inl rfl
  · exact .inr rfl

theorem step_loadedUdp (h : s.Inv) (hl : s.LoadedUdp) (hc : s.LeavesLoaded l)
    (hstep : s.step l = some t) : t.LoadedUdp := by
  by_cases hof : ofStream l = false
  · have hkeeps : KeepsFds s l t := step_keepsFds h hstep (by rintro rfl; cases hof)
    intro sid endpoint hpc hpos
    rw [step_stream hstep hof] at hpc
    obtain ⟨session, hs, hfd⟩ := hl sid endpoint hpc hpos
    obtain ⟨session', hs', -, hudp⟩ := hkeeps sid (h.stream sid (by rw [hpc]; rfl)) session hs
    rcases hudp with hkept | hrel
    · exact ⟨session', hs', hkept hfd⟩
    · have hloaded : s.stream.pc.loadedUdp = some sid := by
        rw [hpc, StreamPc.loadedUdp, if_pos hpos]
      rw [hc sid (Option.mem_def.mpr hloaded)] at hrel
      cases hrel
  · cases step_cases hstep with
    | broadcast hpc =>
      unfold System.broadcast
      split
      · exact loadedUdp_of_pc (by simp)
      · exact hl
    | @load now sid todo session hpc htodo hs =>
      intro a endpoint hpc' hpos
      simp only [System.load] at hpc'
      split at hpc'
      · obtain ⟨rfl, rfl⟩ : sid = a ∧
            (session.updateActivity now).udpEndpoint s.stream.packet = endpoint := by simpa using hpc'
        exact ⟨session.updateActivity now, by simp [System.load, Server.setSession], udpEndpoint_mem hpos⟩
      · cases hpc'
    | sendTo hpc =>
      unfold System.sendTo
      simp only
      split <;> exact loadedUdp_of_pc (by simp)
    | sendV hpc hs =>
      unfold System.sendV
      split <;> exact loadedUdp_of_pc (by simp)
    | recordDrop hpc hs => exact loadedUdp_of_pc (by simp [System.recordDrop])
    | recordSuccess hpc hs =>
      unfold System.recordSuccess
      simp only
      split <;> exact loadedUdp_of_pc (by simp)
    | streamModify hpc => exact loadedUdp_of_pc (by simp [System.streamModify])
    | finish hpc htodo => exact loadedUdp_of_pc (by simp [System.finish])
    | wait | skip | accept | sweep | enter | absent | drop | hangUp | receive | writable | readDone
    | tooLarge | skipFrame | request | checkRead | registerRead | flushFailed | flush | pending
    | drained | unregister | disconnect => exact absurd rfl hof

theorem owned_of_owns (h : s.Inv) {session : RtspSession} {fd : Int}
    (hs : s.server.heap sid = some session) (hfd : session.Owns fd) : Owned s.server sid fd :=
  ⟨h.server.opened sid session hs fd hfd, ⟨session, hs, hfd⟩,
    fun a session' ha hown => h.server.separate a sid session' session ha hs fd hown hfd⟩

/-- A write on a connection is a write on its descriptor. -/
theorem issued_fd {res : WriteResult} {call : WriteCall} (h : s.issued l = some (sid, res))
    (hcall : res.call = some call) :
    ∃ session, s.server.heap sid = some session ∧ call.fd = session.conn.fd := by
  obtain ⟨session, hs, hres⟩ := issued_cases h
  refine ⟨session, hs, ?_⟩
  rcases hres with ⟨o, rfl⟩ | ⟨response, o, rfl⟩ | ⟨o, rfl⟩
  · rw [Wire.forwardTcp_call] at hcall
    split at hcall
    · rw [← Option.some.inj hcall]
    · cases hcall
  · rw [Connection.send_call] at hcall
    split at hcall
    · rw [← Option.some.inj hcall]
    · cases hcall
  · rw [Connection.flush_call] at hcall
    split at hcall
    · rw [← Option.some.inj hcall]
    · cases hcall

theorem usesOwned_of_loaded (h : s.Inv) (hconn : s.LoadedConn) (hudp : s.LoadedUdp) :
    s.UsesOwned l where
  write sid res call hissued hcall := by
    obtain ⟨session, hs, hfd⟩ := issued_fd hissued hcall
    rw [hfd]
    exact owned_of_owns h hs (h.server.owns_conn hs)
  datagram o sid endpoint call hl hpc hcall := by
    unfold RtpForwarder.forwardUdp at hcall
    split at hcall
    · cases hcall
    · rename_i hgood
      obtain ⟨session, hs, hfd⟩ := hudp sid endpoint hpc (by omega)
      have hcallfd : call.fd = endpoint.fd := by
        cases o <;> simp only [Option.some.injEq] at hcall <;> rw [← hcall]
      rw [hcallfd]
      exact owned_of_owns h hs (.inr hfd)
  streamModify sid fd hl hpc := by
    obtain ⟨session, hs, rfl⟩ := hconn sid fd hpc
    exact owned_of_owns h hs (h.server.owns_conn hs)
  loopModify sid hl hpc := by
    obtain ⟨session, hs, hfd⟩ := h.server.table _ _ (h.handler sid hpc)
    rw [← hfd]
    exact owned_of_owns h hs (h.server.owns_conn hs)

/-- **Forwarding uses descriptors its session owns.** In every run of the two threads in which
no request gives up a UDP descriptor that the stream thread has read and not yet used, every
descriptor that is passed to `sendto`, `send`, `writev` or `ModifyFd` on behalf of a session
is open, held by that session, and held by no other. -/
theorem forwarding_uses_owned (config : Config) (labels : List Label)
    (hc : Transition.Along System.step LeavesLoaded (System.start config) labels) :
    Transition.Along System.step UsesOwned (System.start config) labels := by
  have hstep : ∀ (s : System) (l : Label) (t : System), (s.Inv ∧ s.LoadedConn ∧ s.LoadedUdp) →
      s.LeavesLoaded l → s.step l = some t → t.Inv ∧ t.LoadedConn ∧ t.LoadedUdp :=
    fun s l t h hl hs => ⟨step_inv h.1 hs, step_loadedConn h.1 h.2.1 hs, step_loadedUdp h.1 h.2.2 hl hs⟩
  refine Transition.Along.imp_of_invariant hstep
    (fun s l h _ => usesOwned_of_loaded h.1 h.2.1 h.2.2) ⟨start_inv config, ?_, ?_⟩ hc
  · exact loadedConn_of_pc (by simp [System.start])
  · exact loadedUdp_of_pc (by simp [System.start])

/-- One packet to one UDP client, with another client's connection accepted between the load
and the `sendto`. -/
def acceptInFlight : List Label :=
  playsUdp 7 ++ [.broadcast ⟨[1], 0⟩, .load 0] ++ accepts 12 ++ [.sendTo .sent]

theorem forwarding_uses_owned_udp :
    (Transition.run System.step (System.start smallConfig) acceptInFlight).isSome = true ∧
      Transition.Along System.step UsesOwned (System.start smallConfig) acceptInFlight :=
  ⟨by decide +kernel, forwarding_uses_owned smallConfig acceptInFlight (by decide +kernel)⟩

theorem not_usesOwned_sendTo {o : SendToOutcome} {endpoint : UdpEndpoint} {call : SendToCall}
    {a : Nat} (hpc : s.stream.pc = .udp sid endpoint)
    (hcall : (RtpForwarder.forwardUdp endpoint s.stream.packet o).1 = some call)
    (ha : s.server.heap a = some session) (hown : session.Owns call.fd) (hne : a ≠ sid) :
    ¬ s.UsesOwned (.sendTo o) :=
  fun h => hne ((h.datagram o sid endpoint call rfl hpc hcall).exclusive a session ha hown)

/-- The same with a `TEARDOWN` of the first client in between: its RTP socket 10 is closed,
the next client gets 10 for its connection, and the datagram goes there. -/
def teardownInFlight : List Label :=
  playsUdp 7 ++ [.broadcast ⟨[1], 0⟩, .load 0] ++ requests 7 "TEARDOWN * RTSP/1.0\r\nCSeq: 3" ++
    accepts 10

theorem teardown_diverts_packet :
    ∃ s, Transition.run System.step (System.start smallConfig) teardownInFlight = some s ∧
      s.stream.pc = .udp 0 ⟨10, { port := 5000 }⟩ ∧
      (s.server.heap 1).any (fun session => session.conn.fd = 10) = true ∧
      (s.step (.sendTo .sent)).isSome = true ∧ ¬ s.UsesOwned (.sendTo .sent) := by
  have hrun : (Transition.run System.step (System.start smallConfig) teardownInFlight).any
      (fun s => s.stream.pc = .udp 0 ⟨10, { port := 5000 }⟩ && s.stream.packet = ⟨[1], 0⟩ &&
        (s.step (.sendTo .sent)).isSome &&
        (s.server.heap 1).any (fun session => session.conn.fd = 10)) = true := by
    decide +kernel
  obtain ⟨s, hs, hfacts⟩ := (Option.any_eq_true _ _).mp hrun
  simp only [Bool.and_eq_true, decide_eq_true_eq] at hfacts
  obtain ⟨⟨⟨hpc, hpacket⟩, hsome⟩, hother⟩ := hfacts
  refine ⟨s, hs, hpc, hother, hsome, ?_⟩
  obtain ⟨session, hsession, hfd⟩ := (Option.any_eq_true _ _).mp hother
  refine not_usesOwned_sendTo hpc (by rw [hpacket]; rfl) hsession (.inl ?_) (by decide)
  exact ⟨by decide, (of_decide_eq_true hfd).symm⟩

end System

end RtspForward
