import RtspForward.Core.ClientStream
import Mathlib.Data.List.Flatten

/-!
# Every broadcast, once and in order

`BroadcastRtp` copies the sessions that are playing and forwards the packet to each of them. It
gives the table back before it starts, so the event loop may pause, tear down or close any of them
meanwhile; each of the copied sessions gets its packet all the same, once, and before the packets
of later broadcasts.
-/
namespace RtspForward

open Lib Transition

/-- The sessions that the stream thread has yet to serve. -/
def Stream.pending (s : Stream) : List Nat :=
  match s.pc with
  | .idle => []
  | .udp sid _ | .tcp sid _ => sid :: s.todo
  | .next | .failed _ | .sent _ | .register _ _ => s.todo

/-- The packet a session has yet to get. -/
def Stream.owes (s : Stream) (sid : Nat) : List RtpPacket :=
  if sid ∈ s.pending then [s.packet] else []

namespace System

variable {s t : System} {l : Label} {sid : Nat}

/-- The packet a step broadcasts while the session is playing. -/
def broadcastTo (sid : Nat) (s : System) : Label → List RtpPacket
  | .broadcast packet =>
    if s.server.running ∧ sid ∈ s.server.playingSessions then [packet] else []
  | _ => []

/-- The packet a step hands to `ForwardUdp` or `ForwardTcp` for the session. -/
def forwardedTo (sid : Nat) (s : System) : Label → List RtpPacket
  | .sendTo _ =>
    match s.stream.pc with
    | .udp a _ => if a = sid then [s.stream.packet] else []
    | _ => []
  | .sendV _ =>
    match s.stream.pc with
    | .tcp a _ => if a = sid then [s.stream.packet] else []
    | _ => []
  | _ => []

/-! ## One step -/

/-- A broadcast selects a session once. -/
theorem playingSessions_nodup (h : s.Inv) : s.server.playingSessions.Nodup :=
  h.inTable_nodup.sublist (List.filter_sublist.map Prod.snd)

/-- What a step does about the pending sessions. -/
inductive Serving (s : System) (l : Label) (t : System) : Prop
  /-- A broadcast selects the playing sessions. -/
  | selects (packet : RtpPacket) : l = .broadcast packet → s.server.running = true →
      s.stream.pending = [] → t.stream.pending = s.server.playingSessions →
      t.stream.packet = packet → Serving s l t
  /-- The first of the pending sessions gets the packet. -/
  | serves (a : Nat) : s.stream.pending = a :: t.stream.pending →
      t.stream.packet = s.stream.packet → (∀ sid, s.broadcastTo sid l = []) →
      (∀ sid, s.forwardedTo sid l = if a = sid then [s.stream.packet] else []) → Serving s l t
  | waits : t.stream.pending = s.stream.pending →
      t.stream.packet = s.stream.packet ∨ s.stream.pending = [] →
      (∀ sid, s.broadcastTo sid l = []) → (∀ sid, s.forwardedTo sid l = []) → Serving s l t

theorem step_serving (hstep : s.step l = some t) : Serving s l t := by
  by_cases hthread : ofStream l = true
  · cases step_cases hstep with
    | @broadcast packet hpc =>
      have hnone : s.stream.pending = [] := by simp [Stream.pending, hpc]
      unfold System.broadcast
      split
      · exact .selects packet rfl (by assumption) hnone rfl rfl
      · rename_i hstopped
        exact .waits rfl (.inl rfl) (fun sid => by simp [broadcastTo, hstopped]) fun sid => rfl
    | @load now a todo session hpc htodo hs =>
      refine .waits ?_ (.inl rfl) (fun sid => rfl) fun sid => rfl
      unfold System.load
      cases hudp : (session.updateActivity now).isUdp <;> simp [Stream.pending, hpc, htodo, hudp]
    | @sendTo o a endpoint hpc =>
      refine .serves a ?_ rfl (fun sid => rfl) fun sid => by simp only [forwardedTo, hpc]
      unfold System.sendTo
      cases hok : (RtpForwarder.forwardUdp endpoint s.stream.packet o).2.isOk <;>
        simp [Stream.pending, hpc, hok]
    | @sendV o a fd session hpc hs =>
      refine .serves a ?_ rfl (fun sid => rfl) fun sid => by simp only [forwardedTo, hpc]
      unfold System.sendV
      cases (RtpForwarder.forwardTcp session.conn s.stream.packet o).2.isOk <;>
        simp [Stream.pending, hpc]
    | recordDrop hpc | streamModify hpc =>
      refine .waits ?_ (.inl rfl) (fun sid => rfl) fun sid => rfl
      simp [Stream.pending, hpc, System.recordDrop, System.streamModify]
    | @recordSuccess a session hpc =>
      refine .waits ?_ (.inl rfl) (fun sid => rfl) fun sid => rfl
      unfold System.recordSuccess
      cases hneed : session.recordSuccess.conn.needFlush <;> simp [Stream.pending, hpc, hneed]
    | finish hpc htodo =>
      have hnone : s.stream.pending = [] := by simp [Stream.pending, hpc, htodo]
      refine .waits ?_ (.inr hnone) (fun sid => rfl) fun sid => rfl
      rw [hnone, System.finish, release_stream]
      rfl
    | wait | skip | accept | sweep | enter | absent | drop | hangUp | receive | writable | readDone
    | tooLarge | skipFrame | request | checkRead | registerRead | flushFailed | flush | pending
    | drained | unregister | disconnect => cases hthread
  · have hstream := step_stream hstep (Bool.eq_false_of_not_eq_true hthread)
    refine .waits (by rw [hstream]) (.inl (by rw [hstream])) ?_ ?_
    all_goals
      intro sid
      cases l with
      | broadcast | load | sendTo | sendV | recordDrop | recordSuccess | streamModify | finish =>
        exact absurd rfl hthread
      | _ => rfl

/-- Nobody is served twice by one broadcast. -/
theorem step_pending_nodup (h : s.Inv) (hnodup : s.stream.pending.Nodup)
    (hstep : s.step l = some t) : t.stream.pending.Nodup := by
  cases step_serving hstep with
  | selects packet _ _ _ hpending =>
    rw [hpending]
    exact playingSessions_nodup h
  | serves a hpending =>
    rw [hpending] at hnodup
    exact hnodup.of_cons
  | waits hpending =>
    rw [hpending]
    exact hnodup

/-- What a session has yet to get, and what is broadcast to it, is what is handed over and what
it has then yet to get. -/
theorem step_owes (hnodup : s.stream.pending.Nodup) (hstep : s.step l = some t) :
    s.stream.owes sid ++ s.broadcastTo sid l = s.forwardedTo sid l ++ t.stream.owes sid := by
  unfold Stream.owes
  cases step_serving hstep with
  | selects packet hl hrunning hnone hpending hpacket =>
    subst hl
    rw [hnone, hpending, hpacket]
    simp only [broadcastTo, forwardedTo, hrunning, List.not_mem_nil, if_false, true_and,
      List.nil_append]
  | serves a hpending hpacket hbroadcast hforward =>
    rw [hpending, List.nodup_cons] at hnodup
    rw [hbroadcast, hforward, hpending, hpacket, List.append_nil]
    by_cases ha : a = sid
    · subst ha
      rw [if_pos (by simp), if_pos rfl, if_neg hnodup.1, List.append_nil]
    · rw [if_neg ha, List.nil_append]
      simp only [List.mem_cons, Ne.symm ha, false_or]
  | waits hpending hpacket hbroadcast hforward =>
    rw [hbroadcast, hforward, hpending, List.append_nil, List.nil_append]
    rcases hpacket with hsame | hnone
    · rw [hsame]
    · rw [hnone]
      simp

/-! ## The frames of a session -/

end System

/-- The packet of a frame. -/
def Output.packet : Output → Option RtpPacket
  | .rtp packet => some packet
  | _ => none

def SessionCall.packet : SessionCall → Option RtpPacket
  | .forwardTcp packet _ => some packet
  | _ => none

/-- The packets of the frames that a session has put on its stream. -/
def RtspSession.frames (taken : List (RtspSession × SessionCall)) : List RtpPacket :=
  totalOf (fun s c => ((s.emits c).bind Output.packet).toList) taken

/-- A response is no frame. -/
theorem RtspSession.answer_packet (s : RtspSession) (request : RtspRequest) (env : RequestEnv) :
    (s.answer request env).packet = none := by
  unfold answer
  cases request.method with
  | kDescribe =>
    simp only
    split <;> rfl
  | kSetup =>
    simp only [setupAnswer]
    split
    · split
      · rfl
      · split <;> rfl
    · split <;> rfl
  | kOptions | kPlay | kTeardown | kPause | kGetParameter | kSetParameter | kUnknown => rfl

/-- A frame that a call emits carries the packet of the call. -/
theorem RtspSession.emits_packet {s : RtspSession} {c : SessionCall} {out : Output}
    {packet : RtpPacket} (h : s.emits c = some out) (hout : out.packet = some packet) :
    c.packet = some packet := by
  obtain ⟨e, he, rfl⟩ := emission_of_emits h
  rcases emission_cases he with ⟨request, env, hanswer⟩ | ⟨p, o, rfl, hframe, -⟩
  · rw [hanswer, answer_packet] at hout
    cases hout
  · rw [hframe] at hout
    exact hout

theorem RtspSession.frames_sublist {s t : RtspSession} {cs : List SessionCall}
    (hrun : run RtspSession.step s cs = some t) :
    (frames (trace RtspSession.step s cs)).Sublist (cs.flatMap fun c => c.packet.toList) := by
  rw [← totalOf_labels hrun]
  apply List.Sublist.flatMap_right
  intro p _
  show (((p.1.emits p.2).bind Output.packet).toList).Sublist p.2.packet.toList
  cases hout : (p.1.emits p.2).bind Output.packet with
  | none => exact List.nil_sublist _
  | some packet =>
    obtain ⟨out, hemits, hpacket⟩ := Option.bind_eq_some_iff.mp hout
    rw [emits_packet hemits hpacket]

namespace System

variable {s t : System} {l : Label} {sid : Nat}

/-- A call to `ForwardTcp` hands over the packet of the broadcast. -/
theorem callOn_packet {c : SessionCall} {packet : RtpPacket} (h : s.callOn l sid = some c)
    (hc : c.packet = some packet) : s.forwardedTo sid l = [packet] := by
  cases c with
  | forwardTcp p o =>
    obtain rfl := Option.some.inj hc
    obtain ⟨rfl, fd, rfl, hpc⟩ := call_forwardTcp (callOn_eq_some h)
    simp [forwardedTo, hpc]
  | updateActivity | recordDrop | recordSuccess | recv | consume | processData | flush => cases hc

theorem callsOn_packets (sid : Nat) (taken : List (System × Label)) :
    ((callsOn sid taken).flatMap fun c => c.packet.toList).Sublist
      (totalOf (forwardedTo sid) taken) := by
  rw [callsOn, flatMap_calls]
  apply List.Sublist.flatMap_right
  intro p _
  show ((p.1.callOn p.2 sid).toList.flatMap fun c => c.packet.toList).Sublist _
  cases hcall : p.1.callOn p.2 sid with
  | none => exact List.nil_sublist _
  | some c =>
    rw [Option.toList_some, List.flatMap_singleton]
    cases hpacket : c.packet with
    | none => exact List.nil_sublist _
    | some packet =>
      rw [callOn_packet hcall hpacket]
      exact List.Sublist.refl _

/-! ## Whole runs -/

/-- What a session has been handed over of what has been broadcast to it. -/
theorem run_owes {config : Config} {labels : List Label}
    (hs : run step (System.start config) labels = some s) (sid : Nat) :
    totalOf (broadcastTo sid) (trace step (System.start config) labels) =
      totalOf (forwardedTo sid) (trace step (System.start config) labels) ++
        s.stream.owes sid := by
  have hkeep (s : System) (l : Label) (t : System) (h : s.Inv ∧ s.stream.pending.Nodup)
      (hstep : s.step l = some t) : t.Inv ∧ t.stream.pending.Nodup :=
    ⟨step_inv h.1 hstep, step_pending_nodup h.1 h.2 hstep⟩
  have hledger : (System.start config).stream.owes sid ++
      totalOf (broadcastTo sid) (trace step (System.start config) labels) =
        totalOf (forwardedTo sid) (trace step (System.start config) labels) ++
          s.stream.owes sid :=
    run_ledger hkeep (fun s l t h _ hstep => step_owes h.2 hstep)
      ⟨start_inv config, List.nodup_nil⟩ (along_true _ _) hs
  have hnone : (System.start config).stream.owes sid = [] := rfl
  rwa [hnone, List.nil_append] at hledger

/-- The frames on the stream of a session carry what has been broadcast to it. -/
theorem run_frames {config : Config} {labels : List Label} {x y : RtspSession}
    (hs : run step (System.start config) labels = some s)
    (hrun : run RtspSession.step x (callsOn sid (trace step (System.start config) labels)) = some y) :
    (RtspSession.frames (trace RtspSession.step x
      (callsOn sid (trace step (System.start config) labels)))).Sublist
      (totalOf (broadcastTo sid) (trace step (System.start config) labels)) := by
  have hcalls := (RtspSession.frames_sublist hrun).trans
    (callsOn_packets sid (trace step (System.start config) labels))
  rw [run_owes hs sid]
  exact hcalls.trans (List.sublist_append_left _ _)

/-- **Each broadcast reaches each playing session, once and in order.** In every run, whatever the
event loop does to the session while a broadcast is under way: the packets broadcast while the
session was playing are those that have been handed to `ForwardRtp` for it, in the same order, and
the one that the stream thread still owes it. Between broadcasts it owes nothing. -/
theorem broadcasts_reach_playing (config : Config) (labels : List Label) (s : System)
    (hs : run step (System.start config) labels = some s) (sid : Nat) :
    let taken := trace step (System.start config) labels
    totalOf (broadcastTo sid) taken = totalOf (forwardedTo sid) taken ++ s.stream.owes sid ∧
      (s.stream.pc = .idle → s.stream.owes sid = []) :=
  ⟨run_owes hs sid, fun hidle => by simp [Stream.owes, Stream.pending, hidle]⟩

/-- Two clients play; one pauses while the stream thread has served the other only. -/
def pausesMeanwhile : List Label :=
  playsTcp 7 ++ playsTcp 8 ++ [.broadcast ⟨[1], 0⟩, .load 0, .sendV (.accepted 5)] ++
    requests 8 "PAUSE * RTSP/1.0\r\nCSeq: 2" ++
    [.recordSuccess, .load 0, .sendV (.accepted 5), .recordSuccess, .finish, .broadcast ⟨[2], 0⟩]

theorem broadcasts_reach_paused :
    ∃ s, run step (System.start smallConfig) pausesMeanwhile = some s ∧
      (0 ∈ s.stream.pending ∧ 1 ∉ s.stream.pending) ∧
      totalOf (broadcastTo 1) (trace step (System.start smallConfig) pausesMeanwhile) =
        totalOf (forwardedTo 1) (trace step (System.start smallConfig) pausesMeanwhile) ++
          s.stream.owes 1 := by
  have hrun : (run step (System.start smallConfig) pausesMeanwhile).any (fun s =>
      decide (0 ∈ s.stream.pending ∧ 1 ∉ s.stream.pending)) = true := by
    decide
  obtain ⟨s, hs, hpending⟩ := (Option.any_eq_true _ _).mp hrun
  have hreach := broadcasts_reach_playing smallConfig pausesMeanwhile s hs 1
  exact ⟨s, hs, of_decide_eq_true hpending, hreach.1⟩

/-- **The frames of a session are broadcasts.** The frames that the calls on a live session have
put on its stream as a whole carry packets that were broadcast while it was playing, in the order
of the broadcasts and none of them twice. -/
theorem frames_are_broadcasts (config : Config) (labels : List Label) (s : System)
    (hs : run step (System.start config) labels = some s) (sid : Nat) (y : RtspSession)
    (hy : s.server.heap sid = some y) :
    ∃ x, x.BornAs config sid ∧
      let calls := callsOn sid (trace step (System.start config) labels)
      run RtspSession.step x calls = some y ∧
      (RtspSession.frames (trace RtspSession.step x calls)).Sublist
        (totalOf (broadcastTo sid) (trace step (System.start config) labels)) := by
  have hcomponent : ∃ x, x.BornAs config sid ∧
      run RtspSession.step x (callsOn sid (trace step (System.start config) labels)) = some y :=
    (session_projects config sid).run_component ⟨start_inv config, rfl⟩ (Nat.zero_le sid) hs hy
  obtain ⟨x, hborn, hrun⟩ := hcomponent
  exact ⟨x, hborn, hrun, run_frames hs hrun⟩

/-- Two frames, the second one queued behind the rest of the first. -/
theorem frames_are_broadcasts_behind :
    ∃ s y x, run step (System.start smallConfig) playsBehind = some s ∧
      s.server.heap 0 = some y ∧ x.BornAs smallConfig 0 ∧
      (RtspSession.frames (trace RtspSession.step x
        (callsOn 0 (trace step (System.start smallConfig) playsBehind)))).Sublist
        (totalOf (broadcastTo 0) (trace step (System.start smallConfig) playsBehind)) := by
  have hrun : (run step (System.start smallConfig) playsBehind).any (fun s =>
      (s.server.heap 0).isSome) = true := by
    decide +kernel
  obtain ⟨s, hs, hsome⟩ := (Option.any_eq_true _ _).mp hrun
  obtain ⟨y, hy⟩ := Option.isSome_iff_exists.mp hsome
  obtain ⟨x, hborn, -, hframes⟩ := frames_are_broadcasts smallConfig playsBehind s hs 0 y hy
  exact ⟨s, y, x, hs, hy, hborn, hframes⟩

end System

end RtspForward
