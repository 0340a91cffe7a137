import RtspForward.Core.FailedRequests
import RtspForward.Core.IncomingStream
import RtspForward.Core.Responses
import RtspForward.Core.SlowClients

/-!
# What the client of a session reads

Responses and frames are written by two threads onto one connection, directly or through the
write buffer. As long as each call puts its message on the stream as a whole or not at all, the
client reads the responses and frames of its session one by one, in the order of the calls.
-/
namespace RtspForward

open Lib Transition

/-- A message a call is to send: the response or the frame, the size of the first piece that
goes to the write buffer, and the kernel's answer. -/
structure Emission where
  output : Output
  head : Nat
  answer : WriteOutcome

namespace RtspSession

variable {s t : RtspSession} {c : SessionCall}

/-- The message of a call; `Flush` has none of its own. -/
def emission (s : RtspSession) : SessionCall → Option Emission
  | .processData len beyond env =>
    match RtspParser.parse (s.conn.readBuffer.rawView len beyond) {} with
    | .error _ => none
    | .ok request =>
      some { output := s.answer request env, head := (s.answer request env).bytes.length,
             answer := env.reply }
  | .forwardTcp packet o =>
    if 0 < packet.data.length ∧ packet.data.length ≤ kMaxRtpPacketSize then
      some { output := .rtp packet, head := 4, answer := o }
    else none
  | _ => none

/-- The bytes the kernel accepts in a call. -/
def sends (s : RtspSession) : SessionCall → Bytes
  | .processData len beyond env =>
    ((s.processData (s.conn.readBuffer.rawView len beyond) env).reply.map
      fun reply => reply.result.accepted).getD []
  | .forwardTcp packet o => (RtpForwarder.forwardTcp s.conn packet o).1.accepted
  | .flush o => (s.conn.flush o).accepted
  | _ => []

/-- The message goes onto the stream as a whole or not at all. -/
def keepsWhole (s : RtspSession) (c : SessionCall) : Bool :=
  (s.emission c).all fun e => s.conn.keepsWhole e.output.bytes.length e.head e.answer

/-- The message, when the socket and the write buffer have room for all of it. -/
def emits (s : RtspSession) (c : SessionCall) : Option Output :=
  (s.emission c).bind fun e =>
    if s.conn.takesWhole e.output.bytes.length e.answer then some e.output else none

/-- All that the kernel has accepted in the course of some calls. -/
def sent (taken : List (RtspSession × SessionCall)) : Bytes :=
  totalOf (fun s c => s.sends c) taken

/-- The responses and frames that went onto the stream. -/
def outputs (taken : List (RtspSession × SessionCall)) : List Output :=
  taken.filterMap fun p => p.1.emits p.2

/-- What a call does to the outgoing stream: nothing, or the effect of sending its message. -/
theorem after_writes (h : s.conn.Valid) (c : SessionCall) :
    (s.emission c = none ∧ s.conn.writeBuffer.contents =
      s.sends c ++ (s.after c).conn.writeBuffer.contents) ∨
    ∃ e res, s.emission c = some e ∧ Connection.Effect s.conn e.output.bytes e.head e.answer res ∧
      s.sends c = res.accepted ∧ (s.after c).conn.writeBuffer = res.conn.writeBuffer := by
  cases c with
  | updateActivity | recordDrop | recordSuccess | consume => exact .inl ⟨rfl, rfl⟩
  | recv o =>
    refine .inl ⟨rfl, ?_⟩
    show _ = (s.conn.recv o).1.writeBuffer.contents
    rcases s.conn.recv_cases o with heq | ⟨bytes, -, heq⟩ <;> rw [heq]
  | flush o =>
    have hbalance := (Connection.flush_adds h o).balance
    rw [List.append_nil] at hbalance
    exact .inl ⟨rfl, hbalance⟩
  | forwardTcp packet o =>
    by_cases hsize : 0 < packet.data.length ∧ packet.data.length ≤ kMaxRtpPacketSize
    · exact .inr ⟨_, _, if_pos hsize, Wire.forwardTcp_effect h hsize.1 hsize.2 o, rfl, rfl⟩
    · refine .inl ⟨if_neg hsize, ?_⟩
      rcases Wire.forwardTcp_cases s.conn packet o with ⟨-, hsame, -⟩ | ⟨hpos, hmax, -⟩
      · simp [sends, after, hsame]
      · exact absurd ⟨hpos, hmax⟩ hsize
  | processData len beyond env =>
    simp only [emission, sends, after, consume, Connection.consume]
    rcases s.processData_cases env (s.conn.readBuffer.rawView len beyond) with
      ⟨status, hparse, heq⟩ | ⟨request, hparse, heq⟩
    · rw [hparse, heq]
      exact .inl ⟨rfl, rfl⟩
    · obtain ⟨hreply, hconn⟩ := (s.updateActivity env.now).handleRequest_sends request env
      -- the time of the last activity matters neither to the response nor to the connection
      change _ = some (Reply.mk (s.answer request env).bytes
        (s.conn.send (s.answer request env).bytes env.reply)) at hreply
      change _ = (s.conn.send (s.answer request env).bytes env.reply).conn at hconn
      rw [hparse, heq, hreply, hconn]
      exact .inr ⟨_, _, rfl, Connection.send_effect h _ env.reply, rfl, rfl⟩

/-- The message of a call is the answer to the request of its data, or a frame with its packet. -/
theorem emission_cases {e : Emission} (h : s.emission c = some e) :
    (∃ request env, e.output = s.answer request env) ∨
      ∃ packet o, c = .forwardTcp packet o ∧ e.output = .rtp packet ∧ 0 < packet.data.length ∧
        packet.data.length ≤ kMaxRtpPacketSize := by
  cases c with
  | processData len beyond env =>
    simp only [emission] at h
    split at h
    · cases h
    · obtain rfl := Option.some.inj h
      exact .inl ⟨_, env, rfl⟩
  | forwardTcp packet o =>
    simp only [emission] at h
    split at h
    · rename_i hsize
      obtain rfl := Option.some.inj h
      exact .inr ⟨packet, o, rfl, rfl, hsize⟩
    · cases h
  | updateActivity | recordDrop | recordSuccess | recv | consume | flush => cases h

/-- What a call emits is its message. -/
theorem emission_of_emits {out : Output} (h : s.emits c = some out) :
    ∃ e, s.emission c = some e ∧ e.output = out := by
  obtain ⟨e, he, hif⟩ := Option.bind_eq_some_iff.mp h
  split at hif
  · exact ⟨e, he, Option.some.inj hif⟩
  · cases hif

theorem emission_length_pos {e : Emission} (h : s.emission c = some e) :
    0 < e.output.bytes.length := by
  rcases emission_cases h with ⟨request, env, hanswer⟩ | ⟨packet, o, -, hframe, -⟩
  · rw [hanswer]
    apply Output.length_pos
    rw [answer_cseq]
    rfl
  · rw [hframe]
    show 0 < (RtpForwarder.frame packet).length
    rw [Wire.length_frame]
    omega

/-- A call that keeps its message whole puts on the stream what it emits, and nothing else. -/
theorem after_stream (h : s.conn.Valid) (hopen : s.conn.isClosed = false)
    (hkeeps : s.keepsWhole c = true) :
    s.conn.writeBuffer.contents ++ ((s.emits c).map Output.bytes).getD [] =
      s.sends c ++ (s.after c).conn.writeBuffer.contents := by
  rcases after_writes h c with ⟨hnone, hsame⟩ | ⟨e, res, hsome, heffect, hsends, hbuffer⟩
  · simp only [emits, hnone, Option.bind_none, Option.map_none, Option.getD_none, List.append_nil]
    exact hsame
  · rw [hsends, hbuffer]
    have hadds := heffect.adds_iff hopen (emission_length_pos hsome)
    simp only [emits, hsome, Option.bind_some]
    by_cases hwhole : s.conn.takesWhole e.output.bytes.length e.answer = true
    · rw [if_pos hwhole]
      exact (hadds.mpr hwhole).balance
    · rw [if_neg hwhole]
      simp only [keepsWhole, hsome, Option.all_some] at hkeeps
      obtain ⟨part, rfl | rfl, hpart⟩ := heffect.whole_iff.mpr hkeeps
      · exact hpart.balance
      · exact absurd (hadds.mp hpart) hwhole

theorem after_fdGuard (c : SessionCall) : (s.after c).conn.fdGuard = s.conn.fdGuard := by
  cases c with
  | updateActivity | recordDrop | recordSuccess | consume => rfl
  | recv o => exact (s.keeps_recv o).conn
  | flush o =>
    obtain ⟨w, hw⟩ := s.conn.flush_frame o
    simp only [after, hw]
  | forwardTcp packet o =>
    obtain ⟨w, hw⟩ := s.conn.forwardTcp_frame packet o
    simp only [after, hw]
  | processData len beyond env =>
    obtain ⟨w, hw⟩ := s.processData_frame env (s.conn.readBuffer.rawView len beyond)
    simp only [after, consume, Connection.consume, hw]

theorem after_sessionId (c : SessionCall) : (s.after c).sessionId = s.sessionId := by
  cases c with
  | updateActivity | forwardTcp | recordDrop | recordSuccess | recv | consume | flush => rfl
  | processData len beyond env =>
    simp only [after, consume]
    rcases s.processData_cases env (s.conn.readBuffer.rawView len beyond) with
      ⟨status, -, heq⟩ | ⟨request, -, heq⟩
    · rw [heq]
      rfl
    · rw [heq]
      exact handleRequest_sessionId _ request env

/-- What every call on a session keeps. -/
structure Sound (s : RtspSession) : Prop where
  valid : s.conn.Valid
  opened : s.conn.isClosed = false
  id : s.HasGeneratedId

theorem sound_born {config : Config} {sid : Nat} (h : s.BornAs config sid) : s.Sound := by
  obtain ⟨fd, timestamp, garbage, now, hcreate⟩ := h
  obtain ⟨-, hopen, -⟩ := create_read hcreate (Int.natCast_nonneg fd)
  refine ⟨(Server.create_fresh hcreate).valid, hopen, timestamp, sid % 2 ^ 64, ?_⟩
  obtain ⟨conn, -, rfl⟩ := Option.map_eq_some_iff.mp hcreate
  rfl

theorem nothing_queued_born {config : Config} {sid : Nat} (h : s.BornAs config sid) :
    s.conn.writeBuffer.contents = [] := by
  obtain ⟨fd, timestamp, garbage, now, hcreate⟩ := h
  have hqueued := (Server.create_fresh hcreate).nothing_queued
  rw [← List.length_eq_zero_iff, RingBuffer.length_contents]
  simpa [Connection.needFlush] using hqueued

theorem step_sound (s : RtspSession) (c : SessionCall) (t : RtspSession) (h : s.Sound)
    (hstep : s.step c = some t) : t.Sound := by
  obtain ⟨-, rfl⟩ := step_eq_some.mp hstep
  refine ⟨after_valid h.valid c, ?_, ?_⟩
  · rw [Connection.isClosed, after_fdGuard]
    exact h.opened
  · rw [HasGeneratedId, after_sessionId]
    exact h.id

/-- The stream of a session whose calls keep their messages whole. -/
theorem run_stream {cs : List SessionCall} (h : s.Sound) (hrun : run step s cs = some t)
    (hkeeps : Along step (fun s c => s.keepsWhole c = true) s cs) :
    s.conn.writeBuffer.contents ++ ((outputs (trace step s cs)).map Output.bytes).flatten =
      sent (trace step s cs) ++ t.conn.writeBuffer.contents := by
  have hstep (s : RtspSession) (c : SessionCall) (t : RtspSession) (h : s.Sound)
      (hkeeps : s.keepsWhole c = true) (hstep : s.step c = some t) :
      s.conn.writeBuffer.contents ++ ((s.emits c).map Output.bytes).getD [] =
        s.sends c ++ t.conn.writeBuffer.contents := by
    obtain ⟨-, rfl⟩ := step_eq_some.mp hstep
    exact after_stream h.valid h.opened hkeeps
  have hledger : s.conn.writeBuffer.contents ++
      totalOf (fun s c => ((s.emits c).map Output.bytes).getD []) (trace step s cs) =
        totalOf (fun s c => s.sends c) (trace step s cs) ++ t.conn.writeBuffer.contents :=
    run_ledger step_sound hstep h hkeeps hrun
  have hbytes (taken : List (RtspSession × SessionCall)) :
      totalOf (fun s c => ((s.emits c).map Output.bytes).getD []) taken =
        ((outputs taken).map Output.bytes).flatten := by
    induction taken with
    | nil => rfl
    | cons p taken ih =>
      simp only [totalOf, outputs, List.flatMap_cons, List.filterMap_cons] at ih ⊢
      rw [ih]
      cases p.1.emits p.2 <;> rfl
  rwa [hbytes] at hledger

/-- What is sent to a session is well formed, when the packets are. -/
theorem emits_valid {out : Output} (h : s.Sound)
    (hpacket : ∀ packet o, c = .forwardTcp packet o →
      packet.streamIndex = 0 ∨ packet.streamIndex = 1)
    (hout : s.emits c = some out) : out.Valid := by
  obtain ⟨e, he, rfl⟩ := emission_of_emits hout
  rcases emission_cases he with ⟨request, env, hanswer⟩ | ⟨packet, o, hc, hframe, hsize⟩
  · rw [hanswer]
    exact answer_valid h.id request env
  · rw [hframe]
    exact ⟨hpacket packet o hc, hsize⟩

/-- The outputs of a run. -/
theorem outputs_valid {cs : List SessionCall} (h : s.Sound) (hrun : run step s cs = some t)
    (hpackets : ∀ packet o, .forwardTcp packet o ∈ cs →
      packet.streamIndex = 0 ∨ packet.streamIndex = 1) :
    ∀ out ∈ outputs (trace step s cs), out.Valid := by
  let I (s : RtspSession) (taken : List (RtspSession × SessionCall)) : Prop :=
    s.Sound ∧ ∀ out ∈ outputs taken, out.Valid
  let FromApi (c : SessionCall) : Prop :=
    ∀ packet o, c = .forwardTcp packet o → packet.streamIndex = 0 ∨ packet.streamIndex = 1
  have hstep (s : RtspSession) (taken : List (RtspSession × SessionCall)) (c : SessionCall)
      (t : RtspSession) (hI : I s taken) (hc : FromApi c ∧ True) (hstep : s.step c = some t) :
      I t (taken ++ [(s, c)]) := by
    refine ⟨step_sound s c t hI.1 hstep, fun out hmem => ?_⟩
    rw [outputs, List.filterMap_append] at hmem
    rcases List.mem_append.mp hmem with hold | hnew
    · exact hI.2 out hold
    · obtain ⟨p, hp, hout⟩ := List.mem_filterMap.mp hnew
      obtain rfl := List.mem_singleton.mp hp
      exact emits_valid hI.1 hc.1 hout
  have halong : Along step (fun _ c => FromApi c ∧ True) s cs := by
    refine Along.and_labels (fun c hc packet o heq => ?_) (along_true s cs)
    exact hpackets packet o (heq ▸ hc)
  have hend : I t ([] ++ trace step s cs) :=
    Along.trace_invariant hstep ⟨h, fun out hout => by cases hout⟩ halong hrun
  exact hend.2

/-- The outgoing stream of a session is its outputs, and a client decodes them. -/
theorem run_decodes {config : Config} {sid : Nat} {cs : List SessionCall} (h : s.BornAs config sid)
    (hrun : run step s cs = some t)
    (hkeeps : Along step (fun s c => s.keepsWhole c = true) s cs)
    (hpackets : ∀ packet o, .forwardTcp packet o ∈ cs →
      packet.streamIndex = 0 ∨ packet.streamIndex = 1) :
    sent (trace step s cs) ++ t.conn.writeBuffer.contents =
        ((outputs (trace step s cs)).map Output.bytes).flatten ∧
      ClientDecoder.decode (sent (trace step s cs) ++ t.conn.writeBuffer.contents) =
        some ((outputs (trace step s cs)).map Output.message) := by
  have hstream := run_stream (sound_born h) hrun hkeeps
  rw [nothing_queued_born h, List.nil_append] at hstream
  have hvalid := outputs_valid (sound_born h) hrun hpackets
  refine ⟨hstream.symm, ?_⟩
  rw [← hstream]
  exact Decoding.decodeAll_flatten (fun out hout => out.reads (hvalid out hout)) le_rfl

end RtspSession

namespace System

variable {s t : System} {l : Label}

/-- The packets of the stream thread come from the interface. -/
structure FromApi (sid : Nat) (s : System) (taken : List (System × Label)) : Prop where
  current : s.stream.pc ≠ .idle →
    s.stream.packet.streamIndex = 0 ∨ s.stream.packet.streamIndex = 1
  forwarded : ∀ packet o, .forwardTcp packet o ∈ callsOn sid taken →
    packet.streamIndex = 0 ∨ packet.streamIndex = 1

theorem callsOn_concat (sid : Nat) (taken : List (System × Label)) (s : System) (l : Label) :
    callsOn sid (taken ++ [(s, l)]) = callsOn sid taken ++ (s.callOn l sid).toList :=
  calls_concat _ taken s l

theorem streamIndex_of_api {packet : RtpPacket} (h : (Label.broadcast packet).fromApi = true) :
    packet.streamIndex = 0 ∨ packet.streamIndex = 1 := by
  simp only [Label.fromApi, rtspForwardSendRtp, decide_eq_true_eq] at h
  rw [if_neg (by simp)] at h
  split at h
  · cases h
  · split at h
    · cases h
    · omega

/-- Only `SendV` makes a call to `ForwardTcp`, and with the packet of the broadcast. -/
theorem call_forwardTcp {sid : Nat} {packet : RtpPacket} {o : WriteOutcome}
    (h : s.call l = some (sid, .forwardTcp packet o)) :
    packet = s.stream.packet ∧ ∃ fd, l = .sendV o ∧ s.stream.pc = .tcp sid fd := by
  unfold call at h
  split at h
  case h_2 =>
    split at h
    · rename_i hpc
      obtain ⟨rfl, hcall⟩ := Prod.mk.inj (Option.some.inj h)
      obtain ⟨rfl, rfl⟩ := SessionCall.forwardTcp.inj hcall
      exact ⟨rfl, _, rfl, hpc⟩
    · cases h
  case h_5 =>
    split at h
    · obtain ⟨a, -, heq⟩ := Option.map_eq_some_iff.mp h
      cases (Prod.mk.inj heq).2
    · cases h
  case h_6 =>
    split at h
    · obtain ⟨x, -, h⟩ := Option.bind_eq_some_iff.mp h
      split at h
      all_goals cases h
    · cases h
  case h_8 => cases h
  all_goals
    split at h
    all_goals cases h

theorem step_fromApi {sid : Nat} (s : System) (taken : List (System × Label)) (l : Label)
    (t : System) (h : s.FromApi sid taken) (hapi : l.fromApi = true ∧ True)
    (hstep : s.step l = some t) : t.FromApi sid (taken ++ [(s, l)]) := by
  refine ⟨fun hbusy => ?_, fun packet o hmem => ?_⟩
  · rcases step_packet hstep hbusy with rfl | ⟨hidle, hsame⟩
    · exact streamIndex_of_api hapi.1
    · rw [hsame]
      exact h.current hidle
  · rw [callsOn_concat] at hmem
    rcases List.mem_append.mp hmem with hold | hnew
    · exact h.forwarded packet o hold
    · obtain ⟨rfl, fd, -, hpc⟩ := call_forwardTcp (callOn_eq_some (Option.mem_toList.mp hnew))
      exact h.current (by simp [hpc])

theorem run_fromApi {config : Config} {labels : List Label}
    (hapi : ∀ l ∈ labels, l.fromApi = true)
    (hs : run step (System.start config) labels = some s) (sid : Nat) :
    s.FromApi sid (trace step (System.start config) labels) := by
  have hstart : (System.start config).FromApi sid [] :=
    ⟨fun hbusy => absurd rfl hbusy, fun _ _ hmem => by cases hmem⟩
  exact Along.trace_invariant step_fromApi hstart (Along.and_labels hapi (along_true _ _)) hs

/-- The call that a step makes on the session, if it makes one, keeps its message whole. -/
def keepsWhole (sid : Nat) (s : System) (l : Label) : Prop :=
  ∀ x ∈ s.server.heap sid, ∀ c ∈ s.callOn l sid, x.keepsWhole c = true

instance (sid : Nat) (s : System) (l : Label) : Decidable (keepsWhole sid s l) :=
  inferInstanceAs (Decidable (∀ x ∈ s.server.heap sid, ∀ c ∈ s.callOn l sid,
    x.keepsWhole c = true))

/-- A client that plays gets a packet while the rest of the one before it is still queued. -/
def playsBehind : List Label :=
  playsTcp 7 ++
    [.broadcast ⟨[9, 9, 9], 0⟩, .load 0, .sendV (.accepted 2), .recordSuccess, .streamModify,
      .finish, .broadcast ⟨[8], 1⟩, .load 0, .sendV (.accepted 0)]

end System

end RtspForward
