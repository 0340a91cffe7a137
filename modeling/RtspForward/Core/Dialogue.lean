import RtspForward.Core.Broadcasts

/-!
# The dialogue with a client

Requests come in at one end of a connection, cut up as the reads have it, and go through a ring
buffer and a parser; responses go out at the other end, among the frames of the broadcasts and
partly by way of the write buffer. A client that is served sees nothing of this: it reads one
response to each of its requests, in the order in which it has sent them.
-/
namespace RtspForward

open Lib Transition Framing

/-- A message that is no interleaved frame is a request. -/
def isRequest (m : Bytes) : Bool := m.head? ≠ some kRtpInterleavedMarker

def Output.isResponse (out : Output) : Bool := out.packet.isNone

namespace RtspSession

variable {s t : RtspSession} {c : SessionCall}

/-- A call serves the client: a request lies in one piece in the read buffer and is answered in
full, and a frame is never cut. -/
def serves (s : RtspSession) (c : SessionCall) : Bool :=
  match c with
  | .processData len beyond env =>
    s.conn.readBuffer.rawView len beyond = s.conn.readBuffer.contents.take len &&
      s.canAnswer (s.conn.readBuffer.contents.take len) env
  | _ => s.keepsWhole c

/-- The request a call takes off the read buffer, and what the outside world has to say to its
handler. -/
def asks (s : RtspSession) : SessionCall → Option (Bytes × RequestEnv)
  | .processData len _ env => some (s.conn.readBuffer.contents.take len, env)
  | _ => none

/-- The requests that were taken off. -/
def asked (taken : List (RtspSession × SessionCall)) : List (Bytes × RequestEnv) :=
  taken.filterMap fun p => p.1.asks p.2

/-- The response to a request. -/
def IsAnswer (s : RtspSession) (ask : Bytes × RequestEnv) (out : Output) : Prop :=
  ∃ request, RtspParser.parse ask.1 {} = .ok request ∧ out = s.answer request ask.2

/-! ## One call -/

/-- `ProcessConnectionData` tells requests from interleaved frames by their first byte. -/
theorem asks_of_takesOff (h : s.conn.Valid) (hallows : s.allows c = true) :
    ((s.asks c).map Prod.fst).toList = (s.takesOff c).toList.filter isRequest := by
  have hfirst {len : Nat} (hnext : nextMessage s.conn.readBuffer.contents = some len) :
      (s.conn.readBuffer.contents.take len).head? = s.conn.readBuffer.contents.head? := by
    have hpos := (nextMessage_bounds hnext).1
    rw [List.head?_take, if_neg (by omega)]
  cases c with
  | consume len =>
    obtain ⟨hnext, hmarker⟩ := turn_skip h.read (of_decide_eq_true hallows)
    simp [asks, takesOff, isRequest, hfirst hnext, hmarker]
  | processData len beyond env =>
    obtain ⟨hnext, hother⟩ := turn_request h.read (of_decide_eq_true hallows)
    simp [asks, takesOff, isRequest, hfirst hnext, hother]
  | updateActivity | forwardTcp | recordDrop | recordSuccess | recv | flush => rfl

/-- A request that is served parses, and there is room for its response. -/
theorem parse_of_serves {len : Nat} {beyond : Nat → UInt8} {env : RequestEnv}
    (h : s.serves (.processData len beyond env) = true) :
    ∃ request, RtspParser.parse (s.conn.readBuffer.contents.take len) {} = .ok request ∧
      s.emission (.processData len beyond env) = some ⟨s.answer request env,
        (s.answer request env).bytes.length, env.reply⟩ ∧
      s.conn.takesWhole (s.answer request env).bytes.length env.reply = true := by
  simp only [serves, Bool.and_eq_true, decide_eq_true_eq] at h
  obtain ⟨hview, hcan⟩ := h
  unfold canAnswer at hcan
  split at hcan
  · cases hcan
  · rename_i request hparse
    exact ⟨request, hparse, by simp only [emission, hview, hparse], hcan⟩

/-- A call that serves the client keeps its message whole. -/
theorem keepsWhole_of_serves (h : s.Sound) (hserves : s.serves c = true) :
    s.keepsWhole c = true := by
  cases c with
  | processData len beyond env =>
    obtain ⟨request, -, hemission, htakes⟩ := parse_of_serves hserves
    have heffect := Connection.send_effect h.valid (s.answer request env).bytes env.reply
    have hadds := (heffect.adds_iff h.opened (emission_length_pos hemission)).mpr htakes
    rw [keepsWhole, hemission, Option.all_some]
    exact heffect.whole_iff.mp ⟨_, .inr rfl, hadds⟩
  | updateActivity | forwardTcp | recordDrop | recordSuccess | recv | consume | flush =>
    exact hserves

/-- A call that serves the client answers its request, or it has none and answers nothing. -/
theorem answers_of_serves (hserves : s.serves c = true) :
    (∃ ask out, s.asks c = some ask ∧ s.emits c = some out ∧ out.isResponse = true ∧
      s.IsAnswer ask out) ∨
    (s.asks c = none ∧ (s.emits c).toList.filter Output.isResponse = []) := by
  cases c with
  | processData len beyond env =>
    obtain ⟨request, hparse, hemission, htakes⟩ := parse_of_serves hserves
    refine .inl ⟨_, s.answer request env, rfl, ?_, ?_, request, hparse, rfl⟩
    · simp [emits, hemission, htakes]
    · simp [Output.isResponse, answer_packet]
  | forwardTcp packet o =>
    refine .inr ⟨rfl, List.filter_eq_nil_iff.mpr fun out hout => ?_⟩
    obtain ⟨e, he, rfl⟩ := emission_of_emits (Option.mem_toList.mp hout)
    simp only [emission] at he
    split at he
    · obtain rfl := Option.some.inj he
      simp [Output.isResponse, Output.packet]
    · cases he
  | updateActivity | recordDrop | recordSuccess | recv | consume | flush => exact .inr ⟨rfl, rfl⟩

/-! ## A run of calls -/

/-- The requests and the responses of a session, after some calls that serve its client. -/
structure Served (s : RtspSession) (taken : List (RtspSession × SessionCall)) : Prop where
  sound : s.Sound
  requests : (asked taken).map Prod.fst = (messages taken).filter isRequest
  answered : List.Forall₂ s.IsAnswer (asked taken) ((outputs taken).filter Output.isResponse)

theorem asked_concat (taken : List (RtspSession × SessionCall)) (s : RtspSession)
    (c : SessionCall) : asked (taken ++ [(s, c)]) = asked taken ++ (s.asks c).toList :=
  calls_concat asks taken s c

theorem outputs_concat (taken : List (RtspSession × SessionCall)) (s : RtspSession)
    (c : SessionCall) : outputs (taken ++ [(s, c)]) = outputs taken ++ (s.emits c).toList :=
  calls_concat emits taken s c

theorem step_served (s : RtspSession) (taken : List (RtspSession × SessionCall)) (c : SessionCall)
    (t : RtspSession) (h : s.Served taken) (hserves : s.serves c = true)
    (hstep : s.step c = some t) : t.Served (taken ++ [(s, c)]) := by
  have hsound := step_sound s c t h.sound hstep
  obtain ⟨hallows, rfl⟩ := step_eq_some.mp hstep
  have hkept (ask : Bytes × RequestEnv) (out : Output) (hout : s.IsAnswer ask out) :
      (s.after c).IsAnswer ask out := by
    obtain ⟨request, hparse, rfl⟩ := hout
    exact ⟨request, hparse, answer_congr (after_sessionId c).symm request ask.2⟩
  refine ⟨hsound, ?_, ?_⟩
  · have hnew := asks_of_takesOff h.sound.valid hallows
    rw [asked_concat, messages_concat, List.map_append, List.filter_append, h.requests, ← hnew]
    cases s.asks c <;> rfl
  · rw [asked_concat, outputs_concat, List.filter_append]
    have hold := h.answered.imp hkept
    rcases answers_of_serves hserves with ⟨ask, out, hask, hout, hresponse, hanswer⟩ | ⟨hask, hout⟩
    · have hone : List.Forall₂ (s.after c).IsAnswer [ask] [out] := .cons (hkept ask out hanswer) .nil
      rw [hask, hout, Option.toList_some, Option.toList_some, List.filter_singleton, hresponse]
      exact List.rel_append hold hone
    · rw [hask, hout, Option.toList_none, List.append_nil, List.append_nil]
      exact hold

theorem run_served {config : Config} {sid : Nat} {cs : List SessionCall} (h : s.BornAs config sid)
    (hrun : run step s cs = some t) (hserves : Along step (fun s c => s.serves c = true) s cs) :
    t.Served (trace step s cs) := by
  have hstart : s.Served [] := ⟨sound_born h, rfl, .nil⟩
  exact Along.trace_invariant step_served hstart hserves hrun

/-- The packets of the frames among the outputs. -/
theorem frames_eq (taken : List (RtspSession × SessionCall)) :
    frames taken = (outputs taken).filterMap Output.packet := by
  rw [outputs, List.filterMap_filterMap, List.filterMap_eq_flatMap_toList]
  rfl

end RtspSession

namespace System

/-- The call that a step makes on the session, if it makes one, serves its client. -/
def serves (sid : Nat) (s : System) (l : Label) : Prop :=
  ∀ x ∈ s.server.heap sid, ∀ c ∈ s.callOn l sid, x.serves c = true

instance (sid : Nat) (s : System) (l : Label) : Decidable (serves sid s l) :=
  inferInstanceAs (Decidable (∀ x ∈ s.server.heap sid, ∀ c ∈ s.callOn l sid, x.serves c = true))

/-- A client that plays sends a request and half of the next one, while a broadcast is under way.
The response to the first is cut by the kernel, so the frame and the second response queue up
behind the rest of it. -/
def pipelined : List Label :=
  playsTcp 7 ++ wakes ++
    [.broadcast ⟨[9, 9, 9], 0⟩, .load 0,
      .handle (.data (ascii "OPTIONS * RTSP/1.0\r\nCSeq: 2\r\n\r\nPAUSE * RTSP/1.0\r\nCSe")),
      .turn { RequestEnv.quiet with reply := .accepted 3 } fun _ => 0, .sendV (.accepted 7),
      .recordSuccess, .checkRead, .registerRead, .turn .quiet fun _ => 0] ++ wakes ++
    [.handle (.data (ascii "q: 3\r\n\r\n")), .turn .quiet fun _ => 0, .checkRead, .registerRead,
      .turn .quiet fun _ => 0]

end System

end RtspForward
