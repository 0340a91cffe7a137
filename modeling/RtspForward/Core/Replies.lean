import RtspForward.Core.SessionSteps

/-!
# One reply per request

Every handler builds one response and hands it to `Send`, whose answer no one looks at; data
that does not parse gets no response at all. So a request that is consumed is answered in
full exactly when it parses and its response finds its place in the socket and the write
buffer.
-/
namespace RtspForward

open Lib RtspBuilder

/-- The sequence number a response carries; a frame has none. -/
def Output.cseq : Output → Option Int
  | rtp _ => none
  | options cseq _ | describe cseq _ | setup cseq _ _ _ | setupUdp cseq _ _ _ _ _ | play cseq _
  | simple cseq _ | error cseq _ _ => some cseq

namespace RtspSession

/-- The response to a `SETUP`. -/
def setupAnswer (s : RtspSession) (request : RtspRequest) (env : RequestEnv) : Output :=
  let transport := request.transport
  if transport.isUdp then
    if transport.clientRtpPort = 0 then
      .error request.cseq 461 (ascii "Unsupported Transport")
    else if (createUdpSocket env.rtpSocket).1 < 0 ∨ (createUdpSocket env.rtcpSocket).1 < 0 then
      .error request.cseq 500 (ascii "Internal Server Error")
    else
      .setupUdp request.cseq s.sessionId env.serverRtpPort env.serverRtcpPort
        transport.clientRtpPort transport.clientRtcpPort
  else if transport.isTcp ∨ transport.interleavedRtp ≠ 0 then
    .setup request.cseq s.sessionId kDefaultRtpChannel kDefaultRtcpChannel
  else .error request.cseq 461 (ascii "Unsupported Transport")

/-- The response to a request, whether or not it can be sent. -/
def answer (s : RtspSession) (request : RtspRequest) (env : RequestEnv) : Output :=
  match request.method with
  | .kOptions => .options request.cseq []
  | .kDescribe =>
    if env.sdp = [] then .error request.cseq 500 (ascii "SDP not configured")
    else .describe request.cseq env.sdp
  | .kSetup => s.setupAnswer request env
  | .kPlay => .play request.cseq s.sessionId
  | .kTeardown | .kPause | .kGetParameter | .kSetParameter => .simple request.cseq s.sessionId
  | .kUnknown => .error request.cseq 405 (ascii "Method Not Allowed")

/-- The data parses, and the response to it is taken in full. -/
def canAnswer (s : RtspSession) (data : Bytes) (env : RequestEnv) : Bool :=
  match RtspParser.parse data {} with
  | .error _ => false
  | .ok request => s.conn.takesWhole (s.answer request env).bytes.length env.reply

end RtspSession

namespace System

/-- The bytes of a session the kernel accepts in a step. -/
def accepted (s : System) (l : Label) (sid : Nat) : Bytes :=
  match s.issued l with
  | none => []
  | some (a, res) => if a = sid then res.accepted else []

/-- The outgoing stream of a session: the bytes the kernel has accepted, and the contents of
the write buffer. -/
def outgoing (taken : List (System × Label)) (s : System) (sid : Nat) : Bytes :=
  taken.flatMap (fun p => p.1.accepted p.2 sid) ++
    ((s.server.heap sid).map fun x => x.conn.writeBuffer.contents).getD []

/-- If the step consumes a request, the outgoing stream of its session grows by exactly the
response to it, with its sequence number. -/
def RepliesOnce (taken : List (System × Label)) (s : System) (l : Label) (t : System) : Prop :=
  ∀ env beyond sid x data, l = .turn env beyond → s.loop.pc = .reading sid →
    s.server.heap sid = some x → s.nextRequest sid beyond = some data →
    ∃ (out : Output) (result : WriteResult), out.cseq.isSome ∧
      (∀ request, RtspParser.parse data {} = .ok request → out.cseq = some request.cseq) ∧
      (x.processData data env).reply = some ⟨out.bytes, result⟩ ∧
      outgoing (taken ++ [(s, l)]) t sid = outgoing taken s sid ++ out.bytes

/-- The request a step consumes, if any, can be answered. -/
def canAnswer (s : System) : Label → Bool
  | .turn env beyond =>
    match s.loop.pc with
    | .reading sid => (s.server.heap sid).all fun x =>
        (s.nextRequest sid beyond).all fun data => x.canAnswer data env
    | _ => true
  | _ => true

end System

/-! ## The response of a handler -/

namespace RtspSession

variable (s : RtspSession) (request : RtspRequest) (env : RequestEnv)

/-- The response is handed to `Send`. -/
def Sends (h : Handled) (response : Bytes) : Prop :=
  h.reply = some ⟨response, s.conn.send response env.reply⟩ ∧
    h.session.conn = (s.conn.send response env.reply).conn

theorem handleSetup_sends :
    Sends s env (s.handleSetup request env) (s.setupAnswer request env).bytes := by
  unfold handleSetup setupAnswer setupUdp
  simp only [FdGuard.isValid, ge_iff_le, decide_eq_false_iff_not, Int.not_le]
  split
  · split
    · exact ⟨rfl, rfl⟩
    · split <;> exact ⟨rfl, rfl⟩
  · split <;> exact ⟨rfl, rfl⟩

theorem handleRequest_sends :
    Sends s env (s.handleRequest request env) (s.answer request env).bytes := by
  unfold handleRequest answer
  cases request.method with
  | kDescribe =>
    simp only [handleDescribe]
    split <;> exact ⟨rfl, rfl⟩
  | kSetup => exact handleSetup_sends s request env
  | kUnknown | kOptions | kPlay | kPause | kTeardown | kGetParameter | kSetParameter =>
    exact ⟨rfl, rfl⟩

theorem answer_cseq : (s.answer request env).cseq = some request.cseq := by
  unfold answer setupAnswer
  cases request.method with
  | kDescribe =>
    simp only
    split <;> rfl
  | kSetup =>
    simp only
    split
    · split
      · rfl
      · split <;> rfl
    · split <;> rfl
  | kUnknown | kOptions | kPlay | kPause | kTeardown | kGetParameter | kSetParameter => rfl

end RtspSession

theorem Output.length_pos {out : Output} (h : out.cseq.isSome) : 0 < out.bytes.length := by
  have hbuild (code : Int) (reason body : Bytes) (headers : Headers) :
      0 < (buildResponse code reason headers body).length := by
    have hhead := ClientDecoder.head?_buildResponse code reason body headers
    by_contra hzero
    have hnil := List.eq_nil_of_length_eq_zero (Nat.eq_zero_of_not_pos hzero)
    rw [hnil] at hhead
    cases hhead
  cases out with
  | rtp => cases h
  | options | describe | setup | setupUdp | play | simple | error => exact hbuild _ _ _ _

/-- The bytes `ProcessData` adds to the outgoing stream. -/
def RtspSession.Gains (s : RtspSession) (data : Bytes) (env : RequestEnv) (part : Bytes) : Prop :=
  ((s.processData data env).reply.map fun reply => reply.result.accepted).getD [] ++
    (s.processData data env).session.conn.writeBuffer.contents =
      s.conn.writeBuffer.contents ++ part

/-- The outgoing stream gains one response exactly when the request can be answered. -/
theorem RtspSession.replies_iff (s : RtspSession) (hvalid : s.conn.Valid)
    (hopen : s.conn.isClosed = false) (data : Bytes) (env : RequestEnv) :
    (∃ (out : Output) (result : WriteResult), out.cseq.isSome ∧
      (∀ request, RtspParser.parse data {} = .ok request → out.cseq = some request.cseq) ∧
      (s.processData data env).reply = some ⟨out.bytes, result⟩ ∧ s.Gains data env out.bytes) ↔
      s.canAnswer data env = true := by
  unfold RtspSession.canAnswer Gains
  rcases s.processData_cases env data with ⟨status, hparse, heq⟩ | ⟨request, hparse, heq⟩
  · rw [hparse, heq]
    refine iff_of_false ?_ (by simp)
    rintro ⟨out, result, -, -, hreply, -⟩
    cases hreply
  · obtain ⟨hreply, hconn⟩ := (s.updateActivity env.now).handleRequest_sends request env
    -- the time of the last activity matters neither to the response nor to the connection
    change _ = some (Reply.mk (s.answer request env).bytes
      (s.conn.send (s.answer request env).bytes env.reply)) at hreply
    change _ = (s.conn.send (s.answer request env).bytes env.reply).conn at hconn
    have hcseq := s.answer_cseq request env
    have heffect := Connection.send_effect hvalid (s.answer request env).bytes env.reply
    have hiff := heffect.adds_iff hopen (Output.length_pos (by rw [hcseq]; rfl))
    rw [hparse, heq, hreply, hconn]
    simp only [Option.map_some, Option.getD_some]
    rw [← hiff]
    constructor
    · rintro ⟨out, result, -, -, hout, hgain⟩
      obtain ⟨part, hadds⟩ := heffect.adds
      rw [← hadds.balance] at hgain
      obtain rfl := List.append_cancel_left hgain
      have hbytes : (s.answer request env).bytes = out.bytes := by
        injection hout with hout
        injection hout
      rw [hbytes]
      rwa [hbytes] at hadds
    · intro hadds
      refine ⟨s.answer request env, _, by rw [hcseq]; rfl, fun request' hparse' => ?_, rfl,
        hadds.balance.symm⟩
      obtain rfl : request = request' := by injection hparse'
      exact hcseq

namespace System

variable {s t : System} {l : Label} {taken : List (System × Label)}

/-- The stream of a session over one step. -/
theorem outgoing_step {sid : Nat} {x y : RtspSession} (hx : s.server.heap sid = some x)
    (hy : t.server.heap sid = some y) (part : Bytes) :
    outgoing (taken ++ [(s, l)]) t sid = outgoing taken s sid ++ part ↔
      s.accepted l sid ++ y.conn.writeBuffer.contents =
        x.conn.writeBuffer.contents ++ part := by
  simp [outgoing, hx, hy, List.flatMap_append]

/-- What a turn that consumes a request writes. -/
theorem accepted_turn {env : RequestEnv} {beyond : Nat → UInt8} {sid : Nat} {x : RtspSession}
    {data : Bytes} (hpc : s.loop.pc = .reading sid) (hx : s.server.heap sid = some x)
    (hdata : s.nextRequest sid beyond = some data) :
    s.accepted (.turn env beyond) sid =
      ((x.processData data env).reply.map fun reply => reply.result.accepted).getD [] := by
  simp only [nextRequest, hx, Option.bind_some] at hdata
  split at hdata
  · rename_i n hturn
    obtain rfl := Option.some.inj hdata
    simp only [accepted, issued, hpc, hx, Option.bind_some, hturn]
    cases (x.processData (x.conn.readBuffer.rawView n beyond) env).reply with
    | none => rfl
    | some reply => simp
  · cases hdata

/-- One step: the reply is there exactly when the request can be answered. -/
theorem repliesOnce_iff (h : s.Inv) (hstep : s.step l = some t) :
    RepliesOnce taken s l t ↔ s.canAnswer l = true := by
  by_cases hrequest : ∃ env beyond sid data, l = .turn env beyond ∧ s.loop.pc = .reading sid ∧
      s.nextRequest sid beyond = some data
  · obtain ⟨env, beyond, sid, data, rfl, hpc, hdata⟩ := hrequest
    obtain ⟨x, n, hx, -, hy, -⟩ := step_request hpc hdata hstep
    have hcan : s.canAnswer (.turn env beyond) = x.canAnswer data env := by
      simp [canAnswer, hpc, hx, hdata]
    have hreplies := x.replies_iff (h.server.buffers sid x hx) (h.server.conn_open hx) data env
    rw [hcan, ← hreplies]
    have hgain (out : Output) : outgoing (taken ++ [(s, .turn env beyond)]) t sid =
        outgoing taken s sid ++ out.bytes ↔ x.Gains data env out.bytes := by
      rw [outgoing_step hx hy, accepted_turn hpc hx hdata]
      exact Iff.rfl
    constructor
    · intro hreply
      obtain ⟨out, result, hout, hcseq, hsent, hstream⟩ :=
        hreply env beyond sid x data rfl hpc hx hdata
      exact ⟨out, result, hout, hcseq, hsent, (hgain out).mp hstream⟩
    · intro ⟨out, result, hout, hcseq, hsent, hstream⟩ env' beyond' sid' x' data' hl hpc' hx' hdata'
      obtain ⟨rfl, rfl⟩ := Label.turn.inj hl
      obtain rfl : sid = sid' := by simpa [hpc] using hpc'
      obtain rfl := Option.some.inj (hx.symm.trans hx')
      obtain rfl := Option.some.inj (hdata.symm.trans hdata')
      exact ⟨out, result, hout, hcseq, hsent, (hgain out).mpr hstream⟩
  · refine iff_of_true ?_ ?_
    · intro env beyond sid x data hl hpc hx hdata
      exact absurd ⟨env, beyond, sid, data, hl, hpc, hdata⟩ hrequest
    · cases l with
      | turn env beyond =>
        cases hpc : s.loop.pc with
        | reading sid =>
          have hnone : s.nextRequest sid beyond = none := by
            by_contra hsome
            obtain ⟨data, hdata⟩ := Option.ne_none_iff_exists'.mp hsome
            exact hrequest ⟨env, beyond, sid, data, rfl, hpc, hdata⟩
          simp [canAnswer, hpc, hnone]
        | idle | checkRead | registerRead | flushing | checkWrite | unregister =>
          simp [canAnswer, hpc]
      | broadcast | load | sendTo | sendV | recordDrop | recordSuccess | streamModify | finish
      | wait | dispatch | handle | checkRead | registerRead | flush | checkWrite | unregister
      | disconnect => rfl

/-- Every step of a run that consumes a request adds exactly one complete response to the
outgoing stream of its session. -/
def RepliesInOrder (s : System) (labels : List Label) : Prop :=
  ∀ done l rest u v, labels = done ++ l :: rest → Transition.run step s done = some u →
    u.step l = some v → RepliesOnce (Transition.trace step s done) u l v

/-- **One reply per request.** In every run, whatever the kernel answers and however full the
write buffers are: each request that is consumed adds exactly one complete response to the
outgoing stream of its session, in the order of the requests, exactly when each of them parses
and meets a socket and a write buffer that take its response in full. -/
theorem replies_in_order_iff (config : Config) (labels : List Label) (s : System)
    (hs : Transition.run step (System.start config) labels = some s) :
    RepliesInOrder (System.start config) labels ↔
      Transition.Along step (fun s l => s.canAnswer l = true) (System.start config) labels := by
  have hiff := Transition.along_iff_steps (P := RepliesOnce) (I := Inv) (fun _ _ _ => step_inv)
    (fun _ _ _ _ h hstep => repliesOnce_iff h hstep) [] (start_inv config) hs
  simp only [List.nil_append] at hiff
  exact hiff

/-- The client on 7 has sent some data, which is in its read buffer. -/
def asks (text : String) : List Label :=
  accepts 7 ++ [.wait [{ fd := 7, read := true }], .dispatch .failed none,
    .handle (.data (ascii text))]

theorem replies_to_play :
    ∃ s, Transition.run step (System.start smallConfig) (playsTcp 7) = some s ∧
      RepliesInOrder (System.start smallConfig) (playsTcp 7) := by
  have hrun : (Transition.run step (System.start smallConfig) (playsTcp 7)).isSome := by
    decide
  obtain ⟨s, hs⟩ := Option.isSome_iff_exists.mp hrun
  exact ⟨s, hs, (replies_in_order_iff smallConfig (playsTcp 7) s hs).mpr (by decide)⟩

/-- The next turn consumes a request and leaves the outgoing stream as it was. -/
def unanswered (s : System) (labels : List Label) (env : RequestEnv) (sid : Nat) : Bool :=
  (Transition.run step s labels).any fun u =>
    u.loop.pc = .reading sid && (u.nextRequest sid fun _ => 0).isSome &&
      (u.step (.turn env fun _ => 0)).any fun v =>
        outgoing (Transition.trace step s labels ++ [(u, .turn env fun _ => 0)]) v sid =
          outgoing (Transition.trace step s labels) u sid

theorem not_repliesInOrder {labels : List Label} {env : RequestEnv} (sid : Nat)
    (h : s.unanswered labels env sid = true) :
    ¬ RepliesInOrder s (labels ++ [.turn env fun _ => 0]) := by
  intro hreplies
  obtain ⟨u, hu, hfacts⟩ := (Option.any_eq_true _ _).mp h
  simp only [Bool.and_eq_true, decide_eq_true_eq] at hfacts
  obtain ⟨⟨hpc, hdata⟩, hsame⟩ := hfacts
  obtain ⟨v, hv, hsame⟩ := (Option.any_eq_true _ _).mp hsame
  obtain ⟨data, hdata⟩ := Option.isSome_iff_exists.mp hdata
  obtain ⟨x, n, hx, -⟩ := step_request hpc hdata hv
  obtain ⟨out, result, hout, -, -, hgain⟩ := hreplies labels _ [] u v rfl hu hv env _ sid x data
    rfl hpc hx hdata
  have hpos := Output.length_pos hout
  rw [of_decide_eq_true hsame] at hgain
  have hnil : out.bytes = [] := by simpa using hgain
  simp [hnil] at hpos

def playRequest : String := "PLAY * RTSP/1.0\r\nCSeq: 1\r\n\r\n"

/-- A request without a method gets no reply. A `PLAY` whose reply the socket refuses gets none
either, and the session is in the table and playing. -/
theorem requests_unanswered :
    ¬ RepliesInOrder (System.start smallConfig)
      (asks " \r\n\r\n" ++ [.turn .quiet fun _ => 0]) ∧
    ¬ RepliesInOrder (System.start smallConfig)
      (asks playRequest ++ [.turn { RequestEnv.quiet with reply := .hardError } fun _ => 0]) ∧
    (Transition.run step (System.start smallConfig)
      (asks playRequest ++ [.turn { RequestEnv.quiet with reply := .hardError } fun _ => 0])).any
      (fun s => s.server.sessions[(7 : Int)]? = some 0 &&
        (s.server.heap 0).any fun x => x.state = .kPlaying) = true :=
  ⟨not_repliesInOrder 0 (by decide),
    not_repliesInOrder 0 (by decide), by decide⟩

end System

end RtspForward
