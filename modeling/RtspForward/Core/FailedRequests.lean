import RtspForward.Core.Descriptors
import RtspForward.Core.Negotiation
import RtspForward.Core.Replies

/-!
# Requests that fail

A request whose handling fails amounts to no action: the state and the transport of the
session stay, and every descriptor opened on the way is closed again. What it can leave
behind is its error reply in the write buffer of the connection, and there a frame that is
forwarded later has to wait.
-/
namespace RtspForward

namespace RtspSession

/-! ## What comes later -/

/-- What happens to a session on its own, with the answers of the outside world. -/
inductive Later where
  | forward (packet : RtpPacket) (now : Int) (tcp : WriteOutcome) (udp : SendToOutcome)
  | request (data : Bytes) (env : RequestEnv)
  | flush (outcome : WriteOutcome)

def later (s : RtspSession) : Later → RtspSession
  | .forward packet now tcp udp => (s.forwardRtp packet now tcp udp).session
  | .request data env => (s.processData data env).session
  | .flush outcome => { s with conn := (s.conn.flush outcome).conn }

/-- What forwarding a packet looks like from outside: the status and the system calls. -/
def observe (s : RtspSession) : Later → Option (Status × Option WriteResult × Option SendToCall)
  | .forward packet now tcp udp =>
    let f := s.forwardRtp packet now tcp udp
    some (f.status, f.tcp, f.udp)
  | _ => none

/-- The observations of a sequence of later events. -/
def observations (s : RtspSession) : List Later →
    List (Option (Status × Option WriteResult × Option SendToCall))
  | [] => []
  | l :: ls => s.observe l :: (s.later l).observations ls

/-- Two sessions that forward alike: one state and one transport, and, where frames go
through the connection, one connection. -/
structure Alike (s t : RtspSession) : Prop where
  media : s.media = t.media
  sessionId : s.sessionId = t.sessionId
  conn : s.isUdp = false → s.conn = t.conn

theorem Alike.isUdp {s t : RtspSession} (h : Alike s t) : s.isUdp = t.isUdp :=
  congrArg Media.isUdp h.media

theorem Alike.endpoint {s t : RtspSession} (h : Alike s t) (packet : RtpPacket) :
    s.udpEndpoint packet = t.udpEndpoint packet := by
  have hrtp : s.udpRtpFd = t.udpRtpFd := congrArg Media.udpRtpFd h.media
  have hrtcp : s.udpRtcpFd = t.udpRtcpFd := congrArg Media.udpRtcpFd h.media
  have hrtpAddr : s.clientRtpAddr = t.clientRtpAddr := congrArg Media.clientRtpAddr h.media
  have hrtcpAddr : s.clientRtcpAddr = t.clientRtcpAddr := congrArg Media.clientRtcpAddr h.media
  simp only [udpEndpoint, hrtp, hrtcp, hrtpAddr, hrtcpAddr]

/-- `ForwardRtp` by the transport of the session. -/
theorem forwardRtp_eq (s : RtspSession) (packet : RtpPacket) (now : Int) (tcp : WriteOutcome)
    (udp : SendToOutcome) : s.forwardRtp packet now tcp udp =
      if s.isUdp then
        { session := s.updateActivity now
          status := (RtpForwarder.forwardUdp (s.udpEndpoint packet) packet udp).2
          udp := (RtpForwarder.forwardUdp (s.udpEndpoint packet) packet udp).1 }
      else
        { session :=
            { s.updateActivity now with conn := (RtpForwarder.forwardTcp s.conn packet tcp).1.conn }
          status := (RtpForwarder.forwardTcp s.conn packet tcp).2
          tcp := some (RtpForwarder.forwardTcp s.conn packet tcp).1 } := rfl

theorem Alike.observe {s t : RtspSession} (h : Alike s t) (l : Later) :
    s.observe l = t.observe l := by
  cases l with
  | request | flush => rfl
  | forward packet now tcp udp =>
    simp only [RtspSession.observe, forwardRtp_eq, ← h.isUdp, ← h.endpoint packet]
    cases hudp : s.isUdp with
    | true => rfl
    | false =>
      rw [h.conn hudp]
      rfl

theorem handleRequest_sessionId (s : RtspSession) (request : RtspRequest) (env : RequestEnv) :
    (s.handleRequest request env).session.sessionId = s.sessionId := by
  unfold handleRequest
  cases request.method with
  | kDescribe =>
    simp only [handleDescribe]
    split <;> rfl
  | kSetup =>
    simp only [handleSetup, setupUdp]
    split
    · split
      · rfl
      · split <;> rfl
    · split <;> rfl
  | kUnknown | kOptions | kPlay | kPause | kTeardown | kGetParameter | kSetParameter => rfl

/-- The answer to a request needs no more of the session than its id. -/
theorem answer_congr {s t : RtspSession} (h : s.sessionId = t.sessionId) (request : RtspRequest)
    (env : RequestEnv) : s.answer request env = t.answer request env := by
  simp only [answer, setupAnswer, h]

/-- No action turns UDP off. -/
theorem apply_isUdp {a : Action} {m : Media} (h : (a.apply m).isUdp = false) : m.isUdp = false := by
  cases a with
  | setupUdp => cases h
  | ignored | options | describe | setupTcp | play | pause | teardown => exact h

theorem Alike.later {s t : RtspSession} (h : Alike s t) (l : Later) :
    Alike (s.later l) (t.later l) := by
  cases l with
  | forward packet now tcp udp =>
    simp only [RtspSession.later, forwardRtp_eq, ← h.isUdp]
    cases hudp : s.isUdp with
    | true =>
      refine ⟨h.media, h.sessionId, fun hno => ?_⟩
      cases hudp.symm.trans hno
    | false =>
      simp only [h.conn hudp]
      exact ⟨h.media, h.sessionId, fun _ => rfl⟩
  | flush outcome =>
    exact ⟨h.media, h.sessionId, fun hudp => congrArg (fun c => (c.flush outcome).conn) (h.conn hudp)⟩
  | request data env =>
    simp only [RtspSession.later]
    have hmedia : (s.processData data env).session.media = (t.processData data env).session.media := by
      rw [processData_media s ⟨data, env⟩, processData_media t ⟨data, env⟩, h.media]
    have htcp : (s.processData data env).session.isUdp = false → s.isUdp = false := by
      intro hudp
      have hafter : ((Request.action ⟨data, env⟩).apply s.media).isUdp = false := by
        rw [← processData_media s ⟨data, env⟩]
        exact hudp
      exact apply_isUdp hafter
    unfold processData at hmedia htcp ⊢
    cases hparse : RtspParser.parse data {} with
    | error status => exact ⟨h.media, h.sessionId, h.conn⟩
    | ok request =>
      rw [hparse] at hmedia htcp
      refine ⟨hmedia, ?_, fun hudp => ?_⟩
      · rw [handleRequest_sessionId, handleRequest_sessionId]
        exact h.sessionId
      · rw [(handleRequest_sends _ request env).2, (handleRequest_sends _ request env).2]
        have hanswer : (s.updateActivity env.now).answer request env =
            (t.updateActivity env.now).answer request env := answer_congr h.sessionId request env
        have hconn : (s.updateActivity env.now).conn = (t.updateActivity env.now).conn :=
          h.conn (htcp hudp)
        rw [hanswer, hconn]

/-- Sessions that forward alike keep doing so. -/
theorem Alike.observations {s t : RtspSession} (h : Alike s t) (ls : List Later) :
    s.observations ls = t.observations ls := by
  induction ls generalizing s t with
  | nil => rfl
  | cons l ls ih =>
    simp only [RtspSession.observations, h.observe l]
    rw [ih (h.later l)]

/-! ## Failures -/

variable {s : RtspSession} {env : RequestEnv} {data : Bytes}

/-- A request whose handling fails amounts to no action. -/
theorem action_of_status {request : RtspRequest}
    (h : (s.handleRequest request env).status ≠ .ok) : request.action env = .ignored := by
  unfold handleRequest at h
  unfold RtspRequest.action
  cases hmethod : request.method with
  | kUnknown | kGetParameter | kSetParameter => rfl
  | kOptions | kPlay | kPause | kTeardown =>
    rw [hmethod] at h
    exact absurd rfl h
  | kDescribe =>
    rw [hmethod] at h
    simp only [handleDescribe] at h ⊢
    split at h
    · rename_i hsdp
      rw [if_pos hsdp]
    · exact absurd rfl h
  | kSetup =>
    rw [hmethod] at h
    have hno : (request.setupAction env).negotiates ≠ true :=
      fun hyes => h ((handleSetup_status s request env).mpr hyes)
    simp only
    cases haction : request.setupAction env with
    | setupTcp | setupUdp =>
      rw [haction] at hno
      exact absurd rfl hno
    | ignored => rfl
    | options | describe | play | pause | teardown =>
      -- a `SETUP` is none of these
      unfold RtspRequest.setupAction at haction
      split at haction
      · split at haction
        · cases haction
        · split at haction <;> cases haction
      · split at haction <;> cases haction

/-- The state and the transport survive a request that fails. -/
theorem media_of_status (h : (s.processData data env).status ≠ .ok) :
    (s.processData data env).session.media = s.media := by
  rcases s.processData_cases env data with ⟨status, hparse, heq⟩ | ⟨request, hparse, heq⟩
  · rw [heq]
    rfl
  · rw [heq] at h ⊢
    rw [handleRequest_media, action_of_status h]
    rfl

/-- The descriptor table is as before. -/
theorem changes_of_status (h : (s.processData data env).status ≠ .ok) {k k' : Kernel}
    (hopen : ∀ fd ∈ s.udpFds, k.opened fd = true)
    (hk : k.events (s.processData data env).fdEvents = some k') : Kernel.Changes k k' [] [] := by
  have hmedia := media_of_status h
  have hfds : (s.processData data env).session.udpFds = s.udpFds := by
    have hrtp : (s.processData data env).session.udpRtpFd = s.udpRtpFd :=
      congrArg Media.udpRtpFd hmedia
    have hrtcp : (s.processData data env).session.udpRtcpFd = s.udpRtcpFd :=
      congrArg Media.udpRtcpFd hmedia
    rw [udpFds, udpFds, hrtp, hrtcp]
  rcases processData_udpEffect hopen hk with ⟨-, -, -, hchanges⟩ | ⟨-, hchanges⟩
  · exact hchanges
  -- the old descriptors would have to be new ones
  rw [hfds] at hchanges
  have hnone : s.udpFds = [] := by
    rw [List.eq_nil_iff_forall_not_mem]
    intro fd hfd
    have hclosed := hchanges.acquired_closed fd hfd
    rw [hopen fd hfd] at hclosed
    cases hclosed
  rwa [hnone] at hchanges

end RtspSession

open RtspSession in
/-- **A request that fails leaves the transport untouched.** The state, the transport mode, both
UDP descriptors and both client addresses are as before, the descriptors are still open and
no other one is; and whatever is forwarded, requested and flushed later, `ForwardRtp` does what
it would have done without the request, on a session for UDP, and on any other one unless the
write buffer has taken some of the error reply. -/
theorem failed_request_untouched (s : RtspSession) (data : Bytes) (env : RequestEnv)
    (h : (s.processData data env).status ≠ .ok) :
    let t := (s.processData data env).session
    (t.state = s.state ∧ t.isUdp = s.isUdp ∧ t.udpRtpFd = s.udpRtpFd ∧ t.udpRtcpFd = s.udpRtcpFd ∧
      t.clientRtpAddr = s.clientRtpAddr ∧ t.clientRtcpAddr = s.clientRtcpAddr) ∧
    (∀ k k' : Kernel, (∀ fd ∈ s.udpFds, k.opened fd = true) →
      k.events (s.processData data env).fdEvents = some k' → ∀ fd, k'.opened fd = k.opened fd) ∧
    (s.isUdp = true ∨ t.conn.writeBuffer = s.conn.writeBuffer →
      ∀ ls, t.observations ls = s.observations ls) := by
  intro t
  have hmedia : t.media = s.media := media_of_status h
  refine ⟨⟨congrArg Media.state hmedia, congrArg Media.isUdp hmedia, congrArg Media.udpRtpFd hmedia,
    congrArg Media.udpRtcpFd hmedia, congrArg Media.clientRtpAddr hmedia,
    congrArg Media.clientRtcpAddr hmedia⟩, ?_, fun hbuffer ls => ?_⟩
  · intro k k' hopen hk
    exact (changes_of_status h hopen hk).opened_eq
  · have hid : t.sessionId = s.sessionId := by
      rcases s.processData_cases env data with ⟨status, -, heq⟩ | ⟨request, -, heq⟩
      · show (s.processData data env).session.sessionId = _
        rw [heq]
        rfl
      · show (s.processData data env).session.sessionId = _
        rw [heq, handleRequest_sessionId]
        rfl
    have halike : Alike t s := by
      refine ⟨hmedia, hid, fun hudp => ?_⟩
      have hudp' : s.isUdp = false := (congrArg Media.isUdp hmedia).symm.trans hudp
      obtain ⟨w, hconn⟩ := s.processData_frame env data
      rcases hbuffer with hyes | hsame
      · cases hyes.symm.trans hudp'
      · have hw : w = s.conn.writeBuffer := (congrArg Connection.writeBuffer hconn).symm.trans hsame
        exact hconn.trans (by rw [hw])
    exact halike.observations ls

/-- A `SETUP` for UDP. -/
def setupUdpData : Bytes :=
  ascii "SETUP * RTSP/1.0\r\nCSeq: 2\r\nTransport: RTP/AVP;client_port=5000-5001\r\n\r\n"

/-- The second UDP socket cannot be created. -/
def noRtcpSocket : RequestEnv := { RequestEnv.quiet with rtcpSocket := .socketFailed }

/-- The socket of the connection takes nothing. -/
def fullSocket : RequestEnv := { RequestEnv.quiet with reply := .wouldBlock }

/-- A session that plays over UDP gets a second `SETUP`, for which no socket can be created. -/
theorem playing_survives_failed_setup :
    ∃ s₀ s t, RtspSession.create 7 512 (fun _ => 0) 0 0 0 = some s₀ ∧
      s = s₀.afterRequests [⟨setupUdpData, .quiet⟩, simpleRequest "PLAY *"] ∧
      s.state = .kPlaying ∧ s.udpFds = [10, 11] ∧
      t = (s.processData setupUdpData noRtcpSocket).session ∧ t.state = .kPlaying ∧
      t.observe (.forward ⟨[7], 0⟩ 1 .wouldBlock .sent) =
        some (.ok, none, some ⟨10, { port := 5000 }, [7]⟩) := by
  refine ⟨_, _, _, rfl, rfl, by decide, by decide, rfl, ?_, ?_⟩
  · exact (failed_request_untouched _ _ _ (by decide)).1.1.trans (by decide)
  · have hobserved := fun s h hudp => (failed_request_untouched s setupUdpData noRtcpSocket h).2.2
      (.inl hudp) [.forward ⟨[7], 0⟩ 1 .wouldBlock .sent]
    exact (List.cons.inj (hobserved _ (by decide) (by decide))).1.trans
      (by decide)

/-- On a session for interleaved frames, an unknown method is answered into the write buffer;
the next frame goes there too, where it would have been written at once. -/
theorem forwarding_waits_for_error_reply :
    ∃ s₀ s h, RtspSession.create 7 512 (fun _ => 0) 0 0 0 = some s₀ ∧
      s = s₀.afterRequests [RtspSession.setupTcpRequest, simpleRequest "PLAY *"] ∧
      h = s.processData (simpleRequest "RECORD *").data fullSocket ∧
      h.status = .invalidArgument "unknown method" ∧
      ((s.forwardRtp ⟨[7], 0⟩ 1 (.accepted 5) .sent).tcp.bind fun w => w.call) =
        some ⟨.writev, 7, [0x24, 0, 0, 1, 7]⟩ ∧
      ((h.session.forwardRtp ⟨[7], 0⟩ 1 (.accepted 5) .sent).tcp.bind fun w => w.call) = none ∧
      h.session.observe (.forward ⟨[7], 0⟩ 1 (.accepted 5) .sent) ≠
        s.observe (.forward ⟨[7], 0⟩ 1 (.accepted 5) .sent) := by
  refine ⟨_, _, _, rfl, rfl, rfl, by decide, by decide, by decide, ?_⟩
  intro hsame
  have hcall := congrArg (fun o => o.bind fun f => f.2.1.bind fun w => w.call) hsame
  exact absurd hcall (by decide)

end RtspForward
