import RtspForward.Core.Playing
import RtspForward.Protocol.ClientDecoder

/-!
# The session as a state machine

A request, together with what the outside world answers, amounts to one `Action`, and an
action changes the state and the media transport of a session in a way that does not
depend on the rest of it. `processData_media` connects the two levels; what follows is
about sequences of actions.
-/
namespace RtspForward

/-- What a request amounts to. A request that is refused, cannot be parsed or only asks for
parameters is ignored. -/
inductive Action where
  | ignored
  | options
  | describe
  | setupTcp
  | setupUdp (rtpFd rtcpFd : Nat) (transport : TransportInfo) (peer : SockAddrIn)
  | play
  | pause
  | teardown
  deriving DecidableEq, Repr

/-- The state and the transport of a session. -/
structure Media where
  state : RtspSessionState
  isUdp : Bool
  udpRtpFd : FdGuard
  udpRtcpFd : FdGuard
  clientRtpAddr : SockAddrIn
  clientRtcpAddr : SockAddrIn
  deriving DecidableEq, Repr

namespace Action

/-- The state an action leads to. -/
def target : Action → Option RtspSessionState
  | ignored => none
  | options => some .kOptionsSent
  | describe => some .kDescribeSent
  | setupTcp | setupUdp .. => some .kSetupSent
  | play => some .kPlaying
  | pause => some .kPaused
  | teardown => some .kTeardown

/-- The action negotiates a transport. -/
def negotiates : Action → Bool
  | setupTcp | setupUdp .. => true
  | _ => false

def negotiatesUdp : Action → Bool
  | setupUdp .. => true
  | _ => false

/-- The state is overwritten; the transport changes only when UDP is negotiated, and loses
its sockets at the end. -/
def apply (m : Media) (a : Action) : Media :=
  let m := { m with state := a.target.getD m.state }
  match a with
  | setupUdp rtpFd rtcpFd transport peer =>
    { m with
      isUdp := true
      udpRtpFd := { fd := rtpFd }
      udpRtcpFd := { fd := rtcpFd }
      clientRtpAddr := { peer with port := RtspSession.toPort transport.clientRtpPort }
      clientRtcpAddr := { peer with port := RtspSession.toPort transport.clientRtcpPort } }
  | teardown => { m with udpRtpFd := m.udpRtpFd.close.1, udpRtcpFd := m.udpRtcpFd.close.1 }
  | _ => m

theorem apply_state (m : Media) (a : Action) : (a.apply m).state = a.target.getD m.state := by
  unfold apply
  cases a <;> rfl

end Action

namespace RtspRequest

def setupAction (request : RtspRequest) (env : RequestEnv) : Action :=
  if request.transport.isUdp then
    if request.transport.clientRtpPort = 0 then .ignored
    else match env.rtpSocket, env.rtcpSocket with
      | .bound rtpFd, .bound rtcpFd => .setupUdp rtpFd rtcpFd request.transport env.peer
      | _, _ => .ignored
  else if request.transport.isTcp ∨ request.transport.interleavedRtp ≠ 0 then .setupTcp
  else .ignored

def action (request : RtspRequest) (env : RequestEnv) : Action :=
  match request.method with
  | .kOptions => .options
  | .kDescribe => if env.sdp = [] then .ignored else .describe
  | .kSetup => request.setupAction env
  | .kPlay => .play
  | .kTeardown => .teardown
  | .kPause => .pause
  | .kGetParameter | .kSetParameter | .kUnknown => .ignored

end RtspRequest

def Request.action (q : Request) : Action :=
  match RtspParser.parse q.data {} with
  | .error _ => .ignored
  | .ok request => request.action q.env

/-- The status code of the reply, read off its first line. -/
def Handled.code (h : Handled) : Option Int :=
  h.reply.map fun reply => ClientDecoder.statusCode reply.response

namespace RtspSession

def media (s : RtspSession) : Media where
  state := s.state
  isUdp := s.isUdp
  udpRtpFd := s.udpRtpFd
  udpRtcpFd := s.udpRtcpFd
  clientRtpAddr := s.clientRtpAddr
  clientRtcpAddr := s.clientRtcpAddr

variable (s : RtspSession) (request : RtspRequest) (env : RequestEnv)

theorem setupUdp_media (h : request.transport.isUdp = true) :
    (s.setupUdp request env).session.media = (request.setupAction env).apply s.media := by
  unfold setupUdp RtspRequest.setupAction
  simp only [h, ↓reduceIte]
  split
  · rfl
  · cases env.rtpSocket with
    | socketFailed | bindFailed => rfl
    | bound rtpFd =>
      cases env.rtcpSocket with
      | socketFailed | bindFailed =>
        rw [if_pos (by simp [createUdpSocket, FdGuard.isValid])]
        rfl
      | bound rtcpFd =>
        rw [if_neg (by simp [createUdpSocket, FdGuard.isValid])]
        rfl

theorem handleSetup_media :
    (s.handleSetup request env).session.media = (request.setupAction env).apply s.media := by
  unfold handleSetup
  simp only
  split
  · rename_i h
    exact setupUdp_media _ request env h
  · rename_i h
    unfold RtspRequest.setupAction
    rw [if_neg h]
    split
    · rfl
    · rfl

theorem handleRequest_media :
    (s.handleRequest request env).session.media = (request.action env).apply s.media := by
  unfold handleRequest RtspRequest.action
  cases request.method with
  | kDescribe =>
    simp only [handleDescribe]
    split
    · rfl
    · rfl
  | kSetup => exact handleSetup_media s request env
  | kUnknown | kOptions | kPlay | kPause | kTeardown | kGetParameter | kSetParameter => rfl

/-- Handling a request is one action. -/
theorem processData_media (q : Request) :
    (s.processData q.data q.env).session.media = q.action.apply s.media := by
  unfold processData Request.action
  cases RtspParser.parse q.data {} with
  | error status => rfl
  | ok request => exact handleRequest_media (s.updateActivity q.env.now) request q.env

theorem afterRequests_media (qs : List Request) :
    (s.afterRequests qs).media = (qs.map Request.action).foldl Action.apply s.media := by
  induction qs using List.reverseRecOn with
  | nil => rfl
  | append_singleton qs q ih =>
    rw [afterRequests_concat, processData_media, ih, List.map_append, List.foldl_append]
    rfl

/-! ## Accepted setups -/

/-- The request is a `SETUP`, and it is answered with 200. -/
def AcceptsSetup (s : RtspSession) (q : Request) : Prop :=
  q.method = some .kSetup ∧ (s.processData q.data q.env).code = some 200

theorem code_respond (response : Bytes) (status : Status) (fdEvents : List FdEvent) :
    (s.respond response env status fdEvents).code = some (ClientDecoder.statusCode response) := rfl

theorem setupUdp_code (h : request.transport.isUdp = true) :
    (s.setupUdp request env).code = some 200 ↔ (request.setupAction env).negotiates = true := by
  unfold setupUdp RtspRequest.setupAction
  simp only [h, ↓reduceIte]
  split
  · simp [code_respond, RtspBuilder.buildErrorResponse, ClientDecoder.statusCode_buildResponse,
      Action.negotiates]
  · cases env.rtpSocket with
    | socketFailed | bindFailed =>
      simp [createUdpSocket, FdGuard.isValid, code_respond, RtspBuilder.buildErrorResponse,
        ClientDecoder.statusCode_buildResponse, Action.negotiates]
    | bound rtpFd =>
      cases env.rtcpSocket with
      | socketFailed | bindFailed =>
        simp [createUdpSocket, FdGuard.isValid, code_respond, RtspBuilder.buildErrorResponse,
          ClientDecoder.statusCode_buildResponse, Action.negotiates]
      | bound rtcpFd =>
        rw [if_neg (by simp [createUdpSocket, FdGuard.isValid])]
        exact iff_of_true (congrArg some (ClientDecoder.statusCode_buildResponse ..)) rfl

theorem handleSetup_code :
    (s.handleSetup request env).code = some 200 ↔ (request.setupAction env).negotiates = true := by
  unfold handleSetup
  simp only
  split
  · rename_i h
    exact setupUdp_code _ request env h
  · rename_i h
    unfold RtspRequest.setupAction
    rw [if_neg h]
    split
    · exact iff_of_true (congrArg some (ClientDecoder.statusCode_buildResponse ..)) rfl
    · simp [code_respond, RtspBuilder.buildErrorResponse, ClientDecoder.statusCode_buildResponse,
        Action.negotiates]

/-- The status of a `SETUP` agrees with its response. -/
theorem handleSetup_status :
    (s.handleSetup request env).status = .ok ↔ (request.setupAction env).negotiates = true := by
  unfold handleSetup setupUdp RtspRequest.setupAction
  simp only
  split
  · split
    · simp [respond, Action.negotiates]
    · cases env.rtpSocket with
      | socketFailed | bindFailed =>
        simp [createUdpSocket, FdGuard.isValid, respond, Action.negotiates]
      | bound rtpFd =>
        cases env.rtcpSocket with
        | socketFailed | bindFailed =>
          simp [createUdpSocket, FdGuard.isValid, respond, Action.negotiates]
        | bound rtcpFd =>
          rw [if_neg (by simp [createUdpSocket, FdGuard.isValid])]
          exact iff_of_true rfl rfl
  · split
    · exact iff_of_true rfl rfl
    · simp [respond, Action.negotiates]

/-- Whether a `SETUP` is accepted is decided by the request and the outside world alone. -/
theorem acceptsSetup_iff (q : Request) : s.AcceptsSetup q ↔ q.action.negotiates = true := by
  unfold AcceptsSetup Request.method Request.action
  rcases s.processData_cases q.env q.data with ⟨status, hparse, heq⟩ | ⟨request, hparse, heq⟩
  · simp [hparse, Action.negotiates]
  · rw [hparse, heq]
    simp only [Option.some.injEq, RtspRequest.action]
    unfold handleRequest
    cases hmethod : request.method with
    | kSetup => simpa [hmethod] using handleSetup_code (s.updateActivity q.env.now) request q.env
    | kDescribe =>
      simp only [reduceCtorEq, false_and, false_iff]
      split <;> simp [Action.negotiates]
    | kUnknown | kOptions | kPlay | kPause | kTeardown | kGetParameter | kSetParameter =>
      simp [Action.negotiates]

end RtspSession

/-! ## The last action that matters -/

/-- An element that the second part of a list cannot hold is in the first part. -/
theorem split_append {α : Type*} {P : α → Prop} {xs ys before after : List α} {x : α}
    (h : xs ++ ys = before ++ x :: after) (hx : P x) (hys : ∀ y ∈ ys, ¬ P y) :
    ∃ mid, after = mid ++ ys ∧ xs = before ++ x :: mid := by
  rcases List.append_eq_append_iff.mp h with ⟨c, rfl, hc⟩ | ⟨c, rfl, hc⟩
  · exact absurd hx (hys x (by simp [hc]))
  · cases c with
    | nil => exact absurd hx (hys x (by rw [List.nil_append] at hc; simp [← hc]))
    | cons a c =>
      obtain ⟨rfl, rfl⟩ := List.cons.inj hc
      exact ⟨c, rfl, rfl⟩

namespace Request

theorem setupAction_cases (request : RtspRequest) (env : RequestEnv) :
    request.setupAction env = .ignored ∨ request.setupAction env = .setupTcp ∨
      ∃ rtpFd rtcpFd, request.setupAction env =
        .setupUdp rtpFd rtcpFd request.transport env.peer := by
  unfold RtspRequest.setupAction
  split
  · split
    · exact .inl rfl
    · split
      · exact .inr (.inr ⟨_, _, rfl⟩)
      · exact .inl rfl
  · split
    · exact .inr (.inl rfl)
    · exact .inl rfl

/-- The three requests that are never refused. -/
theorem action_iff (q : Request) :
    (q.action = .play ↔ q.method = some .kPlay) ∧ (q.action = .pause ↔ q.method = some .kPause) ∧
      (q.action = .teardown ↔ q.method = some .kTeardown) := by
  unfold Request.action Request.method
  cases RtspParser.parse q.data {} with
  | error status => simp
  | ok request =>
    simp only [RtspRequest.action, Option.some.injEq]
    cases request.method with
    | kSetup =>
      rcases setupAction_cases request q.env with h | h | ⟨rtpFd, rtcpFd, h⟩ <;> simp [h]
    | kDescribe => by_cases hsdp : q.env.sdp = [] <;> simp [hsdp]
    | kUnknown | kOptions | kPlay | kPause | kTeardown | kGetParameter | kSetParameter => simp

theorem target_eq_iff (a : Action) : (a.target = some .kPlaying ↔ a = .play) ∧
    (a.target = some .kPaused ↔ a = .pause) ∧ (a.target = some .kTeardown ↔ a = .teardown) := by
  cases a <;> simp [Action.target]

end Request

namespace RtspSession

variable {s : RtspSession} {qs : List Request}

/-- A state that was not there at first was set by some request, and no later one has set
another. -/
theorem afterRequests_state {st : RtspSessionState} (hne : s.state ≠ st)
    (h : (s.afterRequests qs).state = st) :
    ∃ before q after, qs = before ++ q :: after ∧ q.action.target = some st ∧
      ∀ q' ∈ after, q'.action.target = none := by
  induction qs using List.reverseRecOn with
  | nil => exact absurd h hne
  | append_singleton qs q ih =>
    have hstate : (q.action.apply (s.afterRequests qs).media).state = st := by
      rw [← processData_media, ← afterRequests_concat]
      exact h
    rw [Action.apply_state] at hstate
    cases htarget : q.action.target with
    | some st' =>
      rw [htarget, Option.getD_some] at hstate
      exact ⟨qs, q, [], rfl, by rw [htarget, hstate], by simp⟩
    | none =>
      rw [htarget, Option.getD_none] at hstate
      obtain ⟨before, q', after, rfl, htarget', hafter⟩ := ih hstate
      refine ⟨before, q', after ++ [q], by simp, htarget', fun r hr => ?_⟩
      rcases List.mem_append.mp hr with hr | hr
      · exact hafter r hr
      · obtain rfl : r = q := by simpa using hr
        exact htarget

/-! ## Media and setup -/

/-- Some `SETUP` was answered with 200, and no `TEARDOWN` came after it. -/
def Negotiated (s : RtspSession) (qs : List Request) : Prop :=
  ∃ before q after, qs = before ++ q :: after ∧ (s.afterRequests before).AcceptsSetup q ∧
    ∀ q' ∈ after, q'.method ≠ some .kTeardown

/-- Whenever the session plays or is paused, a transport has been negotiated. -/
def MediaNegotiated (s : RtspSession) (qs : List Request) : Prop :=
  ∀ done rest, qs = done ++ rest →
    (s.afterRequests done).state = .kPlaying ∨ (s.afterRequests done).state = .kPaused →
      s.Negotiated done

/-- A sequence of requests in which some `SETUP` can be accepted and no `TEARDOWN` comes
after it. -/
def SetUp (qs : List Request) : Prop :=
  ∃ before q after, qs = before ++ q :: after ∧ q.action.negotiates = true ∧
    ∀ q' ∈ after, q'.method ≠ some .kTeardown

/-- Every `PLAY` and every `PAUSE` comes after such a sequence. -/
def SetUpFirst (qs : List Request) : Prop :=
  ∀ before q after, qs = before ++ q :: after →
    q.method = some .kPlay ∨ q.method = some .kPause → SetUp before

theorem negotiated_iff : s.Negotiated qs ↔ SetUp qs := by
  simp only [Negotiated, SetUp, acceptsSetup_iff]

/-- Requests that neither negotiate nor end anything. -/
def Inert (qs : List Request) : Prop :=
  ∀ q ∈ qs, q.action.negotiates = false ∧ q.method ≠ some .kTeardown

theorem setUp_append {tail : List Request} (hinert : Inert tail) :
    SetUp (qs ++ tail) ↔ SetUp qs := by
  constructor
  · intro ⟨before, q, after, hsplit, hq, hafter⟩
    obtain ⟨mid, rfl, rfl⟩ := split_append (P := fun q => q.action.negotiates = true) hsplit hq
      fun y hy => by simp [(hinert y hy).1]
    exact ⟨before, q, mid, rfl, hq, fun q' hq' => hafter q' (by simp [hq'])⟩
  · rintro ⟨before, q, after, rfl, hq, hafter⟩
    refine ⟨before, q, after ++ tail, by simp, hq, fun q' hq' => ?_⟩
    rcases List.mem_append.mp hq' with h | h
    · exact hafter q' h
    · exact (hinert q' h).2

theorem negotiates_of_target {a : Action} (h : a.target ≠ some .kSetupSent) :
    a.negotiates = false := by
  cases a <;> first | rfl | exact absurd rfl h

/-- The request that has set the state, and those after it that have not. -/
theorem inert_of_state {st : RtspSessionState} {after : List Request} {q : Request}
    (hq : q.action.target = some st) (hst : st ≠ .kSetupSent ∧ st ≠ .kTeardown)
    (hafter : ∀ q' ∈ after, q'.action.target = none) : Inert (q :: after) := by
  intro q' hq'
  have htarget : q'.action.target ≠ some .kSetupSent ∧ q'.action.target ≠ some .kTeardown := by
    rcases List.mem_cons.mp hq' with rfl | hq'
    · simpa [hq] using hst
    · simp [hafter q' hq']
  refine ⟨negotiates_of_target htarget.1, fun hm => htarget.2 ?_⟩
  rw [q'.action_iff.2.2.mpr hm]
  rfl

theorem afterRequests_concat_state (qs : List Request) (q : Request) :
    (s.afterRequests (qs ++ [q])).state = q.action.target.getD (s.afterRequests qs).state := by
  rw [afterRequests_concat]
  exact (congrArg Media.state (processData_media _ q)).trans (Action.apply_state _ _)

theorem mediaNegotiated_iff (hinit : s.state = .kInit) :
    s.MediaNegotiated qs ↔ SetUpFirst qs := by
  constructor
  · intro h before q after hsplit hm
    -- the state right after the request is the one it asks for
    have hstate (st : RtspSessionState) (htarget : q.action.target = some st) :
        (s.afterRequests (before ++ [q])).state = st := by
      rw [afterRequests_concat_state, htarget, Option.getD_some]
    rcases hm with hm | hm
    · have htarget : q.action.target = some .kPlaying := by rw [q.action_iff.1.mpr hm]; rfl
      have hneg := h (before ++ [q]) after (by simp [hsplit]) (.inl (hstate _ htarget))
      exact (setUp_append (inert_of_state htarget (by decide) (by simp))).mp (negotiated_iff.mp hneg)
    · have htarget : q.action.target = some .kPaused := by rw [q.action_iff.2.1.mpr hm]; rfl
      have hneg := h (before ++ [q]) after (by simp [hsplit]) (.inr (hstate _ htarget))
      exact (setUp_append (inert_of_state htarget (by decide) (by simp))).mp (negotiated_iff.mp hneg)
  · intro h done rest hsplit hstate
    rw [negotiated_iff]
    rcases hstate with hst | hst
    · obtain ⟨before, q, after, rfl, htarget, hafter⟩ := afterRequests_state (by simp [hinit]) hst
      have hm := q.action_iff.1.mp ((Request.target_eq_iff _).1.mp htarget)
      exact (setUp_append (inert_of_state htarget (by decide) hafter)).mpr
        (h before q (after ++ rest) (by simp [hsplit]) (.inl hm))
    · obtain ⟨before, q, after, rfl, htarget, hafter⟩ := afterRequests_state (by simp [hinit]) hst
      have hm := q.action_iff.2.1.mp ((Request.target_eq_iff _).2.1.mp htarget)
      exact (setUp_append (inert_of_state htarget (by decide) hafter)).mpr
        (h before q (after ++ rest) (by simp [hsplit]) (.inr hm))

theorem create_state {fd now : Int} {bufferSize timestamp seq : Nat} {garbage : Nat → UInt8}
    (h : create fd bufferSize garbage timestamp seq now = some s) :
    s.state = .kInit ∧ s.isUdp = false := by
  obtain ⟨conn, -, rfl⟩ := Option.map_eq_some_iff.mp h
  exact ⟨rfl, rfl⟩

/-- **Media only after a setup.** A fresh session handles a sequence of requests. At every
point at which it plays or is paused, some earlier `SETUP` was answered with 200 and not
followed by a `TEARDOWN`, exactly when every `PLAY` and every `PAUSE` of the sequence comes
after such a `SETUP`; no handler looks at the state it starts from. -/
theorem media_negotiated_iff_setup_first (fd : Int) (bufferSize : Nat) (garbage : Nat → UInt8)
    (timestamp seq : Nat) (now : Int) (s : RtspSession)
    (hcreate : create fd bufferSize garbage timestamp seq now = some s) (qs : List Request) :
    s.MediaNegotiated qs ↔ SetUpFirst qs :=
  mediaNegotiated_iff (create_state hcreate).1

/-- A `SETUP` for interleaved transport, handled in a quiet environment. -/
def setupTcpRequest : Request :=
  ⟨ascii "SETUP * RTSP/1.0\r\nCSeq: 2\r\nTransport: RTP/AVP/TCP;interleaved=0-1\r\n\r\n", .quiet⟩

theorem media_after_setup :
    ∃ s, create 7 512 (fun _ => 0) 0 0 0 = some s ∧
      (s.afterRequests [setupTcpRequest, simpleRequest "PLAY *"]).state = .kPlaying ∧
      s.MediaNegotiated [setupTcpRequest, simpleRequest "PLAY *"] := by
  refine ⟨_, rfl, by decide,
    (media_negotiated_iff_setup_first 7 512 (fun _ => 0) 0 0 0 _ rfl _).mpr ?_⟩
  rintro (_ | ⟨q₀, before⟩) q after hsplit hm
  · obtain ⟨rfl, -⟩ := List.cons.inj hsplit
    exact absurd hm (by decide)
  · obtain ⟨rfl, hsplit⟩ := List.cons.inj hsplit
    cases before with
    | nil => exact ⟨[], setupTcpRequest, [], rfl, by decide, by simp⟩
    | cons q₁ before => simp at hsplit

/-- The first request is a `PLAY`, and the session plays. -/
theorem plays_without_setup :
    ∃ s, create 7 512 (fun _ => 0) 0 0 0 = some s ∧
      (s.afterRequests [simpleRequest "PLAY *"]).state = .kPlaying ∧
      ¬ s.Negotiated [simpleRequest "PLAY *"] ∧ ¬ s.MediaNegotiated [simpleRequest "PLAY *"] := by
  have hplays : (simpleRequest "PLAY *").action = .play := by decide
  have hnot (s : RtspSession) : ¬ s.Negotiated [simpleRequest "PLAY *"] := by
    rw [negotiated_iff]
    rintro ⟨before, q, after, hsplit, hq, -⟩
    have hmem : q ∈ [simpleRequest "PLAY *"] := by simp [hsplit]
    obtain rfl : q = simpleRequest "PLAY *" := by simpa using hmem
    simp [hplays, Action.negotiates] at hq
  refine ⟨_, rfl, by decide, hnot _, fun h => hnot _ (h _ [] (by simp) (.inl ?_))⟩
  decide

end RtspSession

end RtspForward
