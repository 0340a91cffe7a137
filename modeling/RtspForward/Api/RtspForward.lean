import RtspForward.Core.RtspServer

/-!
# The C interface

The argument checks of `rtsp_forward_create` and `rtsp_forward_send_rtp` in
`api/rtsp_forward.cc`: what they refuse, and what they hand to the server.
-/
namespace RtspForward

/-- The error codes the two functions return. -/
inductive RtspErrorCode where
  | invalidArgument
  | outOfMemory
  | notStarted
  deriving DecidableEq, Repr

/-- `RtspForwardConfig`; a null pointer is `none`. -/
structure RtspForwardConfig where
  port : Int
  ip : Option Bytes
  maxSessions : Int
  bufferSize : Nat
  sdpContent : Option Bytes
  connectionTimeoutSec : Int
  sessionTimeoutSec : Int
  deriving DecidableEq, Repr

/-- The arguments of the server's constructor, with their defaults, and the SDP. -/
structure ServerArgs where
  ip : Bytes := ascii "0.0.0.0"
  port : Int := 554
  maxSessions : Int := 10
  bufferSize : Nat := 65536
  sdpContent : Option Bytes := none
  connectionTimeoutSec : Int := 30
  sessionTimeoutSec : Int := 60
  deriving DecidableEq, Repr

/-- The checks of `rtsp_forward_create`, in their order; without a configuration the defaults
are used. -/
def serverArgs : Option RtspForwardConfig → Except RtspErrorCode ServerArgs
  | none => .ok {}
  | some config =>
    if config.port ≤ 0 ∨ config.port > 65535 then .error .invalidArgument
    else if config.maxSessions ≤ 0 then .error .invalidArgument
    else if config.bufferSize = 0 then .error .invalidArgument
    else if config.connectionTimeoutSec < 0 then .error .invalidArgument
    else if config.sessionTimeoutSec < 0 then .error .invalidArgument
    else .ok
      { ip := config.ip.getD (ascii "0.0.0.0")
        port := config.port
        maxSessions := config.maxSessions
        bufferSize := config.bufferSize
        sdpContent := config.sdpContent
        connectionTimeoutSec := config.connectionTimeoutSec
        sessionTimeoutSec := config.sessionTimeoutSec }

/-- `rtsp_forward_create`, for an output pointer that is not null; `allocated` says whether
there is memory for the server. -/
def rtspForwardCreate (config : Option RtspForwardConfig) (allocated : Bool) :
    Except RtspErrorCode ServerArgs :=
  match serverArgs config with
  | .error code => .error code
  | .ok args => if allocated then .ok args else .error .outOfMemory

/-- What `rtsp_forward_create` promises of the arguments. -/
structure ServerArgs.Accepted (args : ServerArgs) : Prop where
  port : 1 ≤ args.port ∧ args.port ≤ 65535
  maxSessions : 0 < args.maxSessions
  bufferSize : 0 < args.bufferSize
  connectionTimeoutSec : 0 ≤ args.connectionTimeoutSec
  sessionTimeoutSec : 0 ≤ args.sessionTimeoutSec

/-- What is accepted passes the checks, and so do the defaults. -/
theorem rtspForwardCreate_accepted {config : Option RtspForwardConfig} {allocated : Bool}
    {args : ServerArgs} (h : rtspForwardCreate config allocated = .ok args) : args.Accepted := by
  have hargs : serverArgs config = .ok args := by
    unfold rtspForwardCreate at h
    split at h
    · cases h
    · split at h
      · cases h
        assumption
      · cases h
  cases config with
  | none =>
    cases hargs
    exact ⟨by decide, by decide, by decide, by decide, by decide⟩
  | some config =>
    simp only [serverArgs] at hargs
    split at hargs
    · cases hargs
    split at hargs
    · cases hargs
    split at hargs
    · cases hargs
    split at hargs
    · cases hargs
    split at hargs
    · cases hargs
    cases hargs
    constructor <;> dsimp only <;> omega

/-- A server that was created and then started with these two descriptors. -/
def ServerArgs.config (args : ServerArgs) (listenerFd timerFd : Int) (h : listenerFd ≠ timerFd) :
    Config where
  maxSessions := args.maxSessions
  bufferSize := args.bufferSize
  connectionTimeoutSec := args.connectionTimeoutSec
  sessionTimeoutSec := args.sessionTimeoutSec
  listenerFd := listenerFd
  timerFd := timerFd
  listener_ne_timer := h

/-- `rtsp_forward_send_rtp` on a server that exists: the packet handed to `BroadcastRtp`. A
null pointer is `none`. -/
def rtspForwardSendRtp (running : Bool) (data : Option Bytes) (streamIndex : Int) :
    Except RtspErrorCode RtpPacket :=
  if running = false then .error .notStarted
  else match data with
    | none => .error .invalidArgument
    | some data =>
      if data.length = 0 then .error .invalidArgument
      else if streamIndex ≠ 0 ∧ streamIndex ≠ 1 then .error .invalidArgument
      else .ok { data := data, streamIndex := streamIndex }

end RtspForward
