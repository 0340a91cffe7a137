import RtspForward.Core.IncomingStream
import RtspForward.Core.Timeouts

/-!
# What the server decides by

`BroadcastRtp` selects a session and `CheckTimeouts` removes one by its state and its clock, and
`ForwardRtp` sends by its transport. These make a small machine of their own, moved by what the
requests of the client ask for, by the packets forwarded to it and by what becomes of them; the
buffers, the other clients and the order in which the threads run do not matter to it.
-/
namespace RtspForward

open Lib Transition

/-- The part of a session that the decisions are made by. -/
structure Control where
  media : Media
  drops : Int
  lastActivity : Int
  deriving DecidableEq, Repr

/-- What moves it. -/
inductive ControlEvent where
  | request (action : Action) (now : Int)
  | forwarded (now : Int)
  | dropped
  | delivered
  deriving DecidableEq, Repr

namespace Control

def ofStart (now : Int) : Control where
  media :=
    { state := .kInit, isUdp := false, udpRtpFd := {}, udpRtcpFd := {}, clientRtpAddr := {},
      clientRtcpAddr := {} }
  drops := 0
  lastActivity := now

/-- A request is an action, and every so many drops in a row end the session. -/
def apply (k : Control) : ControlEvent → Control
  | .request action now => { k with media := action.apply k.media, lastActivity := now }
  | .forwarded now => { k with lastActivity := now }
  | .dropped =>
    let drops := Int.bmod (k.drops + 1) (2 ^ 32)
    { k with
      drops := drops
      media := if drops ≥ kMaxConsecutiveDrops then { k.media with state := .kTeardown } else k.media }
  | .delivered => { k with drops := 0 }

/-- A sweep at this time removes the session. With neither timeout positive `CheckTimeouts`
returns at once, and a session that is torn down stays as well. -/
def SweptAt (config : Config) (k : Control) (now : Int) : Prop :=
  (0 < config.connectionTimeoutSec ∨ 0 < config.sessionTimeoutSec) ∧
    (k.media.state = .kTeardown ∨
      (0 < config.timeoutFor k.media.state ∧
        config.timeoutFor k.media.state ≤ now - k.lastActivity))

instance (config : Config) (k : Control) (now : Int) : Decidable (k.SweptAt config now) :=
  inferInstanceAs (Decidable (_ ∧ _))

end Control

namespace RtspSession

variable {s t x y : RtspSession} {c : SessionCall}

def control (s : RtspSession) : Control where
  media := s.media
  drops := s.conn.consecutiveDrops
  lastActivity := s.lastActivitySec

/-- What a call is to the machine, if it is anything. -/
def controlEvent (s : RtspSession) : SessionCall → Option ControlEvent
  | .updateActivity now => some (.forwarded now)
  | .recordDrop => some .dropped
  | .recordSuccess => some .delivered
  | .processData len beyond env =>
    some (.request (Request.action ⟨s.conn.readBuffer.rawView len beyond, env⟩) env.now)
  | .forwardTcp .. | .recv _ | .consume _ | .flush _ => none

theorem handleRequest_lastActivity (s : RtspSession) (request : RtspRequest) (env : RequestEnv) :
    (s.handleRequest request env).session.lastActivitySec = s.lastActivitySec := by
  unfold handleRequest
  cases request.method with
  | kDescribe =>
    simp only [handleDescribe]
    split <;> rfl
  | kSetup =>
    simp only [handleSetup]
    split
    · simp only [setupUdp]
      split
      · rfl
      · split <;> rfl
    · split <;> rfl
  | kUnknown | kOptions | kPlay | kPause | kTeardown | kGetParameter | kSetParameter => rfl

/-- Handling a request is one event. -/
theorem processData_control (s : RtspSession) (q : Request) :
    (s.processData q.data q.env).session.control =
      s.control.apply (.request q.action q.env.now) := by
  have hmedia := s.processData_media q
  obtain ⟨w, hconn⟩ := s.processData_frame q.env q.data
  have hactivity : (s.processData q.data q.env).session.lastActivitySec = q.env.now := by
    rcases s.processData_cases q.env q.data with ⟨status, -, heq⟩ | ⟨request, -, heq⟩
    · rw [heq]
      rfl
    · rw [heq, handleRequest_lastActivity]
      rfl
  simp only [control, Control.apply, hmedia, hconn, hactivity]

/-- A call does to the machine what its event says. -/
theorem after_control (s : RtspSession) (c : SessionCall) :
    (s.after c).control = (s.controlEvent c).toList.foldl Control.apply s.control := by
  cases c with
  | updateActivity now => rfl
  | recordDrop =>
    have hdrops : s.conn.recordDrop.consecutiveDrops = Int.bmod (s.control.drops + 1) (2 ^ 32) := rfl
    by_cases hmany : s.conn.recordDrop.consecutiveDrops ≥ kMaxConsecutiveDrops
    · have hslow : s.becomesSlow = true := decide_eq_true hmany
      show control s.recordDrop = s.control.apply .dropped
      simp only [Control.apply, ← hdrops, if_pos hmany, recordDrop, if_pos hslow]
      rfl
    · have hslow : ¬ s.becomesSlow = true := fun h => hmany (of_decide_eq_true h)
      show control s.recordDrop = s.control.apply .dropped
      simp only [Control.apply, ← hdrops, if_neg hmany, recordDrop, if_neg hslow]
      rfl
  | recordSuccess => rfl
  | processData len beyond env =>
    exact s.processData_control ⟨s.conn.readBuffer.rawView len beyond, env⟩
  | forwardTcp packet o =>
    obtain ⟨w, hconn⟩ := s.conn.forwardTcp_frame packet o
    simp only [after, hconn]
    rfl
  | recv o =>
    rcases s.conn.recv_cases o with heq | ⟨bytes, -, heq⟩
    · simp only [after, heq]
      rfl
    · simp only [after, heq]
      rfl
  | consume len => rfl
  | flush o =>
    obtain ⟨w, hconn⟩ := s.conn.flush_frame o
    simp only [after, hconn]
    rfl

/-- The control of a session that has run by itself is that of the events of its calls. -/
theorem run_control {calls : List SessionCall} (hr : run step x calls = some y) :
    y.control = (Transition.calls controlEvent (trace step x calls)).foldl Control.apply x.control := by
  let J (s : RtspSession) (taken : List (RtspSession × SessionCall)) : Prop :=
    s.control = (Transition.calls controlEvent taken).foldl Control.apply x.control
  have hstep (s : RtspSession) (taken : List (RtspSession × SessionCall)) (c : SessionCall)
      (t : RtspSession) (h : J s taken) (_ : True) (ht : s.step c = some t) :
      J t (taken ++ [(s, c)]) := by
    obtain ⟨-, rfl⟩ := step_eq_some.mp ht
    show (s.after c).control = _
    rw [calls_concat, List.foldl_append, ← h]
    exact s.after_control c
  have hend : J y ([] ++ trace step x calls) :=
    Along.trace_invariant (I := J) hstep rfl (along_of_run (fun _ _ _ _ => trivial) hr) hr
  exact hend

theorem control_of_bornAs {config : Config} {sid : Nat} (h : x.BornAs config sid) :
    ∃ now, x.control = .ofStart now := by
  obtain ⟨fd, timestamp, garbage, now, heq⟩ := h
  obtain ⟨conn, hconn, rfl⟩ := Option.map_eq_some_iff.mp heq
  unfold Connection.create at hconn
  split at hconn
  · obtain rfl := Option.some.inj hconn
    exact ⟨now, rfl⟩
  · cases hconn

end RtspSession

namespace System

variable {s : System}

/-- What has happened to a session in the course of a run, as far as the decisions go: the
events of its calls, from the session `x` that the constructor left. -/
def controlEvents (x : RtspSession) (sid : Nat) (taken : List (System × Label)) :
    List ControlEvent :=
  calls RtspSession.controlEvent (trace RtspSession.step x (callsOn sid taken))

/-- A sweep takes out of the table the sessions that are due, unless both timeouts are off. -/
theorem checkTimeouts_lookup (h : s.Inv) {fd : Int} {sid : Nat} {y : RtspSession}
    (hfd : s.server.sessions[fd]? = some sid) (hy : s.server.heap sid = some y) (now : Int) :
    (s.server.checkTimeouts now).1.sessions[fd]? =
      if y.control.SweptAt s.server.config now then none else some sid := by
  by_cases hon : 0 < s.server.config.connectionTimeoutSec ∨ 0 < s.server.config.sessionTimeoutSec
  · have hswept := (Server.checkTimeouts_swept_iff h.server now).mpr
      (hon.imp_right fun hsession => .inl hsession)
    by_cases hdue : s.server.config.Due y now
    · rw [if_pos ⟨hon, hdue⟩]
      exact (hswept.removed fd sid y hfd hy hdue).1
    · rw [if_neg fun hsweeps => hdue hsweeps.2, ← hfd]
      exact (hswept.kept fd sid y hfd hy hdue).1
  · have hoff : s.server.checkTimeouts now = (s.server, []) := by
      rw [Server.checkTimeouts, if_pos (by omega)]
    rw [if_neg fun hsweeps => hon hsweeps.1, hoff]
    exact hfd

end System

end RtspForward
