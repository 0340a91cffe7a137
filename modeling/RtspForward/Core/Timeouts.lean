import RtspForward.Api.RtspForward
import RtspForward.Core.SessionSteps

/-!
# The timeout sweep

`CheckTimeouts` is the only place that removes sessions in `kTeardown`, and it returns at
once when neither timeout is positive.
-/
namespace RtspForward

/-- The timeout that applies to a session, by its state. -/
def Config.timeoutFor (c : Config) : RtspSessionState → Int
  | .kInit | .kOptionsSent | .kDescribeSent => c.connectionTimeoutSec
  | .kSetupSent | .kPlaying | .kPaused | .kTeardown => c.sessionTimeoutSec

/-- The session is to be removed: it is in `kTeardown`, or its idle time has reached the
positive timeout that applies to it. -/
def Config.Due (c : Config) (x : RtspSession) (now : Int) : Prop :=
  x.state = .kTeardown ∨
    (0 < c.timeoutFor x.state ∧ c.timeoutFor x.state ≤ now - x.lastActivitySec)

namespace Server

/-- The entry is in neither the table nor the event loop. -/
def Gone (srv : Server) (fd : Int) : Prop :=
  srv.sessions[fd]? = none ∧ srv.kernel.interest fd = none ∧ srv.callbacks fd = none

/-- The table and the event loop have the same entry for the descriptor. -/
def SameEntry (srv srv' : Server) (fd : Int) : Prop :=
  srv'.sessions[fd]? = srv.sessions[fd]? ∧ srv'.kernel.interest fd = srv.kernel.interest fd ∧
    srv'.callbacks fd = srv.callbacks fd

/-- Exactly the sessions that are due are gone, and none in `kTeardown` is left. -/
structure Swept (srv : Server) (now : Int) (srv' : Server) : Prop where
  removed : ∀ (fd : Int) sid x, srv.sessions[fd]? = some sid → srv.heap sid = some x →
    srv.config.Due x now → srv'.Gone fd
  kept : ∀ (fd : Int) sid x, srv.sessions[fd]? = some sid → srv.heap sid = some x →
    ¬ srv.config.Due x now → srv.SameEntry srv' fd
  no_new : ∀ fd : Int, srv.sessions[fd]? = none → srv'.sessions[fd]? = none
  none_down : ∀ (fd : Int) sid x, srv'.sessions[fd]? = some sid → srv'.heap sid = some x →
    x.state ≠ .kTeardown

variable {srv srv' : Server}

theorem isTimedOut_iff (c : Config) (x : RtspSession) (now : Int) :
    x.isTimedOut c.connectionTimeoutSec c.sessionTimeoutSec now = true ↔
      0 < c.timeoutFor x.state ∧ c.timeoutFor x.state ≤ now - x.lastActivitySec := by
  have htimeout : (if x.state = .kInit ∨ x.state = .kOptionsSent ∨ x.state = .kDescribeSent then
      c.connectionTimeoutSec else c.sessionTimeoutSec) = c.timeoutFor x.state := by
    cases x.state <;> rfl
  unfold RtspSession.isTimedOut
  rw [htimeout]
  simp only
  split
  · simp only [Bool.false_eq_true, false_iff]
    omega
  · simp only [ge_iff_le, decide_eq_true_eq]
    omega

/-- What the sweep collects. -/
theorem mem_timedOutFds {now fd : Int} :
    fd ∈ srv.timedOutFds now ↔ ∃ sid x, srv.sessions[fd]? = some sid ∧ srv.heap sid = some x ∧
      srv.config.Due x now := by
  simp only [timedOutFds, List.mem_map, List.mem_filter, Prod.exists, exists_and_right,
    exists_eq_right, Std.TreeMap.mem_toList_iff_getElem?_eq_some]
  constructor
  · intro ⟨sid, hfd, hcond⟩
    cases hx : srv.heap sid with
    | none => simp [hx] at hcond
    | some x =>
      simp only [hx, Bool.or_eq_true, decide_eq_true_eq, isTimedOut_iff] at hcond
      exact ⟨sid, x, hfd, hx, hcond⟩
  · intro ⟨sid, x, hfd, hx, hdue⟩
    refine ⟨sid, hfd, ?_⟩
    simp only [hx, Bool.or_eq_true, decide_eq_true_eq, isTimedOut_iff]
    exact hdue

/-! ## Closing a list of connections -/

theorem closeConnection_sessions (srv : Server) (fd : Int) :
    (srv.closeConnection fd).1.sessions = srv.sessions ∨
      (srv.closeConnection fd).1.sessions = srv.sessions.erase fd := by
  have hremove : (srv.removeFd fd).1.sessions = srv.sessions := by
    unfold removeFd
    split
    · rfl
    · split <;> rfl
  unfold closeConnection
  split
  · exact .inl rfl
  · exact .inr (by simp only [hremove])

theorem closeConnection_callbacks (srv : Server) {fd x : Int} (hne : x ≠ fd) :
    (srv.closeConnection fd).1.callbacks x = srv.callbacks x := by
  unfold closeConnection removeFd
  split
  · rfl
  · split
    · rfl
    · split
      · simp [hne]
      · rfl

theorem closeConnection_same (srv : Server) {fd x : Int} (hne : x ≠ fd) :
    srv.SameEntry (srv.closeConnection fd).1 x := by
  obtain ⟨-, -, -, hinterest, hsessions, -⟩ := closeConnection_frame srv fd
  refine ⟨?_, hinterest x hne, closeConnection_callbacks srv hne⟩
  rw [hsessions, if_neg (Ne.symm hne)]

theorem Gone.closeConnection {x : Int} (h : srv.Gone x) (fd : Int) :
    (srv.closeConnection fd).1.Gone x := by
  by_cases hx : x = fd
  · subst hx
    have hsame : srv.closeConnection x = (srv, []) := by simp [Server.closeConnection, h.1]
    rwa [hsame]
  · obtain ⟨hsessions, hinterest, hcallbacks⟩ := closeConnection_same srv hx
    exact ⟨hsessions.trans h.1, hinterest.trans h.2.1, hcallbacks.trans h.2.2⟩

/-- A connection that is in the table and registered is closed completely. -/
theorem closeConnection_gone {fd : Int} {sid : Nat} (hfd : srv.sessions[fd]? = some sid)
    (hnonneg : 0 ≤ fd) (hregistered : (srv.kernel.interest fd).isSome) :
    (srv.closeConnection fd).1.Gone fd := by
  refine ⟨by rw [(closeConnection_frame srv fd).2.2.2.2.1, if_pos rfl], ?_, ?_⟩
  · simp [Server.closeConnection, hfd, removeFd, hregistered, Kernel.deregister,
      Int.not_lt.mpr hnonneg]
  · simp [Server.closeConnection, hfd, removeFd, hregistered, Int.not_lt.mpr hnonneg]

theorem foldl_sweep_gone {x : Int} (fds : List Int) :
    ∀ acc : Server × List Nat, acc.1.Gone x → (fds.foldl sweep acc).1.Gone x := by
  induction fds with
  | nil => exact fun _ h => h
  | cons fd fds ih =>
    intro acc h
    have hcount : ({ acc.1 with
        timedOutSessions := (acc.1.timedOutSessions + 1) % 2 ^ 64 } : Server).Gone x := h
    exact ih _ (hcount.closeConnection fd)

theorem foldl_sweep_same {x : Int} {fds : List Int} (hx : x ∉ fds) :
    ∀ acc : Server × List Nat, acc.1.SameEntry (fds.foldl sweep acc).1 x := by
  induction fds with
  | nil => exact fun _ => ⟨rfl, rfl, rfl⟩
  | cons fd fds ih =>
    intro acc
    simp only [List.mem_cons, not_or] at hx
    obtain ⟨h₁, h₂, h₃⟩ := ih hx.2 (sweep acc fd)
    obtain ⟨g₁, g₂, g₃⟩ := closeConnection_same
      { acc.1 with timedOutSessions := (acc.1.timedOutSessions + 1) % 2 ^ 64 } hx.1
    exact ⟨h₁.trans g₁, h₂.trans g₂, h₃.trans g₃⟩

/-- By induction up to the first place of the descriptor in the list. -/
theorem foldl_sweep_closes {x : Int} {sid : Nat} {fds : List Int} (hx : x ∈ fds)
    (hnonneg : 0 ≤ x) : ∀ acc : Server × List Nat, acc.1.sessions[x]? = some sid →
      (acc.1.kernel.interest x).isSome → (fds.foldl sweep acc).1.Gone x := by
  induction fds with
  | nil => simp at hx
  | cons fd fds ih =>
    intro acc hsid hregistered
    by_cases hfd : x = fd
    · subst hfd
      exact foldl_sweep_gone fds _ (closeConnection_gone hsid hnonneg hregistered)
    · obtain ⟨hsessions, hinterest, -⟩ := closeConnection_same
        { acc.1 with timedOutSessions := (acc.1.timedOutSessions + 1) % 2 ^ 64 } hfd
      have htail : x ∈ fds := by simpa [hfd] using hx
      exact ih htail (sweep acc fd) (hsessions.trans hsid)
        (by rw [show (sweep acc fd).1.kernel.interest x = _ from hinterest]; exact hregistered)

/-- The sweep is exact, unless it returns at once while a session is in `kTeardown`. -/
theorem checkTimeouts_swept_iff (h : srv.WellFormed) (now : Int) :
    srv.Swept now (srv.checkTimeouts now).1 ↔
      0 < srv.config.connectionTimeoutSec ∨ 0 < srv.config.sessionTimeoutSec ∨
        ∀ (fd : Int) sid x, srv.sessions[fd]? = some sid → srv.heap sid = some x →
          x.state ≠ .kTeardown := by
  by_cases hoff : srv.config.connectionTimeoutSec ≤ 0 ∧ srv.config.sessionTimeoutSec ≤ 0
  · -- neither timeout is positive: nothing happens
    have hsame : srv.checkTimeouts now = (srv, []) := by rw [checkTimeouts, if_pos hoff]
    rw [hsame]
    constructor
    · exact fun hswept => .inr (.inr hswept.none_down)
    · rintro (hpos | hpos | hnone)
      · omega
      · omega
      · refine ⟨fun fd sid x hfd hx hdue => ?_, fun _ _ _ _ _ _ => ⟨rfl, rfl, rfl⟩,
          fun _ hfd => hfd, hnone⟩
        rcases hdue with hdown | ⟨hpos, -⟩
        · exact absurd hdown (hnone fd sid x hfd hx)
        · have hle : srv.config.timeoutFor x.state ≤ 0 := by
            cases x.state <;> simp only [Config.timeoutFor] <;> omega
          omega
  · have hon : srv.checkTimeouts now = (srv.timedOutFds now).foldl sweep (srv, []) := by
      rw [checkTimeouts, if_neg hoff]
    refine ⟨fun _ => by omega, fun _ => ?_⟩
    have hgone : ∀ fd ∈ srv.timedOutFds now, (srv.checkTimeouts now).1.Gone fd := by
      intro fd hfd
      obtain ⟨sid, x, hsid, hx, -⟩ := mem_timedOutFds.mp hfd
      obtain ⟨y, hy, hconn⟩ := h.table fd sid hsid
      rw [hon]
      refine foldl_sweep_closes hfd ?_ _ hsid (h.registered fd sid hsid)
      rw [← hconn]
      exact h.conn_nonneg sid y hy
    have hkept : ∀ fd, fd ∉ srv.timedOutFds now → srv.SameEntry (srv.checkTimeouts now).1 fd := by
      intro fd hfd
      rw [hon]
      exact foldl_sweep_same hfd (srv, [])
    refine ⟨fun fd sid x hfd hx hdue => hgone fd (mem_timedOutFds.mpr ⟨sid, x, hfd, hx, hdue⟩),
      fun fd sid x hfd hx hdue => hkept fd fun hin => ?_, fun fd hfd => ?_,
      fun fd sid x hfd hx hdown => ?_⟩
    · obtain ⟨sid', x', hfd', hx', hdue'⟩ := mem_timedOutFds.mp hin
      obtain rfl := Option.some.inj (hfd.symm.trans hfd')
      obtain rfl := Option.some.inj (hx.symm.trans hx')
      exact hdue hdue'
    · by_cases hin : fd ∈ srv.timedOutFds now
      · exact (hgone fd hin).1
      · exact (hkept fd hin).1.trans hfd
    · obtain ⟨hheap, hsub⟩ := checkTimeouts_frame srv now
      have hold := (hsub fd sid hfd).1
      rw [hheap] at hx
      have hin : fd ∈ srv.timedOutFds now := mem_timedOutFds.mpr ⟨sid, x, hold, hx, .inl hdown⟩
      rw [(hgone fd hin).1] at hfd
      cases hfd

end Server

namespace System

open Lib.Transition

/-- **The sweep removes what is due.** Whatever the configuration and however the server has
run, at any clock reading a sweep removes from the table and from the event loop exactly the
sessions in `kTeardown` and those whose idle time has reached the positive timeout that
applies to them, exactly when one of the two timeouts is positive or no session of the table
is in `kTeardown`. -/
theorem sweep_exact_iff (config : Config) (labels : List Label) (s : System)
    (hs : run step (System.start config) labels = some s) (now : Int) :
    s.server.Swept now (s.server.checkTimeouts now).1 ↔
      0 < config.connectionTimeoutSec ∨ 0 < config.sessionTimeoutSec ∨
        ∀ (fd : Int) sid x, s.server.sessions[fd]? = some sid → s.server.heap sid = some x →
          x.state ≠ .kTeardown := by
  have hinv : s.Inv := run_invariant (fun _ _ _ => step_inv) (start_inv config) hs
  have hiff := Server.checkTimeouts_swept_iff hinv.server now
  rwa [run_config hs] at hiff

/-- A configuration that names the timeouts and nothing else out of the ordinary. -/
def timeoutConfig (connectionTimeoutSec sessionTimeoutSec : Int) : RtspForwardConfig where
  port := 554
  ip := none
  maxSessions := 5
  bufferSize := 512
  sdpContent := none
  connectionTimeoutSec := connectionTimeoutSec
  sessionTimeoutSec := sessionTimeoutSec

/-- The arguments the server gets for it. -/
def timeoutArgs (connectionTimeoutSec sessionTimeoutSec : Int) : ServerArgs where
  maxSessions := 5
  bufferSize := 512
  connectionTimeoutSec := connectionTimeoutSec
  sessionTimeoutSec := sessionTimeoutSec

/-- A session timeout alone: the session is removed at the next sweep. -/
theorem sweep_with_session_timeout :
    ∃ s, rtspForwardCreate (some (timeoutConfig 0 60)) true = .ok (timeoutArgs 0 60) ∧
      run step (System.start ((timeoutArgs 0 60).config 3 4 (by decide))) (tearsDown 7) = some s ∧
      s.server.sessions[(7 : Int)]? = some 0 ∧
      s.server.Swept 1 (s.server.checkTimeouts 1).1 := by
  have hrun : (run step (System.start ((timeoutArgs 0 60).config 3 4 (by decide))) (tearsDown 7)).any
      (fun s => s.server.sessions[(7 : Int)]? = some 0) = true := by
    decide
  obtain ⟨s, hs, hsession⟩ := (Option.any_eq_true _ _).mp hrun
  exact ⟨s, by decide, hs, of_decide_eq_true hsession,
    (sweep_exact_iff _ (tearsDown 7) s hs 1).mpr (.inr (.inl (by decide)))⟩

/-- Without timeouts, as in the sample of the interface's header, the session stays in the
table. -/
theorem sweep_without_timeouts :
    ∃ s x, rtspForwardCreate (some (timeoutConfig 0 0)) true = .ok (timeoutArgs 0 0) ∧
      run step (System.start ((timeoutArgs 0 0).config 3 4 (by decide))) (tearsDown 7) = some s ∧
      (s.server.checkTimeouts 1000).1.sessions[(7 : Int)]? = some 0 ∧
      (s.server.checkTimeouts 1000).1.heap 0 = some x ∧ x.state = .kTeardown ∧
      ¬ s.server.Swept 1000 (s.server.checkTimeouts 1000).1 := by
  have hrun : (run step (System.start ((timeoutArgs 0 0).config 3 4 (by decide))) (tearsDown 7)).any
      (fun s => (s.server.checkTimeouts 1000).1.sessions[(7 : Int)]? = some 0 &&
        ((s.server.checkTimeouts 1000).1.heap 0).any fun x => x.state = .kTeardown) = true := by
    decide
  obtain ⟨s, hs, hfacts⟩ := (Option.any_eq_true _ _).mp hrun
  simp only [Bool.and_eq_true, decide_eq_true_eq] at hfacts
  obtain ⟨x, hx, hdown⟩ := (Option.any_eq_true _ _).mp hfacts.2
  exact ⟨s, x, by decide, hs, hfacts.1, hx, of_decide_eq_true hdown,
    fun hswept => hswept.none_down 7 0 x hfacts.1 hx (of_decide_eq_true hdown)⟩

end System

end RtspForward
