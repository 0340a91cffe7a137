import RtspForward.Core.Lifecycle
import RtspForward.Core.ServerInvariant
import RtspForward.Core.Threads

/-!
# Who holds each descriptor

Every variable of the program that can hold a descriptor is a holder. The steps of a started
server are followed with the moves between them, in the order of the source: a new socket is
first in a local variable of `CreateUdpSocket`, then in a local guard of `HandleSetup`, and
goes through `Release` and `Reset` to a guard of the session.
-/
namespace RtspForward

open Lib Transition Custody

inductive Holder where
  | listener
  | timer
  /-- `client_fd` of `OnNewConnection`. -/
  | clientFd
  /-- `fd` of `CreateUdpSocket`. -/
  | socketFd
  | rtpFdGuard
  | rtcpFdGuard
  /-- The parameter of `Reset`. -/
  | resetFd
  | conn (sid : Nat)
  | udpRtpFd (sid : Nat)
  | udpRtcpFd (sid : Nat)
  deriving DecidableEq, Repr

/-- What a guard holds. -/
def FdGuard.held (g : FdGuard) : Option Int := if g.fd ≥ 0 then some g.fd else none

/-- An event of a handler, as the kernel sees it. -/
def FdEvent.effect : FdEvent → Effect Int
  | .opened fd => .acquired fd
  | .closed fd => .released fd

abbrev DescriptorEvent := Event Holder Int

namespace RtspSession

/-- `CreateUdpSocket`, and the guard that takes its result. -/
def createUdpSocketEvents (o : UdpSocketOutcome) (guard : Holder) : List DescriptorEvent :=
  match o with
  | .socketFailed => []
  | .bindFailed fd => [.acquire .socketFd fd, .release .socketFd]
  | .bound fd => [.acquire .socketFd fd, .move .socketFd guard]

/-- `guard.Reset(local.Release())`. -/
def resetEvents (guard src : Holder) : List DescriptorEvent :=
  [.move src .resetFd, .release guard, .move .resetFd guard]

/-- The UDP branch of `HandleSetup`, with the destructors of its two locals. -/
def setupUdpEvents (sid : Nat) (request : RtspRequest) (env : RequestEnv) : List DescriptorEvent :=
  if request.transport.clientRtpPort = 0 then []
  else
    createUdpSocketEvents env.rtpSocket .rtpFdGuard ++
      createUdpSocketEvents env.rtcpSocket .rtcpFdGuard ++
      (if (createUdpSocket env.rtpSocket).1 < 0 ∨ (createUdpSocket env.rtcpSocket).1 < 0 then []
      else resetEvents (.udpRtpFd sid) .rtpFdGuard ++ resetEvents (.udpRtcpFd sid) .rtcpFdGuard) ++
      [.release .rtcpFdGuard, .release .rtpFdGuard]

/-- `Close`. -/
def closeOrder (sid : Nat) : List Holder := [.udpRtpFd sid, .udpRtcpFd sid]

/-- The destructor; the UDP guards are empty when their own destructors run. -/
def destroyOrder (sid : Nat) : List Holder := closeOrder sid ++ [.conn sid]

/-- `ProcessData`. -/
def requestEvents (sid : Nat) (data : Bytes) (env : RequestEnv) : List DescriptorEvent :=
  match RtspParser.parse data {} with
  | .error _ => []
  | .ok request =>
    match request.method with
    | .kSetup => if request.transport.isUdp then setupUdpEvents sid request env else []
    | .kTeardown => (closeOrder sid).map .release
    | _ => []

end RtspSession

open RtspSession

namespace Lifecycle

/-- What each variable holds. -/
def holders (s : Lifecycle) : Holder → Option Int
  | .listener => s.listener
  | .timer => s.timer
  | .clientFd => s.loop.clientFd
  | .socketFd | .rtpFdGuard | .rtcpFdGuard | .resetFd => none
  | .conn sid => (s.server.heap sid).bind fun x => x.conn.fdGuard.held
  | .udpRtpFd sid => (s.server.heap sid).bind fun x => x.udpRtpFd.held
  | .udpRtcpFd sid => (s.server.heap sid).bind fun x => x.udpRtcpFd.held

/-- The references `sids` are given up. -/
def releaseEvents (s : Lifecycle) (sids : List Nat) : List DescriptorEvent :=
  sids.flatMap fun sid => if s.refers sid then [] else (destroyOrder sid).map .release

def closeConnectionEvents (s : Lifecycle) (fd : Int) (loop : CallbackPc) (held : List Nat) :
    List DescriptorEvent :=
  let closed := s.server.closeConnection fd
  { s with server := closed.1, loop := loop }.releaseEvents (closed.2 ++ held)

def stopEvents (s : Lifecycle) : List DescriptorEvent :=
  match s.stop with
  | .loopStopped => [.release .timer]
  | .timerRemoved =>
    (s.sids.flatMap fun sid => (closeOrder sid).map .release) ++ s.emptied.releaseEvents s.sids
  | .sessionsCleared => [.release .listener]
  | .idle | .runningCleared | .returned => []

/-- What a step does with descriptors. -/
def events (s : Lifecycle) (l : LifecycleLabel) : List DescriptorEvent :=
  match l, s.loop with
  | .accept (some fd), _ => if s.listener.isSome then [.acquire .clientFd fd] else []
  | .checkLimit, _ => if s.server.limitReached then [.release .clientFd] else []
  | .addFd ok, .admitted fd =>
    if (s.server.addFd fd {} .client ok).2.isOk then [] else [.release .clientFd]
  | .create .., _ => [.move .clientFd (.conn s.server.created)]
  | .insert, .created fd sid =>
    { s with
      server := { s.server with sessions := s.server.sessions.insert fd sid }
      loop := .idle }.releaseEvents (s.server.sessions[(fd : Int)]?).toList
  | .request data env, .handling _ sid => requestEvents sid data env
  | .leave, .handling _ sid => { s with loop := .idle }.releaseEvents [sid]
  | .hangUp, .handling fd sid => s.closeConnectionEvents fd .idle [sid]
  | .onError fd, _ => s.closeConnectionEvents fd .idle []
  | .closeNext, .sweeping (fd :: fds) =>
    { s with server := { s.server with
        timedOutSessions := (s.server.timedOutSessions + 1) % 2 ^ 64 } }.closeConnectionEvents fd
      (.sweeping fds) []
  | .stop, _ => s.stopEvents
  | _, _ => []

/-- The events of a whole run. -/
def history : Lifecycle → List LifecycleLabel → List DescriptorEvent
  | _, [] => []
  | s, l :: ls => s.events l ++ (s.step l).elim [] fun t => t.history ls

end Lifecycle

/-! ## The guards -/

theorem FdGuard.close_eq_held (g : FdGuard) : g.close.2 = g.held.toList := by
  unfold FdGuard.close FdGuard.held
  split <;> rfl

theorem FdGuard.held_close (g : FdGuard) : g.close.1.held = none := by
  unfold FdGuard.close FdGuard.held
  split <;> rfl

theorem Kernel.foldl_close_opened (k : Kernel) (fds : List Int) :
    (fds.foldl Kernel.close k).opened =
      fds.foldl (fun opened fd => Function.update opened fd false) k.opened := by
  induction fds generalizing k with
  | nil => rfl
  | cons fd fds ih => exact ih (k.close fd)

/-- The kernel follows the effects of what is passed to it. -/
theorem Kernel.follow_events {es : List FdEvent} : ∀ {k k' : Kernel}, k.events es = some k' →
    follow k.opened (es.map FdEvent.effect) = some k'.opened := by
  induction es with
  | nil =>
    intro k k' h
    obtain rfl := Option.some.inj h
    rfl
  | cons e es ih =>
    intro k k' h
    obtain ⟨k₁, hone, hrest⟩ := Option.bind_eq_some_iff.mp h
    cases e with
    | opened fd =>
      have hone : k.acquire fd = some k₁ := hone
      simp only [List.map_cons, FdEvent.effect, follow]
      unfold Kernel.acquire at hone
      split at hone
      · cases hone
      · rename_i hfree
        rw [if_neg hfree, ← ih hrest, ← Option.some.inj hone]
    | closed fd =>
      obtain rfl := Option.some.inj hone
      exact ih hrest

/-! ## The handlers -/

namespace RtspSession

variable {holds : Holder → Option Int}

/-- A new socket ends up in its guard, or is closed again. -/
theorem createUdpSocket_yields (o : UdpSocketOutcome) (guard : Holder)
    (hguard : holds guard = none) (hsocket : holds .socketFd = none) (hne : guard ≠ .socketFd) :
    Yields holds (createUdpSocketEvents o guard) ((createUdpSocket o).2.map FdEvent.effect)
      (Function.update holds guard (FdGuard.held { fd := (createUdpSocket o).1 })) := by
  cases o with
  | socketFailed =>
    refine ⟨trivial, rfl, ?_⟩
    exact (Function.update_eq_self_iff.mpr hguard.symm).symm
  | bindFailed fd =>
    refine ⟨along_total_cons.mpr ⟨hsocket, along_total_cons.mpr ⟨trivial, trivial⟩⟩, ?_, ?_⟩
    · simp [createUdpSocketEvents, effects, effect, act, createUdpSocket, FdEvent.effect]
    · funext a
      simp only [createUdpSocketEvents, List.foldl_cons, List.foldl_nil, act, createUdpSocket,
        FdGuard.held, Function.update_idem]
      by_cases ha : a = .socketFd
      · simp [ha, hsocket, hne.symm]
      · by_cases hg : a = guard <;> simp [ha, hg, hguard, hne]
  | bound fd =>
    have hempty : Along (total act) EmptyHanded holds (createUdpSocketEvents (.bound fd) guard) := by
      refine along_total_cons.mpr ⟨hsocket, along_total_cons.mpr ⟨⟨hne.symm, ?_⟩, trivial⟩⟩
      simpa [act, hne] using hguard
    refine ⟨hempty, by simp [createUdpSocketEvents, effects, effect, createUdpSocket, FdEvent.effect], ?_⟩
    funext a
    simp only [createUdpSocketEvents, List.foldl_cons, List.foldl_nil, act, createUdpSocket,
      FdGuard.held]
    by_cases ha : a = .socketFd
    · simp [ha, hsocket, hne.symm]
    · by_cases hg : a = guard <;> simp [ha, hg, hne]

/-- The locals of the handlers are empty. -/
structure LocalsEmpty (holds : Holder → Option Int) : Prop where
  socketFd : holds .socketFd = none
  rtpFdGuard : holds .rtpFdGuard = none
  rtcpFdGuard : holds .rtcpFdGuard = none
  resetFd : holds .resetFd = none

/-- The two local guards have been made. -/
def withLocals (holds : Holder → Option Int) (rtp rtcp : Option Int) : Holder → Option Int :=
  Function.update (Function.update holds .rtpFdGuard rtp) .rtcpFdGuard rtcp

/-- The guards of a session have been set. -/
def withUdp (holds : Holder → Option Int) (sid : Nat) (rtp rtcp : Option Int) :
    Holder → Option Int :=
  Function.update (Function.update holds (.udpRtpFd sid) rtp) (.udpRtcpFd sid) rtcp

theorem sockets_yield (h : LocalsEmpty holds) (rtp rtcp : UdpSocketOutcome) :
    Yields holds (createUdpSocketEvents rtp .rtpFdGuard ++ createUdpSocketEvents rtcp .rtcpFdGuard)
      (((createUdpSocket rtp).2 ++ (createUdpSocket rtcp).2).map FdEvent.effect)
      (withLocals holds (FdGuard.held { fd := (createUdpSocket rtp).1 })
        (FdGuard.held { fd := (createUdpSocket rtcp).1 })) := by
  have hrtp := createUdpSocket_yields rtp .rtpFdGuard h.rtpFdGuard h.socketFd (by decide)
  have hrtcp := hrtp.append (createUdpSocket_yields rtcp .rtcpFdGuard
    (by simpa using h.rtcpFdGuard) (by simpa using h.socketFd) (by decide))
  rw [List.map_append]
  exact hrtcp

/-- A failing `HandleSetup` returns: its guards close what they hold. -/
theorem dropLocals_yield (h : LocalsEmpty holds) (rtp rtcp : Option Int) :
    Yields (withLocals holds rtp rtcp) [.release .rtcpFdGuard, .release .rtpFdGuard]
      ((rtcp.toList ++ rtp.toList).map .released) holds := by
  refine ⟨by simp [along_total_cons, EmptyHanded], ?_, ?_⟩
  · simp [effects, effect, act, withLocals]
  · funext a
    simp only [List.foldl_cons, List.foldl_nil, act, withLocals, Function.update_apply]
    cases a <;> simp [h.rtpFdGuard, h.rtcpFdGuard]

/-- The session takes over what the guards hold and closes what it had. -/
theorem takeLocals_yield (h : LocalsEmpty holds) (sid : Nat) (rtp rtcp : Option Int) :
    Yields (withLocals holds rtp rtcp)
      (resetEvents (.udpRtpFd sid) .rtpFdGuard ++ resetEvents (.udpRtcpFd sid) .rtcpFdGuard ++
        [.release .rtcpFdGuard, .release .rtpFdGuard])
      (((holds (.udpRtpFd sid)).toList ++ (holds (.udpRtcpFd sid)).toList).map .released)
      (withUdp holds sid rtp rtcp) := by
  refine ⟨?_, ?_, ?_⟩
  · simp [resetEvents, along_total_cons, EmptyHanded, act, withLocals, h.resetFd]
  · simp [resetEvents, effects, effect, act, withLocals]
  · funext a
    simp only [resetEvents, List.cons_append, List.nil_append, List.foldl_cons, List.foldl_nil, act,
      withLocals, withUdp, Function.update_apply]
    cases a with
    | udpRtpFd a | udpRtcpFd a => by_cases ha : a = sid <;> simp [ha]
    | listener | timer | clientFd | socketFd | rtpFdGuard | rtcpFdGuard | resetFd | conn =>
      simp [h.rtpFdGuard, h.rtcpFdGuard, h.resetFd]

variable {sid : Nat} {s : RtspSession}

/-- The holders have what the guards of the session have. -/
structure HoldsUdp (holds : Holder → Option Int) (sid : Nat) (s : RtspSession) : Prop where
  rtp : holds (.udpRtpFd sid) = s.udpRtpFd.held
  rtcp : holds (.udpRtcpFd sid) = s.udpRtcpFd.held

/-- The guards are those of the session. -/
def sessionUdp (holds : Holder → Option Int) (sid : Nat) (s : RtspSession) : Holder → Option Int :=
  withUdp holds sid s.udpRtpFd.held s.udpRtcpFd.held

/-- The session keeps its guards. -/
theorem yields_kept {t : RtspSession} {es : List DescriptorEvent} {fx : List (Effect Int)}
    (hs : HoldsUdp holds sid s) (h : Yields holds es fx holds) (hrtp : t.udpRtpFd = s.udpRtpFd)
    (hrtcp : t.udpRtcpFd = s.udpRtcpFd) : Yields holds es fx (sessionUdp holds sid t) := by
  unfold sessionUdp withUdp
  rw [hrtp, hrtcp, ← hs.rtp, ← hs.rtcp, Function.update_eq_self, Function.update_eq_self]
  exact h

theorem setupUdp_yields (h : LocalsEmpty holds) (hs : HoldsUdp holds sid s) (request : RtspRequest)
    (env : RequestEnv) : Yields holds (setupUdpEvents sid request env)
      ((s.setupUdp request env).fdEvents.map FdEvent.effect)
      (sessionUdp holds sid (s.setupUdp request env).session) := by
  unfold setupUdpEvents setupUdp
  by_cases hport : request.transport.clientRtpPort = 0
  · simp only [hport, ↓reduceIte]
    exact yields_kept hs (yields_nil holds) rfl rfl
  · have hsockets := sockets_yield h env.rtpSocket env.rtcpSocket
    by_cases hmissing : (createUdpSocket env.rtpSocket).1 < 0 ∨ (createUdpSocket env.rtcpSocket).1 < 0
    · have hvalid : (({ fd := (createUdpSocket env.rtpSocket).1 } : FdGuard).isValid = false) ∨
          (({ fd := (createUdpSocket env.rtcpSocket).1 } : FdGuard).isValid = false) := by
        simpa [FdGuard.isValid] using hmissing
      have hdrop := hsockets.append (dropLocals_yield h _ _)
      simp only [hport, hmissing, hvalid, ↓reduceIte, List.append_nil]
      refine yields_kept hs ?_ rfl rfl
      simpa [respond, FdGuard.close_eq_held, FdEvent.effect, Function.comp_def] using hdrop
    · have hvalid : ¬ ((({ fd := (createUdpSocket env.rtpSocket).1 } : FdGuard).isValid = false) ∨
          (({ fd := (createUdpSocket env.rtcpSocket).1 } : FdGuard).isValid = false)) := by
        simpa [FdGuard.isValid] using hmissing
      have htake := hsockets.append (takeLocals_yield h sid _ _)
      rw [hs.rtp, hs.rtcp] at htake
      simp only [hport, hmissing, hvalid, ↓reduceIte]
      simpa [respond, Handled.setState, setState, FdGuard.reset, FdGuard.close_eq_held, sessionUdp,
        FdEvent.effect, Function.comp_def] using htake

theorem filterMap_closeOrder (hs : HoldsUdp holds sid s) :
    (closeOrder sid).filterMap holds = s.udpRtpFd.close.2 ++ s.udpRtcpFd.close.2 := by
  rw [FdGuard.close_eq_held, FdGuard.close_eq_held, ← hs.rtp, ← hs.rtcp]
  simp only [closeOrder, List.filterMap_cons, List.filterMap_nil]
  cases holds (.udpRtpFd sid) <;> cases holds (.udpRtcpFd sid) <;> rfl

theorem closeOrder_holds (holds : Holder → Option Int) (sid : Nat) :
    (fun a => if a ∈ closeOrder sid then none else holds a) = withUdp holds sid none none := by
  funext a
  simp only [closeOrder, withUdp, Function.update_apply, List.mem_cons, List.not_mem_nil, or_false]
  by_cases hrtp : a = .udpRtpFd sid <;> by_cases hrtcp : a = .udpRtcpFd sid <;> simp [hrtp, hrtcp]

theorem close_yields (hs : HoldsUdp holds sid s) :
    Yields holds ((closeOrder sid).map Event.release) (s.close.2.map FdEvent.effect)
      (sessionUdp holds sid s.close.1) := by
  have hnodup : (closeOrder sid).Nodup := by simp [closeOrder]
  have hreleases := yields_releases hnodup holds
  rw [filterMap_closeOrder hs, closeOrder_holds] at hreleases
  simpa [RtspSession.close, sessionUdp, FdGuard.held_close, FdEvent.effect, Function.comp_def]
    using hreleases

/-- What `ProcessData` does with descriptors is what the kernel sees of it. -/
theorem processData_yields (h : LocalsEmpty holds) (hs : HoldsUdp holds sid s) (data : Bytes)
    (env : RequestEnv) : Yields holds (requestEvents sid data env)
      ((s.processData data env).fdEvents.map FdEvent.effect)
      (sessionUdp holds sid (s.processData data env).session) := by
  unfold requestEvents
  rcases s.processData_cases env data with ⟨status, hparse, heq⟩ | ⟨request, hparse, heq⟩
  · rw [heq]
    simp only [hparse]
    exact yields_kept hs (yields_nil holds) rfl rfl
  · rw [heq]
    simp only [hparse]
    unfold handleRequest
    cases hm : request.method with
    | kTeardown =>
      simp only
      exact close_yields ⟨hs.rtp, hs.rtcp⟩
    | kSetup =>
      simp only [handleSetup]
      by_cases hudp : request.transport.isUdp = true
      · simp only [hudp, ↓reduceIte]
        refine setupUdp_yields h ?_ request env
        exact ⟨hs.rtp, hs.rtcp⟩
      · simp only [hudp, Bool.false_eq_true, ↓reduceIte]
        split <;> exact yields_kept hs (yields_nil holds) rfl rfl
    | kDescribe =>
      simp only [handleDescribe]
      split <;> exact yields_kept hs (yields_nil holds) rfl rfl
    | kUnknown | kOptions | kPlay | kPause | kGetParameter | kSetParameter =>
      simp only
      exact yields_kept hs (yields_nil holds) rfl rfl

end RtspSession

/-! ## The steps -/

namespace Lifecycle

variable {s t u : Lifecycle}

/-- The events lead from the holders and the open descriptors of one state to those of
another. -/
structure Accounts (s t : Lifecycle) (es : List DescriptorEvent) : Prop where
  emptyHanded : Along (total act) EmptyHanded s.holders es
  holders_eq : es.foldl act s.holders = t.holders
  opened_eq : follow s.server.kernel.opened (effects s.holders es) = some t.server.kernel.opened

theorem accounts_of_yields {es : List DescriptorEvent} {fx : List (Effect Int)}
    (h : Yields s.holders es fx t.holders)
    (hopened : follow s.server.kernel.opened fx = some t.server.kernel.opened) : Accounts s t es :=
  ⟨h.emptyHanded, h.holds_eq, h.effects_eq ▸ hopened⟩

theorem accounts_nil (hholders : t.holders = s.holders)
    (hopened : t.server.kernel.opened = s.server.kernel.opened) : Accounts s t [] :=
  ⟨trivial, hholders.symm, congrArg some hopened.symm⟩

theorem Accounts.append {es es' : List DescriptorEvent} (h : Accounts s t es)
    (h' : Accounts t u es') : Accounts s u (es ++ es') := by
  obtain ⟨hempty, hholders, hopened⟩ := h
  obtain ⟨hempty', hholders', hopened'⟩ := h'
  rw [← hholders] at hempty' hopened'
  refine ⟨emptyHanded_append.mpr ⟨hempty, hempty'⟩, ?_, ?_⟩
  · rw [List.foldl_append, hholders, hholders']
  · rw [effects_append, follow_append, hopened]
    exact hopened'

/-- Some holders give up what they have. -/
theorem accounts_releases (hs : List Holder) (hnodup : hs.Nodup)
    (hholders : (fun a => if a ∈ hs then none else s.holders a) = t.holders)
    (hopened : t.server.kernel.opened = ((hs.filterMap s.holders).foldl Kernel.close
      s.server.kernel).opened) : Accounts s t (hs.map .release) := by
  refine accounts_of_yields (hholders ▸ yields_releases hnodup s.holders) ?_
  rw [follow_released, hopened, Kernel.foldl_close_opened]

theorem holders_localsEmpty (s : Lifecycle) : LocalsEmpty s.holders := ⟨rfl, rfl, rfl, rfl⟩

theorem holders_holdsUdp {sid : Nat} {x : RtspSession} (hs : s.server.heap sid = some x) :
    HoldsUdp s.holders sid x := by
  constructor <;> simp [holders, hs]

/-- A session is replaced by one with the same connection. -/
theorem sessionUdp_holders {sid : Nat} {x : RtspSession} (hs : s.server.heap sid = some x)
    (x' : RtspSession) (srv : Server) (hheap : srv.heap = (s.server.setSession sid x').heap)
    (hconn : x'.conn.fdGuard = x.conn.fdGuard) :
    sessionUdp s.holders sid x' = ({ s with server := srv } : Lifecycle).holders := by
  funext a
  simp only [sessionUdp, withUdp, Function.update_apply]
  cases a with
  | udpRtpFd a | udpRtcpFd a | conn a =>
    by_cases ha : a = sid <;> simp [ha, holders, hheap, Server.setSession, hs, hconn]
  | listener | timer | clientFd | socketFd | rtpFdGuard | rtcpFdGuard | resetFd => simp [holders]

/-- Holders that have nothing give nothing up. -/
theorem accounts_releases_none (hs : List Holder) (hnodup : hs.Nodup)
    (hnone : ∀ a ∈ hs, s.holders a = none) : Accounts s s (hs.map .release) := by
  refine accounts_releases _ hnodup (funext fun a => ?_) ?_
  · split
    · rename_i ha
      exact (hnone a ha).symm
    · rfl
  · rw [List.filterMap_eq_nil_iff.mpr hnone]
    rfl

theorem destroyOrder_nodup (sid : Nat) : (destroyOrder sid).Nodup := by
  simp [destroyOrder, closeOrder]

theorem mem_destroyOrder {sid : Nat} {a : Holder} : a ∈ destroyOrder sid ↔
    a = .udpRtpFd sid ∨ a = .udpRtcpFd sid ∨ a = .conn sid := by
  simp [destroyOrder, closeOrder]

/-- The guards of a session that does not exist hold nothing. -/
theorem holders_of_none {sid : Nat} (hs : s.server.heap sid = none) {a : Holder}
    (ha : a ∈ destroyOrder sid) : s.holders a = none := by
  rcases mem_destroyOrder.mp ha with rfl | rfl | rfl <;> simp [holders, hs]

theorem closeSession_accounts (s : Lifecycle) (sid : Nat) :
    Accounts s { s with server := s.server.closeSession sid } ((closeOrder sid).map .release) := by
  have hnodup : (closeOrder sid).Nodup := by simp [closeOrder]
  unfold Server.closeSession
  cases hs : s.server.heap sid with
  | none =>
    refine accounts_releases_none _ hnodup fun a ha => holders_of_none hs ?_
    exact List.mem_append_left _ ha
  | some x =>
    refine accounts_releases _ hnodup ?_ ?_
    · refine Eq.trans ?_ (sessionUdp_holders hs x.close.1 _ rfl rfl)
      rw [closeOrder_holds]
      simp [sessionUdp, RtspSession.close, FdGuard.held_close]
    · rw [filterMap_closeOrder (holders_holdsUdp hs)]

theorem destroy_accounts (s : Lifecycle) (sid : Nat) :
    Accounts s { s with server := s.server.destroy sid } ((destroyOrder sid).map .release) := by
  unfold Server.destroy
  cases hs : s.server.heap sid with
  | none => exact accounts_releases_none _ (destroyOrder_nodup sid) fun a ha => holders_of_none hs ha
  | some x =>
    refine accounts_releases _ (destroyOrder_nodup sid) (funext fun a => ?_) ?_
    · cases a with
      | udpRtpFd a | udpRtcpFd a | conn a =>
        by_cases ha : a = sid <;> simp [ha, mem_destroyOrder, holders]
      | listener | timer | clientFd | socketFd | rtpFdGuard | rtcpFdGuard | resetFd =>
        simp [mem_destroyOrder, holders]
    · have hconn : [Holder.conn sid].filterMap s.holders = x.conn.fdGuard.close.2 := by
        rw [FdGuard.close_eq_held]
        simp only [List.filterMap_cons, List.filterMap_nil, holders, hs, Option.bind_some]
        cases x.conn.fdGuard.held <;> rfl
      rw [destroyOrder, List.filterMap_append, filterMap_closeOrder (holders_holdsUdp hs), hconn]

theorem releaseOne_accounts (s : Lifecycle) (sid : Nat) : Accounts s (s.releaseOne sid)
    (if s.refers sid then [] else (destroyOrder sid).map .release) := by
  unfold releaseOne
  split
  · exact accounts_nil rfl rfl
  · exact destroy_accounts s sid

theorem releaseOne_refers (s : Lifecycle) (sid : Nat) : (s.releaseOne sid).refers = s.refers := by
  have hdestroy : (s.server.destroy sid).sessions = s.server.sessions := by
    unfold Server.destroy
    split <;> rfl
  funext a
  unfold releaseOne
  split
  · rfl
  · unfold refers
    rw [hdestroy]

/-- The sessions that nobody else refers to go. -/
theorem release_accounts (sids : List Nat) : ∀ s : Lifecycle,
    Accounts s (s.release sids) (s.releaseEvents sids) := by
  induction sids with
  | nil => exact fun s => accounts_nil rfl rfl
  | cons sid sids ih =>
    intro s
    have hrest : (s.releaseOne sid).releaseEvents sids = s.releaseEvents sids := by
      unfold releaseEvents
      rw [releaseOne_refers]
    have hlater := ih (s.releaseOne sid)
    rw [hrest] at hlater
    exact (releaseOne_accounts s sid).append hlater

theorem closeSessions_accounts (sids : List Nat) : ∀ s : Lifecycle,
    Accounts s { s with server := sids.foldl Server.closeSession s.server }
      (sids.flatMap fun sid => (closeOrder sid).map .release) := by
  induction sids with
  | nil => exact fun s => accounts_nil rfl rfl
  | cons sid sids ih =>
    intro s
    exact (closeSession_accounts s sid).append (ih { s with server := s.server.closeSession sid })

theorem holders_eq {s t : Lifecycle} (hlistener : t.listener = s.listener) (htimer : t.timer = s.timer)
    (hloop : t.loop.clientFd = s.loop.clientFd) (hheap : t.server.heap = s.server.heap) :
    t.holders = s.holders := by
  funext a
  cases a <;> simp [holders, hlistener, htimer, hloop, hheap]

theorem clearSessions_accounts (s : Lifecycle) : Accounts s s.clearSessions
    ((s.sids.flatMap fun sid => (closeOrder sid).map .release) ++ s.emptied.releaseEvents s.sids) := by
  have hclose := closeSessions_accounts s.sids s
  have hempty : Accounts { s with server := s.sids.foldl Server.closeSession s.server } s.emptied [] :=
    accounts_nil (holders_eq rfl rfl rfl rfl) rfl
  have hemptied := hclose.append hempty
  rw [List.append_nil] at hemptied
  exact hemptied.append (release_accounts s.sids s.emptied)

theorem closeConnection_accounts (s : Lifecycle) (fd : Int) (loop : CallbackPc)
    (hloop : loop.clientFd = s.loop.clientFd) (held : List Nat) :
    Accounts s (s.closeConnection fd loop held) (s.closeConnectionEvents fd loop held) := by
  obtain ⟨hheap, -, hopened, -⟩ := Server.closeConnection_frame s.server fd
  have hsame : Accounts s { s with server := (s.server.closeConnection fd).1, loop := loop } [] :=
    accounts_nil (holders_eq rfl rfl hloop hheap) hopened
  exact hsame.append (release_accounts _ _)

theorem reject_accounts {fd : Nat} (hfd : s.loop.clientFd = some (fd : Int)) :
    Accounts s (s.reject fd) [.release .clientFd] := by
  refine accounts_releases [.clientFd] (by simp) (funext fun a => ?_) ?_
  · cases a <;> simp [reject, holders, CallbackPc.clientFd]
  · simp [reject, holders, hfd]

theorem removeTimer_accounts (s : Lifecycle) : Accounts s s.removeTimer [.release .timer] := by
  unfold removeTimer
  split
  · rename_i htimer
    exact accounts_releases_none [.timer] (by simp) (by simpa [holders] using htimer)
  · rename_i fd htimer
    obtain ⟨hheap, -, -, hopened, -⟩ := Server.removeFd_frame s.server fd
    refine accounts_releases [.timer] (by simp) (funext fun a => ?_) ?_
    · cases a <;> simp [holders, hheap]
    · simp [holders, htimer, Kernel.close, hopened]

theorem closeListener_accounts (s : Lifecycle) : Accounts s s.closeListener [.release .listener] := by
  unfold closeListener
  split
  · rename_i hlistener
    exact accounts_releases_none [.listener] (by simp) (by simpa [holders] using hlistener)
  · rename_i fd hlistener
    refine accounts_releases [.listener] (by simp) (funext fun a => ?_) ?_
    · cases a <;> simp [holders]
    · simp [holders, hlistener, Kernel.close]

/-- The client's descriptor moves from the local variable into the connection. -/
theorem create_accounts {fd timestamp seq bufferSize : Nat} {now : Int} {garbage : Nat → UInt8}
    {session : RtspSession} (hloop : s.loop = .added fd)
    (hnone : s.server.heap s.server.created = none)
    (hs : RtspSession.create fd bufferSize garbage timestamp seq now = some session)
    (hheap : t.server.heap = Function.update s.server.heap s.server.created (some session))
    (hkernel : t.server.kernel = s.server.kernel) (hlistener : t.listener = s.listener)
    (htimer : t.timer = s.timer) (htloop : t.loop.clientFd = none) :
    Accounts s t [.move .clientFd (.conn s.server.created)] := by
  have hconn := (Server.create_fresh hs).fd_eq
  obtain ⟨conn, -, rfl⟩ := Option.map_eq_some_iff.mp hs
  refine ⟨?_, ?_, ?_⟩
  · exact along_total_cons.mpr ⟨⟨by simp, by simp [holders, hnone]⟩, trivial⟩
  · funext a
    have hfd : conn.fdGuard.fd = (fd : Int) := hconn
    simp only [List.foldl_cons, List.foldl_nil, act]
    cases a with
    | conn a | udpRtpFd a | udpRtcpFd a =>
      by_cases ha : a = s.server.created <;>
        simp [ha, holders, hheap, hnone, hloop, CallbackPc.clientFd, FdGuard.held, hfd]
    | listener | timer | clientFd | socketFd | rtpFdGuard | rtcpFdGuard | resetFd =>
      simp [holders, hlistener, htimer, htloop]
  · simp [effects, effect, follow, hkernel]

/-- **The moves of a step.** -/
theorem step_accounts {l : LifecycleLabel} (hfresh : s.server.heap s.server.created = none)
    (hstep : s.step l = some t) : Accounts s t (s.events l) := by
  cases step_cases hstep with
  | @refuse client hloop hnone =>
    have hevents : s.events (.accept client) = [] := by
      rcases hnone with hnone | rfl
      · cases client <;> simp [events, hnone]
      · rfl
    rw [hevents]
    exact accounts_nil rfl rfl
  | @accept fd kernel hloop hlistener hk =>
    simp only [events, hlistener, ↓reduceIte]
    refine ⟨?_, ?_, ?_⟩
    · exact along_total_cons.mpr ⟨by simp [EmptyHanded, holders, hloop, CallbackPc.clientFd], trivial⟩
    · funext a
      cases a <;> simp [act, holders, CallbackPc.clientFd]
    · have hevents : s.server.kernel.events [.opened fd] = some kernel := by
        simpa [Kernel.events, Kernel.event] using hk
      exact Kernel.follow_events hevents
  | @overLimit fd hloop hlimit =>
    simp only [events, hlimit, ↓reduceIte]
    exact reject_accounts (by simp [hloop, CallbackPc.clientFd])
  | @underLimit fd hloop hlimit =>
    simp only [events, hlimit, Bool.false_eq_true, ↓reduceIte]
    exact accounts_nil (holders_eq rfl rfl (by simp [hloop, CallbackPc.clientFd]) rfl) rfl
  | @addFailed fd ok hloop hok =>
    obtain ⟨hheap, -, hopened⟩ := Server.addFd_frame s.server fd {} .client ok
    simp only [events, hloop, hok, Bool.false_eq_true, ↓reduceIte]
    have hsame : Accounts s { s with server := (s.server.addFd fd {} .client ok).1 } [] :=
      accounts_nil (holders_eq rfl rfl rfl hheap) hopened
    exact hsame.append (reject_accounts (by simp [hloop, CallbackPc.clientFd]))
  | @add fd ok hloop hok =>
    obtain ⟨hheap, -, hopened⟩ := Server.addFd_frame s.server fd {} .client ok
    simp only [events, hloop, hok, ↓reduceIte]
    exact accounts_nil (holders_eq rfl rfl (by simp [hloop, CallbackPc.clientFd]) hheap) hopened
  | @create fd timestamp now garbage session hloop hs =>
    exact create_accounts hloop hfresh hs rfl rfl rfl rfl rfl
  | @insert fd sid hloop =>
    simp only [events, hloop]
    have hsame : Accounts s { s with
        server := { s.server with sessions := s.server.sessions.insert fd sid }
        loop := .idle } [] :=
      accounts_nil (holders_eq rfl rfl (by simp [hloop, CallbackPc.clientFd]) rfl) rfl
    exact hsame.append (release_accounts _ _)
  | absent hloop hnone => exact accounts_nil rfl rfl
  | lookUp hloop hsome =>
    exact accounts_nil (holders_eq rfl rfl (by simp [hloop, CallbackPc.clientFd]) rfl) rfl
  | @request fd sid data env session kernel hloop hs hk =>
    have hevents : s.events (.request data env) = requestEvents sid data env := by
      simp only [events, hloop]
    have hyields := processData_yields (holders_localsEmpty s) (holders_holdsUdp hs) data env
    obtain ⟨w, hw⟩ := session.processData_frame env data
    have hconn : ((session.processData data env).session.consume data.length).conn.fdGuard =
        session.conn.fdGuard := by
      simp only [RtspSession.consume, Connection.consume, hw]
    have hholders := sessionUdp_holders hs
      ((session.processData data env).session.consume data.length)
      ({ s.server with kernel := kernel }.setSession sid
        ((session.processData data env).session.consume data.length)) rfl hconn
    refine accounts_of_yields ?_ (Kernel.follow_events hk)
    rw [hevents, ← hholders]
    exact hyields
  | @leave fd sid hloop =>
    simp only [events, hloop]
    have hsame : Accounts s { s with loop := .idle } [] :=
      accounts_nil (holders_eq rfl rfl (by simp [hloop, CallbackPc.clientFd]) rfl) rfl
    exact hsame.append (release_accounts _ _)
  | @hangUp fd sid hloop =>
    simp only [events, hloop]
    exact closeConnection_accounts s fd .idle (by simp [hloop, CallbackPc.clientFd]) [sid]
  | @onError fd hloop =>
    exact closeConnection_accounts s fd .idle (by simp [hloop, CallbackPc.clientFd]) []
  | collectNone hloop => exact accounts_nil rfl rfl
  | collect hloop =>
    exact accounts_nil (holders_eq rfl rfl (by simp [hloop, CallbackPc.clientFd]) rfl) rfl
  | swept hloop =>
    simp only [events, hloop]
    exact accounts_nil (holders_eq rfl rfl (by simp [hloop, CallbackPc.clientFd]) rfl) rfl
  | @closeNext fd fds hloop =>
    simp only [events, hloop]
    obtain ⟨hempty, hholders, hopened⟩ := closeConnection_accounts { s with server := { s.server with
      timedOutSessions := (s.server.timedOutSessions + 1) % 2 ^ 64 } } fd (.sweeping fds)
      (by simp [hloop, CallbackPc.clientFd]) []
    exact ⟨hempty, hholders, hopened⟩
  | exitRun hloop hrunning =>
    exact accounts_nil (holders_eq rfl rfl (by simp [hloop, CallbackPc.clientFd]) rfl) rfl
  | clearRunning hstop =>
    simp only [events, stopEvents, hstop]
    exact accounts_nil (holders_eq rfl rfl rfl rfl) rfl
  | notRunning hstop hrunning =>
    simp only [events, stopEvents, hstop]
    exact accounts_nil (holders_eq rfl rfl rfl rfl) rfl
  | stopLoop hstop =>
    simp only [events, stopEvents, hstop]
    exact accounts_nil (holders_eq rfl rfl rfl rfl) rfl
  | removeTimer hstop =>
    simp only [events, stopEvents, hstop]
    obtain ⟨hempty, hholders, hopened⟩ := removeTimer_accounts s
    exact ⟨hempty, hholders, hopened⟩
  | clearSessions hstop =>
    simp only [events, stopEvents, hstop]
    obtain ⟨hempty, hholders, hopened⟩ := clearSessions_accounts s
    exact ⟨hempty, hholders, hopened⟩
  | closeListener hstop =>
    simp only [events, stopEvents, hstop]
    obtain ⟨hempty, hholders, hopened⟩ := closeListener_accounts s
    exact ⟨hempty, hholders, hopened⟩

end Lifecycle

/-! ## Both UDP sockets or none -/

/-- New sessions get new names, and no session has one UDP socket only. -/
structure Server.SessionsPaired (srv : Server) : Prop where
  fresh : ∀ sid, srv.created ≤ sid → srv.heap sid = none
  paired : ∀ sid x, srv.heap sid = some x → x.udpRtpFd.isValid = x.udpRtcpFd.isValid

namespace Server

variable {srv srv' : Server}

theorem SessionsPaired.of_heap (h : srv.SessionsPaired) (hheap : srv'.heap = srv.heap)
    (hcreated : srv'.created = srv.created) : srv'.SessionsPaired := by
  refine ⟨?_, ?_⟩
  · rw [hheap, hcreated]
    exact h.fresh
  · rw [hheap]
    exact h.paired

/-- A session is replaced by another one with both sockets or none, or goes. -/
theorem SessionsPaired.update (h : srv.SessionsPaired) {sid : Nat} {x : RtspSession}
    (hs : srv.heap sid = some x) (new : Option RtspSession)
    (hnew : ∀ x' ∈ new, x'.udpRtpFd.isValid = x'.udpRtcpFd.isValid)
    (hheap : srv'.heap = Function.update srv.heap sid new) (hcreated : srv'.created = srv.created) :
    srv'.SessionsPaired := by
  refine ⟨fun a ha => ?_, fun a x' hx' => ?_⟩
  · have hne : a ≠ sid := by
      rintro rfl
      rw [h.fresh a (hcreated ▸ ha)] at hs
      cases hs
    rw [hheap, Function.update_of_ne hne]
    exact h.fresh a (hcreated ▸ ha)
  · rw [hheap] at hx'
    by_cases ha : a = sid
    · rw [ha, Function.update_self] at hx'
      exact hnew x' hx'
    · rw [Function.update_of_ne ha] at hx'
      exact h.paired a x' hx'

theorem SessionsPaired.destroy (h : srv.SessionsPaired) (sid : Nat) :
    (srv.destroy sid).SessionsPaired := by
  unfold Server.destroy
  cases hs : srv.heap sid with
  | none => exact h
  | some x => exact h.update hs none (by simp) rfl rfl

theorem isValid_close (g : FdGuard) : g.close.1.isValid = false := by
  unfold FdGuard.close FdGuard.isValid
  split <;> simp_all

theorem SessionsPaired.closeSession (h : srv.SessionsPaired) (sid : Nat) :
    (srv.closeSession sid).SessionsPaired := by
  unfold Server.closeSession
  cases hs : srv.heap sid with
  | none => exact h
  | some x =>
    refine h.update hs (some x.close.1) (fun x' hx' => ?_) rfl rfl
    obtain rfl := Option.some.inj hx'
    simp [RtspSession.close, isValid_close]

/-- A request keeps both guards, sets both or closes both. -/
theorem processData_paired {x : RtspSession} (h : x.udpRtpFd.isValid = x.udpRtcpFd.isValid)
    (data : Bytes) (env : RequestEnv) :
    (x.processData data env).session.udpRtpFd.isValid =
      (x.processData data env).session.udpRtcpFd.isValid := by
  have hmedia := RtspSession.processData_media x ⟨data, env⟩
  have hrtp := congrArg Media.udpRtpFd hmedia
  have hrtcp := congrArg Media.udpRtcpFd hmedia
  simp only [RtspSession.media] at hrtp hrtcp
  rw [hrtp, hrtcp]
  unfold Action.apply
  cases Request.action ⟨data, env⟩ with
  | setupUdp rtpFd rtcpFd transport peer => simp [FdGuard.isValid]
  | teardown => simp [isValid_close]
  | ignored | options | describe | setupTcp | play | pause => exact h

end Server

namespace Lifecycle

variable {s t u : Lifecycle} {l : LifecycleLabel}

theorem release_paired (sids : List Nat) : ∀ {s : Lifecycle}, s.server.SessionsPaired →
    (s.release sids).server.SessionsPaired := by
  induction sids with
  | nil => exact fun h => h
  | cons sid sids ih =>
    intro s h
    have hone : (s.releaseOne sid).server.SessionsPaired := by
      unfold releaseOne
      split
      · exact h
      · exact h.destroy sid
    exact ih hone

theorem closeConnection_paired (h : s.server.SessionsPaired) (fd : Int) (loop : CallbackPc)
    (held : List Nat) : (s.closeConnection fd loop held).server.SessionsPaired := by
  apply release_paired
  obtain ⟨hheap, hcreated, -⟩ := Server.closeConnection_frame s.server fd
  exact h.of_heap hheap hcreated

theorem clearSessions_paired (h : s.server.SessionsPaired) :
    s.clearSessions.server.SessionsPaired := by
  have hclose (sids : List Nat) : ∀ {srv : Server}, srv.SessionsPaired →
      (sids.foldl Server.closeSession srv).SessionsPaired := by
    induction sids with
    | nil => exact fun h => h
    | cons sid sids ih => exact fun h => ih (h.closeSession sid)
  apply release_paired
  exact (hclose s.sids h).of_heap rfl rfl

theorem step_paired (h : s.server.SessionsPaired) (hstep : s.step l = some t) :
    t.server.SessionsPaired := by
  cases step_cases hstep with
  | @create fd timestamp now garbage session hloop hs =>
    obtain ⟨conn, -, rfl⟩ := Option.map_eq_some_iff.mp hs
    refine ⟨fun a ha => ?_, fun a x hx => ?_⟩
    · have ha : s.server.created + 1 ≤ a := ha
      show Function.update s.server.heap s.server.created _ a = none
      rw [Function.update_of_ne (by omega)]
      exact h.fresh a (by omega)
    · have hx : Function.update s.server.heap s.server.created _ a = some x := hx
      by_cases ha : a = s.server.created
      · rw [ha, Function.update_self] at hx
        obtain rfl := Option.some.inj hx
        rfl
      · rw [Function.update_of_ne ha] at hx
        exact h.paired a x hx
  | @request fd sid data env session kernel hloop hs hk =>
    refine h.update hs (some _) (fun x' hx' => ?_) rfl rfl
    obtain rfl := Option.some.inj hx'
    exact Server.processData_paired (h.paired sid session hs) data env
  | @addFailed fd ok hloop hok | @add fd ok hloop hok =>
    obtain ⟨hheap, hcreated, -⟩ := Server.addFd_frame s.server fd {} .client ok
    exact h.of_heap hheap hcreated
  | insert =>
    apply release_paired
    exact h.of_heap rfl rfl
  | leave =>
    apply release_paired
    exact h
  | hangUp | onError => exact closeConnection_paired h _ _ _
  | closeNext =>
    refine closeConnection_paired (s := { s with server := { s.server with
      timedOutSessions := (s.server.timedOutSessions + 1) % 2 ^ 64 } }) ?_ _ _ _
    exact h.of_heap rfl rfl
  | removeTimer =>
    show s.removeTimer.server.SessionsPaired
    unfold removeTimer
    split
    · exact h
    · rename_i fd htimer
      obtain ⟨hheap, hcreated, -⟩ := Server.removeFd_frame s.server fd
      exact h.of_heap hheap hcreated
  | clearSessions => exact clearSessions_paired h
  | closeListener =>
    show s.closeListener.server.SessionsPaired
    unfold closeListener
    split
    · exact h
    · exact h.of_heap rfl rfl
  | refuse | absent | lookUp | collectNone | collect | swept | exitRun | notRunning | stopLoop => exact h
  | accept | overLimit | underLimit | clearRunning => exact h.of_heap rfl rfl

/-- The sessions have both UDP sockets or none, and every open descriptor is in one hand. -/
structure Inv (s : Lifecycle) : Prop where
  sessions : s.server.SessionsPaired
  linear : Linear s.holders s.server.kernel.opened

theorem holders_start (config : Config) (a : Holder) (fd : Int) :
    (start config).holders a = some fd ↔
      (a = .listener ∧ fd = config.listenerFd) ∨ (a = .timer ∧ fd = config.timerFd) := by
  cases a <;> simp [holders, start, Server.start, CallbackPc.clientFd, eq_comm]

theorem start_inv (config : Config) : (start config).Inv where
  sessions := ⟨fun _ _ => rfl, fun _ _ h => by cases h⟩
  linear := by
    refine ⟨fun fd => ?_, fun a b fd ha hb => ?_⟩
    · show (decide (fd = config.listenerFd) || decide (fd = config.timerFd)) = true ↔ _
      simp [holders_start, exists_or]
    · have hne := config.listener_ne_timer
      rcases (holders_start config a fd).mp ha with ⟨rfl, hfd⟩ | ⟨rfl, hfd⟩ <;>
        rcases (holders_start config b fd).mp hb with ⟨rfl, hfd'⟩ | ⟨rfl, hfd'⟩
      · rfl
      · exact absurd (hfd.symm.trans hfd') hne
      · exact absurd (hfd'.symm.trans hfd) hne
      · rfl

theorem step_inv (h : s.Inv) (hstep : s.step l = some t) : t.Inv := by
  obtain ⟨hempty, hholders, hopened⟩ := step_accounts (h.sessions.fresh _ le_rfl) hstep
  refine ⟨step_paired h.sessions hstep, ?_⟩
  rw [← hholders]
  exact (h.linear.run hempty hopened).1

theorem history_accounts {labels : List LifecycleLabel} : ∀ {s : Lifecycle}, s.Inv →
    run step s labels = some u → Accounts s u (s.history labels) := by
  induction labels with
  | nil =>
    intro s _ hr
    obtain rfl := Option.some.inj hr
    exact accounts_nil rfl rfl
  | cons l ls ih =>
    intro s h hr
    obtain ⟨t, ht, hr⟩ := run_cons.mp hr
    have hfirst := step_accounts (h.sessions.fresh _ le_rfl) ht
    have hlater := ih (step_inv h ht) hr
    simp only [history, ht, Option.elim_some]
    exact hfirst.append hlater

/-! ## Destruction -/

theorem releaseEvents_eq (s : Lifecycle) (sids : List Nat) :
    s.releaseEvents sids =
      (sids.flatMap fun sid => if s.refers sid then [] else destroyOrder sid).map .release := by
  unfold releaseEvents
  rw [List.map_flatMap]
  congr 1
  funext sid
  split <;> rfl

/-- A step that ends a session only gives up. -/
theorem step_ends (h : s.Inv) (hstep : s.step l = some t) {sid : Nat} {x : RtspSession}
    (hs : s.server.heap sid = some x) (ht : t.server.heap sid = none) :
    ∃ hs : List Holder, s.events l = hs.map .release := by
  have hnever : s.server.heap sid ≠ none := by simp [hs]
  cases step_cases hstep with
  | refuse | accept | overLimit | underLimit | absent | lookUp | collectNone | collect | swept | exitRun =>
    exact absurd ht hnever
  | addFailed | add =>
    obtain ⟨hheap, -⟩ := Server.addFd_frame s.server _ {} .client _
    exact absurd (congrFun hheap sid ▸ ht) hnever
  | create =>
    have hne : sid ≠ s.server.created := by
      rintro rfl
      exact hnever (h.sessions.fresh _ le_rfl)
    have ht : Function.update s.server.heap s.server.created _ sid = none := ht
    rw [Function.update_of_ne hne] at ht
    exact absurd ht hnever
  | @request fd a data env session kernel hloop ha hk =>
    have ht : Function.update s.server.heap a _ sid = none := ht
    by_cases hsid : sid = a
    · rw [hsid, Function.update_self] at ht
      cases ht
    · rw [Function.update_of_ne hsid] at ht
      exact absurd ht hnever
  | insert hloop =>
    simp only [events, hloop, releaseEvents_eq]
    exact ⟨_, rfl⟩
  | leave hloop =>
    simp only [events, hloop, releaseEvents_eq]
    exact ⟨_, rfl⟩
  | hangUp hloop | closeNext hloop =>
    simp only [events, hloop, closeConnectionEvents, releaseEvents_eq]
    exact ⟨_, rfl⟩
  | onError =>
    simp only [events, closeConnectionEvents, releaseEvents_eq]
    exact ⟨_, rfl⟩
  | clearRunning hstop | notRunning hstop | stopLoop hstop => exact ⟨[], by simp [events, stopEvents, hstop]⟩
  | removeTimer hstop => exact ⟨[.timer], by simp [events, stopEvents, hstop]⟩
  | clearSessions hstop =>
    simp only [events, stopEvents, hstop, releaseEvents_eq, ← List.map_flatMap, ← List.map_append]
    exact ⟨_, rfl⟩
  | closeListener hstop => exact ⟨[.listener], by simp [events, stopEvents, hstop]⟩

/-- What a session owns is in the hands of its guards. -/
theorem holders_of_owns {sid : Nat} {x : RtspSession} (hs : s.server.heap sid = some x) {fd : Int}
    (hfd : x.Owns fd) : ∃ a ∈ destroyOrder sid, s.holders a = some fd := by
  have hheld {g : FdGuard} (hpos : 0 ≤ fd) (hg : fd = g.fd) : g.held = some fd := by
    rw [FdGuard.held, ← hg, if_pos hpos]
  rcases hfd with ⟨hpos, hconn⟩ | hudp
  · exact ⟨.conn sid, mem_destroyOrder.mpr (.inr (.inr rfl)), by simp [holders, hs, hheld hpos hconn]⟩
  · obtain ⟨hpos, hrtp | hrtcp⟩ := mem_udpFds.mp hudp
    · exact ⟨.udpRtpFd sid, mem_destroyOrder.mpr (.inl rfl), by simp [holders, hs, hheld hpos hrtp]⟩
    · exact ⟨.udpRtcpFd sid, mem_destroyOrder.mpr (.inr (.inl rfl)),
        by simp [holders, hs, hheld hpos hrtcp]⟩

/-- The descriptors of a session are closed when it has been destroyed. -/
theorem step_closed (h : s.Inv) (hstep : s.step l = some t) {sid : Nat} {x : RtspSession}
    (hs : s.server.heap sid = some x) (ht : t.server.heap sid = none) {fd : Int}
    (hfd : x.Owns fd) : t.server.kernel.opened fd = false := by
  obtain ⟨hs', hevents⟩ := step_ends h hstep hs ht
  obtain ⟨a, ha, hheld⟩ := holders_of_owns hs hfd
  obtain ⟨-, hholders, -⟩ := step_accounts (h.sessions.fresh _ le_rfl) hstep
  by_contra hopen
  obtain ⟨b, hb⟩ := ((step_inv h hstep).linear.inUse_iff fd).mp (Bool.eq_true_of_not_eq_false hopen)
  -- whoever has it now had it before, and before it was the session's
  have hbefore : s.holders b = some fd := by
    rw [← hholders, hevents] at hb
    exact holds_of_releases hs' hb
  obtain rfl := h.linear.unique a b fd hheld hbefore
  rw [holders_of_none ht ha] at hb
  cases hb

end Lifecycle

open Lifecycle

/-- At this point of the events of a run, a descriptor is open if and only if it is in somebody's
hands, nobody shares one, and each has been closed as often as it has been obtained, or once
less if it is open. The listener and the timer have been obtained before. -/
def InOneHand (config : Config) (done : List DescriptorEvent) : Prop :=
  ∃ opened, follow (Lifecycle.start config).server.kernel.opened
      (effects (Lifecycle.start config).holders done) = some opened ∧
    Linear (done.foldl act (Lifecycle.start config).holders) opened ∧
    Balanced (Lifecycle.start config).server.kernel.opened opened
      (effects (Lifecycle.start config).holders done)

/-- **Descriptors have one owner.** In every run of a started server, with any answers of the
kernel and any interleaving with a stop, every descriptor is in one hand at every point of every
step, and the events lead to what the variables of the server hold and what the kernel has open.
A session has both UDP sockets or none, and when it is gone its descriptors are closed. -/
theorem descriptors_linear (config : Config) (labels : List LifecycleLabel) (u : Lifecycle)
    (hr : run Lifecycle.step (Lifecycle.start config) labels = some u) :
    (∀ done rest, (Lifecycle.start config).history labels = done ++ rest → InOneHand config done) ∧
    ((Lifecycle.start config).history labels).foldl act (Lifecycle.start config).holders = u.holders ∧
    follow (Lifecycle.start config).server.kernel.opened (effects (Lifecycle.start config).holders
      ((Lifecycle.start config).history labels)) = some u.server.kernel.opened ∧
    (∀ sid x, u.server.heap sid = some x → x.udpRtpFd.isValid = x.udpRtcpFd.isValid) ∧
    ∀ l w, u.step l = some w → ∀ sid x, u.server.heap sid = some x → w.server.heap sid = none →
      ∀ fd, x.Owns fd → w.server.kernel.opened fd = false := by
  have hstart := Lifecycle.start_inv config
  obtain ⟨hempty, hholders, hopened⟩ := history_accounts hstart hr
  have hinv : u.Inv := run_invariant (fun _ _ _ h hstep => Lifecycle.step_inv h hstep) hstart hr
  refine ⟨fun done rest hsplit => ?_, hholders, hopened, hinv.sessions.paired,
    fun l w hstep sid x hs hw fd hfd => step_closed hinv hstep hs hw hfd⟩
  exact hstart.linear.prefixes hempty hopened hsplit

/-- A client gets in, asks for the stream over UDP twice, and leaves when the server stops. -/
def setupTwice : List LifecycleLabel :=
  let setup := ascii "SETUP * RTSP/1.0\r\nCSeq: 1\r\nTransport: RTP/AVP;client_port=5000-5001\r\n\r\n"
  [.accept (some 7), .checkLimit, .addFd true, .create 0 0 (fun _ => 0), .insert, .lookUp 7,
    .request setup .quiet,
    .request setup { RequestEnv.quiet with rtpSocket := .bound 12, rtcpSocket := .bindFailed 13 },
    .request setup { RequestEnv.quiet with rtpSocket := .bound 12, rtcpSocket := .bound 13 }] ++
    List.replicate 5 .stop ++ [.leave, .exitRun]

theorem descriptors_linear_setupTwice :
    ∃ u, run Lifecycle.step (Lifecycle.start System.smallConfig) setupTwice = some u ∧
      (∀ fd ∈ [(7 : Int), 10, 11, 12, 13], u.server.kernel.opened fd = false) ∧
      InOneHand System.smallConfig ((Lifecycle.start System.smallConfig).history setupTwice) := by
  have hrun : (run Lifecycle.step (Lifecycle.start System.smallConfig) setupTwice).any (fun u =>
      [(7 : Int), 10, 11, 12, 13].all fun fd => !u.server.kernel.opened fd) = true := by
    decide +kernel
  obtain ⟨u, hu, hclosed⟩ := (Option.any_eq_true _ _).mp hrun
  refine ⟨u, hu, ?_, ?_⟩
  · simpa using hclosed
  · exact (descriptors_linear System.smallConfig setupTwice u hu).1 _ [] (List.append_nil _).symm

end RtspForward
