import RtspForward.Core.SessionSteps

/-!
# Which descriptors can block

`O_NONBLOCK` is set at three places, each in its own way: `SetNonBlocking` for the listener, a
flag of `timerfd_create` for the timer, and a flag of `socket` for the UDP sockets. The
descriptors `accept` hands out get none of them. The system is followed with the status flags
of its descriptors.
-/
namespace RtspForward

open Lib Transition

/-! ## Status flags -/

namespace StatusFlags

def O_RDWR : BitVec 32 := 0x2
def O_NONBLOCK : BitVec 32 := 0x800
def SOCK_STREAM : BitVec 32 := 0x1
def SOCK_DGRAM : BitVec 32 := 0x2
def SOCK_NONBLOCK : BitVec 32 := O_NONBLOCK
def TFD_NONBLOCK : BitVec 32 := O_NONBLOCK
def TFD_CLOEXEC : BitVec 32 := 0x80000

/-- The flags of a new socket. -/
def socket (type : BitVec 32) : BitVec 32 := O_RDWR ||| (type &&& SOCK_NONBLOCK)

/-- The flags of a new timer. -/
def timerfdCreate (flags : BitVec 32) : BitVec 32 := O_RDWR ||| (flags &&& TFD_NONBLOCK)

/-- The flags of a descriptor from `accept`: nothing of the listening socket is inherited. -/
def accept : BitVec 32 := O_RDWR

/-- `SetNonBlocking`, from the flags that `F_GETFL` gives to those that `F_SETFL` sets. -/
def setNonBlocking (flags : BitVec 32) (enable : Bool) : BitVec 32 :=
  if enable then flags ||| O_NONBLOCK else flags &&& ~~~O_NONBLOCK

def isNonBlocking (flags : BitVec 32) : Bool := flags &&& O_NONBLOCK ≠ 0

/-- A call on the descriptor waits instead of failing with `EAGAIN`. -/
def waits (flags : BitVec 32) (ready : Bool) : Bool := !ready && !isNonBlocking flags

/-- `Listener::Listen`, as far as the flags go. -/
def listener : BitVec 32 := setNonBlocking (socket SOCK_STREAM) true

/-- `Start` creates the timer. -/
def timer : BitVec 32 := timerfdCreate (TFD_NONBLOCK ||| TFD_CLOEXEC)

/-- `CreateUdpSocket`. -/
def udpSocket : BitVec 32 := socket (SOCK_DGRAM ||| SOCK_NONBLOCK)

end StatusFlags

open StatusFlags

/-! ## The system with its flags -/

/-- The descriptors a step gets from the kernel, each with its flags. -/
def System.obtained (s : System) : Label → List (Int × BitVec 32)
  | .dispatch (.accepted fd _ _ _ _) _ =>
    match s.loop.batch with
    | e :: _ => if s.server.callbacks e.fd = some .onNewConnection then [((fd : Int), accept)] else []
    | [] => []
  | .turn env beyond =>
    match s.loop.pc with
    | .reading sid =>
      (s.server.heap sid).elim [] fun session =>
        (s.nextRequest sid beyond).elim [] fun data =>
          (session.processData data env).fdEvents.filterMap fun
            | .opened fd => some (fd, udpSocket)
            | .closed _ => none
    | _ => []
  | _ => []

/-- The system, and the status flags of its descriptors. -/
structure Flagged where
  system : System
  flags : Int → BitVec 32

namespace Flagged

def start (config : Config) : Flagged where
  system := System.start config
  flags := fun fd =>
    if fd = config.listenerFd then listener else if fd = config.timerFd then timer else 0

def step (s : Flagged) (l : Label) : Option Flagged :=
  (s.system.step l).map fun t =>
    { system := t
      flags := (s.system.obtained l).foldl (fun flags p => Function.update flags p.1 p.2) s.flags }

/-- The connection of a live session: `recv`, `send` and `writev` are called on it. -/
def ClientFd (s : Flagged) (fd : Int) : Prop :=
  ∃ sid session, s.system.server.heap sid = some session ∧ fd = session.conn.fd

/-- The other descriptors the two threads use: the listener, the timer and the UDP sockets of
the live sessions. -/
def ServiceFd (s : Flagged) (fd : Int) : Prop :=
  fd = s.system.server.config.listenerFd ∨ fd = s.system.server.config.timerFd ∨
    ∃ sid session, s.system.server.heap sid = some session ∧ fd ∈ session.udpFds

/-- No call of the two threads waits. -/
def CannotBlock (s : Flagged) : Prop :=
  ∀ fd, s.ServiceFd fd ∨ s.ClientFd fd → ∀ ready, waits (s.flags fd) ready = false

/-- The step turns no connection into a session. -/
def AdmitsNone (s : Flagged) : Label → Prop
  | .dispatch accept _ => ∀ e ∈ s.system.loop.batch.head?,
      s.system.server.callbacks e.fd = some .onNewConnection → s.system.server.admits accept = none
  | _ => True

instance (s : Flagged) (l : Label) : Decidable (s.AdmitsNone l) := by
  cases l <;> unfold AdmitsNone <;> infer_instance

end Flagged

/-! ## Descriptors beside the sessions -/

namespace System

variable {s t : System} {l : Label} {fd : Int}

/-- The descriptor is open, and no session holds it. -/
def Aside (srv : Server) (fd : Int) : Prop :=
  srv.kernel.opened fd = true ∧ ∀ a x, srv.heap a = some x → ¬ x.Owns fd

theorem aside_of_eq {srv srv' : Server} (h : Aside srv fd) (hheap : srv'.heap = srv.heap)
    (hopened : srv'.kernel.opened = srv.kernel.opened) : Aside srv' fd := by
  unfold Aside
  rw [hheap, hopened]
  exact h

theorem aside_setSession {srv : Server} {sid : Nat} {x x' : RtspSession} (h : Aside srv fd)
    (hs : srv.heap sid = some x) (hkeeps : x.Owns fd ↔ x'.Owns fd) :
    Aside (srv.setSession sid x') fd := by
  refine ⟨h.1, Server.setSession_forall h.2 ?_⟩
  rw [← hkeeps]
  exact h.2 sid x hs

theorem owns_of_keeps {x x' : RtspSession} (h : x.Keeps x') : x.Owns fd ↔ x'.Owns fd := by
  unfold RtspSession.Owns RtspSession.udpFds Connection.fd
  rw [h.conn, h.rtp, h.rtcp]

theorem aside_keeps {srv : Server} {sid : Nat} {x x' : RtspSession} (h : Aside srv fd)
    (hs : srv.heap sid = some x) (hkeeps : x.Keeps x') : Aside (srv.setSession sid x') fd :=
  aside_setSession h hs (owns_of_keeps hkeeps)

theorem aside_release (h : Aside s.server fd) (sids : List Nat) :
    Aside (s.release sids).server fd := by
  induction sids generalizing s with
  | nil => exact h
  | cons sid sids ih =>
    apply ih
    unfold releaseOne
    split
    · exact h
    · show Aside (s.server.destroy sid) fd
      cases hs : s.server.heap sid with
      | none => simpa [Server.destroy, hs] using h
      | some x =>
        obtain ⟨-, -, hheap, hk⟩ := Server.destroy_frame s.server sid hs
        refine ⟨(hk.opened_iff fd).mpr (.inl ⟨h.1, fun hin => ?_⟩), fun a y hy => ?_⟩
        · exact h.2 sid x hs (Server.owns_of_destroyed hin)
        · rw [hheap] at hy
          by_cases ha : a = sid
          · simp [ha] at hy
          · exact h.2 a y (by simpa [ha] using hy)

theorem aside_closeAndLeave (h : Aside s.server fd) (held : List Nat) :
    Aside (s.closeAndLeave held).server fd := by
  apply aside_release
  obtain ⟨hheap, -, hopened, -⟩ := Server.closeConnection_frame s.server s.loop.fd
  exact aside_of_eq h hheap hopened

theorem aside_leave (h : Aside s.server fd) (sid : Nat) : Aside (s.leave sid).server fd := by
  have hgoto : Aside (s.goto .idle).server fd := h
  exact aside_release hgoto [sid]

theorem aside_modifyFd {srv : Server} (h : Aside srv fd) (x : Int) (i : Interest) :
    Aside (srv.modifyFd x i).1 fd := by
  obtain ⟨-, hheap, -, hopened, -⟩ := Server.modifyFd_frame srv x i
  exact aside_of_eq h hheap hopened

/-- No step closes such a descriptor or gives it to a session. -/
theorem step_aside (hinv : s.Inv) (h : Aside s.server fd) (hstep : s.step l = some t) :
    Aside t.server fd := by
  have hbuffers := hinv.server.buffers
  cases step_cases hstep with
  | broadcast hpc =>
    unfold System.broadcast
    split <;> exact h
  | load hpc htodo hs => exact aside_keeps h hs (RtspSession.keeps_updateActivity _ _)
  | sendV hpc hs => exact aside_keeps h hs (RtspSession.keeps_forwardTcp _ _ _ (hbuffers _ _ hs))
  | recordDrop hpc hs => exact aside_keeps h hs (RtspSession.keeps_recordDrop _)
  | recordSuccess hpc hs => exact aside_keeps h hs (RtspSession.keeps_recordSuccess _)
  | streamModify | registerRead => exact aside_modifyFd h _ _
  | finish =>
    apply aside_release
    exact h
  | @accept accept expired e batch res hpc hhandlers hbatch hcb hres =>
    apply aside_release
    show Aside res.1 fd
    rcases Server.onNewConnection_cases hres with ⟨-, hheap, -, hk, -⟩ |
      ⟨new, x, k, -, hk, hkernel, hfresh, -, hheap, -⟩
    · exact aside_of_eq h hheap (funext hk.opened_eq)
    · have hnew := Kernel.changes_of_acquire hk
      refine ⟨?_, fun a y hy => ?_⟩
      · rw [hkernel]
        exact (hnew.opened_iff fd).mpr (.inl ⟨h.1, by simp⟩)
      · rw [hheap] at hy
        by_cases ha : a = s.server.created
        · rw [ha, Function.update_self, Option.some.injEq] at hy
          subst hy
          simp only [RtspSession.Owns, hfresh.no_udp, hfresh.fd_eq, List.not_mem_nil, or_false, not_and]
          intro _ heq
          have hclosed := hnew.acquired_closed new (by simp)
          rw [← heq, h.1] at hclosed
          cases hclosed
        · rw [Function.update_of_ne ha] at hy
          exact h.2 a y hy
  | @sweep accept now e batch hpc hhandlers hbatch hcb =>
    apply aside_release
    refine Server.checkTimeouts_induction (P := fun srv => Aside srv fd) (fun srv x hx => ?_)
      (fun _ _ hx => hx) h now
    obtain ⟨hheap, -, hopened, -⟩ := Server.closeConnection_frame srv x
    exact aside_of_eq hx hheap hopened
  | sendTo | wait | skip | enter | absent | writable | checkRead | drained | disconnect => exact h
  | @drop recv hd handlers held =>
    have htaken : Aside (s.takeHandler handlers).server fd := h
    exact aside_closeAndLeave htaken held
  | @hangUp recv hd handlers sid session hpc hhandlers hsid hs =>
    apply aside_closeAndLeave
    exact aside_keeps h hs (session.keeps_recv recv)
  | receive hpc hhandlers hsid hs => exact aside_keeps h hs (RtspSession.keeps_recv _ _)
  | readDone | pending => exact aside_leave h _
  | tooLarge => exact aside_closeAndLeave h _
  | skipFrame hpc hs => exact aside_keeps h hs (RtspSession.keeps_consume _ _)
  | @request env beyond sid session requestLen hd kernel hpc hs hturn hh hanswer hkernel =>
    subst hh
    have hopen : ∀ x ∈ session.udpFds, s.server.kernel.opened x = true :=
      fun x hx => hinv.server.opened sid session hs x (.inr hx)
    obtain ⟨released, acquired, hch, hrel, hudp⟩ := RtspSession.processData_changes hopen hkernel
    obtain ⟨w, hw⟩ := session.processData_frame env
      (session.conn.readBuffer.rawView requestLen beyond)
    have hfd : ((session.processData (session.conn.readBuffer.rawView requestLen beyond)
        env).session.consume requestLen).conn.fd = session.conn.fd := by
      simp only [RtspSession.consume, Connection.consume, Connection.fd, hw]
    have hnot := h.2 sid session hs
    refine ⟨(hch.opened_iff fd).mpr (.inl ⟨h.1, fun hin => hnot (.inr (hrel fd hin))⟩), ?_⟩
    refine Server.setSession_forall h.2 fun hown => ?_
    rcases hown with hconn | hin
    · rw [hfd] at hconn
      exact hnot (.inl hconn)
    · rcases (hudp fd).mp hin with ⟨hold, -⟩ | hnew
      · exact hnot (.inr hold)
      · have hclosed := hch.acquired_closed fd hnew
        rw [h.1] at hclosed
        cases hclosed
  | @flushFailed o sid session hpc hs hanswer =>
    apply aside_closeAndLeave
    exact aside_keeps h hs (session.keeps_flush o (hbuffers _ _ hs))
  | @flush o sid session hpc hs hanswer =>
    exact aside_keeps h hs (session.keeps_flush o (hbuffers _ _ hs))
  | unregister =>
    apply aside_leave
    exact aside_modifyFd h _ _

/-! ## The UDP descriptors of the live sessions -/

theorem udpFds_of_media {x x' : RtspSession} (h : x'.media = x.media) : x'.udpFds = x.udpFds := by
  have hrtp : x'.udpRtpFd = x.udpRtpFd := congrArg Media.udpRtpFd h
  have hrtcp : x'.udpRtcpFd = x.udpRtcpFd := congrArg Media.udpRtcpFd h
  rw [RtspSession.udpFds, RtspSession.udpFds, hrtp, hrtcp]

end System

namespace Kernel

/-- What is open after some events and was not before has been opened by one of them. -/
theorem opened_of_events {es : List FdEvent} {fd : Int} : ∀ {k k' : Kernel},
    k.events es = some k' → k.opened fd = false → k'.opened fd = true → .opened fd ∈ es := by
  induction es with
  | nil =>
    intro k k' hk hclosed hopen
    obtain rfl := Option.some.inj hk
    rw [hclosed] at hopen
    cases hopen
  | cons e es ih =>
    intro k k' hk hclosed hopen
    obtain ⟨k₁, hone, hrest⟩ := Option.bind_eq_some_iff.mp hk
    by_cases he : e = .opened fd
    · simp [he]
    · refine List.mem_cons_of_mem _ (ih hrest ?_ hopen)
      cases e with
      | opened x =>
        have hx : fd ≠ x := by
          rintro rfl
          exact he rfl
        simpa [hclosed, hx] using (changes_of_acquire hone).opened_iff fd
      | closed x =>
        obtain rfl := Option.some.inj hone
        by_cases hx : fd = x <;> simp [Kernel.close, hx, hclosed]

end Kernel

namespace System

variable {s t : System} {l : Label} {fd : Int}

/-- A UDP descriptor of a live session was one before the step or comes from the step. -/
theorem step_udpFds (hinv : s.Inv) (hstep : s.step l = some t) {a : Nat} {x' : RtspSession}
    (hx' : t.server.heap a = some x') (hfd : fd ∈ x'.udpFds) :
    (∃ x, s.server.heap a = some x ∧ fd ∈ x.udpFds) ∨ (fd, udpSocket) ∈ s.obtained l := by
  rcases step_moves hstep a x' hx' with ⟨-, hcreated⟩ | ⟨x, hx, hmove⟩
  · obtain ⟨_, _, _, _, _, _, hcreate⟩ := hcreated
    rw [(Server.create_fresh hcreate).no_udp] at hfd
    cases hfd
  · cases hmove with
    | unmoved hsame => exact .inl ⟨x, hx, udpFds_of_media hsame.media_eq ▸ hfd⟩
    | recordDrop | recordSuccess => exact .inl ⟨x, hx, hfd⟩
    | @request env beyond data n hl hpc hnext =>
      subst hl
      obtain ⟨y, m, hy, -, -, hkernel⟩ := step_request hpc hnext hstep
      obtain rfl := Option.some.inj (hx.symm.trans hy)
      have hopen : ∀ z ∈ x.udpFds, s.server.kernel.opened z = true :=
        fun z hz => hinv.server.opened a x hx z (.inr hz)
      obtain ⟨released, acquired, hch, -, hudp⟩ := RtspSession.processData_changes hopen hkernel
      rcases (hudp fd).mp hfd with ⟨hold, -⟩ | hnew
      · exact .inl ⟨x, hx, hold⟩
      · have hevent := Kernel.opened_of_events hkernel (hch.acquired_closed fd hnew)
          ((hch.opened_iff fd).mpr (.inr hnew))
        refine .inr ?_
        simp only [obtained, hpc, hx, hnext, Option.elim_some, List.mem_filterMap]
        exact ⟨_, hevent, rfl⟩

end System

/-! ## The flags of the descriptors in use -/

namespace Flagged

variable {s t : Flagged} {l : Label} {fd : Int}

/-- A property of flags carries over to a number that has it or is handed out with it. -/
theorem foldl_update_flags {P : BitVec 32 → Prop} {obtained : List (Int × BitVec 32)}
    (hnew : ∀ p ∈ obtained, P p.2) : ∀ {flags : Int → BitVec 32},
    P (flags fd) ∨ fd ∈ obtained.map Prod.fst →
      P (obtained.foldl (fun flags p => Function.update flags p.1 p.2) flags fd) := by
  induction obtained with
  | nil =>
    intro flags h
    simpa using h
  | cons p ps ih =>
    intro flags h
    apply ih fun q hq => hnew q (List.mem_cons_of_mem _ hq)
    by_cases hp : fd = p.1
    · subst hp
      left
      show P (Function.update flags p.1 p.2 p.1)
      rw [Function.update_self]
      exact hnew p List.mem_cons_self
    · show P (Function.update flags p.1 p.2 fd) ∨ _
      rw [Function.update_of_ne hp]
      refine h.imp id fun hin => ?_
      simpa [hp] using hin

/-- A step hands out non-blocking descriptors only, or one descriptor that was not in use. -/
theorem obtained_cases {s t : System} (hstep : s.step l = some t) :
    (∀ p ∈ s.obtained l, isNonBlocking p.2 = true) ∨
      ∃ fd, s.obtained l = [(fd, accept)] ∧ s.server.kernel.opened fd = false := by
  cases l with
  | dispatch accept expired =>
    cases accept with
    | failed => exact .inl (by simp [System.obtained])
    | accepted fd addOk timestamp now garbage =>
      cases System.step_cases hstep with
      | skip hpc hhandlers hbatch hcb =>
        refine .inl ?_
        rcases hcb with hcb | ⟨hcb, -⟩ <;> simp [System.obtained, hbatch, hcb]
      | sweep hpc hhandlers hbatch hcb | enter hpc hhandlers hbatch hcb =>
        exact .inl (by simp [System.obtained, hbatch, hcb])
      | accept hpc hhandlers hbatch hcb hres =>
        refine .inr ⟨fd, by simp [System.obtained, hbatch, hcb], ?_⟩
        obtain ⟨k, hk, -⟩ := Option.bind_eq_some_iff.mp hres
        exact (Kernel.changes_of_acquire hk).acquired_closed fd (by simp)
  | turn env beyond =>
    refine .inl fun p hp => ?_
    simp only [System.obtained] at hp
    split at hp
    · rename_i sid hpc
      cases hs : s.server.heap sid with
      | none => simp [hs] at hp
      | some session =>
        cases hnext : s.nextRequest sid beyond with
        | none => simp [hs, hnext] at hp
        | some data =>
          simp only [hs, hnext, Option.elim_some, List.mem_filterMap] at hp
          obtain ⟨e, -, he⟩ := hp
          cases e with
          | opened fd =>
            obtain rfl := Option.some.inj he
            show isNonBlocking udpSocket = true
            decide
          | closed fd => cases he
    · cases hp
  | broadcast | load | sendTo | sendV | recordDrop | recordSuccess | streamModify | finish | wait
  | handle | checkRead | registerRead | flush | checkWrite | unregister | disconnect =>
    exact .inl (by simp [System.obtained])

/-- A descriptor in use stays in the mode it has, and new ones that are no connections are
non-blocking. -/
theorem step_nonBlocking (hstep : s.step l = some t)
    (h : (s.system.server.kernel.opened fd = true ∧ isNonBlocking (s.flags fd) = true) ∨
      (fd, udpSocket) ∈ s.system.obtained l) : isNonBlocking (t.flags fd) = true := by
  obtain ⟨t', ht, rfl⟩ := Option.map_eq_some_iff.mp hstep
  show isNonBlocking (List.foldl _ s.flags (s.system.obtained l) fd) = true
  rcases obtained_cases ht with hall | ⟨new, hone, hclosed⟩
  · refine foldl_update_flags (P := fun flags => isNonBlocking flags = true) hall ?_
    refine h.imp And.right fun hin => ?_
    exact List.mem_map.mpr ⟨_, hin, rfl⟩
  · rw [hone] at h ⊢
    rcases h with ⟨hopen, hmode⟩ | hin
    · have hne : fd ≠ new := by
        rintro rfl
        rw [hopen] at hclosed
        cases hclosed
      simpa [hne] using hmode
    · simp only [List.mem_singleton, Prod.mk.injEq] at hin
      exact absurd hin.2 (by decide)

/-- The listener and the timer are open and held by no session, and every descriptor that is
used beside the connections is non-blocking. -/
structure Inv (config : Config) (s : Flagged) : Prop where
  system : s.system.Inv
  config_eq : s.system.server.config = config
  listener : System.Aside s.system.server config.listenerFd
  timer : System.Aside s.system.server config.timerFd
  service : ∀ fd, s.ServiceFd fd → isNonBlocking (s.flags fd) = true

theorem start_inv (config : Config) : Inv config (start config) where
  system := System.start_inv config
  config_eq := rfl
  listener := ⟨by simp [start, System.start, Server.start], fun _ _ h => by cases h⟩
  timer := ⟨by simp [start, System.start, Server.start], fun _ _ h => by cases h⟩
  service fd h := by
    rcases h with rfl | rfl | ⟨sid, session, hs, -⟩
    · simp only [start, System.start, Server.start, ↓reduceIte]
      decide
    · have hne := config.listener_ne_timer.symm
      simp only [start, System.start, Server.start, hne, ↓reduceIte]
      decide
    · cases hs

theorem step_inv {config : Config} (h : s.Inv config) (hstep : s.step l = some t) :
    t.Inv config := by
  have hmode (fd : Int) (hfd : (s.system.server.kernel.opened fd = true ∧
      isNonBlocking (s.flags fd) = true) ∨ (fd, udpSocket) ∈ s.system.obtained l) :=
    step_nonBlocking hstep hfd
  obtain ⟨t', ht, rfl⟩ := Option.map_eq_some_iff.mp hstep
  have hconfig := (System.step_fixed ht).1.trans h.config_eq
  refine ⟨System.step_inv h.system ht, hconfig, System.step_aside h.system h.listener ht,
    System.step_aside h.system h.timer ht, fun fd hfd => hmode fd ?_⟩
  rcases hfd with hfd | hfd | ⟨sid, x', hx', hfd⟩
  · simp only [hconfig] at hfd
    subst hfd
    exact .inl ⟨h.listener.1, h.service _ (.inl (by rw [h.config_eq]))⟩
  · simp only [hconfig] at hfd
    subst hfd
    exact .inl ⟨h.timer.1, h.service _ (.inr (.inl (by rw [h.config_eq])))⟩
  · refine (System.step_udpFds h.system ht hx' hfd).imp (fun hold => ?_) id
    obtain ⟨x, hx, hin⟩ := hold
    exact ⟨h.system.server.opened sid x hx fd (.inr hin), h.service fd (.inr (.inr ⟨sid, x, hx, hin⟩))⟩

/-! ## The connections -/

/-- A step that turns no connection into a session makes none. -/
theorem created_of_admitsNone {u : System} (hadmits : s.AdmitsNone l)
    (hstep : s.system.step l = some u) : u.server.created = s.system.server.created := by
  cases System.step_counts hstep with
  | nothing hsame => exact hsame.created
  | recordDrop _ heq => rw [heq]; rfl
  | accept hl hbatch hcb hres hsame =>
    subst hl
    rw [hsame.created]
    rcases Server.onNewConnection_cases hres with ⟨-, -, hcreated, -⟩ | ⟨fd, x, k, hadmit, -⟩
    · exact hcreated
    · rw [hadmits _ (by simp [hbatch]) hcb] at hadmit
      cases hadmit
  | sweep _ hsame =>
    rw [hsame.created]
    exact (Server.checkTimeouts_counts s.system.server _).created

/-- No client has got in. -/
def NoSession (s : Flagged) : Prop := ∀ sid, s.system.server.heap sid = none

theorem step_noSession {config : Config} (h : s.Inv config) (hno : s.NoSession)
    (hadmits : s.AdmitsNone l) (hstep : s.step l = some t) : t.NoSession := by
  obtain ⟨t', ht, rfl⟩ := Option.map_eq_some_iff.mp hstep
  refine fun a => Option.eq_none_iff_forall_ne_some.mpr fun x' hx' => ?_
  rcases System.step_moves ht a x' hx' with ⟨rfl, -⟩ | ⟨x, hx, -⟩
  · have hcreated := created_of_admitsNone hadmits ht
    have hfresh := (System.step_inv h.system ht).server.fresh _ hcreated.le
    rw [hfresh] at hx'
    cases hx'
  · rw [hno a] at hx
    cases hx

theorem accepted_of_admits {srv : Server} {o : AcceptOutcome} {fd : Nat}
    (h : srv.admits o = some fd) : ∃ timestamp now garbage, o = .accepted fd true timestamp now garbage := by
  unfold Server.admits at h
  split at h
  · split at h
    · cases h
    · obtain rfl := Option.some.inj h
      exact ⟨_, _, _, rfl⟩
  · cases h

/-- A connection that is let in becomes a session whose descriptor can block. -/
theorem admitsNone_of_cannotBlock {config : Config} (h : s.Inv config) (hstep : s.step l = some t)
    (ht : t.CannotBlock) : s.AdmitsNone l := by
  cases l with
  | dispatch accept expired =>
    intro e he hcb
    refine Option.eq_none_iff_forall_ne_some.mpr fun fd hadmits => ?_
    obtain ⟨t', hsys, rfl⟩ := Option.map_eq_some_iff.mp hstep
    have hwf := (System.step_inv h.system hsys).server
    cases System.step_cases hsys with
    | skip hpc hhandlers hbatch hskip =>
      simp only [hbatch, List.head?_cons, Option.mem_def, Option.some.injEq] at he
      simp [he, hcb] at hskip
    | sweep hpc hhandlers hbatch hother | enter hpc hhandlers hbatch hother =>
      simp only [hbatch, List.head?_cons, Option.mem_def, Option.some.injEq] at he
      simp [he, hcb] at hother
    | @accept _ _ e' batch res hpc hhandlers hbatch hcb' hres =>
      rcases Server.onNewConnection_cases hres with ⟨-, -, -, -, -, hnone⟩ |
        ⟨new, x, k, hnew, -, -, -, hsessions, -⟩
      · rw [hnone] at hadmits
        cases hadmits
      · have htable : ({ s.system.takeEntry batch with server := res.1 }.release res.2).server.sessions[
            (new : Int)]? = some s.system.server.created := by
          rw [System.release_sessions]
          simp [hsessions]
        obtain ⟨x', hx', hfd⟩ := hwf.table _ _ htable
        have hwaits := ht new (.inr ⟨_, x', hx', hfd.symm⟩) false
        obtain ⟨timestamp, now, garbage, rfl⟩ := accepted_of_admits hnew
        simp only [System.obtained, hbatch, hcb', ↓reduceIte, List.foldl_cons, List.foldl_nil,
          Function.update_self] at hwaits
        exact absurd hwaits (by decide)
  | broadcast | load | sendTo | sendV | recordDrop | recordSuccess | streamModify | finish | wait
  | handle | turn | checkRead | registerRead | flush | checkWrite | unregister | disconnect =>
    trivial

theorem Inv.service_nonBlocking {config : Config} (h : s.Inv config) (hfd : s.ServiceFd fd)
    (ready : Bool) : waits (s.flags fd) ready = false := by
  unfold waits
  rw [h.service fd hfd, Bool.not_true, Bool.and_false]

theorem cannotBlock_of_noSession {config : Config} (h : s.Inv config) (hno : s.NoSession) :
    s.CannotBlock := by
  intro fd hfd ready
  rcases hfd with hservice | ⟨sid, session, hs, -⟩
  · exact h.service_nonBlocking hservice ready
  · rw [hno sid] at hs
    cases hs

end Flagged

open Flagged

/-- **Only the connections of clients can block.** In every state of a run of the two threads no
call on the listener, on the timer or on a UDP socket of a live session waits. No call on a
connection waits either, in every state, exactly when the run lets no client in. -/
theorem cannot_block_iff (config : Config) (labels : List Label) (u : Flagged)
    (hr : run Flagged.step (Flagged.start config) labels = some u) :
    (∀ done rest t, labels = done ++ rest → run Flagged.step (Flagged.start config) done = some t →
      ∀ fd, t.ServiceFd fd → ∀ ready, waits (t.flags fd) ready = false) ∧
    ((∀ done rest t, labels = done ++ rest →
        run Flagged.step (Flagged.start config) done = some t → t.CannotBlock) ↔
      Along Flagged.step AdmitsNone (Flagged.start config) labels) := by
  constructor
  · intro done rest t _ hdone fd hfd
    have hinv : t.Inv config :=
      run_invariant (fun _ _ _ h hstep => step_inv h hstep) (start_inv config) hdone
    exact hinv.service_nonBlocking hfd
  · refine along_iff_states (I := fun s => s.Inv config ∧ s.NoSession)
      (fun s l t h hadmits hstep => ?_) (fun s h => cannotBlock_of_noSession h.1 h.2)
      (fun s l t h hstep ht => admitsNone_of_cannotBlock h.1 hstep ht)
      ⟨start_inv config, fun _ => rfl⟩ hr
    exact ⟨step_inv h.1 hstep, step_noSession h.1 h.2 hadmits hstep⟩

/-- A client is turned away because its descriptor cannot be registered. -/
def turnsAway : List Label :=
  [.wait [{ fd := 3, read := true }], .dispatch (.accepted 7 false 0 0 (fun _ => 0)) none]

theorem cannot_block_turned_away :
    ∃ u, run Flagged.step (Flagged.start System.smallConfig) turnsAway = some u ∧ u.CannotBlock := by
  have hrun : (run Flagged.step (Flagged.start System.smallConfig) turnsAway).isSome = true := by
    decide
  obtain ⟨u, hu⟩ := Option.isSome_iff_exists.mp hrun
  refine ⟨u, hu, ?_⟩
  exact (cannot_block_iff System.smallConfig turnsAway u hu).2.mpr (by decide) turnsAway [] u
    (by simp) hu

/-- One client is let in and starts to play over its connection. A write on its full socket
waits, and so does the whole stream thread. -/
theorem connection_blocks :
    ∃ u, run Flagged.step (Flagged.start System.smallConfig) (System.playsTcp 7) = some u ∧
      u.system.server.sessions[(7 : Int)]? = some 0 ∧ u.ClientFd 7 ∧
      waits (u.flags 7) false = true ∧ ¬ u.CannotBlock := by
  have hrun : (run Flagged.step (Flagged.start System.smallConfig) (System.playsTcp 7)).any (fun u =>
      u.system.server.sessions[(7 : Int)]? = some 0 && waits (u.flags 7) false &&
        (u.system.server.heap 0).any (fun session => session.conn.fd = 7)) = true := by
    decide
  obtain ⟨u, hu, hfacts⟩ := (Option.any_eq_true _ _).mp hrun
  simp only [Bool.and_eq_true, decide_eq_true_eq] at hfacts
  obtain ⟨⟨htable, hwaits⟩, hsession⟩ := hfacts
  obtain ⟨session, hs, hfd⟩ := (Option.any_eq_true _ _).mp hsession
  have hclient : u.ClientFd 7 := ⟨0, session, hs, (of_decide_eq_true hfd).symm⟩
  refine ⟨u, hu, htable, hclient, hwaits, fun h => ?_⟩
  rw [h 7 (.inr hclient) false] at hwaits
  cases hwaits

end RtspForward
