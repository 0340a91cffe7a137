import RtspForward.Core.Descriptors
import RtspForward.Lib.Holding

/-!
# The invariant of the server

Every session of the table is alive and registered under the descriptor of its connection,
every descriptor a live session holds is open, and no two sessions hold the same number.
The kernel hands out closed numbers only, so the operations of the server keep this.
-/
namespace RtspForward

/-! ## Well-formed servers -/

structure Server.WellFormed (srv : Server) : Prop where
  /-- The sessions of the table are alive, each under its own descriptor. -/
  table : ∀ fd sid, srv.sessions[fd]? = some sid → ∃ s, srv.heap sid = some s ∧ s.conn.fd = fd
  registered : ∀ fd sid, srv.sessions[fd]? = some sid → (srv.kernel.interest fd).isSome
  conn_nonneg : ∀ sid s, srv.heap sid = some s → 0 ≤ s.conn.fd
  conn_apart : ∀ sid s, srv.heap sid = some s → s.conn.fd ∉ s.udpFds
  opened : ∀ sid s, srv.heap sid = some s → ∀ fd, s.Owns fd → srv.kernel.opened fd = true
  separate : ∀ a b s t, srv.heap a = some s → srv.heap b = some t →
    ∀ fd, s.Owns fd → t.Owns fd → a = b
  fresh : ∀ sid, srv.created ≤ sid → srv.heap sid = none
  buffers : ∀ sid s, srv.heap sid = some s → s.conn.Valid

namespace Server

open Lib

variable {srv srv' : Server} {sid : Nat} {s s' : RtspSession} {fd : Int} {k' : Kernel}

theorem WellFormed.owns_conn (h : srv.WellFormed) (hs : srv.heap sid = some s) :
    s.Owns s.conn.fd :=
  .inl ⟨h.conn_nonneg sid s hs, rfl⟩

/-- A live session has not closed its connection. -/
theorem WellFormed.conn_open (h : srv.WellFormed) (hs : srv.heap sid = some s) :
    s.conn.isClosed = false := by
  have hnonneg := h.conn_nonneg sid s hs
  simp only [Connection.fd] at hnonneg
  simp [Connection.isClosed, FdGuard.isValid, hnonneg]

/-- A session is in the table once. -/
theorem WellFormed.table_inj (h : srv.WellFormed) {x y : Int} (hx : srv.sessions[x]? = some sid)
    (hy : srv.sessions[y]? = some sid) : x = y := by
  obtain ⟨s, hs, rfl⟩ := h.table x sid hx
  obtain ⟨t, ht, rfl⟩ := h.table y sid hy
  rw [Option.some.inj (hs.symm.trans ht)]

/-- A live session holds the descriptor. -/
def Holds (srv : Server) (sid : Nat) (fd : Int) : Prop := ∃ s, srv.heap sid = some s ∧ s.Owns fd

theorem WellFormed.discipline (h : srv.WellFormed) :
    Discipline srv.Holds (fun fd => srv.kernel.opened fd = true) where
  in_use := by
    intro a x ⟨s, hs, hown⟩
    exact h.opened a s hs x hown
  unique := by
    intro a b x ⟨s, hs, hown⟩ ⟨t, ht, hown'⟩
    exact h.separate a b s t hs ht x hown hown'

/-- One session exchanges descriptors with the kernel. -/
def Exchanges (srv srv' : Server) (sid : Nat) (released acquired : List Int) : Prop :=
  Exchange srv.Holds srv'.Holds (fun fd => srv.kernel.opened fd = true)
    (fun fd => srv'.kernel.opened fd = true) sid (· ∈ released) (· ∈ acquired)

theorem exchanges_of_changes {released acquired : List Int}
    (hk : srv.kernel.Changes srv'.kernel released acquired)
    (hrel : ∀ fd ∈ released, srv.Holds sid fd)
    (hself : ∀ fd, srv'.Holds sid fd → (srv.Holds sid fd ∧ fd ∉ released) ∨ fd ∈ acquired)
    (hothers : ∀ a, a ≠ sid → srv'.heap a = srv.heap a) :
    Exchanges srv srv' sid released acquired where
  released_held := hrel
  acquired_free fd hfd := by simp [hk.acquired_closed fd hfd]
  inUse_iff := hk.opened_iff
  self := hself
  others := by
    intro a fd hne ⟨s, hs, hown⟩
    exact ⟨s, hothers a hne ▸ hs, hown⟩

theorem start_wellFormed (config : Config) : (Server.start config).WellFormed where
  table := by simp [Server.start]
  registered := by simp [Server.start]
  conn_nonneg := by simp [Server.start]
  conn_apart := by simp [Server.start]
  opened := by simp [Server.start]
  separate := by simp [Server.start]
  fresh := by simp [Server.start]
  buffers := by simp [Server.start]

theorem setSession_heap (srv : Server) (sid : Nat) (s : RtspSession) :
    (srv.setSession sid s).heap sid = some s := by
  simp [setSession]

theorem setSession_heap_ne {a : Nat} (srv : Server) (s : RtspSession) (hne : a ≠ sid) :
    (srv.setSession sid s).heap a = srv.heap a := by
  simp [setSession, hne]

/-- A property of live sessions is kept when one of them is replaced by another that has it. -/
theorem setSession_forall {P : RtspSession → Prop} (h : ∀ a t, srv.heap a = some t → P t)
    (hs : P s) : ∀ a t, (srv.setSession sid s).heap a = some t → P t := by
  intro a t ha
  by_cases hasid : a = sid
  · subst hasid
    rw [setSession_heap] at ha
    exact Option.some.inj ha ▸ hs
  · rw [setSession_heap_ne _ _ hasid] at ha
    exact h a t ha

/-- A session is replaced by one with the same connection, and the descriptor table changes
by UDP descriptors of that session only. -/
theorem WellFormed.replace (h : srv.WellFormed) (hs : srv.heap sid = some s)
    (hconn : s'.conn.fdGuard = s.conn.fdGuard) (hvalid : s'.conn.Valid)
    {released acquired : List Int} (hk : srv.kernel.Changes k' released acquired)
    (hrel : ∀ fd ∈ released, fd ∈ s.udpFds)
    (hudp : ∀ fd, fd ∈ s'.udpFds ↔ (fd ∈ s.udpFds ∧ fd ∉ released) ∨ fd ∈ acquired) :
    ({ srv with kernel := k' }.setSession sid s').WellFormed := by
  have hfd : s'.conn.fd = s.conn.fd := congrArg FdGuard.fd hconn
  have hconn_keep : s.conn.fd ∉ released := fun hin => h.conn_apart sid s hs (hrel _ hin)
  have hex : Exchanges srv ({ srv with kernel := k' }.setSession sid s') sid released acquired := by
    refine exchanges_of_changes hk (fun fd hin => ⟨s, hs, .inr (hrel fd hin)⟩) ?_
      fun a hne => setSession_heap_ne _ _ hne
    intro fd ⟨t, ht, hown⟩
    obtain rfl := Option.some.inj ((setSession_heap _ _ _).symm.trans ht)
    rcases hown with ⟨hpos, rfl⟩ | hin
    · rw [hfd] at hpos ⊢
      exact .inl ⟨⟨s, hs, .inl ⟨hpos, rfl⟩⟩, hconn_keep⟩
    · exact ((hudp fd).mp hin).imp (fun hin => ⟨⟨s, hs, .inr hin.1⟩, hin.2⟩) id
  have hdisc := h.discipline.exchange hex
  constructor
  · intro fd a ha
    obtain ⟨t, ht, htfd⟩ := h.table fd a ha
    by_cases hasid : a = sid
    · subst hasid
      obtain rfl : s = t := Option.some.inj (hs.symm.trans ht)
      exact ⟨s', setSession_heap _ _ _, hfd.trans htfd⟩
    · exact ⟨t, (setSession_heap_ne _ _ hasid).trans ht, htfd⟩
  · intro fd a ha
    obtain ⟨t, ht, rfl⟩ := h.table fd a ha
    have hno : t.conn.fd ∉ released := by
      by_cases hasid : a = sid
      · subst hasid
        obtain rfl : s = t := Option.some.inj (hs.symm.trans ht)
        exact hconn_keep
      · exact h.discipline.not_released hex hasid ⟨t, ht, h.owns_conn ht⟩
    show (k'.interest _).isSome
    rw [hk.interest_eq _ (h.opened a t ht _ (h.owns_conn ht)) hno]
    exact h.registered _ a ha
  · exact setSession_forall h.conn_nonneg (hfd ▸ h.conn_nonneg sid s hs)
  · refine setSession_forall h.conn_apart ?_
    rw [hfd, hudp]
    rintro (⟨hin, -⟩ | hin)
    · exact h.conn_apart sid s hs hin
    · exact hex.acquired_free _ hin (h.opened sid s hs _ (h.owns_conn hs))
  · exact fun a t ha fd hown => hdisc.in_use a fd ⟨t, ha, hown⟩
  · exact fun a b t u ha hb fd ht hu => hdisc.unique a b fd ⟨t, ha, ht⟩ ⟨u, hb, hu⟩
  · intro a ha
    have hne : a ≠ sid := by
      rintro rfl
      have hnone := h.fresh a ha
      rw [hs] at hnone
      cases hnone
    exact (setSession_heap_ne _ _ hne).trans (h.fresh a ha)
  · exact setSession_forall h.buffers hvalid

/-- Only what the invariant reads matters, and the table may lose entries. -/
theorem WellFormed.shrink (h : srv.WellFormed) (hheap : srv'.heap = srv.heap)
    (hcreated : srv'.created = srv.created) (hopened : srv'.kernel.opened = srv.kernel.opened)
    (hsub : ∀ (fd : Int) (sid : Nat), srv'.sessions[fd]? = some sid →
      srv.sessions[fd]? = some sid)
    (hint : ∀ (fd : Int) (sid : Nat), srv'.sessions[fd]? = some sid →
      (srv.kernel.interest fd).isSome →
      (srv'.kernel.interest fd).isSome) : srv'.WellFormed where
  table fd sid hfd := by
    rw [hheap]
    exact h.table fd sid (hsub fd sid hfd)
  registered fd sid hfd := hint fd sid hfd (h.registered fd sid (hsub fd sid hfd))
  conn_nonneg := by
    rw [hheap]
    exact h.conn_nonneg
  conn_apart := by
    rw [hheap]
    exact h.conn_apart
  opened := by
    rw [hheap, hopened]
    exact h.opened
  separate := by
    rw [hheap]
    exact h.separate
  fresh := by
    rw [hheap, hcreated]
    exact h.fresh
  buffers := by
    rw [hheap]
    exact h.buffers

/-- A session is replaced by one with the same descriptors. -/
theorem WellFormed.setSession (h : srv.WellFormed) (hs : srv.heap sid = some s)
    (hconn : s'.conn.fdGuard = s.conn.fdGuard) (hvalid : s'.conn.Valid)
    (hrtp : s'.udpRtpFd = s.udpRtpFd) (hrtcp : s'.udpRtcpFd = s.udpRtcpFd) :
    (srv.setSession sid s').WellFormed := by
  refine h.replace hs hconn hvalid (Kernel.changes_refl _) (by simp) fun fd => ?_
  simp [RtspSession.udpFds, hrtp, hrtcp]

/-! ## The event loop -/

/-- What `ModifyFd` leaves alone, and the interest it sets. -/
theorem modifyFd_frame (srv : Server) (fd : Int) (i : Interest) :
    (srv.modifyFd fd i).1.sessions = srv.sessions ∧ (srv.modifyFd fd i).1.heap = srv.heap ∧
      (srv.modifyFd fd i).1.created = srv.created ∧
      (srv.modifyFd fd i).1.kernel.opened = srv.kernel.opened ∧
      ∀ x, (srv.modifyFd fd i).1.kernel.interest x =
        if x = fd ∧ 0 ≤ fd ∧ (srv.kernel.interest fd).isSome then some i
        else srv.kernel.interest x := by
  unfold modifyFd
  split
  · exact ⟨rfl, rfl, rfl, rfl, fun x => by rw [if_neg (by omega)]⟩
  · split
    · rename_i hpos hsome
      refine ⟨rfl, rfl, rfl, rfl, fun x => ?_⟩
      by_cases hx : x = fd
      · subst hx
        rw [if_pos ⟨rfl, by omega, hsome⟩]
        simp [Kernel.register]
      · rw [if_neg (fun hc => hx hc.1)]
        simp [Kernel.register, hx]
    · rename_i hpos hnone
      exact ⟨rfl, rfl, rfl, rfl, fun x => by rw [if_neg (fun hc => hnone hc.2.2)]⟩

theorem WellFormed.modifyFd (h : srv.WellFormed) (fd : Int) (i : Interest) :
    (srv.modifyFd fd i).1.WellFormed := by
  obtain ⟨hsessions, hheap, hcreated, hopened, hinterest⟩ := modifyFd_frame srv fd i
  refine h.shrink hheap hcreated hopened (fun x a hx => hsessions ▸ hx) fun x a _ hsome => ?_
  rw [hinterest]
  split
  · rfl
  · exact hsome

/-! ## Connections -/

theorem getElem?_erase (m : Std.TreeMap Int Nat) (fd x : Int) :
    (m.erase fd)[x]? = if fd = x then none else m[x]? := by
  rw [Std.TreeMap.getElem?_erase]
  simp only [Std.compare_eq_iff_eq]

theorem getElem?_insert (m : Std.TreeMap Int Nat) (fd x : Int) (sid : Nat) :
    (m.insert fd sid)[x]? = if fd = x then some sid else m[x]? := by
  rw [Std.TreeMap.getElem?_insert]
  simp only [Std.compare_eq_iff_eq]

theorem addFd_frame (srv : Server) (fd : Int) (i : Interest) (cb : Callback) (ok : Bool) :
    (srv.addFd fd i cb ok).1.heap = srv.heap ∧ (srv.addFd fd i cb ok).1.created = srv.created ∧
      (srv.addFd fd i cb ok).1.kernel.opened = srv.kernel.opened := by
  unfold addFd
  split
  · exact ⟨rfl, rfl, rfl⟩
  · split <;> exact ⟨rfl, rfl, rfl⟩

theorem removeFd_frame (srv : Server) (fd : Int) :
    (srv.removeFd fd).1.heap = srv.heap ∧ (srv.removeFd fd).1.created = srv.created ∧
      (srv.removeFd fd).1.sessions = srv.sessions ∧
      (srv.removeFd fd).1.kernel.opened = srv.kernel.opened ∧
      ∀ x, x ≠ fd → (srv.removeFd fd).1.kernel.interest x = srv.kernel.interest x := by
  unfold removeFd
  split
  · exact ⟨rfl, rfl, rfl, rfl, fun _ _ => rfl⟩
  · split
    · refine ⟨rfl, rfl, rfl, rfl, fun x hx => ?_⟩
      simp [Kernel.deregister, hx]
    · exact ⟨rfl, rfl, rfl, rfl, fun _ _ => rfl⟩

/-- `CloseConnection` takes the entry out of the table and out of epoll's interest list, and
gives up the table's reference. -/
theorem closeConnection_frame (srv : Server) (fd : Int) :
    (srv.closeConnection fd).1.heap = srv.heap ∧
      (srv.closeConnection fd).1.created = srv.created ∧
      (srv.closeConnection fd).1.kernel.opened = srv.kernel.opened ∧
      (∀ x, x ≠ fd →
        (srv.closeConnection fd).1.kernel.interest x = srv.kernel.interest x) ∧
      (∀ x, (srv.closeConnection fd).1.sessions[x]? =
        if fd = x then none else srv.sessions[x]?) ∧
      (srv.closeConnection fd).2 = (srv.sessions[fd]?).toList := by
  unfold closeConnection
  cases hfd : srv.sessions[fd]? with
  | none =>
    refine ⟨rfl, rfl, rfl, fun _ _ => rfl, fun x => ?_, rfl⟩
    by_cases hx : fd = x
    · rw [if_pos hx, ← hx, hfd]
    · rw [if_neg hx]
  | some sid =>
    obtain ⟨hheap, hcreated, hsessions, hopened, hinterest⟩ := removeFd_frame srv fd
    refine ⟨hheap, hcreated, hopened, hinterest, fun x => ?_, rfl⟩
    simp only [hsessions]
    exact getElem?_erase srv.sessions fd x

theorem WellFormed.closeConnection (h : srv.WellFormed) (fd : Int) :
    (srv.closeConnection fd).1.WellFormed := by
  obtain ⟨hheap, hcreated, hopened, hinterest, hsessions, -⟩ := closeConnection_frame srv fd
  have hsub : ∀ x a, (srv.closeConnection fd).1.sessions[x]? = some a →
      fd ≠ x ∧ srv.sessions[x]? = some a := by
    intro x a hx
    rw [hsessions] at hx
    split at hx
    · cases hx
    · exact ⟨by assumption, hx⟩
  refine h.shrink hheap hcreated hopened (fun x a hx => (hsub x a hx).2) fun x a hx hsome => ?_
  rwa [hinterest x (hsub x a hx).1.symm]

/-- The sweep keeps what every closing of a connection keeps. -/
theorem checkTimeouts_induction {P : Server → Prop}
    (hclose : ∀ srv fd, P srv → P (srv.closeConnection fd).1)
    (hcount : ∀ srv n, P srv → P { srv with timedOutSessions := n }) (h : P srv) (now : Int) :
    P (srv.checkTimeouts now).1 := by
  unfold checkTimeouts
  split
  · exact h
  · generalize srv.timedOutFds now = fds
    have hfold : ∀ acc : Server × List Nat, P acc.1 → P (fds.foldl sweep acc).1 := by
      induction fds with
      | nil => exact fun acc hacc => hacc
      | cons fd fds ih => exact fun acc hacc => ih _ (hclose _ fd (hcount _ _ hacc))
    exact hfold (srv, []) h

/-- `CheckTimeouts` takes entries out of the table and touches nothing else that is read of a
session that stays. -/
theorem checkTimeouts_frame (srv : Server) (now : Int) :
    (srv.checkTimeouts now).1.heap = srv.heap ∧
      ∀ (fd : Int) (sid : Nat), (srv.checkTimeouts now).1.sessions[fd]? = some sid →
        srv.sessions[fd]? = some sid ∧
          (srv.checkTimeouts now).1.kernel.interest fd = srv.kernel.interest fd := by
  refine checkTimeouts_induction (P := fun srv' => srv'.heap = srv.heap ∧
      ∀ (fd : Int) (sid : Nat), srv'.sessions[fd]? = some sid →
        srv.sessions[fd]? = some sid ∧ srv'.kernel.interest fd = srv.kernel.interest fd)
    (fun srv' x ih => ?_) (fun _ _ ih => ih) ⟨rfl, fun _ _ hfd => ⟨hfd, rfl⟩⟩ now
  obtain ⟨hheap, -, -, hinterest, hsessions, -⟩ := closeConnection_frame srv' x
  refine ⟨hheap.trans ih.1, fun fd sid hfd => ?_⟩
  rw [hsessions] at hfd
  split at hfd
  · cases hfd
  · rename_i hne
    rw [hinterest fd (Ne.symm hne)]
    exact ih.2 fd sid hfd

theorem WellFormed.checkTimeouts (h : srv.WellFormed) (now : Int) :
    (srv.checkTimeouts now).1.WellFormed :=
  checkTimeouts_induction (fun _ fd h => h.closeConnection fd)
    (fun _ _ h => h.shrink rfl rfl rfl (fun _ _ hx => hx) fun _ _ _ hs => hs) h now

/-! ## Creation and destruction of sessions -/

/-- A session as `OnNewConnection` creates it. -/
structure Fresh (s : RtspSession) (fd : Int) : Prop where
  fd_eq : s.conn.fd = fd
  no_udp : s.udpFds = []
  valid : s.conn.Valid
  nothing_queued : s.conn.needFlush = false

theorem create_fresh {bufferSize timestamp seq : Nat} {garbage : Nat → UInt8} {now : Int}
    (h : RtspSession.create fd bufferSize garbage timestamp seq now = some s) : Fresh s fd := by
  obtain ⟨conn, hconn, rfl⟩ := Option.map_eq_some_iff.mp h
  obtain ⟨hvalid, hnil⟩ := Connection.create_spec hconn
  refine ⟨?_, rfl, hvalid, ?_⟩
  · unfold Connection.create at hconn
    split at hconn
    · obtain rfl := Option.some.inj hconn
      rfl
    · cases hconn
  · have hlen := congrArg List.length hnil
    rw [RingBuffer.length_contents, List.length_nil] at hlen
    simp [Connection.needFlush, hlen]

/-- The descriptor under which the outcome of `accept` becomes a session, if it does: the limit
is not reached and the registration succeeds. -/
def admits (srv : Server) : AcceptOutcome → Option Nat
  | .accepted fd true _ _ _ => if srv.limitReached then none else some fd
  | _ => none

/-- The two outcomes of `OnNewConnection`: nothing is left of the attempt, or a fresh session
is in the table under a descriptor that was not in use. -/
theorem onNewConnection_cases {o : AcceptOutcome} {res : Server × List Nat}
    (h : srv.onNewConnection o = some res) :
    (res.1.sessions = srv.sessions ∧ res.1.heap = srv.heap ∧ res.1.created = srv.created ∧
      srv.kernel.Changes res.1.kernel [] [] ∧ res.2 = [] ∧ srv.admits o = none) ∨
    (∃ (fd : Nat) (s : RtspSession) (k : Kernel),
      srv.admits o = some fd ∧ srv.kernel.acquire fd = some k ∧
      res.1.kernel = k.register fd {} ∧ Fresh s fd ∧
      res.1.sessions = srv.sessions.insert fd srv.created ∧
      res.1.heap = Function.update srv.heap srv.created (some s) ∧
      res.1.created = srv.created + 1 ∧ res.2 = (srv.sessions[(fd : Int)]?).toList) := by
  cases o with
  | failed =>
    obtain rfl := Option.some.inj h
    exact .inl ⟨rfl, rfl, rfl, Kernel.changes_refl _, rfl, rfl⟩
  | accepted fd addOk timestamp now garbage =>
    obtain ⟨k, hk, h⟩ := Option.bind_eq_some_iff.mp h
    have hgone : srv.kernel.Changes (k.close fd) [] [] := by
      refine (Kernel.Balanced.wrap (fd : Int) .nil).changes ?_
      exact Option.bind_eq_some_iff.mpr ⟨k, hk, rfl⟩
    by_cases hlimit : ({ srv with kernel := k } : Server).limitReached = true
    · rw [if_pos hlimit] at h
      obtain rfl := Option.some.inj h
      refine .inl ⟨rfl, rfl, rfl, hgone, rfl, ?_⟩
      cases addOk with
      | false => rfl
      | true => exact if_pos hlimit
    · rw [if_neg hlimit] at h
      have hfd : ¬ (fd : Int) < 0 := by omega
      cases addOk with
      | false =>
        simp only [addFd, hfd, ↓reduceIte, Bool.false_eq_true, Status.isOk_mk] at h
        obtain rfl := Option.some.inj h
        exact .inl ⟨rfl, rfl, rfl, hgone, rfl, rfl⟩
      | true =>
        simp only [addFd, hfd, ↓reduceIte, Status.isOk_mk, decide_true] at h
        obtain ⟨s, hs, h⟩ := Option.bind_eq_some_iff.mp h
        obtain rfl := Option.some.inj h
        have hadmits : srv.admits (.accepted fd true timestamp now garbage) = some fd := if_neg hlimit
        exact .inr ⟨fd, s, k, hadmits, hk, rfl, create_fresh hs, rfl, rfl, rfl, rfl⟩

/-- A descriptor table that was left alone. -/
theorem WellFormed.unchanged (h : srv.WellFormed)
    (hsessions : srv'.sessions = srv.sessions) (hheap : srv'.heap = srv.heap)
    (hcreated : srv'.created = srv.created) (hk : srv.kernel.Changes srv'.kernel [] []) :
    srv'.WellFormed := by
  refine h.shrink hheap hcreated (funext hk.opened_eq) (fun x a hx => hsessions ▸ hx)
    fun x a hx hsome => ?_
  rw [hsessions] at hx
  obtain ⟨t, ht, rfl⟩ := h.table x a hx
  rwa [hk.interest_eq _ (h.opened a t ht _ (h.owns_conn ht)) (by simp)]

/-- A fresh session under a new descriptor. -/
theorem WellFormed.admit {fd : Nat} {k : Kernel} (h : srv.WellFormed)
    (hk : srv.kernel.acquire fd = some k) (hs : Fresh s fd)
    (hkernel : srv'.kernel = k.register fd {})
    (hsessions : srv'.sessions = srv.sessions.insert fd srv.created)
    (hheap : srv'.heap = Function.update srv.heap srv.created (some s))
    (hcreated : srv'.created = srv.created + 1) : srv'.WellFormed := by
  have hnew := Kernel.changes_of_acquire hk
  have hheap' : srv'.heap = (srv.setSession srv.created s).heap := hheap
  have hex : Exchanges srv srv' srv.created [] [(fd : Int)] := by
    refine ⟨by simp, fun x hx => by simp [hnew.acquired_closed x hx], ?_, ?_, ?_⟩
    · rw [hkernel]
      exact hnew.opened_iff
    · intro x ⟨t, ht, hown⟩
      rw [hheap', setSession_heap] at ht
      obtain rfl := Option.some.inj ht
      rcases hown with ⟨-, rfl⟩ | hin
      · exact .inr (by simp [hs.fd_eq])
      · simp [hs.no_udp] at hin
    · intro a x hne ⟨t, ht, hown⟩
      rw [hheap', setSession_heap_ne _ _ hne] at ht
      exact ⟨t, ht, hown⟩
  have hdisc := h.discipline.exchange hex
  have hne : ∀ a t, srv.heap a = some t → a ≠ srv.created := by
    rintro a t ha rfl
    rw [h.fresh _ le_rfl] at ha
    cases ha
  constructor
  · intro x a hx
    rw [hsessions, getElem?_insert] at hx
    split at hx
    · rename_i hfd
      obtain rfl := Option.some.inj hx
      exact ⟨s, by rw [hheap', setSession_heap], hs.fd_eq.trans hfd⟩
    · obtain ⟨t, ht, htfd⟩ := h.table x a hx
      exact ⟨t, by rw [hheap', setSession_heap_ne _ _ (hne a t ht), ht], htfd⟩
  · intro x a hx
    rw [hsessions, getElem?_insert] at hx
    rw [hkernel]
    split at hx
    · rename_i hfd
      simp [Kernel.register, ← hfd]
    · rename_i hfd
      obtain ⟨t, ht, rfl⟩ := h.table x a hx
      have hreg := h.registered _ a hx
      have hne : t.conn.fd ≠ fd := Ne.symm hfd
      simp only [Kernel.register, Function.update_of_ne hne]
      rwa [hnew.interest_eq _ (h.opened a t ht _ (h.owns_conn ht)) (by simp)]
  · rw [hheap']
    exact setSession_forall h.conn_nonneg (by rw [hs.fd_eq]; omega)
  · rw [hheap']
    exact setSession_forall h.conn_apart (by simp [hs.no_udp])
  · exact fun a t ha x hown => hdisc.in_use a x ⟨t, ha, hown⟩
  · exact fun a b t u ha hb x ht hu => hdisc.unique a b x ⟨t, ha, ht⟩ ⟨u, hb, hu⟩
  · intro a ha
    rw [hcreated] at ha
    rw [hheap, Function.update_of_ne (by omega)]
    exact h.fresh a (by omega)
  · rw [hheap']
    exact setSession_forall h.buffers hs.valid

theorem WellFormed.onNewConnection {o : AcceptOutcome} {res : Server × List Nat}
    (h : srv.WellFormed) (hres : srv.onNewConnection o = some res) : res.1.WellFormed := by
  rcases onNewConnection_cases hres with ⟨hsessions, hheap, hcreated, hk, -⟩ |
    ⟨fd, s, k, -, hk, hkernel, hs, hsessions, hheap, hcreated, -⟩
  · exact h.unchanged hsessions hheap hcreated hk
  · exact h.admit hk hs hkernel hsessions hheap hcreated

/-- What the destructor does. -/
theorem destroy_frame (srv : Server) (sid : Nat) (hs : srv.heap sid = some s) :
    (srv.destroy sid).sessions = srv.sessions ∧ (srv.destroy sid).created = srv.created ∧
      (srv.destroy sid).heap = Function.update srv.heap sid none ∧
      srv.kernel.Changes (srv.destroy sid).kernel (s.udpFds ++ s.conn.fdGuard.close.2) [] := by
  have hall := (Kernel.changes_refl srv.kernel).closeAll (s.udpFds ++ s.conn.fdGuard.close.2)
    (by simp)
  simp only [destroy, hs]
  exact ⟨trivial, trivial, trivial, by simpa [RtspSession.udpFds] using hall⟩

theorem owns_of_destroyed (hfd : fd ∈ s.udpFds ++ s.conn.fdGuard.close.2) : s.Owns fd := by
  rcases List.mem_append.mp hfd with hfd | hfd
  · exact .inr hfd
  · exact .inl (RtspSession.mem_close.mp hfd)

/-- A session that has left the table can be destroyed. -/
theorem WellFormed.destroy (h : srv.WellFormed) (hout : ∀ fd : Int, srv.sessions[fd]? ≠ some sid) :
    (srv.destroy sid).WellFormed := by
  cases hs : srv.heap sid with
  | none => simpa [Server.destroy, hs] using h
  | some s =>
    obtain ⟨hsessions, hcreated, hheap, hk⟩ := destroy_frame srv sid hs
    have hgone : (srv.destroy sid).heap sid = none := by simp [hheap]
    have hkept : ∀ a, a ≠ sid → (srv.destroy sid).heap a = srv.heap a := fun a hne => by
      simp [hheap, hne]
    have hold : ∀ a t, (srv.destroy sid).heap a = some t → srv.heap a = some t := by
      intro a t ha
      by_cases hasid : a = sid
      · rw [hasid, hgone] at ha
        cases ha
      · rwa [hkept a hasid] at ha
    have hin : ∀ (x : Int) (a : Nat), srv.sessions[x]? = some a → a ≠ sid := by
      rintro x a hx rfl
      exact hout x hx
    have hex : Exchanges srv (srv.destroy sid) sid (s.udpFds ++ s.conn.fdGuard.close.2) [] := by
      refine exchanges_of_changes hk (fun fd hfd => ⟨s, hs, owns_of_destroyed hfd⟩) ?_ hkept
      rintro fd ⟨t, ht, -⟩
      rw [hgone] at ht
      cases ht
    have hdisc := h.discipline.exchange hex
    constructor
    · intro x a hx
      rw [hsessions] at hx
      obtain ⟨t, ht, htfd⟩ := h.table x a hx
      exact ⟨t, (hkept a (hin x a hx)).trans ht, htfd⟩
    · intro x a hx
      rw [hsessions] at hx
      obtain ⟨t, ht, rfl⟩ := h.table x a hx
      rw [hk.interest_eq _ (h.opened a t ht _ (h.owns_conn ht))
        (h.discipline.not_released hex (hin _ a hx) ⟨t, ht, h.owns_conn ht⟩)]
      exact h.registered _ a hx
    · exact fun a t ha => h.conn_nonneg a t (hold a t ha)
    · exact fun a t ha => h.conn_apart a t (hold a t ha)
    · exact fun a t ha x hown => hdisc.in_use a x ⟨t, ha, hown⟩
    · exact fun a b t u ha hb x ht hu => hdisc.unique a b x ⟨t, ha, ht⟩ ⟨u, hb, hu⟩
    · intro a ha
      by_cases hasid : a = sid
      · rw [hasid, hgone]
      · rw [hkept a hasid]
        exact h.fresh a (hcreated ▸ ha)
    · exact fun a t ha => h.buffers a t (hold a t ha)

end Server

end RtspForward
