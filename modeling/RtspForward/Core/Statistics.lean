import RtspForward.Core.Timeouts
import Mathlib.Data.List.Nodup

/-!
# The session statistics

`GetInfo`, and the two places that count sessions which come to an end: `CheckTimeouts`
counts what it sweeps as timed out, and `BroadcastRtp` counts the sessions it marks as
dropped. The steps of a run, with the sessions they count, say who was counted and why.
-/
namespace RtspForward

open Lib

/-- The fields of `RtspForwardInfo` that are about sessions. -/
structure RtspForwardInfo where
  maxSessions : Int
  running : Bool
  activeSessions : Nat
  playingSessions : Nat
  totalConnections : Nat
  timedOutSessions : Nat
  droppedSessions : Nat
  deriving DecidableEq, Repr

/-- `GetInfo`. -/
def Server.getInfo (srv : Server) : RtspForwardInfo where
  maxSessions := srv.config.maxSessions
  running := srv.running
  activeSessions := srv.sessions.toList.length
  playingSessions := srv.playingSessions.length
  totalConnections := srv.totalConnections
  timedOutSessions := srv.timedOutSessions
  droppedSessions := srv.totalDroppedSessions

/-- The two headings a session can be counted under. -/
inductive Heading where
  | timedOut
  | dropped
  deriving DecidableEq, Repr

namespace System

/-- The session a step marks as a slow client. -/
def marks (s : System) : Label → Option Nat
  | .recordDrop =>
    match s.stream.pc with
    | .failed sid => if (s.server.heap sid).any RtspSession.becomesSlow then some sid else none
    | _ => none
  | _ => none

/-- The step runs `CheckTimeouts` at this clock reading, and it does not return at once. -/
def sweepsAt (s : System) : Label → Option Int
  | .dispatch _ (some now) =>
    match s.loop.batch with
    | [] => none
    | e :: _ =>
      if s.server.callbacks e.fd = some .checkTimeouts ∧
          (0 < s.server.config.connectionTimeoutSec ∨ 0 < s.server.config.sessionTimeoutSec) then
        some now
      else none
  | _ => none

/-- The sessions a sweep collects. -/
def swept (s : System) (now : Int) : List Nat :=
  (s.server.timedOutFds now).filterMap (s.server.sessions[·]?)

/-- The sessions a step counts. -/
def counts (s : System) (l : Label) : List (Heading × Nat) :=
  (s.marks l).toList.map (Heading.dropped, ·) ++
    (s.sweepsAt l).toList.flatMap fun now => (s.swept now).map (Heading.timedOut, ·)

/-- The sessions counted in the steps of a run. -/
def counted (taken : List (System × Label)) : List (Heading × Nat) :=
  taken.flatMap fun p => p.1.counts p.2

/-- The session was counted for what the heading says: it was in the table and not torn down,
and its idle time had reached its timeout, or it had failed to take packet after packet. -/
def CountedFor (s : System) (l : Label) (heading : Heading) (sid : Nat) : Prop :=
  ∃ (fd : Int) (x : RtspSession), s.server.sessions[fd]? = some sid ∧
    s.server.heap sid = some x ∧ x.state ≠ .kTeardown ∧
      match heading with
      | .timedOut => ∃ now, s.sweepsAt l = some now ∧ 0 < s.server.config.timeoutFor x.state ∧
          s.server.config.timeoutFor x.state ≤ now - x.lastActivitySec
      | .dropped => x.becomesSlow = true

/-- The statistics are consistent with the steps taken so far. -/
structure Consistent (s : System) (taken : List (System × Label)) : Prop where
  timedOut : s.server.getInfo.timedOutSessions =
    ((counted taken).filter (·.1 = .timedOut)).length
  dropped : s.server.getInfo.droppedSessions = ((counted taken).filter (·.1 = .dropped)).length
  /-- No session is counted twice. -/
  once : ((counted taken).map Prod.snd).Nodup
  reason : ∀ p ∈ taken, ∀ c ∈ p.1.counts p.2, p.1.CountedFor p.2 c.1 c.2
  /-- The sessions that were counted are removed. -/
  removed : ∀ c ∈ counted taken, ∀ fd : Int, s.server.sessions[fd]? ≠ some c.2
  total : s.server.getInfo.timedOutSessions + s.server.getInfo.droppedSessions +
    s.server.getInfo.activeSessions ≤ s.server.getInfo.totalConnections

/-- The step marks no slow client, it does not sweep while the table holds a session in
`kTeardown`, and the 64-bit counter of connections does not overflow. -/
def countsWell (s : System) (l : Label) : Bool :=
  s.marks l = none &&
    ((s.sweepsAt l).all fun _ => s.server.sessions.toList.all fun entry =>
      (s.server.heap entry.2).all fun x => x.state ≠ .kTeardown) &&
    match l with
    | .dispatch (.accepted ..) _ => s.server.totalConnections + 1 < 2 ^ 64
    | _ => true

end System

/-! ## The size of the table -/

namespace Server

variable {srv : Server}

theorem timedOutFds_nodup (srv : Server) (now : Int) : (srv.timedOutFds now).Nodup := by
  have hkeys : (srv.sessions.toList.map Prod.fst).Nodup := by
    rw [Std.TreeMap.map_fst_toList_eq_keys]
    exact Std.TreeMap.nodup_keys
  exact hkeys.sublist (List.filter_sublist.map Prod.fst)

theorem closeConnection_size_succ {fd : Int} {sid : Nat} (hfd : srv.sessions[fd]? = some sid) :
    (srv.closeConnection fd).1.sessions.size + 1 = srv.sessions.size := by
  have hcontains : srv.sessions.contains fd = true := by
    rw [Std.TreeMap.contains_eq_isSome_getElem?, hfd]
    rfl
  have hsize := Std.TreeMap.size_erase (t := srv.sessions) (k := fd)
  rw [if_pos hcontains] at hsize
  have hpos : 0 < srv.sessions.size := by
    rw [← Std.TreeMap.length_toList]
    exact List.length_pos_of_mem (Std.TreeMap.mem_toList_iff_getElem?_eq_some.mpr hfd)
  rcases closeConnection_sessions srv fd with hsame | hsame
  · have hgone := (closeConnection_frame srv fd).2.2.2.2.1 fd
    rw [if_pos rfl, hsame, hfd] at hgone
    cases hgone
  · rw [hsame]
    omega

/-- Every turn of the sweep takes one entry off. -/
theorem foldl_sweep_size {fds : List Int} (hnodup : fds.Nodup) : ∀ acc : Server × List Nat,
    (∀ fd ∈ fds, (acc.1.sessions[fd]?).isSome) →
      (fds.foldl sweep acc).1.sessions.size + fds.length = acc.1.sessions.size := by
  induction fds with
  | nil => exact fun _ _ => rfl
  | cons fd fds ih =>
    intro acc hin
    obtain ⟨hfd, hnodup⟩ := List.nodup_cons.mp hnodup
    obtain ⟨sid, hsid⟩ := Option.isSome_iff_exists.mp (hin fd (by simp))
    let counted : Server := { acc.1 with
      timedOutSessions := (acc.1.timedOutSessions + 1) % 2 ^ 64 }
    have hcounted : counted.sessions[fd]? = some sid := hsid
    have hone : (sweep acc fd).1.sessions.size + 1 = acc.1.sessions.size :=
      closeConnection_size_succ hcounted
    have hrest := ih hnodup (sweep acc fd) fun x hx => by
      have hne : x ≠ fd := fun heq => hfd (heq ▸ hx)
      have hsame := (closeConnection_same counted hne).1
      rw [show (sweep acc fd).1.sessions[x]? = _ from hsame]
      exact hin x (by simp [hx])
    rw [List.foldl_cons, List.length_cons]
    omega

/-- What an answer of `accept` does to the table and to the counter of connections. -/
theorem onNewConnection_table {o : AcceptOutcome} {res : Server × List Nat}
    (h : srv.onNewConnection o = some res) :
    (res.1.totalConnections = srv.totalConnections ∧ res.1.sessions = srv.sessions) ∨
      (o ≠ .failed ∧ res.1.totalConnections = (srv.totalConnections + 1) % 2 ^ 64 ∧
        (res.1.sessions = srv.sessions ∨
          ∃ fd : Int, res.1.sessions = srv.sessions.insert fd srv.created)) := by
  cases o with
  | failed =>
    obtain rfl := Option.some.inj h
    exact .inl ⟨rfl, rfl⟩
  | accepted fd addOk timestamp now garbage =>
    simp only [onNewConnection, Option.bind_eq_bind] at h
    obtain ⟨kernel, -, h⟩ := Option.bind_eq_some_iff.mp h
    split at h
    · obtain rfl := Option.some.inj h
      exact .inl ⟨rfl, rfl⟩
    · have hadd := addFd_sameCounts { srv with
          kernel := kernel, totalConnections := (srv.totalConnections + 1) % 2 ^ 64 } fd {} .client addOk
      have hsessions (srv' : Server) : (srv'.addFd fd {} .client addOk).1.sessions =
          srv'.sessions := by
        unfold addFd
        split
        · rfl
        · split <;> rfl
      split at h
      · obtain ⟨x, -, h⟩ := Option.bind_eq_some_iff.mp h
        obtain rfl := Option.some.inj h
        refine .inr ⟨by simp, hadd.connections, .inr ⟨fd, ?_⟩⟩
        simp only [hsessions, hadd.created]
      · obtain rfl := Option.some.inj h
        exact .inr ⟨by simp, hadd.connections, .inl (hsessions _)⟩

end Server

/-! ## What a step counts -/

namespace System

variable {s t : System} {l : Label}

/-- A step that counts nothing: the table loses entries or gets one that is counted as a
connection. -/
structure Quiet (s t : System) : Prop where
  timedOut : t.server.timedOutSessions = s.server.timedOutSessions
  dropped : t.server.totalDroppedSessions = s.server.totalDroppedSessions
  created : s.server.created ≤ t.server.created
  origin : ∀ (fd : Int) a, t.server.sessions[fd]? = some a →
    s.server.sessions[fd]? = some a ∨ a = s.server.created
  active : t.server.sessions.size + s.server.totalConnections ≤
    s.server.sessions.size + t.server.totalConnections
  bounded : s.server.totalConnections < 2 ^ 64 → t.server.totalConnections < 2 ^ 64

theorem closeAndLeave_table (s : System) (held : List Nat) :
    (s.closeAndLeave held).server.sessions = s.server.sessions ∨
      ∃ fd : Int, (s.closeAndLeave held).server.sessions = s.server.sessions.erase fd := by
  unfold System.closeAndLeave
  simp only [release_sessions]
  rcases Server.closeConnection_sessions s.server s.loop.fd with hsame | herase
  · exact .inl hsame
  · exact .inr ⟨_, herase⟩

/-- Only a dispatched entry puts something into the table; other steps take off one entry at
most. -/
theorem step_table (hstep : s.step l = some t) :
    (∃ accept expired, l = .dispatch accept expired) ∨ t.server.sessions = s.server.sessions ∨
      ∃ fd : Int, t.server.sessions = s.server.sessions.erase fd := by
  cases step_cases hstep with
  | skip | accept | sweep | enter => exact .inl ⟨_, _, rfl⟩
  | broadcast hpc =>
    refine .inr (.inl ?_)
    unfold System.broadcast
    split <;> rfl
  | streamModify | registerRead => exact .inr (.inl (Server.modifyFd_frame _ _ _).1)
  | finish => exact .inr (.inl (release_sessions _ _))
  | load | sendTo | sendV | recordDrop | recordSuccess | wait | absent | receive | writable
  | skipFrame | request | checkRead | flush | drained | disconnect => exact .inr (.inl rfl)
  | drop | hangUp | tooLarge | flushFailed => exact .inr (closeAndLeave_table _ _)
  | readDone | pending => exact .inr (.inl (release_sessions _ _))
  | unregister =>
    refine .inr (.inl ?_)
    exact (release_sessions _ _).trans (Server.modifyFd_frame _ _ _).1

theorem quiet_of_table (htimed : t.server.timedOutSessions = s.server.timedOutSessions)
    (hdropped : t.server.totalDroppedSessions = s.server.totalDroppedSessions)
    (hcreated : s.server.created ≤ t.server.created)
    (htotal : t.server.totalConnections = s.server.totalConnections)
    (hsessions : t.server.sessions = s.server.sessions ∨
      ∃ fd : Int, t.server.sessions = s.server.sessions.erase fd) : Quiet s t where
  timedOut := htimed
  dropped := hdropped
  created := hcreated
  origin fd a hfd := by
    rcases hsessions with hsame | ⟨x, herase⟩
    · exact .inl (hsame ▸ hfd)
    · rw [herase, Server.getElem?_erase] at hfd
      split at hfd
      · cases hfd
      · exact .inl hfd
  active := by
    rw [htotal]
    rcases hsessions with hsame | ⟨x, herase⟩
    · rw [hsame]
    · rw [herase]
      exact Nat.add_le_add_right Std.TreeMap.size_erase_le _
  bounded h := htotal ▸ h

/-- A connection that is counted, and at most one entry with it. -/
theorem quiet_accept {o : AcceptOutcome} {res : Server × List Nat}
    (hres : s.server.onNewConnection o = some res)
    (hroom : o ≠ .failed → s.server.totalConnections + 1 < 2 ^ 64)
    (hserver : res.1.SameCounts t.server) (hsessions : t.server.sessions = res.1.sessions)
    (hcreated : s.server.created ≤ t.server.created) : Quiet s t := by
  obtain ⟨-, htimed, hdropped⟩ := Server.onNewConnection_counts hres
  rw [← hserver.timedOut] at htimed
  rw [← hserver.dropped] at hdropped
  rcases Server.onNewConnection_table hres with ⟨htotal, hsame⟩ | ⟨hne, htotal, hinsert⟩
  · exact quiet_of_table htimed hdropped hcreated (hserver.connections.trans htotal)
      (.inl (hsessions.trans hsame))
  · have hroom := hroom hne
    rw [Nat.mod_eq_of_lt hroom, ← hserver.connections] at htotal
    rw [← hsessions] at hinsert
    refine ⟨htimed, hdropped, hcreated, fun fd a hfd => ?_, ?_, fun _ => htotal ▸ hroom⟩
    · rcases hinsert with hsame | ⟨x, hinsert⟩
      · exact .inl (hsame ▸ hfd)
      · rw [hinsert, Server.getElem?_insert] at hfd
        split at hfd
        · exact .inr (Option.some.inj hfd).symm
        · exact .inl hfd
    · have hsize : t.server.sessions.size ≤ s.server.sessions.size + 1 := by
        rcases hinsert with hsame | ⟨x, hinsert⟩
        · rw [hsame]
          exact Nat.le_succ _
        · rw [hinsert]
          exact Std.TreeMap.size_insert_le
      omega

theorem marks_recordDrop {sid : Nat} {session : RtspSession} (hpc : s.stream.pc = .failed sid)
    (hs : s.server.heap sid = some session) :
    s.marks .recordDrop = if session.becomesSlow then some sid else none := by
  simp [marks, hpc, hs]

theorem step_quiet (hwell : s.countsWell l = true) (hsweep : s.sweepsAt l = none)
    (hstep : s.step l = some t) : Quiet s t := by
  simp only [countsWell, Bool.and_eq_true, decide_eq_true_eq] at hwell
  obtain ⟨⟨hmarks, -⟩, hroom⟩ := hwell
  have hcreated := (step_fixed hstep).2
  by_cases hdispatch : ∃ accept expired, l = .dispatch accept expired
  · obtain ⟨accept, expired, rfl⟩ := hdispatch
    cases step_cases hstep with
    | skip | enter => exact quiet_of_table rfl rfl le_rfl rfl (.inl rfl)
    | @accept _ _ e batch res hpc hhandlers hbatch hcb hres =>
      refine quiet_accept hres (fun hne => ?_)
        (release_sameCounts res.2 (Server.sameCounts_refl res.1)) (release_sessions _ _) hcreated
      cases accept with
      | failed => exact absurd rfl hne
      | accepted => exact of_decide_eq_true hroom
    | @sweep _ now e batch hpc hhandlers hbatch hcb =>
      have hoff : s.server.config.connectionTimeoutSec ≤ 0 ∧
          s.server.config.sessionTimeoutSec ≤ 0 := by
        simp only [sweepsAt, hbatch, hcb, true_and, ite_eq_right_iff, reduceCtorEq, imp_false,
          not_or, Int.not_lt] at hsweep
        exact hsweep
      have hnothing : s.server.checkTimeouts now = (s.server, []) := by
        rw [Server.checkTimeouts, if_pos hoff]
      rw [hnothing]
      exact quiet_of_table rfl rfl le_rfl rfl (.inl rfl)
  · have htable := (step_table hstep).resolve_left hdispatch
    rcases (step_sameCounts hstep).resolve_left hdispatch with rfl | hsame
    · cases step_cases hstep with
      | recordDrop hpc hs =>
        rw [marks_recordDrop hpc hs] at hmarks
        refine quiet_of_table rfl ?_ le_rfl rfl (.inl rfl)
        split at hmarks
        · cases hmarks
        · rename_i hslow
          simp [System.recordDrop, hslow]
    · exact quiet_of_table hsame.timedOut hsame.dropped hcreated hsame.connections htable

theorem counts_quiet (hwell : s.countsWell l = true) (hsweep : s.sweepsAt l = none) :
    s.counts l = [] := by
  simp only [countsWell, Bool.and_eq_true, decide_eq_true_eq] at hwell
  simp [counts, hwell.1.1, hsweep]

theorem counts_sweep (hwell : s.countsWell l = true) {now : Int}
    (hsweep : s.sweepsAt l = some now) :
    s.counts l = (s.swept now).map (Heading.timedOut, ·) := by
  simp only [countsWell, Bool.and_eq_true, decide_eq_true_eq] at hwell
  simp [counts, hwell.1.1, hsweep]

/-- A sweep is a dispatched entry of the timer. -/
theorem sweepsAt_eq_some {now : Int} (h : s.sweepsAt l = some now) :
    (∃ accept, l = .dispatch accept (some now)) ∧
      (∀ e batch, s.loop.batch = e :: batch → s.server.callbacks e.fd = some .checkTimeouts) ∧
      (0 < s.server.config.connectionTimeoutSec ∨ 0 < s.server.config.sessionTimeoutSec) := by
  match l, h with
  | .dispatch accept (some now'), h =>
    simp only [sweepsAt] at h
    split at h
    · cases h
    · rename_i e batch hbatch
      split at h
      · rename_i hcond
        obtain rfl := Option.some.inj h
        refine ⟨⟨accept, rfl⟩, fun e' batch' hbatch' => ?_, hcond.2⟩
        rw [hbatch] at hbatch'
        obtain ⟨rfl, -⟩ := List.cons.inj hbatch'
        exact hcond.1
      · cases h

/-- The step that sweeps. -/
theorem step_sweeps {now : Int} (hsweep : s.sweepsAt l = some now) (hstep : s.step l = some t) :
    (0 < s.server.config.connectionTimeoutSec ∨ 0 < s.server.config.sessionTimeoutSec) ∧
      (s.server.checkTimeouts now).1.SameCounts t.server ∧
      t.server.sessions = (s.server.checkTimeouts now).1.sessions := by
  obtain ⟨⟨accept, rfl⟩, htimer, hon⟩ := sweepsAt_eq_some hsweep
  refine ⟨hon, ?_⟩
  cases step_cases hstep with
  | skip _ _ hbatch hnone => simp [htimer _ _ hbatch] at hnone
  | accept _ _ hbatch hcb | enter _ _ hbatch hcb => simp [htimer _ _ hbatch] at hcb
  | sweep => exact ⟨release_sameCounts _ (Server.sameCounts_refl _), release_sessions _ _⟩

/-! ## The sessions of a sweep -/

theorem mem_swept {now : Int} {sid : Nat} (h : sid ∈ s.swept now) :
    ∃ (fd : Int) (x : RtspSession), s.server.sessions[fd]? = some sid ∧
      s.server.heap sid = some x ∧ s.server.config.Due x now := by
  obtain ⟨fd, hfd, hsid⟩ := List.mem_filterMap.mp h
  obtain ⟨sid', x, hsid', hx, hdue⟩ := Server.mem_timedOutFds.mp hfd
  obtain rfl := Option.some.inj (hsid.symm.trans hsid')
  exact ⟨fd, x, hsid, hx, hdue⟩

theorem timedOutFds_isSome {srv : Server} {now fd : Int} (h : fd ∈ srv.timedOutFds now) :
    (srv.sessions[fd]?).isSome := by
  obtain ⟨sid, x, hsid, -⟩ := Server.mem_timedOutFds.mp h
  simp [hsid]

/-- As many sessions as descriptors. -/
theorem length_swept (s : System) (now : Int) :
    (s.swept now).length = (s.server.timedOutFds now).length :=
  List.filterMap_length_eq_length.mpr fun _ hfd => timedOutFds_isSome hfd

/-- Different descriptors have different sessions. -/
theorem swept_nodup (h : s.Inv) (now : Int) : (s.swept now).Nodup := by
  refine List.Nodup.filterMap (fun x y sid hx hy => ?_) (Server.timedOutFds_nodup s.server now)
  exact h.server.table_inj (Option.mem_def.mp hx) (Option.mem_def.mp hy)

/-- The step that sweeps closes what it collects, and counts it. -/
structure Sweeps (s t : System) (now : Int) : Prop where
  timedOut : s.server.timedOutSessions < 2 ^ 64 → t.server.timedOutSessions =
    (s.server.timedOutSessions + (s.swept now).length) % 2 ^ 64
  dropped : t.server.totalDroppedSessions = s.server.totalDroppedSessions
  created : t.server.created = s.server.created
  connections : t.server.totalConnections = s.server.totalConnections
  origin : ∀ (fd : Int) a, t.server.sessions[fd]? = some a → s.server.sessions[fd]? = some a
  active : t.server.sessions.size + (s.swept now).length = s.server.sessions.size
  removed : ∀ sid ∈ s.swept now, ∀ fd : Int, t.server.sessions[fd]? ≠ some sid

theorem sweeps_of_step (h : s.Inv) {now : Int} (hsweep : s.sweepsAt l = some now)
    (hstep : s.step l = some t) : Sweeps s t now := by
  obtain ⟨hon, hsame, hsessions⟩ := step_sweeps hsweep hstep
  have hrun : s.server.checkTimeouts now =
      (s.server.timedOutFds now).foldl Server.sweep (s.server, []) := by
    rw [Server.checkTimeouts, if_neg (by omega)]
  obtain ⟨hcounts, htimed⟩ := Server.foldl_sweep_counts (s.server.timedOutFds now) (s.server, [])
  have hsize := Server.foldl_sweep_size (Server.timedOutFds_nodup s.server now) (s.server, [])
    fun _ hfd => timedOutFds_isSome hfd
  rw [← hrun] at hcounts htimed hsize
  have hsub := (Server.checkTimeouts_frame s.server now).2
  have hswept := (Server.checkTimeouts_swept_iff h.server now).mpr (by tauto)
  refine ⟨fun hlt => ?_, hsame.dropped.trans hcounts.dropped, hsame.created.trans hcounts.created,
    hsame.connections.trans hcounts.connections, fun fd a hfd => ?_, ?_, fun sid hsid fd hfd => ?_⟩
  · rw [hsame.timedOut, htimed hlt, length_swept]
  · exact (hsub fd a (hsessions ▸ hfd)).1
  · rw [hsessions, length_swept]
    exact hsize
  · obtain ⟨fd', x, hfd', hx, hdue⟩ := mem_swept hsid
    rw [hsessions] at hfd
    obtain rfl := h.server.table_inj (hsub fd sid hfd).1 hfd'
    rw [(hswept.removed fd sid x hfd' hx hdue).1] at hfd
    cases hfd

/-! ## Whole runs -/

theorem counted_concat (taken : List (System × Label)) (s : System) (l : Label) :
    counted (taken ++ [(s, l)]) = counted taken ++ s.counts l := by
  simp [counted]

/-- What carries the statistics from step to step. -/
structure Accounts (s : System) (taken : List (System × Label)) : Prop where
  inv : s.Inv
  consistent : s.Consistent taken
  /-- The sessions counted so far are not the next ones to be created. -/
  older : ∀ c ∈ counted taken, c.2 < s.server.created
  bounded : s.server.totalConnections < 2 ^ 64

theorem Accounts.reason {taken : List (System × Label)} (h : s.Accounts taken)
    (hnew : ∀ c ∈ s.counts l, s.CountedFor l c.1 c.2) :
    ∀ p ∈ taken ++ [(s, l)], ∀ c ∈ p.1.counts p.2, p.1.CountedFor p.2 c.1 c.2 := by
  intro p hp
  rcases List.mem_append.mp hp with hold | hlast
  · exact h.consistent.reason p hold
  · obtain rfl := List.mem_singleton.mp hlast
    exact hnew

theorem Accounts.quiet {taken : List (System × Label)} (h : s.Accounts taken) (ht : t.Inv)
    (hcounts : s.counts l = []) (hq : Quiet s t) : t.Accounts (taken ++ [(s, l)]) := by
  have hsame : counted (taken ++ [(s, l)]) = counted taken := by simp [counted_concat, hcounts]
  obtain ⟨htimed, hdropped, honce, hreason, hremoved, htotal⟩ := h.consistent
  refine ⟨ht, ⟨?_, ?_, ?_, h.reason (by simp [hcounts]), ?_, ?_⟩, ?_, hq.bounded h.bounded⟩
  · rw [hsame]
    exact hq.timedOut.trans htimed
  · rw [hsame]
    exact hq.dropped.trans hdropped
  · rwa [hsame]
  · rw [hsame]
    intro c hc fd hfd
    rcases hq.origin fd c.2 hfd with hold | hnew
    · exact hremoved c hc fd hold
    · exact absurd hnew (h.older c hc).ne
  · simp only [Server.getInfo, Std.TreeMap.length_toList] at htotal ⊢
    have hactive := hq.active
    rw [hq.timedOut, hq.dropped]
    omega
  · rw [hsame]
    exact fun c hc => (h.older c hc).trans_le hq.created

/-- Without a session in `kTeardown`, what a sweep collects has been idle for too long. -/
theorem countedFor_swept {now : Int} (hwell : s.countsWell l = true)
    (hsweep : s.sweepsAt l = some now) {sid : Nat} (hsid : sid ∈ s.swept now) :
    s.CountedFor l .timedOut sid := by
  obtain ⟨fd, x, hfd, hx, hdue⟩ := mem_swept hsid
  simp only [countsWell, Bool.and_eq_true, hsweep, Option.all_some, List.all_eq_true] at hwell
  have hstate := hwell.1.2 (fd, sid) (Std.TreeMap.mem_toList_iff_getElem?_eq_some.mpr hfd)
  simp only [hx, Option.all_some, decide_eq_true_eq] at hstate
  rcases hdue with hdown | hidle
  · exact absurd hdown hstate
  · exact ⟨fd, x, hfd, hx, hstate, now, hsweep, hidle⟩

theorem Accounts.sweep {taken : List (System × Label)} (h : s.Accounts taken) (ht : t.Inv)
    {now : Int} (hwell : s.countsWell l = true) (hsweep : s.sweepsAt l = some now)
    (hs : Sweeps s t now) : t.Accounts (taken ++ [(s, l)]) := by
  have hcounts := counts_sweep hwell hsweep
  obtain ⟨htimed, hdropped, honce, hreason, hremoved, htotal⟩ := h.consistent
  simp only [Server.getInfo, Std.TreeMap.length_toList] at htimed hdropped htotal
  have hactive := hs.active
  have hbounded := h.bounded
  have hnow : t.server.timedOutSessions = s.server.timedOutSessions + (s.swept now).length := by
    rw [hs.timedOut (by omega), Nat.mod_eq_of_lt (by omega)]
  have hnewly : ∀ c ∈ counted (taken ++ [(s, l)]),
      c ∈ counted taken ∨ (c.1 = .timedOut ∧ c.2 ∈ s.swept now) := by
    intro c hc
    rw [counted_concat, hcounts] at hc
    rcases List.mem_append.mp hc with hold | hnew
    · exact .inl hold
    · obtain ⟨sid, hsid, rfl⟩ := List.mem_map.mp hnew
      exact .inr ⟨rfl, hsid⟩
  refine ⟨ht, ⟨?_, ?_, ?_, h.reason ?_, ?_, ?_⟩, ?_, hs.connections ▸ hbounded⟩
  · simp [Server.getInfo, counted_concat, hcounts, hnow, htimed, List.filter_map, Function.comp_def]
  · simp [Server.getInfo, counted_concat, hcounts, hs.dropped, hdropped, List.filter_map,
      Function.comp_def]
  · rw [counted_concat, hcounts, List.map_append, List.map_map]
    refine List.nodup_append'.mpr ⟨honce, by simpa using swept_nodup h.inv now, ?_⟩
    -- what was counted before is not in the table any more
    intro sid hold hnew
    obtain ⟨c, hc, rfl⟩ := List.mem_map.mp hold
    obtain ⟨fd, x, hfd, -⟩ := mem_swept (by simpa using hnew)
    exact hremoved c hc fd hfd
  · intro c hc
    rw [hcounts] at hc
    obtain ⟨sid, hsid, rfl⟩ := List.mem_map.mp hc
    exact countedFor_swept hwell hsweep hsid
  · intro c hc fd hfd
    rcases hnewly c hc with hold | ⟨-, hnew⟩
    · exact hremoved c hold fd (hs.origin fd c.2 hfd)
    · exact hs.removed c.2 hnew fd hfd
  · simp only [Server.getInfo, Std.TreeMap.length_toList]
    rw [hnow, hs.dropped, hs.connections]
    omega
  · intro c hc
    rw [hs.created]
    rcases hnewly c hc with hold | ⟨-, hnew⟩
    · exact h.older c hold
    · obtain ⟨fd, x, hfd, hx, -⟩ := mem_swept hnew
      by_contra hle
      rw [h.inv.server.fresh c.2 (Nat.le_of_not_lt hle)] at hx
      cases hx

theorem step_accounts {taken : List (System × Label)} (h : s.Accounts taken)
    (hwell : s.countsWell l = true) (hstep : s.step l = some t) :
    t.Accounts (taken ++ [(s, l)]) := by
  have ht := step_inv h.inv hstep
  cases hsweep : s.sweepsAt l with
  | none => exact h.quiet ht (counts_quiet hwell hsweep) (step_quiet hwell hsweep hstep)
  | some now => exact h.sweep ht hwell hsweep (sweeps_of_step h.inv hsweep hstep)

theorem start_accounts (config : Config) : (System.start config).Accounts [] where
  inv := start_inv config
  consistent := by
    constructor <;> simp [counted, Server.getInfo, System.start, Server.start]
  older := by simp [counted]
  bounded := by simp [System.start, Server.start]

/-- **The statistics are consistent** in every state of a run in which no step marks a slow
client, no sweep finds a session in `kTeardown`, and fewer than 2⁶⁴ connections are counted:
every session is counted at most once, as timed out only when its idle time has reached its
timeout and it was not torn down, it is out of the table then, and the sessions counted and
those in the table are together no more than the connections. -/
theorem statistics_consistent (config : Config) (labels : List Label) (s : System)
    (hwell : Transition.Along step (fun s l => s.countsWell l = true) (System.start config) labels)
    (hs : Transition.run step (System.start config) labels = some s) :
    s.Consistent (Transition.trace step (System.start config) labels) := by
  have haccounts : s.Accounts ([] ++ Transition.trace step (System.start config) labels) :=
    Transition.Along.trace_invariant (I := Accounts) (fun _ _ _ _ => step_accounts)
      (start_accounts config) hwell hs
  exact haccounts.consistent

/-- The timer fires, and its callback reads this time. -/
def timerAt (now : Int) : List Label :=
  [.wait [{ fd := 4, read := true }], .dispatch .failed (some now)]

/-- A client that never sends a request is swept after ten seconds. -/
theorem statistics_of_idle_client :
    ∃ s, Transition.run step (System.start smallConfig) (accepts 7 ++ timerAt 10) = some s ∧
      s.server.getInfo.timedOutSessions = 1 ∧ s.server.getInfo.totalConnections = 1 ∧
      s.Consistent (Transition.trace step (System.start smallConfig) (accepts 7 ++ timerAt 10)) := by
  have hrun : (Transition.run step (System.start smallConfig) (accepts 7 ++ timerAt 10)).any
      (fun s => s.server.getInfo.timedOutSessions = 1 && s.server.getInfo.totalConnections = 1) =
      true := by
    decide
  obtain ⟨s, hs, hfacts⟩ := (Option.any_eq_true _ _).mp hrun
  simp only [Bool.and_eq_true, decide_eq_true_eq] at hfacts
  exact ⟨s, hs, hfacts.1, hfacts.2,
    statistics_consistent smallConfig (accepts 7 ++ timerAt 10) s (by decide) hs⟩

/-- A player on a broken socket fails to take a hundred packets; the timer fires after that. -/
def slowClient : List Label :=
  playsTcp 7 ++ (List.replicate 100
    [.broadcast ⟨[1], 0⟩, .load 0, .sendV .hardError, .recordDrop, .finish]).flatten ++ timerAt 1

/-- The slow client is counted twice, and a session that was torn down a second before counts
as timed out. -/
theorem statistics_miscounted :
    (∃ s, Transition.run step (System.start smallConfig) slowClient = some s ∧
      s.server.getInfo.timedOutSessions = 1 ∧ s.server.getInfo.droppedSessions = 1 ∧
      s.server.getInfo.totalConnections = 1 ∧
      ¬ s.Consistent (Transition.trace step (System.start smallConfig) slowClient)) ∧
    ∃ s, Transition.run step (System.start smallConfig) (tearsDown 7 ++ timerAt 1) = some s ∧
      s.server.getInfo.timedOutSessions = 1 ∧
      ¬ s.Consistent (Transition.trace step (System.start smallConfig) (tearsDown 7 ++ timerAt 1)) := by
  constructor
  · have hrun : (Transition.run step (System.start smallConfig) slowClient).any
        (fun s => s.server.getInfo.timedOutSessions = 1 && s.server.getInfo.droppedSessions = 1 &&
          s.server.getInfo.totalConnections = 1) = true := by
      decide +kernel
    obtain ⟨s, hs, hfacts⟩ := (Option.any_eq_true _ _).mp hrun
    simp only [Bool.and_eq_true, decide_eq_true_eq] at hfacts
    refine ⟨s, hs, hfacts.1.1, hfacts.1.2, hfacts.2, fun hcons => ?_⟩
    have htotal := hcons.total
    rw [hfacts.1.1, hfacts.1.2, hfacts.2] at htotal
    omega
  · have hrun : (Transition.run step (System.start smallConfig) (tearsDown 7 ++ timerAt 1)).any
        (fun s => s.server.getInfo.timedOutSessions = 1) = true := by
      decide
    have hdown : (Transition.trace step (System.start smallConfig) (tearsDown 7 ++ timerAt 1)).any
        (fun p => p.1.counts p.2 = [(.timedOut, 0)] &&
          (p.1.server.heap 0).any fun x => x.state = .kTeardown) = true := by
      decide
    obtain ⟨s, hs, hfacts⟩ := (Option.any_eq_true _ _).mp hrun
    refine ⟨s, hs, of_decide_eq_true hfacts, fun hcons => ?_⟩
    obtain ⟨p, hp, hcount⟩ := List.any_eq_true.mp hdown
    simp only [Bool.and_eq_true, decide_eq_true_eq, Option.any_eq_true] at hcount
    obtain ⟨hcount, x, hx, hstate⟩ := hcount
    obtain ⟨fd, y, -, hy, hne, -⟩ := hcons.reason p hp (.timedOut, 0) (by simp [hcount])
    obtain rfl : x = y := by simpa [hx] using hy
    exact hne hstate

end System

end RtspForward
