import RtspForward.Core.SessionTable
import RtspForward.Core.Statistics
import RtspForward.Lib.Components

/-!
# What `GetInfo` counts

Until `Stop` is called, every session that `OnNewConnection` creates is in the table, or has left
it once, swept by `CheckTimeouts` or closed by a handler. What has entered and left the table, the
slow clients and the connections make the numbers that `GetInfo` reports.
-/
namespace RtspForward

open Lib Transition

/-- How a session leaves the table, before a call of `Stop`. -/
inductive Exit where
  | swept
  | closed
  deriving DecidableEq, Repr

namespace Server

/-- A connection below the limit of sessions, and whether `AddFd` takes it. -/
def connection (srv : Server) : AcceptOutcome → List Bool
  | .accepted _ addOk _ _ _ => if srv.limitReached then [] else [addOk]
  | .failed => []

variable {srv : Server} {o : AcceptOutcome} {res : Server × List Nat}

theorem onNewConnection_total (hlt : srv.totalConnections < 2 ^ 64)
    (h : srv.onNewConnection o = some res) :
    res.1.totalConnections = (srv.totalConnections + (srv.connection o).length) % 2 ^ 64 := by
  cases o with
  | failed =>
    obtain rfl := Option.some.inj h
    exact (Nat.mod_eq_of_lt hlt).symm
  | accepted fd addOk timestamp now garbage =>
    obtain ⟨kernel, -, h⟩ := Option.bind_eq_some_iff.mp h
    by_cases hlimit : ({ srv with kernel := kernel } : Server).limitReached = true
    · have hnone : srv.connection (.accepted fd addOk timestamp now garbage) = [] := if_pos hlimit
      rw [if_pos hlimit] at h
      obtain rfl := Option.some.inj h
      rw [hnone]
      exact (Nat.mod_eq_of_lt hlt).symm
    · have hone : srv.connection (.accepted fd addOk timestamp now garbage) = [addOk] := if_neg hlimit
      have hadd := addFd_sameCounts { srv with
        kernel := kernel, totalConnections := (srv.totalConnections + 1) % 2 ^ 64 } fd {} .client addOk
      rw [if_neg hlimit] at h
      rw [hone]
      simp only at h
      split at h
      · obtain ⟨session, -, h⟩ := Option.bind_eq_some_iff.mp h
        obtain rfl := Option.some.inj h
        exact hadd.connections
      · obtain rfl := Option.some.inj h
        exact hadd.connections

theorem connection_cases (srv : Server) (o : AcceptOutcome) :
    srv.connection o = [] ∨ ∃ b, srv.connection o = [b] := by
  cases o with
  | failed => exact .inl rfl
  | accepted fd addOk timestamp now garbage =>
    by_cases hlimit : srv.limitReached = true
    · exact .inl (if_pos hlimit)
    · exact .inr ⟨addOk, if_neg hlimit⟩

theorem connection_admits : true ∈ srv.connection o ↔ (srv.admits o).isSome := by
  cases o with
  | failed => simp [connection, admits]
  | accepted fd addOk timestamp now garbage =>
    cases addOk <;> cases hlimit : srv.limitReached <;> simp [connection, admits, hlimit]

end Server

namespace System

/-- What comes of the connections that are waiting at the listener. -/
def connection (s : System) : Label → List Bool
  | .dispatch accept _ =>
    match s.loop.batch with
    | [] => []
    | e :: _ =>
      if s.server.callbacks e.fd = some .onNewConnection then s.server.connection accept else []
  | _ => []

/-- The session whose entry `CloseConnection` takes off the table. -/
def closes (s : System) (l : Label) : Option Nat :=
  (s.step l).bind fun t =>
    if (t.server.sessions[s.loop.fd]?).isSome then none else s.server.sessions[s.loop.fd]?

/-- The sessions that leave the table in a step. -/
def exits (s : System) (l : Label) : List (Exit × Nat) :=
  match s.sweepsAt l with
  | some now => (s.swept now).map (Exit.swept, ·)
  | none => (s.closes l).toList.map (Exit.closed, ·)

/-- The number of the session that a step creates. -/
def enters (s : System) (l : Label) : List Nat :=
  if true ∈ s.connection l then [s.server.created] else []

/-- The numbers of `GetInfo` after the steps taken so far. -/
structure InfoCounts (s : System) (taken : List (System × Label)) : Prop where
  /-- Every session is in the table, or has left it once. -/
  sessions : (s.server.inTable ++ (totalOf exits taken).map Prod.snd).Perm
    (List.range s.server.created)
  active : s.server.getInfo.activeSessions + (totalOf exits taken).length = s.server.created
  timedOut : s.server.getInfo.timedOutSessions =
    ((totalOf exits taken).filter (·.1 = .swept)).length % 2 ^ 64
  dropped : s.server.getInfo.droppedSessions =
    (totalOf (fun s l => (s.marks l).toList) taken).length % 2 ^ 64
  connections : s.server.getInfo.totalConnections = (totalOf connection taken).length % 2 ^ 64
  /-- The connections that `AddFd` takes become sessions. -/
  created : s.server.created = ((totalOf connection taken).filter id).length

variable {s t : System} {l : Label}

/-! ## What a step counts -/

/-- The step is about no connection, marks no slow client and does not sweep. -/
structure CountsNothing (s : System) (l : Label) : Prop where
  connection : s.connection l = []
  marks : s.marks l = none
  sweeps : s.sweepsAt l = none

inductive CountStep (s : System) (l : Label) (t : System) : Prop
  | nothing : s.CountsNothing l → s.server.SameCounts t.server →
      t.server.sessions = s.server.sessions → CountStep s l t
  | close : s.CountsNothing l → s.server.SameCounts t.server →
      (∀ x : Int, t.server.sessions[x]? =
        if s.loop.fd = x then none else s.server.sessions[x]?) → CountStep s l t
  | mark {sid : Nat} {session : RtspSession} : s.connection l = [] → s.sweepsAt l = none →
      s.marks l = (if session.becomesSlow then some sid else none) →
      t = s.recordDrop sid session → CountStep s l t
  | connect {o : AcceptOutcome} {res : Server × List Nat} : s.connection l = s.server.connection o →
      s.marks l = none → s.sweepsAt l = none → s.server.onNewConnection o = some res →
      res.1.SameCounts t.server → t.server.sessions = res.1.sessions → CountStep s l t
  | sweep {now : Int} : s.connection l = [] → s.marks l = none → s.sweepsAt l = some now →
      Sweeps s t now → CountStep s l t

theorem closeAndLeave_lookup (s : System) (held : List Nat) (x : Int) :
    (s.closeAndLeave held).server.sessions[x]? =
      if s.loop.fd = x then none else s.server.sessions[x]? := by
  unfold System.closeAndLeave
  rw [release_sessions]
  exact (Server.closeConnection_frame s.server s.loop.fd).2.2.2.2.1 x

section Dispatch

variable {accept : AcceptOutcome} {expired : Option Int} {e : EventResult} {batch : List EventResult}

theorem connection_dispatch (hbatch : s.loop.batch = e :: batch) :
    s.connection (.dispatch accept expired) =
      if s.server.callbacks e.fd = some .onNewConnection then s.server.connection accept else [] := by
  simp only [connection, hbatch]

theorem sweepsAt_other (hbatch : s.loop.batch = e :: batch)
    (hcb : s.server.callbacks e.fd ≠ some .checkTimeouts) :
    s.sweepsAt (.dispatch accept expired) = none := by
  refine Option.eq_none_iff_forall_ne_some.mpr fun now hsweep => ?_
  exact hcb ((sweepsAt_eq_some hsweep).2.1 e batch hbatch)

end Dispatch

/-- The steps that are not a dispatched entry leave the table alone, or close the connection of
the current callback. -/
theorem step_lookup (hl : ∀ accept expired, l ≠ .dispatch accept expired)
    (hstep : s.step l = some t) :
    t.server.sessions = s.server.sessions ∨
      ∀ x : Int, t.server.sessions[x]? = if s.loop.fd = x then none else s.server.sessions[x]? := by
  cases step_cases hstep with
  | skip | accept | sweep | enter => exact absurd rfl (hl _ _)
  | broadcast hpc =>
    left
    unfold System.broadcast
    split <;> rfl
  | streamModify | registerRead => exact .inl (Server.modifyFd_frame _ _ _).1
  | finish | readDone | pending => exact .inl (release_sessions _ _)
  | load | sendTo | sendV | recordDrop | recordSuccess | wait | absent | receive | writable
  | skipFrame | request | checkRead | flush | drained | disconnect => exact .inl rfl
  | drop | hangUp | tooLarge | flushFailed => exact .inr fun x => closeAndLeave_lookup _ _ x
  | unregister => exact .inl ((release_sessions _ _).trans (Server.modifyFd_frame _ _ _).1)

theorem dispatch_countStep (h : s.Inv) {accept : AcceptOutcome} {expired : Option Int}
    (hstep : s.step (.dispatch accept expired) = some t) :
    CountStep s (.dispatch accept expired) t := by
  cases step_cases hstep with
  | @skip _ _ e batch hpc hhandlers hbatch hnone =>
    refine .nothing ⟨?_, rfl, ?_⟩ (Server.sameCounts_refl _) rfl
    · rw [connection_dispatch hbatch]
      rcases hnone with hnone | ⟨htimer, -⟩
      · simp [hnone]
      · simp [htimer]
    · rcases hnone with hnone | ⟨-, rfl⟩
      · exact sweepsAt_other hbatch (by simp [hnone])
      · rfl
  | @enter _ _ e batch hpc hhandlers hbatch hcb =>
    refine .nothing ⟨?_, rfl, sweepsAt_other hbatch (by simp [hcb])⟩ (Server.sameCounts_refl _) rfl
    rw [connection_dispatch hbatch, hcb]
    rfl
  | @accept _ _ e batch res hpc hhandlers hbatch hcb hres =>
    refine .connect ?_ rfl (sweepsAt_other hbatch (by simp [hcb])) hres
      (release_sameCounts _ (Server.sameCounts_refl _)) (release_sessions _ _)
    rw [connection_dispatch hbatch, if_pos hcb]
  | @sweep _ now e batch hpc hhandlers hbatch hcb =>
    have hconnection : s.connection (.dispatch accept (some now)) = [] := by
      rw [connection_dispatch hbatch, hcb]
      rfl
    by_cases hoff : s.server.config.connectionTimeoutSec ≤ 0 ∧ s.server.config.sessionTimeoutSec ≤ 0
    · -- neither timeout is positive: `CheckTimeouts` returns at once
      have hnothing : s.server.checkTimeouts now = (s.server, []) := by
        rw [Server.checkTimeouts, if_pos hoff]
      rw [hnothing]
      refine .nothing ⟨hconnection, rfl, ?_⟩ (Server.sameCounts_refl _) rfl
      simp only [sweepsAt, hbatch, ite_eq_right_iff, reduceCtorEq, imp_false]
      omega
    · have hsweep : s.sweepsAt (.dispatch accept (some now)) = some now := by
        simp only [sweepsAt, hbatch, hcb, true_and, ite_eq_left_iff, reduceCtorEq, imp_false]
        omega
      exact .sweep hconnection rfl hsweep (sweeps_of_step h hsweep hstep)

theorem step_countStep (h : s.Inv) (hstep : s.step l = some t) : CountStep s l t := by
  by_cases hdispatch : ∃ accept expired, l = .dispatch accept expired
  · obtain ⟨accept, expired, rfl⟩ := hdispatch
    exact dispatch_countStep h hstep
  · have hl (accept : AcceptOutcome) (expired : Option Int) : l ≠ .dispatch accept expired :=
      fun heq => hdispatch ⟨accept, expired, heq⟩
    have hconnection : s.connection l = [] := by
      cases l with
      | dispatch accept expired => exact absurd rfl (hl accept expired)
      | _ => rfl
    have hsweeps : s.sweepsAt l = none := by
      cases l with
      | dispatch accept expired => exact absurd rfl (hl accept expired)
      | _ => rfl
    by_cases hdrop : l = .recordDrop
    · subst hdrop
      cases step_cases hstep with
      | recordDrop hpc hs => exact .mark rfl rfl (marks_recordDrop hpc hs) rfl
    · have hmarks : s.marks l = none := by
        cases l with
        | recordDrop => exact absurd rfl hdrop
        | _ => rfl
      have hsame := ((step_sameCounts hstep).resolve_left hdispatch).resolve_left hdrop
      rcases step_lookup hl hstep with hsessions | hlookup
      · exact .nothing ⟨hconnection, hmarks, hsweeps⟩ hsame hsessions
      · exact .close ⟨hconnection, hmarks, hsweeps⟩ hsame hlookup

/-! ## The counters -/

/-- The counters are 64-bit numbers. -/
structure CountersInv (s : System) : Prop where
  inv : s.Inv
  timedOut : s.server.timedOutSessions < 2 ^ 64
  dropped : s.server.totalDroppedSessions < 2 ^ 64
  connections : s.server.totalConnections < 2 ^ 64

theorem sweptOff_eq_nil (hsweep : s.sweepsAt l = none) :
    (s.exits l).filter (·.1 = .swept) = [] := by
  simp [exits, hsweep, List.filter_eq_nil_iff]

/-- A step that enters nothing leaves the counter. -/
theorem enters_nothing {α : Type*} {n n' : Nat} {items : List α} (hlt : n < 2 ^ 64)
    (hnone : items = []) (hsame : n' = n) : n' = (n + items.length) % 2 ^ 64 := by
  rw [hnone, hsame]
  exact (Nat.mod_eq_of_lt hlt).symm

/-- The counters after a step are those before and what it enters. -/
structure Counters (s : System) (l : Label) (t : System) : Prop where
  timedOut : t.server.timedOutSessions =
    (s.server.timedOutSessions + ((s.exits l).filter (·.1 = .swept)).length) % 2 ^ 64
  dropped : t.server.totalDroppedSessions =
    (s.server.totalDroppedSessions + (s.marks l).toList.length) % 2 ^ 64
  connections : t.server.totalConnections =
    (s.server.totalConnections + (s.connection l).length) % 2 ^ 64

theorem step_counters (h : s.CountersInv) (hstep : s.step l = some t) : s.Counters l t := by
  have hunmarked (hmarks : s.marks l = none) : (s.marks l).toList = [] := by rw [hmarks]; rfl
  cases step_countStep h.inv hstep with
  | nothing hnone hcounts | close hnone hcounts =>
    exact ⟨enters_nothing h.timedOut (sweptOff_eq_nil hnone.sweeps) hcounts.timedOut,
      enters_nothing h.dropped (hunmarked hnone.marks) hcounts.dropped,
      enters_nothing h.connections hnone.connection hcounts.connections⟩
  | @mark sid session hconnection hsweep hmarks heq =>
    refine ⟨enters_nothing h.timedOut (sweptOff_eq_nil hsweep) (heq ▸ rfl), ?_,
      enters_nothing h.connections hconnection (heq ▸ rfl)⟩
    by_cases hslow : session.becomesSlow = true
    · simp [heq, hmarks, System.recordDrop, hslow]
    · refine enters_nothing h.dropped (hunmarked ?_) ?_
      · rw [hmarks, if_neg hslow]
      · simp [heq, System.recordDrop, hslow]
  | connect hconnection hmarks hsweep hres hcounts =>
    obtain ⟨-, htimedOut, hdropped⟩ := Server.onNewConnection_counts hres
    refine ⟨enters_nothing h.timedOut (sweptOff_eq_nil hsweep) (hcounts.timedOut.trans htimedOut),
      enters_nothing h.dropped (hunmarked hmarks) (hcounts.dropped.trans hdropped), ?_⟩
    rw [hconnection, hcounts.connections]
    exact Server.onNewConnection_total h.connections hres
  | sweep hconnection hmarks hsweep hswept =>
    refine ⟨?_, enters_nothing h.dropped (hunmarked hmarks) hswept.dropped,
      enters_nothing h.connections hconnection hswept.connections⟩
    rw [hswept.timedOut h.timedOut]
    simp [exits, hsweep, List.filter_map, Function.comp_def]

theorem step_countersInv (h : s.CountersInv) (hstep : s.step l = some t) : t.CountersInv := by
  obtain ⟨htimedOut, hdropped, hconnections⟩ := step_counters h hstep
  refine ⟨step_inv h.inv hstep, ?_, ?_, ?_⟩
  · exact htimedOut ▸ Nat.mod_lt _ (by decide)
  · exact hdropped ▸ Nat.mod_lt _ (by decide)
  · exact hconnections ▸ Nat.mod_lt _ (by decide)

theorem start_countersInv (config : Config) : (System.start config).CountersInv where
  inv := start_inv config
  timedOut := Nat.two_pow_pos 64
  dropped := Nat.two_pow_pos 64
  connections := Nat.two_pow_pos 64

/-! ## The sessions -/

theorem enters_of_connection (hconnection : s.connection l = []) : s.enters l = [] := by
  simp [enters, hconnection]

/-- The table is the same under every descriptor, or more. -/
theorem closes_eq_none (hstep : s.step l = some t)
    (hkeep : ∀ (fd : Int) a, s.server.sessions[fd]? = some a → (t.server.sessions[fd]?).isSome) :
    s.closes l = none := by
  rw [closes, hstep, Option.bind_some]
  split
  · rfl
  · rename_i hgone
    refine Option.eq_none_iff_forall_ne_some.mpr fun a ha => ?_
    exact hgone (hkeep _ a ha)

/-- What was in the table and what is new has left it or is there. -/
theorem moves_perm (ht : t.Inv) {out new : List Nat} (hout : out.Nodup)
    (hgone : ∀ a ∈ out, a ∉ t.server.inTable) (hnew : (s.server.inTable ++ new).Nodup)
    (hmem : ∀ a, a ∈ t.server.inTable ∨ a ∈ out ↔ a ∈ s.server.inTable ∨ a ∈ new) :
    (t.server.inTable ++ out).Perm (s.server.inTable ++ new) := by
  have hleft : (t.server.inTable ++ out).Nodup :=
    List.nodup_append'.mpr ⟨ht.inTable_nodup, hout, fun a ha hin => hgone a hin ha⟩
  refine (List.perm_ext_iff_of_nodup hleft hnew).mpr fun a => ?_
  rw [List.mem_append, List.mem_append]
  exact hmem a

theorem close_moves (hs : s.Inv) (ht : t.Inv) (hstep : s.step l = some t)
    (hlookup : ∀ x : Int, t.server.sessions[x]? =
      if s.loop.fd = x then none else s.server.sessions[x]?) :
    (t.server.inTable ++ (s.closes l).toList).Perm (s.server.inTable ++ []) := by
  have hcloses : s.closes l = s.server.sessions[s.loop.fd]? := by
    rw [closes, hstep, Option.bind_some, hlookup, if_pos rfl]
    rfl
  have hout (a : Nat) : a ∈ (s.closes l).toList ↔ s.server.sessions[s.loop.fd]? = some a := by
    rw [hcloses, Option.mem_toList]
  refine moves_perm ht ?_ (fun a ha hin => ?_) ?_ fun a => ?_
  · cases s.closes l <;> simp
  · obtain ⟨fd, hfd⟩ := mem_inTable.mp hin
    rw [hlookup] at hfd
    split at hfd
    · cases hfd
    · rename_i hne
      exact hne (hs.server.table_inj ((hout a).mp ha) hfd)
  · simpa using hs.inTable_nodup
  · rw [hout]
    constructor
    · intro hor
      rcases hor with hin | hclosed
      · obtain ⟨fd, hfd⟩ := mem_inTable.mp hin
        rw [hlookup] at hfd
        split at hfd
        · cases hfd
        · exact .inl (mem_inTable.mpr ⟨fd, hfd⟩)
      · exact .inl (mem_inTable.mpr ⟨_, hclosed⟩)
    · intro hor
      obtain ⟨fd, hfd⟩ := mem_inTable.mp (hor.resolve_right List.not_mem_nil)
      by_cases hcurrent : s.loop.fd = fd
      · exact .inr (hcurrent ▸ hfd)
      · refine .inl (mem_inTable.mpr ⟨fd, ?_⟩)
        rw [hlookup, if_neg hcurrent, hfd]

theorem connect_moves (hs : s.Inv) (ht : t.Inv) (hstep : s.step l = some t) {o : AcceptOutcome}
    {res : Server × List Nat} (hconnection : s.connection l = s.server.connection o)
    (hres : s.server.onNewConnection o = some res) (hsessions : t.server.sessions = res.1.sessions) :
    (t.server.inTable ++ (s.closes l).toList).Perm (s.server.inTable ++ s.enters l) := by
  have hkeep (fd : Int) (a : Nat) (hfd : s.server.sessions[fd]? = some a) :
      t.server.sessions[fd]? = some a := hsessions ▸ hs.no_overwrite hres hfd
  rw [closes_eq_none hstep fun fd a hfd => by rw [hkeep fd a hfd]; rfl]
  rcases Server.onNewConnection_cases hres with ⟨hsame, -, -, -, -, hadmits⟩ |
    ⟨fd, session, kernel, hadmits, -, -, -, hinsert, -⟩
  · have hnone : s.enters l = [] := by
      simp [enters, hconnection, Server.connection_admits, hadmits]
    have heq : t.server.inTable = s.server.inTable := by
      rw [Server.inTable, Server.inTable, hsessions, hsame]
    rw [hnone, heq]
    exact .refl _
  · have hone : s.enters l = [s.server.created] := by
      simp [enters, hconnection, Server.connection_admits, hadmits]
    have hfresh := hs.created_not_inTable
    rw [hinsert] at hsessions
    rw [hone]
    refine moves_perm ht (by simp) (fun a ha => absurd ha (by simp)) ?_ fun a => ?_
    · exact List.nodup_append'.mpr ⟨hs.inTable_nodup, by simp, by simpa using hfresh⟩
    · simp only [Option.toList_none, List.not_mem_nil, or_false, List.mem_singleton]
      constructor
      · intro hin
        obtain ⟨x, hx⟩ := mem_inTable.mp hin
        rw [hsessions, Server.getElem?_insert] at hx
        split at hx
        · exact .inr (Option.some.inj hx).symm
        · exact .inl (mem_inTable.mpr ⟨x, hx⟩)
      · intro hor
        rcases hor with hin | rfl
        · obtain ⟨x, hx⟩ := mem_inTable.mp hin
          exact mem_inTable.mpr ⟨x, hkeep x a hx⟩
        · refine mem_inTable.mpr ⟨fd, ?_⟩
          rw [hsessions, Server.getElem?_insert, if_pos rfl]

/-- As many leave the table as are collected, and all of these leave it. -/
theorem sweep_moves (hs : s.Inv) (ht : t.Inv) {now : Int} (hswept : Sweeps s t now) :
    (t.server.inTable ++ s.swept now).Perm s.server.inTable := by
  have hnodup : (t.server.inTable ++ s.swept now).Nodup := by
    refine List.nodup_append'.mpr ⟨ht.inTable_nodup, swept_nodup hs now, fun a ha hin => ?_⟩
    obtain ⟨fd, hfd⟩ := mem_inTable.mp ha
    exact hswept.removed a hin fd hfd
  have hsub : t.server.inTable ++ s.swept now ⊆ s.server.inTable := by
    intro a ha
    rcases List.mem_append.mp ha with hin | hcollected
    · obtain ⟨fd, hfd⟩ := mem_inTable.mp hin
      exact mem_inTable.mpr ⟨fd, hswept.origin fd a hfd⟩
    · obtain ⟨fd, x, hfd, -⟩ := mem_swept hcollected
      exact mem_inTable.mpr ⟨fd, hfd⟩
  refine (List.subperm_of_subset hnodup hsub).perm_of_length_le ?_
  have hactive := hswept.active
  rw [← Std.TreeMap.length_toList, ← Std.TreeMap.length_toList] at hactive
  simp only [Server.inTable, List.length_append, List.length_map]
  omega

theorem step_inTable (h : s.Inv) (hstep : s.step l = some t) :
    (t.server.inTable ++ (s.exits l).map Prod.snd).Perm (s.server.inTable ++ s.enters l) := by
  have ht := step_inv h hstep
  have hexits (hsweep : s.sweepsAt l = none) :
      (s.exits l).map Prod.snd = (s.closes l).toList := by
    simp [exits, hsweep, Function.comp_def]
  have hstays (hsweep : s.sweepsAt l = none) (hconnection : s.connection l = [])
      (hsessions : t.server.sessions = s.server.sessions) :
      (t.server.inTable ++ (s.exits l).map Prod.snd).Perm (s.server.inTable ++ s.enters l) := by
    have heq : t.server.inTable = s.server.inTable := by
      rw [Server.inTable, Server.inTable, hsessions]
    have hcloses := closes_eq_none hstep fun fd a hfd => by
      rw [hsessions, hfd]
      rfl
    rw [hexits hsweep, hcloses, enters_of_connection hconnection, heq]
    exact .refl _
  cases step_countStep h hstep with
  | nothing hnone _ hsessions => exact hstays hnone.sweeps hnone.connection hsessions
  | mark hconnection hsweep _ heq => exact hstays hsweep hconnection (heq ▸ rfl)
  | close hnone _ hlookup =>
    rw [hexits hnone.sweeps, enters_of_connection hnone.connection]
    exact close_moves h ht hstep hlookup
  | connect hconnection _ hsweep hres _ hsessions =>
    rw [hexits hsweep]
    exact connect_moves h ht hstep hconnection hres hsessions
  | sweep hconnection _ hsweep hswept =>
    rw [enters_of_connection hconnection, List.append_nil]
    simpa [exits, hsweep, Function.comp_def] using sweep_moves h ht hswept

/-- The sessions are numbered in the order in which they are created. -/
theorem step_created (h : s.Inv) (hstep : s.step l = some t) :
    List.range t.server.created = List.range s.server.created ++ s.enters l ∧
      t.server.created = s.server.created + ((s.connection l).filter id).length := by
  have hsame (hconnection : s.connection l = []) (heq : t.server.created = s.server.created) :
      List.range t.server.created = List.range s.server.created ++ s.enters l ∧
        t.server.created = s.server.created + ((s.connection l).filter id).length := by
    rw [enters_of_connection hconnection, hconnection, heq]
    exact ⟨(List.append_nil _).symm, rfl⟩
  cases step_countStep h hstep with
  | nothing hnone hcounts | close hnone hcounts => exact hsame hnone.connection hcounts.created
  | mark hconnection _ _ heq => exact hsame hconnection (heq ▸ rfl)
  | @connect o res hconnection _ _ hres hcounts =>
    rcases Server.onNewConnection_cases hres with ⟨-, -, hcreated, -, -, hadmits⟩ |
      ⟨fd, session, kernel, hadmits, -, -, -, -, -, hcreated, -⟩
    · have hfalse : true ∉ s.connection l := by
        rw [hconnection, Server.connection_admits, hadmits]
        simp
      have hnone : (s.connection l).filter id = [] :=
        List.filter_eq_nil_iff.mpr fun b hb hyes => hfalse (hyes ▸ hb)
      rw [hcounts.created, hcreated, enters, if_neg hfalse, hnone]
      exact ⟨(List.append_nil _).symm, rfl⟩
    · have htrue : true ∈ s.connection l := by
        rw [hconnection, Server.connection_admits, hadmits]
        rfl
      have hone : (s.connection l).filter id = [true] := by
        rw [hconnection] at htrue ⊢
        rcases s.server.connection_cases o with hnil | ⟨b, hb⟩
        · rw [hnil] at htrue
          cases htrue
        · rw [hb] at htrue ⊢
          obtain rfl := List.mem_singleton.mp htrue
          rfl
      rw [hcounts.created, hcreated, enters, if_pos htrue, hone]
      exact ⟨List.range_succ, rfl⟩
  | sweep hconnection _ _ hswept => exact hsame hconnection hswept.created

/-! ## Whole runs -/

theorem totalOf_concat {α : Type} (items : System → Label → List α) (taken : List (System × Label))
    (s : System) (l : Label) : totalOf items (taken ++ [(s, l)]) = totalOf items taken ++ items s l := by
  simp [totalOf]

theorem run_created {config : Config} {labels : List Label}
    (hs : run step (System.start config) labels = some s) :
    totalOf enters (trace step (System.start config) labels) = List.range s.server.created ∧
      s.server.created =
        ((totalOf connection (trace step (System.start config) labels)).filter id).length := by
  let J (s : System) (taken : List (System × Label)) : Prop :=
    s.Inv ∧ totalOf enters taken = List.range s.server.created ∧
      s.server.created = ((totalOf connection taken).filter id).length
  have hstep (s : System) (taken : List (System × Label)) (l : Label) (t : System) (h : J s taken)
      (_ : True) (ht : s.step l = some t) : J t (taken ++ [(s, l)]) := by
    obtain ⟨hinv, henters, hcreated⟩ := h
    obtain ⟨hrange, hcount⟩ := step_created hinv ht
    refine ⟨step_inv hinv ht, ?_, ?_⟩
    · rw [totalOf_concat, henters, hrange]
    · rw [totalOf_concat, List.filter_append, List.length_append, ← hcreated, hcount]
  have hend : J s ([] ++ trace step (System.start config) labels) :=
    Along.trace_invariant (I := J) hstep ⟨start_inv config, rfl, rfl⟩ (along_true _ _) hs
  exact hend.2

/-- **The numbers of `GetInfo` are those of the run.** In every run up to a call of `Stop`, each
session that was created is either in the table or has left it exactly once, swept or closed; the
sessions reported as active are those that have not left; and, up to the wrap-around of the 64-bit
counters, the sessions reported as timed out are those that were swept, the dropped ones are as
many as were marked as slow clients, and the connections are those accepted below the limit, of
which the ones `AddFd` took became sessions. -/
theorem info_counts_sessions (config : Config) (labels : List Label) (s : System)
    (hs : run step (System.start config) labels = some s) :
    s.InfoCounts (trace step (System.start config) labels) := by
  have hkeep (s : System) (l : Label) (t : System) (h : s.CountersInv) (ht : s.step l = some t) :
      t.CountersInv := step_countersInv h ht
  have hstart := start_countersInv config
  obtain ⟨henters, hcreated⟩ := run_created hs
  have hbalance := run_balance (fun s => s.server.inTable) enters
    (fun s l => (s.exits l).map Prod.snd) hkeep (fun s l t h ht => step_inTable h.inv ht) hstart hs
  have hnone : (System.start config).server.inTable = [] := rfl
  have hexits (taken : List (System × Label)) : totalOf (fun s l => (s.exits l).map Prod.snd) taken =
      (totalOf exits taken).map Prod.snd := by
    rw [totalOf, totalOf, List.map_flatMap]
  have hswept (taken : List (System × Label)) :
      totalOf (fun s l => (s.exits l).filter (·.1 = .swept)) taken =
        (totalOf exits taken).filter (·.1 = .swept) := by
    rw [totalOf, totalOf, List.filter_flatMap]
  rw [henters, hnone, hexits, List.nil_append] at hbalance
  have htimedOut := run_counter (fun s => s.server.timedOutSessions)
    (fun s l => (s.exits l).filter (·.1 = .swept)) hkeep
    (fun s l t h ht => (step_counters h ht).timedOut) hstart hstart.timedOut hs
  have hdropped := run_counter (fun s => s.server.totalDroppedSessions)
    (fun s l => (s.marks l).toList) hkeep (fun s l t h ht => (step_counters h ht).dropped)
    hstart hstart.dropped hs
  have hconnections := run_counter (fun s => s.server.totalConnections) connection hkeep
    (fun s l t h ht => (step_counters h ht).connections) hstart hstart.connections hs
  have hzero : (System.start config).server.timedOutSessions = 0 ∧
      (System.start config).server.totalDroppedSessions = 0 ∧
      (System.start config).server.totalConnections = 0 := ⟨rfl, rfl, rfl⟩
  obtain ⟨htimed₀, hdropped₀, hconnections₀⟩ := hzero
  rw [hswept, htimed₀, Nat.zero_add] at htimedOut
  rw [hdropped₀, Nat.zero_add] at hdropped
  rw [hconnections₀, Nat.zero_add] at hconnections
  have hlength := hbalance.length_eq
  refine ⟨hbalance, ?_, htimedOut, hdropped, hconnections, hcreated⟩
  simpa [Server.getInfo, Server.inTable] using hlength

/-- One client leaves, one is swept, and `AddFd` refuses the third. -/
def comeAndGo : List Label :=
  accepts 7 ++ accepts 8 ++
    [.wait [{ fd := 7, read := true }], .dispatch .failed none, .handle .endOfStream] ++ timerAt 10 ++
    [.wait [{ fd := 3, read := true }], .dispatch (.accepted 9 false 0 0 (fun _ => 0)) none]

theorem info_counts_comeAndGo :
    ∃ s, run step (System.start smallConfig) comeAndGo = some s ∧
      totalOf exits (trace step (System.start smallConfig) comeAndGo) =
        [(.closed, 0), (.swept, 1)] ∧
      s.server.getInfo.totalConnections = 3 ∧ s.server.created = 2 ∧
      s.InfoCounts (trace step (System.start smallConfig) comeAndGo) := by
  have hrun : (run step (System.start smallConfig) comeAndGo).any (fun s =>
      decide (s.server.getInfo.totalConnections = 3) && decide (s.server.created = 2)) = true := by
    decide
  have hexits : totalOf exits (trace step (System.start smallConfig) comeAndGo) =
      [(.closed, 0), (.swept, 1)] := by
    decide
  obtain ⟨s, hs, hfacts⟩ := (Option.any_eq_true _ _).mp hrun
  simp only [Bool.and_eq_true, decide_eq_true_eq] at hfacts
  exact ⟨s, hs, hexits, hfacts.1, hfacts.2, info_counts_sessions smallConfig comeAndGo s hs⟩

end System

end RtspForward
