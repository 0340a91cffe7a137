import RtspForward.Core.Timeouts
import RtspForward.Core.Ownership

/-!
# The session table

What a reader of `sessions_` may rely on in every reachable state: the table is within its
limit, and each entry is the session that alone owns the descriptor it is filed under, with
that descriptor open and registered.
-/
namespace RtspForward

namespace Server

/-- The event loop calls the client callback for every entry, and the table is within its
limit. -/
structure Listed (srv : Server) : Prop where
  callbacks : ∀ (fd : Int) sid, srv.sessions[fd]? = some sid → srv.callbacks fd = some .client
  size_le : srv.sessions.size ≤ (srv.config.maxSessions % 2 ^ 64).toNat

/-- The sessions of the table. -/
def inTable (srv : Server) : List Nat := srv.sessions.toList.map Prod.snd

variable {srv srv' : Server}

theorem start_listed (config : Config) : (Server.start config).Listed where
  callbacks := by simp [Server.start]
  size_le := by simp [Server.start]

theorem Listed.same (h : srv.Listed) (hsessions : srv'.sessions = srv.sessions)
    (hcallbacks : srv'.callbacks = srv.callbacks) (hconfig : srv'.config = srv.config) :
    srv'.Listed where
  callbacks fd sid hfd := by
    rw [hcallbacks]
    exact h.callbacks fd sid (hsessions ▸ hfd)
  size_le := by
    rw [hsessions, hconfig]
    exact h.size_le

theorem closeConnection_size (srv : Server) (fd : Int) :
    (srv.closeConnection fd).1.sessions.size ≤ srv.sessions.size := by
  rcases closeConnection_sessions srv fd with hsame | herase
  · rw [hsame]
  · rw [herase]
    exact Std.TreeMap.size_erase_le

theorem Listed.closeConnection (h : srv.Listed) (fd : Int) : (srv.closeConnection fd).1.Listed where
  callbacks x sid hx := by
    rw [(closeConnection_frame srv fd).2.2.2.2.1] at hx
    split at hx
    · cases hx
    · rename_i hne
      rw [closeConnection_callbacks srv (Ne.symm hne)]
      exact h.callbacks x sid hx
  size_le := by
    rw [(closeConnection_sameCounts srv fd).config]
    exact (closeConnection_size srv fd).trans h.size_le

theorem Listed.checkTimeouts (h : srv.Listed) (now : Int) : (srv.checkTimeouts now).1.Listed :=
  checkTimeouts_induction (fun _ fd h => h.closeConnection fd)
    (fun _ _ h => h.same rfl rfl rfl) h now

/-- A new entry: the limit was not reached, and the callback is registered with it. -/
theorem Listed.onNewConnection {o : AcceptOutcome} {res : Server × List Nat} (h : srv.Listed)
    (hres : srv.onNewConnection o = some res) : res.1.Listed := by
  cases o with
  | failed =>
    obtain rfl := Option.some.inj hres
    exact h
  | accepted fd addOk timestamp now garbage =>
    simp only [Server.onNewConnection, Option.bind_eq_bind] at hres
    obtain ⟨kernel, -, hres⟩ := Option.bind_eq_some_iff.mp hres
    split at hres
    · obtain rfl := Option.some.inj hres
      exact h.same rfl rfl rfl
    · rename_i hlimit
      have hnonneg : ¬ ((fd : Int) < 0) := by omega
      cases addOk with
      | false =>
        simp only [addFd, if_neg hnonneg, Bool.false_eq_true, ↓reduceIte, Status.isOk_mk,
          reduceCtorEq, decide_false] at hres
        obtain rfl := Option.some.inj hres
        exact h.same rfl rfl rfl
      | true =>
        simp only [addFd, if_neg hnonneg, ↓reduceIte, Status.isOk_mk, decide_true] at hres
        obtain ⟨s, -, hres⟩ := Option.bind_eq_some_iff.mp hres
        obtain rfl := Option.some.inj hres
        refine ⟨fun x sid hx => ?_, ?_⟩
        · simp only [getElem?_insert] at hx
          by_cases hxfd : (fd : Int) = x
          · simp [hxfd]
          · rw [if_neg hxfd] at hx
            simpa [Function.update_of_ne (Ne.symm hxfd)] using h.callbacks x sid hx
        · have hroom : ¬ (srv.config.maxSessions % 2 ^ 64).toNat ≤ srv.sessions.size := by
            simpa [limitReached] using hlimit
          exact Std.TreeMap.size_insert_le.trans (by simp only; omega)

end Server

namespace System

open Lib.Transition

variable {s t : System} {l : Label}

theorem release_callbacks (sids : List Nat) : ∀ s : System,
    (s.release sids).server.callbacks = s.server.callbacks := by
  induction sids with
  | nil => exact fun _ => rfl
  | cons sid sids ih =>
    intro s
    refine (ih (s.releaseOne sid)).trans ?_
    unfold releaseOne Server.destroy
    split
    · rfl
    · simp only
      split <;> rfl

theorem release_listed (h : s.server.Listed) (sids : List Nat) : (s.release sids).server.Listed :=
  h.same (release_sessions s sids) (release_callbacks sids s)
    (release_sameCounts sids (Server.sameCounts_refl s.server)).config

theorem closeAndLeave_listed (h : s.server.Listed) (held : List Nat) :
    (s.closeAndLeave held).server.Listed := by
  apply release_listed
  exact h.closeConnection s.loop.fd

theorem modifyFd_listed {srv : Server} (h : srv.Listed) (fd : Int) (i : Interest) :
    (srv.modifyFd fd i).1.Listed := by
  refine h.same (Server.modifyFd_frame srv fd i).1 ?_ (Server.modifyFd_sameCounts srv fd i).config
  unfold Server.modifyFd
  split
  · rfl
  · split <;> rfl

theorem step_listed (h : s.server.Listed) (hstep : s.step l = some t) : t.server.Listed := by
  cases step_cases hstep with
  | broadcast hpc =>
    unfold System.broadcast
    split <;> exact h
  | streamModify | registerRead => exact modifyFd_listed h _ _
  | finish =>
    apply release_listed
    exact h
  | accept _ _ _ _ hres =>
    apply release_listed
    exact h.onNewConnection hres
  | sweep =>
    apply release_listed
    exact h.checkTimeouts _
  | load | sendTo | sendV | recordDrop | recordSuccess | wait | skip | enter | absent | receive
  | writable | skipFrame | request | checkRead | flush | drained | disconnect =>
    exact h.same rfl rfl rfl
  | drop | hangUp | tooLarge | flushFailed =>
    apply closeAndLeave_listed
    exact h.same rfl rfl rfl
  | readDone | pending =>
    apply release_listed
    exact h
  | unregister =>
    apply release_listed
    exact modifyFd_listed h _ _

/-! ## The invariant of the table -/

/-- An entry of the table: the session is alive with an open connection on this descriptor,
which no other live session owns, and which epoll and the event loop know. -/
structure Entry (s : System) (fd : Int) (sid : Nat) : Prop where
  session : ∃ x, s.server.heap sid = some x ∧ x.conn.fd = fd ∧ x.conn.isClosed = false
  owned : Owned s.server sid fd
  epoll : (s.server.kernel.interest fd).isSome
  callback : s.server.callbacks fd = some .client

structure TableInv (s : System) : Prop where
  limit : (s.server.sessions.size : Int) ≤ s.server.config.maxSessions
  entries : ∀ (fd : Int) sid, s.server.sessions[fd]? = some sid → s.Entry fd sid
  /-- The sessions of a snapshot are alive, in the table or not. -/
  snapshot : ∀ sid ∈ s.stream.snapshot, (s.server.heap sid).isSome
  /-- A new session takes the place of no other. -/
  no_overwrite : ∀ o res, s.server.onNewConnection o = some res →
    ∀ (fd : Int) sid, s.server.sessions[fd]? = some sid → res.1.sessions[fd]? = some sid

theorem Inv.entry (h : s.Inv) (hl : s.server.Listed) {fd : Int} {sid : Nat}
    (hfd : s.server.sessions[fd]? = some sid) : s.Entry fd sid := by
  obtain ⟨x, hx, rfl⟩ := h.server.table fd sid hfd
  exact ⟨⟨x, hx, rfl, h.server.conn_open hx⟩, owned_of_owns h hx (h.server.owns_conn hx),
    h.server.registered _ sid hfd, hl.callbacks _ sid hfd⟩

theorem mem_inTable {a : Nat} :
    a ∈ s.server.inTable ↔ ∃ fd : Int, s.server.sessions[fd]? = some a := by
  simp only [Server.inTable, List.mem_map, Prod.exists, exists_eq_right,
    Std.TreeMap.mem_toList_iff_getElem?_eq_some]

/-- A session has one entry. -/
theorem Inv.inTable_nodup (h : s.Inv) : s.server.inTable.Nodup := by
  unfold Server.inTable
  rw [List.Nodup, List.pairwise_map]
  apply List.Pairwise.imp_of_mem ?_ Std.TreeMap.distinct_keys_toList
  intro a b ha hb hne heq
  apply hne
  have ha' := Std.TreeMap.mem_toList_iff_getElem?_eq_some.mp ha
  have hb' := Std.TreeMap.mem_toList_iff_getElem?_eq_some.mp hb
  rw [← heq] at hb'
  exact Std.compare_eq_iff_eq.mpr (h.server.table_inj ha' hb')

theorem Inv.created_not_inTable (h : s.Inv) : s.server.created ∉ s.server.inTable := by
  intro hin
  obtain ⟨fd, hfd⟩ := mem_inTable.mp hin
  obtain ⟨x, hx, -⟩ := h.server.table fd _ hfd
  cases hx.symm.trans (h.server.fresh _ le_rfl)

/-- `accept` hands out a number that is not open, and those of the table are. -/
theorem Inv.no_overwrite (h : s.Inv) {o : AcceptOutcome} {res : Server × List Nat}
    (hres : s.server.onNewConnection o = some res) {fd : Int} {sid : Nat}
    (hfd : s.server.sessions[fd]? = some sid) : res.1.sessions[fd]? = some sid := by
  rcases Server.onNewConnection_cases hres with ⟨hsessions, -⟩ |
    ⟨new, x, k, -, hk, -, -, hsessions, -⟩
  · rwa [hsessions]
  · obtain ⟨y, hy, rfl⟩ := h.server.table fd sid hfd
    have hopen := h.server.opened sid y hy _ (h.server.owns_conn hy)
    have hne : (new : Int) ≠ y.conn.fd := by
      intro heq
      have hclosed := (Kernel.changes_of_acquire hk).acquired_closed new (by simp)
      rw [heq, hopen] at hclosed
      cases hclosed
    rwa [hsessions, Server.getElem?_insert, if_neg hne]

/-- **The session table.** However a server that the interface created has run: the table is
within `max_sessions`; every entry is a live session that is not closed, under its own
descriptor, which is open, owned by no other live session, and registered in epoll and with
the event loop; and whatever `accept` answers next, no entry is overwritten. -/
theorem table_inv (config : Option RtspForwardConfig) (args : ServerArgs) (listenerFd timerFd : Int)
    (hne : listenerFd ≠ timerFd) (labels : List Label) (s : System)
    (hcreate : rtspForwardCreate config true = .ok args)
    (hs : run step (System.start (args.config listenerFd timerFd hne)) labels = some s) :
    s.server.config.maxSessions = args.maxSessions ∧ s.TableInv := by
  have hinv : s.Inv := run_invariant (fun _ _ _ => step_inv) (start_inv _) hs
  have hlisted : s.server.Listed :=
    run_invariant (fun _ _ _ => step_listed) (Server.start_listed _) hs
  have hmax : s.server.config.maxSessions = args.maxSessions := by
    rw [run_config hs]
    rfl
  refine ⟨hmax, ?_, fun fd sid => hinv.entry hlisted, fun sid hsid => ?_,
    fun o res hres fd sid => hinv.no_overwrite hres⟩
  · -- the limit is compared as a `size_t`; the interface accepts positive ones only
    have hpos := (rtspForwardCreate_accepted hcreate).maxSessions
    have hsize := hlisted.size_le
    rw [hmax] at hsize ⊢
    omega
  · obtain ⟨x, hx⟩ := hinv.snapshot sid hsid
    simp [hx]

/-- Two clients, one of them in the snapshot of a broadcast. -/
def twoClients : List Label := playsTcp 7 ++ accepts 8 ++ [.broadcast ⟨[1, 2, 3], 0⟩]

theorem table_inv_twoClients :
    ∃ s, rtspForwardCreate (some (timeoutConfig 0 60)) true = .ok (timeoutArgs 0 60) ∧
      run step (System.start ((timeoutArgs 0 60).config 3 4 (by decide))) twoClients = some s ∧
      s.server.sessions.toList = [(7, 0), (8, 1)] ∧ s.stream.snapshot = [0] ∧ s.TableInv := by
  have hrun : (run step (System.start ((timeoutArgs 0 60).config 3 4 (by decide))) twoClients).any
      (fun s => s.server.sessions.toList = [(7, 0), (8, 1)] && s.stream.snapshot = [0]) = true := by
    decide
  obtain ⟨s, hs, hfacts⟩ := (Option.any_eq_true _ _).mp hrun
  simp only [Bool.and_eq_true, decide_eq_true_eq] at hfacts
  have hcreate : rtspForwardCreate (some (timeoutConfig 0 60)) true = .ok (timeoutArgs 0 60) := by
    decide
  exact ⟨s, hcreate, hs, hfacts.1, hfacts.2,
    (table_inv _ (timeoutArgs 0 60) 3 4 (by decide) twoClients s hcreate hs).2⟩

end System

end RtspForward
