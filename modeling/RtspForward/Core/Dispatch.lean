import RtspForward.Core.SystemInvariant

/-!
# Events and the sessions they were reported for

`Run` looks a callback up by its descriptor when it comes to the entry, and a handler looks
its session up the same way. An earlier entry of the batch can close a session, and a later
`accept` of the batch can get the number back from the kernel; the entry then reaches a
session it was not reported for. Nothing else adds to the table, so without such a reuse the
table only shrinks under the entries of a batch.
-/
namespace RtspForward.System

open Lib

variable {s t : System} {l : Label} {sid : Nat}

/-- The steps of the handlers of a client callback. -/
def ofHandler : Label → Bool
  | .handle _ | .turn _ _ | .checkRead | .registerRead | .flush _ | .checkWrite | .unregister => true
  | _ => false

/-- The session the current handler has looked up, or would find under its descriptor. -/
def WorksOn (s : System) (sid : Nat) : Prop :=
  s.loop.pc.session = some sid ∨ s.server.sessions[s.loop.fd]? = some sid

/-- The session and its places in the table are the same in both states. -/
def SameFor (s t : System) (sid : Nat) : Prop :=
  t.server.heap sid = s.server.heap sid ∧
    ∀ fd : Int, t.server.sessions[fd]? = some sid ↔ s.server.sessions[fd]? = some sid

/-- A handler works on the session that was in the table under the descriptor of its entry
when `Wait` returned, or on none; it leaves all other sessions alone. -/
def ActsOnReported (s : System) (l : Label) : Prop :=
  ∀ t, s.step l = some t → ofHandler l = true →
    (∀ sid, s.WorksOn sid → s.loop.table[s.loop.fd]? = some sid) ∧
    ∀ sid, s.loop.table[s.loop.fd]? ≠ some sid → SameFor s t sid

/-- `OnNewConnection` puts a session under the descriptor of an entry of the batch that is
still to be dispatched. -/
def reuses (s : System) : Label → Bool
  | .dispatch accept _ =>
    match s.loop.batch with
    | [] => false
    | e :: batch =>
      s.server.callbacks e.fd = some .onNewConnection &&
        (s.server.admits accept).any fun (fd : Nat) => batch.any fun e' => e'.fd = (fd : Int)
  | _ => false

/-! ## Handlers leave the other sessions alone -/

theorem SameFor.release (h : SameFor s t sid) {sids : List Nat} (hsid : sid ∉ sids) :
    SameFor s (t.release sids) sid := by
  have hheap : ∀ (sids : List Nat) (t : System), sid ∉ sids →
      (t.release sids).server.heap sid = t.server.heap sid := by
    intro sids
    induction sids with
    | nil => exact fun _ _ => rfl
    | cons a sids ih =>
      intro t hsid
      obtain ⟨hne, hsid⟩ := not_or.mp (List.mem_cons.not.mp hsid)
      refine (ih (t.releaseOne a) hsid).trans ?_
      unfold releaseOne
      split
      · rfl
      · cases ha : t.server.heap a with
        | none => simp [Server.destroy, ha]
        | some session => simp [(Server.destroy_frame t.server a ha).2.2.1, hne]
  exact ⟨(hheap sids t hsid).trans h.1, by simpa using h.2⟩

theorem SameFor.closeAndLeave (h : SameFor s t sid) {held : List Nat}
    (htable : t.server.sessions[t.loop.fd]? ≠ some sid) (hheld : sid ∉ held) :
    SameFor s (t.closeAndLeave held) sid := by
  obtain ⟨hheap, -, -, -, hsessions, hrefs⟩ := Server.closeConnection_frame t.server t.loop.fd
  unfold System.closeAndLeave
  apply SameFor.release
  · refine ⟨by simpa [System.goto, hheap] using h.1, fun fd => ?_⟩
    simp only [System.goto, hsessions]
    rw [← h.2 fd]
    by_cases hfd : t.loop.fd = fd
    · rw [if_pos hfd, ← hfd]
      simp [htable]
    · rw [if_neg hfd]
  · simp only [hrefs, List.mem_append, Option.mem_toList, not_or]
    exact ⟨htable, hheld⟩

theorem sameFor_setSession {a : Nat} {session : RtspSession} (hne : sid ≠ a)
    (hheap : t.server.heap = (s.server.setSession a session).heap)
    (hsessions : t.server.sessions = s.server.sessions) : SameFor s t sid :=
  ⟨by simp [hheap, Server.setSession, hne], by simp [hsessions]⟩

theorem sameFor_frame (hheap : t.server.heap = s.server.heap)
    (hsessions : t.server.sessions = s.server.sessions) : SameFor s t sid :=
  ⟨by rw [hheap], by simp [hsessions]⟩

theorem step_sameFor (hstep : s.step l = some t) (hl : ofHandler l = true)
    (hsid : ¬ s.WorksOn sid) : SameFor s t sid := by
  obtain ⟨hlocal, htable⟩ := not_or.mp hsid
  cases step_cases hstep with
  | broadcast | load | sendTo | sendV | recordDrop | recordSuccess | streamModify | finish | wait
  | skip | accept | sweep | enter | disconnect => cases hl
  | absent | writable | checkRead | drained => exact sameFor_frame rfl rfl
  | drop hpc hhandlers hheld =>
    apply SameFor.closeAndLeave
    · exact sameFor_frame rfl rfl
    · exact htable
    · exact fun hin => htable (hheld sid hin)
  | @hangUp recv _ handlers a session hpc hhandlers ha hs =>
    have hne : sid ≠ a := fun h => htable (h ▸ ha)
    apply SameFor.closeAndLeave
    · exact sameFor_setSession hne rfl rfl
    · exact htable
    · simpa using hne
  | @receive recv _ handlers a session hpc hhandlers ha hs =>
    exact sameFor_setSession (fun h => htable (h ▸ ha)) rfl rfl
  | @readDone env beyond a session hpc | @pending a hpc =>
    have hne : sid ≠ a := fun h => hlocal (by rw [hpc, h]; rfl)
    apply SameFor.release
    · exact sameFor_frame rfl rfl
    · simpa using hne
  | @tooLarge env beyond a session hpc =>
    have hne : sid ≠ a := fun h => hlocal (by rw [hpc, h]; rfl)
    apply SameFor.closeAndLeave
    · exact sameFor_frame rfl rfl
    · exact htable
    · simpa using hne
  | skipFrame hpc | request hpc | flush hpc =>
    exact sameFor_setSession (fun h => hlocal (by rw [hpc, h]; rfl)) rfl rfl
  | @flushFailed o a session hpc hs _ =>
    have hne : sid ≠ a := fun h => hlocal (by rw [hpc, h]; rfl)
    apply SameFor.closeAndLeave
    · exact sameFor_setSession hne rfl rfl
    · exact htable
    · simpa using hne
  | registerRead hpc =>
    obtain ⟨hsessions, hheap, -⟩ :=
      Server.modifyFd_frame s.server s.loop.fd { write := true }
    exact sameFor_frame hheap hsessions
  | @unregister a hpc =>
    obtain ⟨hsessions, hheap, -⟩ := Server.modifyFd_frame s.server s.loop.fd {}
    apply SameFor.release
    · exact sameFor_frame hheap hsessions
    · simpa using fun h : sid = a => hlocal (by rw [hpc, h]; rfl)

/-! ## The table under a batch -/

/-- A callback is under way. -/
def Busy (s : System) : Prop := s.loop.handlers ≠ [] ∨ s.loop.pc ≠ .idle

/-- Under the descriptors of the batch and of the current callback the table holds nothing
that it did not hold when `Wait` returned. -/
structure Reported (s : System) : Prop where
  batch : ∀ e ∈ s.loop.batch, ∀ sid, s.server.sessions[e.fd]? = some sid →
    s.loop.table[e.fd]? = some sid
  current : s.Busy → ∀ sid, s.server.sessions[s.loop.fd]? = some sid →
    s.loop.table[s.loop.fd]? = some sid

/-- The table lost entries, if anything. -/
def Shrinks (s t : System) : Prop :=
  ∀ (fd : Int) (sid : Nat), t.server.sessions[fd]? = some sid → s.server.sessions[fd]? = some sid

theorem shrinks_of_eq (h : t.server.sessions = s.server.sessions) : Shrinks s t :=
  fun _ _ hfd => h ▸ hfd

theorem Shrinks.release (h : Shrinks s t) (sids : List Nat) : Shrinks s (t.release sids) := by
  intro fd sid hfd
  rw [release_sessions] at hfd
  exact h fd sid hfd

theorem Shrinks.closeAndLeave (h : Shrinks s t) (held : List Nat) :
    Shrinks s (t.closeAndLeave held) := by
  obtain ⟨-, -, -, -, hsessions, -⟩ := Server.closeConnection_frame t.server t.loop.fd
  unfold System.closeAndLeave
  apply Shrinks.release
  intro fd sid hfd
  simp only [System.goto, hsessions] at hfd
  split at hfd
  · cases hfd
  · exact h fd sid hfd

theorem Reported.shrink (h : s.Reported) (hsub : Shrinks s t) (htable : t.loop.table = s.loop.table)
    (hbatch : ∀ e ∈ t.loop.batch, e ∈ s.loop.batch) (hfd : t.loop.fd = s.loop.fd)
    (hbusy : t.Busy → s.Busy) : t.Reported where
  batch e he sid hsid := htable ▸ h.batch e (hbatch e he) sid (hsub _ _ hsid)
  current ht sid hsid := by
    rw [hfd] at hsid ⊢
    rw [htable]
    exact h.current (hbusy ht) sid (hsub _ _ hsid)

/-- A step of the stream thread: the event loop stays where it is. -/
theorem Reported.stream_step (h : s.Reported) (hsessions : t.server.sessions = s.server.sessions)
    (hloop : t.loop = s.loop) : t.Reported := by
  refine h.shrink (shrinks_of_eq hsessions) (by rw [hloop]) (by simp [hloop]) (by rw [hloop]) ?_
  rw [Busy, hloop]
  exact id

/-- A step of a handler. -/
theorem Reported.handler_step (h : s.Reported) (hbusy : s.Busy) (hsub : Shrinks s t)
    (hloop : ∃ pc handlers, t.loop = { s.loop with pc := pc, handlers := handlers }) :
    t.Reported := by
  obtain ⟨pc, handlers, hloop⟩ := hloop
  exact h.shrink hsub (by rw [hloop]) (by simp [hloop]) (by rw [hloop]) fun _ => hbusy

theorem closeAndLeave_loop (s : System) (held : List Nat) :
    (s.closeAndLeave held).loop = { s.loop with pc := .idle } := by
  simp [System.closeAndLeave, System.goto]

theorem leave_loop (s : System) (sid : Nat) : (s.leave sid).loop = { s.loop with pc := .idle } := by
  simp [System.leave, System.goto]

theorem not_reused {accept : AcceptOutcome} {expired : Option Int} {e : EventResult}
    {batch : List EventResult} {fd : Nat} (h : s.reuses (.dispatch accept expired) = false)
    (hbatch : s.loop.batch = e :: batch) (hcb : s.server.callbacks e.fd = some .onNewConnection)
    (hadmits : s.server.admits accept = some fd) : ∀ e' ∈ batch, (fd : Int) ≠ e'.fd := by
  intro e' he' heq
  simp only [reuses, hbatch, hcb, hadmits, decide_true, Bool.true_and, Option.any_some,
    List.any_eq_false, decide_eq_true_eq] at h
  exact h e' he' heq.symm

theorem step_reported (h : s.Reported) (hl : s.reuses l = false) (hstep : s.step l = some t) :
    t.Reported := by
  cases step_cases hstep with
  | broadcast =>
    unfold System.broadcast
    split
    · exact h.stream_step rfl rfl
    · exact h
  | load | sendTo | sendV | recordDrop | recordSuccess => exact h.stream_step rfl rfl
  | streamModify => exact h.stream_step (Server.modifyFd_frame _ _ _).1 rfl
  | finish => exact h.stream_step (release_sessions _ _) (release_loop _ _)
  | wait => exact ⟨fun _ _ _ hsid => hsid, by simp [Busy, System.wait]⟩
  | skip hpc hhandlers hbatch =>
    refine h.shrink (shrinks_of_eq rfl) rfl (fun e he => ?_) rfl id
    rw [hbatch]
    exact List.mem_cons_of_mem _ he
  | @accept accept expired e batch res hpc hhandlers hbatch hcb hres =>
    refine ⟨?_, by simp [Busy, System.takeEntry, hpc, hhandlers]⟩
    simp only [release_sessions, release_loop, System.takeEntry]
    intro e' he' sid hsid
    have hold := h.batch e' (by rw [hbatch]; exact List.mem_cons_of_mem _ he') sid
    rcases Server.onNewConnection_cases hres with ⟨hsessions, -⟩ |
      ⟨fd, session, k, hadmits, -, -, -, hsessions, -⟩
    · exact hold (hsessions ▸ hsid)
    · rw [hsessions, Server.getElem?_insert, if_neg (not_reused hl hbatch hcb hadmits e' he')] at hsid
      exact hold hsid
  | @sweep accept now e batch hpc hhandlers hbatch hcb =>
    refine h.shrink ?_ (by simp [System.takeEntry]) (fun e' he' => ?_) (by simp [System.takeEntry])
      (by simp [Busy, System.takeEntry, hpc, hhandlers])
    · apply Shrinks.release
      exact fun fd sid hfd => ((Server.checkTimeouts_frame s.server now).2 fd sid hfd).1
    · rw [release_loop] at he'
      rw [hbatch]
      exact List.mem_cons_of_mem _ he'
  | @enter accept expired e batch hpc hhandlers hbatch hcb =>
    refine ⟨fun e' he' => h.batch e' ?_, fun _ => h.batch e ?_⟩
    · rw [hbatch]
      exact List.mem_cons_of_mem _ he'
    · simp [hbatch]
  | absent hpc hhandlers | receive hpc hhandlers | writable hpc hhandlers =>
    exact h.handler_step (.inl (by simp [hhandlers])) (shrinks_of_eq rfl) ⟨_, _, rfl⟩
  | drop hpc hhandlers | hangUp hpc hhandlers =>
    refine h.handler_step (.inl (by simp [hhandlers])) ?_ ⟨_, _, closeAndLeave_loop _ _⟩
    exact (shrinks_of_eq rfl).closeAndLeave _
  | readDone hpc | pending hpc =>
    refine h.handler_step (.inr (by simp [hpc])) ?_ ⟨_, _, leave_loop _ _⟩
    exact (shrinks_of_eq rfl).release _
  | tooLarge hpc | flushFailed hpc =>
    refine h.handler_step (.inr (by simp [hpc])) ?_ ⟨_, _, closeAndLeave_loop _ _⟩
    exact (shrinks_of_eq rfl).closeAndLeave _
  | skipFrame hpc | request hpc | checkRead hpc | flush hpc | drained hpc =>
    exact h.handler_step (.inr (by simp [hpc])) (shrinks_of_eq rfl) ⟨_, _, rfl⟩
  | registerRead hpc =>
    exact h.handler_step (.inr (by simp [hpc]))
      (shrinks_of_eq (Server.modifyFd_frame _ _ _).1) ⟨_, _, rfl⟩
  | unregister hpc =>
    refine h.handler_step (.inr (by simp [hpc])) ?_ ⟨_, _, leave_loop _ _⟩
    exact (shrinks_of_eq (Server.modifyFd_frame _ _ _).1).release _
  | disconnect => exact h.stream_step rfl rfl

/-- A handler runs in a callback only. -/
theorem busy_of_handler (hstep : s.step l = some t) (hl : ofHandler l = true) : s.Busy := by
  cases step_cases hstep with
  | broadcast | load | sendTo | sendV | recordDrop | recordSuccess | streamModify | finish | wait
  | skip | accept | sweep | enter | disconnect => cases hl
  | absent _ hhandlers | drop _ hhandlers | hangUp _ hhandlers | receive _ hhandlers
  | writable _ hhandlers => exact .inl (by simp [hhandlers])
  | readDone hpc | tooLarge hpc | skipFrame hpc | request hpc | checkRead hpc | registerRead hpc
  | flushFailed hpc | flush hpc | pending hpc | drained hpc | unregister hpc =>
    exact .inr (by simp [hpc])

theorem actsOnReported_of_reported (hinv : s.Inv) (h : s.Reported) : s.ActsOnReported l := by
  intro t hstep hl
  have hworks : ∀ sid, s.WorksOn sid → s.loop.table[s.loop.fd]? = some sid := by
    intro sid hsid
    refine h.current (busy_of_handler hstep hl) sid ?_
    rcases hsid with hlocal | htable
    · exact hinv.handler sid hlocal
    · exact htable
  exact ⟨hworks, fun sid hne => step_sameFor hstep hl fun hsid => hne (hworks sid hsid)⟩

/-- **Events reach the sessions they were reported for.** In every run in which no connection
is accepted under the descriptor of an entry still to be dispatched, every handler works on
the session that was in the table under the descriptor of its entry when `Wait` returned, or
on none, and leaves all other sessions alone. -/
theorem handlers_act_on_reported (config : Config) (labels : List Label)
    (hc : Transition.Along System.step (fun s l => s.reuses l = false) (System.start config) labels) :
    Transition.Along System.step ActsOnReported (System.start config) labels := by
  have hstep : ∀ (s : System) (l : Label) (t : System), (s.Inv ∧ s.Reported) →
      s.reuses l = false → s.step l = some t → t.Inv ∧ t.Reported :=
    fun s l t h hl hs => ⟨step_inv h.1 hs, step_reported h.2 hl hs⟩
  refine Transition.Along.imp_of_invariant hstep
    (fun s l h _ => actsOnReported_of_reported h.1 h.2) ⟨start_inv config, ?_⟩ hc
  exact ⟨by simp [System.start], by simp [Busy, System.start]⟩

/-- A batch of three: the timer, the listener, and data from the client on 7. -/
def batchOf (now : Int) (fd : Nat) : List Label :=
  accepts 7 ++ [.wait [{ fd := 4, read := true }, { fd := 3, read := true },
      { fd := 7, read := true }], .dispatch .failed (some now),
    .dispatch (.accepted fd true 0 now (fun _ => 0)) none, .dispatch .failed none]

theorem handlers_act_on_reported_batch :
    (Transition.run System.step (System.start smallConfig)
      (batchOf 1 8 ++ [.handle (.data [1, 2, 3])])).isSome = true ∧
    Transition.Along System.step ActsOnReported (System.start smallConfig)
      (batchOf 1 8 ++ [.handle (.data [1, 2, 3])]) :=
  ⟨by decide, handlers_act_on_reported smallConfig _ (by decide)⟩

theorem not_actsOnReported {fd : Int} {a : Nat} (ht : (s.step l).isSome = true)
    (hl : ofHandler l = true) (hfd : s.loop.fd = fd) (hnow : s.server.sessions[fd]? = some sid)
    (hthen : s.loop.table[fd]? = some a) (hne : a ≠ sid) : ¬ s.ActsOnReported l := by
  intro h
  subst hfd
  obtain ⟨t, ht⟩ := Option.isSome_iff_exists.mp ht
  have hsid := (h t ht hl).1 sid (.inr hnow)
  exact hne (Option.some.inj (hthen.symm.trans hsid))

/-- After ten seconds the timer closes the session on 7, the listener gets 7 again for the
next client, and the data is read into the new session. -/
theorem late_event_reaches_new_session :
    ∃ s, Transition.run System.step (System.start smallConfig) (batchOf 10 7) = some s ∧
      s.loop.table[(7 : Int)]? = some 0 ∧ s.server.sessions[(7 : Int)]? = some 1 ∧
      (s.step (.handle (.data [1, 2, 3]))).any (fun t =>
        (t.server.heap 1).any fun session => session.conn.readBuffer.readableSize = 3) = true ∧
      ¬ s.ActsOnReported (.handle (.data [1, 2, 3])) := by
  have hrun : (Transition.run System.step (System.start smallConfig) (batchOf 10 7)).any
      (fun s => s.loop.fd = 7 && s.loop.table[(7 : Int)]? = some 0 &&
        s.server.sessions[(7 : Int)]? = some 1 &&
        (s.step (.handle (.data [1, 2, 3]))).any (fun t =>
          (t.server.heap 1).any fun session => session.conn.readBuffer.readableSize = 3)) =
      true := by
    decide
  obtain ⟨s, hs, hfacts⟩ := (Option.any_eq_true _ _).mp hrun
  simp only [Bool.and_eq_true, decide_eq_true_eq] at hfacts
  obtain ⟨⟨⟨hfd, hthen⟩, hnow⟩, hread⟩ := hfacts
  refine ⟨s, hs, hthen, hnow, hread, ?_⟩
  exact not_actsOnReported (Option.isSome_of_any hread) rfl hfd hnow hthen (by decide)

end RtspForward.System
