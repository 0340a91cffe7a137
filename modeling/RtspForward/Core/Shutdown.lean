import RtspForward.Core.DescriptorCustody
import RtspForward.Core.SystemInvariant

/-!
# What a stop leaves behind

`Stop` clears the table under the lock. A connection that is being accepted is not in the table
yet, and its session goes in when the lock is free again. A session that nobody refers to has
been destroyed, so when both threads are done the descriptors of the table's sessions are all
that is open.
-/
namespace RtspForward

open Lib Transition Custody

/-- `Stop` has emptied the table. -/
def StopPc.pastClear : StopPc → Bool
  | .sessionsCleared | .returned => true
  | .idle | .runningCleared | .loopStopped | .timerRemoved => false

namespace Lifecycle

variable {s t u : Lifecycle} {l : LifecycleLabel} {sid : Nat} {fd : Int}

/-- A session is put into the table before `Stop` empties it. -/
def InsertsInTime (s : Lifecycle) : LifecycleLabel → Prop
  | .insert => s.stop.pastClear = false
  | _ => True

instance (s : Lifecycle) (l : LifecycleLabel) : Decidable (s.InsertsInTime l) := by
  cases l <;> unfold InsertsInTime <;> infer_instance

/-- The table is empty from the clearing on. -/
def StaysEmpty (s : Lifecycle) : Prop :=
  s.stop.pastClear = true → s.server.sessions.isEmpty = true

/-- Nothing is left when `Stop` and `Run` have returned: no session and no open descriptor. -/
def NothingLeft (s : Lifecycle) : Prop :=
  s.stop = .returned → s.loop = .returned →
    s.server.sessions.isEmpty = true ∧ ∀ fd, s.server.kernel.opened fd = false

/-! ## What the steps leave alone -/

theorem release_frame (sids : List Nat) : ∀ s : Lifecycle,
    (s.release sids).listener = s.listener ∧ (s.release sids).timer = s.timer ∧
      (s.release sids).stop = s.stop ∧ (s.release sids).loop = s.loop ∧
      (s.release sids).server.sessions = s.server.sessions ∧
      (s.release sids).server.running = s.server.running := by
  induction sids with
  | nil => exact fun s => ⟨rfl, rfl, rfl, rfl, rfl, rfl⟩
  | cons sid sids ih =>
    intro s
    have hone : (s.releaseOne sid).listener = s.listener ∧ (s.releaseOne sid).timer = s.timer ∧
        (s.releaseOne sid).stop = s.stop ∧ (s.releaseOne sid).loop = s.loop ∧
        (s.releaseOne sid).server.sessions = s.server.sessions ∧
        (s.releaseOne sid).server.running = s.server.running := by
      unfold releaseOne
      split
      · exact ⟨rfl, rfl, rfl, rfl, rfl, rfl⟩
      · refine ⟨rfl, rfl, rfl, rfl, ?_, ?_⟩ <;> unfold Server.destroy <;> split <;> rfl
    obtain ⟨h₁, h₂, h₃, h₄, h₅, h₆⟩ := ih (s.releaseOne sid)
    obtain ⟨g₁, g₂, g₃, g₄, g₅, g₆⟩ := hone
    exact ⟨h₁.trans g₁, h₂.trans g₂, h₃.trans g₃, h₄.trans g₄, h₅.trans g₅, h₆.trans g₆⟩

/-- The event-loop thread leaves the members that `Stop` works on alone. -/
structure LoopFrame (s t : Lifecycle) : Prop where
  listener : t.listener = s.listener
  timer : t.timer = s.timer
  stop : t.stop = s.stop
  running : t.server.running = s.server.running

theorem LoopFrame.release (h : LoopFrame s t) (sids : List Nat) : LoopFrame s (t.release sids) := by
  obtain ⟨hlistener, htimer, hstop, -, -, hrunning⟩ := release_frame sids t
  exact ⟨hlistener.trans h.listener, htimer.trans h.timer, hstop.trans h.stop,
    hrunning.trans h.running⟩

theorem closeConnection_running (srv : Server) (fd : Int) :
    (srv.closeConnection fd).1.running = srv.running := by
  unfold Server.closeConnection Server.removeFd
  split
  · rfl
  · split
    · rfl
    · split <;> rfl

theorem addFd_members (srv : Server) (fd : Int) (i : Interest) (cb : Callback) (ok : Bool) :
    (srv.addFd fd i cb ok).1.running = srv.running ∧
      (srv.addFd fd i cb ok).1.sessions = srv.sessions := by
  unfold Server.addFd
  split
  · exact ⟨rfl, rfl⟩
  · split <;> exact ⟨rfl, rfl⟩

theorem step_loopFrame (hstep : s.step l = some t) (hl : l ≠ .stop) : LoopFrame s t := by
  cases step_cases hstep with
  | refuse | accept | overLimit | underLimit | create | absent | lookUp | request | collectNone
  | collect | swept | exitRun => exact ⟨rfl, rfl, rfl, rfl⟩
  | addFailed | add => exact ⟨rfl, rfl, rfl, (addFd_members _ _ _ _ _).1⟩
  | insert | leave =>
    apply LoopFrame.release
    exact ⟨rfl, rfl, rfl, rfl⟩
  | hangUp | onError | closeNext =>
    apply LoopFrame.release
    exact ⟨rfl, rfl, rfl, closeConnection_running _ _⟩
  | clearRunning | notRunning | stopLoop | removeTimer | clearSessions | closeListener =>
    exact absurd rfl hl

/-! ## `Stop` on its way -/

/-- What `Stop` has already done. -/
structure StopProgress (s : Lifecycle) : Prop where
  running : s.stop = .idle → s.server.running = true
  timer : s.stop = .timerRemoved ∨ s.stop.pastClear = true → s.timer = none
  listener : s.stop = .returned → s.listener = none

theorem StopProgress.of_loopFrame (h : s.StopProgress) (hframe : LoopFrame s t) :
    t.StopProgress := by
  refine ⟨?_, ?_, ?_⟩
  · rw [hframe.stop, hframe.running]
    exact h.running
  · rw [hframe.stop, hframe.timer]
    exact h.timer
  · rw [hframe.stop, hframe.listener]
    exact h.listener

theorem removeTimer_frame (s : Lifecycle) : s.removeTimer.timer = none ∧
    s.removeTimer.loop = s.loop ∧ s.removeTimer.server.heap = s.server.heap ∧
      s.removeTimer.server.sessions = s.server.sessions := by
  unfold removeTimer
  split
  · rename_i htimer
    exact ⟨htimer, rfl, rfl, rfl⟩
  · rename_i fd htimer
    obtain ⟨hheap, -, hsessions, -⟩ := Server.removeFd_frame s.server fd
    exact ⟨rfl, rfl, hheap, hsessions⟩

theorem closeListener_frame (s : Lifecycle) : s.closeListener.listener = none ∧
    s.closeListener.timer = s.timer ∧ s.closeListener.loop = s.loop ∧
      s.closeListener.server.heap = s.server.heap ∧
      s.closeListener.server.sessions = s.server.sessions := by
  unfold closeListener
  split
  · rename_i hlistener
    exact ⟨hlistener, rfl, rfl, rfl, rfl⟩
  · exact ⟨rfl, rfl, rfl, rfl, rfl⟩

theorem clearSessions_frame (s : Lifecycle) : s.clearSessions.timer = s.timer ∧
    s.clearSessions.loop = s.loop ∧ s.clearSessions.server.sessions = ∅ := by
  obtain ⟨-, htimer, -, hloop, hsessions, -⟩ := release_frame s.sids s.emptied
  exact ⟨htimer, hloop, hsessions⟩

theorem step_stopProgress (h : s.StopProgress) (hstep : s.step l = some t) : t.StopProgress := by
  by_cases hl : l = .stop
  · subst hl
    cases step_cases hstep with
    | clearRunning hstop => exact ⟨by simp, by simp [StopPc.pastClear], by simp⟩
    | notRunning hstop hrunning =>
      rw [h.running hstop] at hrunning
      cases hrunning
    | stopLoop hstop => exact ⟨by simp, by simp [StopPc.pastClear], by simp⟩
    | removeTimer hstop => exact ⟨by simp, fun _ => (removeTimer_frame s).1, by simp⟩
    | clearSessions hstop =>
      have htimer := (clearSessions_frame s).1.trans (h.timer (.inl hstop))
      exact ⟨by simp, fun _ => htimer, by simp⟩
    | closeListener hstop =>
      obtain ⟨hlistener, htimer, -⟩ := closeListener_frame s
      have hbefore := h.timer (.inr (by rw [hstop]; rfl))
      exact ⟨by simp, fun _ => htimer.trans hbefore, fun _ => hlistener⟩
  · exact h.of_loopFrame (step_loopFrame hstep hl)

/-! ## The table after the clearing -/

/-- A step fills the table only with `insert`. -/
theorem step_sessions (hstep : s.step l = some t) (hl : l ≠ .insert)
    (hempty : s.server.sessions.isEmpty = true) : t.server.sessions.isEmpty = true := by
  have hclose (srv : Server) (fd : Int) (hsrv : srv.sessions.isEmpty = true) :
      (srv.closeConnection fd).1.sessions.isEmpty = true := by
    have hnone : srv.sessions[fd]? = none := by
      rw [Std.TreeMap.getElem?_of_isEmpty hsrv]
    simp [Server.closeConnection, hnone, hsrv]
  have hrelease {sids : List Nat} {v : Lifecycle} (hv : v.server.sessions.isEmpty = true) :
      (v.release sids).server.sessions.isEmpty = true := by
    obtain ⟨-, -, -, -, hsessions, -⟩ := release_frame sids v
    rw [hsessions]
    exact hv
  cases step_cases hstep with
  | refuse | accept | overLimit | underLimit | create | absent | lookUp | request | collectNone
  | collect | swept | exitRun | clearRunning | notRunning | stopLoop => exact hempty
  | @addFailed fd ok | @add fd ok =>
    show (s.server.addFd fd {} .client ok).1.sessions.isEmpty = true
    rw [(addFd_members _ _ _ _ _).2]
    exact hempty
  | insert => exact absurd rfl hl
  | leave => exact hrelease hempty
  | hangUp | onError | closeNext => exact hrelease (hclose _ _ hempty)
  | removeTimer =>
    obtain ⟨-, -, -, hsessions⟩ := removeTimer_frame s
    show s.removeTimer.server.sessions.isEmpty = true
    rw [hsessions]
    exact hempty
  | clearSessions =>
    show s.clearSessions.server.sessions.isEmpty = true
    rw [(clearSessions_frame s).2.2]
    rfl
  | closeListener =>
    obtain ⟨-, -, -, -, hsessions⟩ := closeListener_frame s
    show s.closeListener.server.sessions.isEmpty = true
    rw [hsessions]
    exact hempty

theorem insert_sessions (s : Lifecycle) (fd sid : Nat) :
    (s.insert fd sid).server.sessions = s.server.sessions.insert fd sid := by
  obtain ⟨-, -, -, -, hsessions, -⟩ := release_frame (s.server.sessions[(fd : Int)]?).toList { s with
    server := { s.server with sessions := s.server.sessions.insert fd sid }
    loop := .idle }
  exact hsessions

/-- A session that comes too late stays in the table. -/
theorem insertsInTime_of_staysEmpty (hstep : s.step l = some t) (ht : t.StaysEmpty) :
    s.InsertsInTime l := by
  cases l with
  | insert =>
    refine Bool.eq_false_iff.mpr fun hpast => ?_
    have hstop := (step_loopFrame hstep (by simp)).stop
    cases step_cases hstep with
    | @insert fd sid hloop =>
      have hempty := ht (by rw [hstop]; exact hpast)
      rw [insert_sessions, Std.TreeMap.isEmpty_insert] at hempty
      cases hempty
  | accept | checkLimit | addFd | create | lookUp | request | leave | hangUp | onError | collect
  | closeNext | exitRun | stop => trivial

theorem step_staysEmpty (hprogress : s.StopProgress) (h : s.StaysEmpty) (hl : s.InsertsInTime l)
    (hstep : s.step l = some t) : t.StaysEmpty := by
  intro hpast
  by_cases hstop : l = .stop
  · subst hstop
    by_cases hbefore : s.stop.pastClear = true
    · exact step_sessions hstep (by simp) (h hbefore)
    · cases step_cases hstep with
      | clearSessions hat =>
        show s.clearSessions.server.sessions.isEmpty = true
        rw [(clearSessions_frame s).2.2]
        rfl
      | notRunning hat hrunning =>
        rw [hprogress.running hat] at hrunning
        cases hrunning
      | closeListener hat =>
        rw [hat] at hbefore
        exact absurd rfl hbefore
      | clearRunning | stopLoop | removeTimer => cases hpast
  · rw [(step_loopFrame hstep hstop).stop] at hpast
    refine step_sessions hstep ?_ (h hpast)
    rintro rfl
    exact Bool.false_ne_true (hl.symm.trans hpast)

/-! ## Sessions nobody refers to -/

/-- Somebody refers to every live session. -/
def Referred (s : Lifecycle) : Prop :=
  ∀ sid, (s.server.heap sid).isSome = true → s.refers sid = true

theorem refers_iff (s : Lifecycle) (sid : Nat) : s.refers sid = true ↔
    (∃ fd : Int, s.server.sessions[fd]? = some sid) ∨ s.loop.session = some sid := by
  simp only [refers, Bool.or_eq_true, List.any_eq_true, decide_eq_true_eq, Prod.exists,
    Std.TreeMap.mem_toList_iff_getElem?_eq_some, exists_eq_right]

theorem mem_sids (s : Lifecycle) (sid : Nat) :
    sid ∈ s.sids ↔ ∃ fd : Int, s.server.sessions[fd]? = some sid := by
  simp only [sids, List.mem_map, Prod.exists, Std.TreeMap.mem_toList_iff_getElem?_eq_some,
    exists_eq_right]

/-- The references `sids` have been given up, and nobody else's. -/
theorem referred_release (sids : List Nat) : ∀ {s : Lifecycle},
    (∀ a, (s.server.heap a).isSome = true → s.refers a = true ∨ a ∈ sids) →
      (s.release sids).Referred := by
  induction sids with
  | nil => exact fun h a ha => (h a ha).resolve_right (List.not_mem_nil)
  | cons sid sids ih =>
    intro s h
    refine ih (s := s.releaseOne sid) fun a ha => ?_
    rw [releaseOne_refers]
    unfold releaseOne at ha
    split at ha
    · rename_i hrefers
      rcases h a ha with hold | hmem
      · exact .inl hold
      · rcases List.mem_cons.mp hmem with rfl | hrest
        · exact .inl hrefers
        · exact .inr hrest
    · have hgone : (s.server.destroy sid).heap = Function.update s.server.heap sid none := by
        unfold Server.destroy
        split
        · rename_i hnone
          exact (Function.update_eq_self_iff.mpr hnone.symm).symm
        · rfl
      have hne : a ≠ sid := by
        rintro rfl
        simp [hgone] at ha
      simp only [hgone, Function.update_of_ne hne] at ha
      rcases h a ha with hold | hmem
      · exact .inl hold
      · exact .inr ((List.mem_cons.mp hmem).resolve_left hne)

/-- A step that makes no session, and gives up the references `sids`. -/
theorem Referred.release (h : s.Referred) (sids : List Nat)
    (hheap : ∀ a, (t.server.heap a).isSome = true → (s.server.heap a).isSome = true)
    (htable : ∀ (fd : Int) a, s.server.sessions[fd]? = some a →
      (∃ fd' : Int, t.server.sessions[fd']? = some a) ∨ t.loop.session = some a ∨ a ∈ sids)
    (hloop : ∀ a, s.loop.session = some a →
      (∃ fd : Int, t.server.sessions[fd]? = some a) ∨ t.loop.session = some a ∨ a ∈ sids) :
    (t.release sids).Referred := by
  refine referred_release sids fun a ha => ?_
  rw [refers_iff, or_assoc]
  rcases (refers_iff s a).mp (h a (hheap a ha)) with ⟨fd, hfd⟩ | hsession
  · exact htable fd a hfd
  · exact hloop a hsession

/-- The references stay as they are. -/
theorem Referred.keep (h : s.Referred) (hheap : t.server.heap = s.server.heap)
    (hsessions : t.server.sessions = s.server.sessions)
    (hloop : ∀ a, s.loop.session = some a → t.loop.session = some a) : t.Referred := by
  refine h.release [] (t := t) (fun a ha => ?_) (fun fd a hfd => ?_) fun a ha => ?_
  · rw [← hheap]
    exact ha
  · exact .inl ⟨fd, hsessions ▸ hfd⟩
  · exact .inr (.inl (hloop a ha))

theorem closeConnection_referred (h : s.Referred) (fd : Int) {loop : CallbackPc} {held : List Nat}
    (hloop : ∀ a, s.loop.session = some a → a ∈ held) : (s.closeConnection fd loop held).Referred := by
  obtain ⟨hheap, -, -, -, hsessions, hreleased⟩ := Server.closeConnection_frame s.server fd
  refine h.release _ (fun a ha => ?_) (fun x a hx => ?_) fun a ha => ?_
  · rw [← hheap]
    exact ha
  · by_cases hfd : fd = x
    · refine .inr (.inr (List.mem_append_left _ ?_))
      rw [hreleased, hfd, hx]
      exact List.mem_singleton_self a
    · refine .inl ⟨x, ?_⟩
      rw [hsessions, if_neg hfd]
      exact hx
  · exact .inr (.inr (List.mem_append_right _ (hloop a ha)))

theorem clearSessions_referred (h : s.Referred) : s.clearSessions.Referred := by
  have hlive (sids : List Nat) : ∀ (srv : Server) a,
      ((sids.foldl Server.closeSession srv).heap a).isSome = (srv.heap a).isSome := by
    induction sids with
    | nil => exact fun _ _ => rfl
    | cons sid sids ih =>
      intro srv a
      refine (ih (srv.closeSession sid) a).trans ?_
      unfold Server.closeSession
      cases hs : srv.heap sid with
      | none => rfl
      | some x => by_cases ha : a = sid <;> simp [ha, hs]
  refine h.release _ (fun a ha => ?_) (fun fd a hfd => ?_) fun a ha => ?_
  · rw [← hlive s.sids s.server a]
    exact ha
  · exact .inr (.inr ((mem_sids s a).mpr ⟨fd, hfd⟩))
  · exact .inr (.inl ha)

theorem step_referred (h : s.Referred) (hstep : s.step l = some t) : t.Referred := by
  cases step_cases hstep with
  | refuse | absent | collectNone | notRunning | stopLoop => exact h
  | accept hloop | overLimit hloop | underLimit hloop | lookUp hloop | collect hloop | swept hloop
  | exitRun hloop => exact h.keep rfl rfl (by simp [hloop, CallbackPc.session])
  | clearRunning => exact h.keep rfl rfl fun _ ha => ha
  | @addFailed fd ok hloop | @add fd ok hloop =>
    obtain ⟨hheap, -⟩ := Server.addFd_frame s.server fd {} .client ok
    exact h.keep hheap (addFd_members _ _ _ _ _).2 (by simp [hloop, CallbackPc.session])
  | @create fd timestamp now garbage session hloop hs =>
    intro a ha
    refine (refers_iff _ a).mpr ?_
    by_cases hnew : a = s.server.created
    · exact .inr (congrArg some hnew.symm)
    · have hold : (s.server.heap a).isSome = true := by
        simpa only [Function.update_of_ne hnew] using ha
      rcases (refers_iff s a).mp (h a hold) with htable | hsession
      · exact .inl htable
      · rw [hloop] at hsession
        cases hsession
  | @insert fd sid hloop =>
    refine h.release _ (fun a ha => ha) (fun x a hx => ?_) fun a ha => ?_
    · by_cases hfd : (fd : Int) = x
      · refine .inr (.inr ?_)
        rw [hfd, hx]
        exact List.mem_singleton_self a
      · refine .inl ⟨x, ?_⟩
        rw [Server.getElem?_insert, if_neg hfd]
        exact hx
    · rw [hloop] at ha
      refine .inl ⟨fd, ?_⟩
      rw [Server.getElem?_insert, if_pos rfl]
      exact ha
  | @request fd sid data env session kernel hloop hs hk =>
    refine h.release [] (t := _) (fun a ha => ?_) (fun x a hx => .inl ⟨x, hx⟩)
      fun a ha => .inr (.inl ha)
    by_cases hsid : a = sid
    · rw [hsid, hs]
      rfl
    · simpa only [Server.setSession, Function.update_of_ne hsid] using ha
  | @leave fd sid hloop =>
    refine h.release _ (fun a ha => ha) (fun x a hx => .inl ⟨x, hx⟩) fun a ha => ?_
    rw [hloop] at ha
    obtain rfl := Option.some.inj ha
    exact .inr (.inr (List.mem_singleton_self sid))
  | @hangUp fd sid hloop =>
    refine closeConnection_referred h fd fun a ha => ?_
    rw [hloop] at ha
    obtain rfl := Option.some.inj ha
    exact List.mem_singleton_self sid
  | @onError fd hloop =>
    exact closeConnection_referred h fd (by simp [hloop, CallbackPc.session])
  | @closeNext fd fds hloop =>
    refine closeConnection_referred (s := { s with server := { s.server with
      timedOutSessions := (s.server.timedOutSessions + 1) % 2 ^ 64 } }) ?_ fd
      (by simp [hloop, CallbackPc.session])
    exact h.keep rfl rfl fun _ ha => ha
  | removeTimer =>
    obtain ⟨-, hloop, hheap, hsessions⟩ := removeTimer_frame s
    exact h.keep hheap hsessions fun a ha => (congrArg CallbackPc.session hloop).trans ha
  | clearSessions => exact (clearSessions_referred h).keep rfl rfl fun _ ha => ha
  | closeListener =>
    obtain ⟨-, -, hloop, hheap, hsessions⟩ := closeListener_frame s
    exact h.keep hheap hsessions fun a ha => (congrArg CallbackPc.session hloop).trans ha

/-! ## What is left -/

/-- The invariants of a started server that a stop relies on. -/
structure Winding (s : Lifecycle) : Prop where
  descriptors : s.Inv
  progress : s.StopProgress
  referred : s.Referred

theorem start_winding (config : Config) : (start config).Winding where
  descriptors := start_inv config
  progress := ⟨fun _ => rfl, by simp [start, StopPc.pastClear], by simp [start]⟩
  referred := fun a ha => by cases ha

theorem step_winding (h : s.Winding) (hstep : s.step l = some t) : t.Winding :=
  ⟨step_inv h.descriptors hstep, step_stopProgress h.progress hstep, step_referred h.referred hstep⟩

/-- With an empty table and both threads done nobody holds a descriptor any more. -/
theorem Winding.nothingLeft (h : s.Winding) (hempty : s.StaysEmpty) : s.NothingLeft := by
  intro hstop hloop
  have hpast : s.stop.pastClear = true := by rw [hstop]; rfl
  have htable := hempty hpast
  have hdead (sid : Nat) : s.server.heap sid = none := by
    refine Option.not_isSome_iff_eq_none.mp fun hlive => ?_
    rcases (refers_iff s sid).mp (h.referred sid hlive) with ⟨fd, hfd⟩ | hsession
    · rw [Std.TreeMap.getElem?_of_isEmpty htable] at hfd
      cases hfd
    · rw [hloop] at hsession
      cases hsession
  refine ⟨htable, fun fd => Bool.eq_false_iff.mpr fun hopen => ?_⟩
  obtain ⟨a, ha⟩ := (h.descriptors.linear.inUse_iff fd).mp hopen
  have hlistener := h.progress.listener hstop
  have htimer := h.progress.timer (.inr hpast)
  cases a <;> simp [holders, hlistener, htimer, hloop, hdead, CallbackPc.clientFd] at ha

end Lifecycle

open Lifecycle

/-- **`Stop` closes what is in the table when it gets there.** In every run of a started server
with a stop, the table stays empty from the clearing on exactly when no session is put into it
after that. Then no session and no open descriptor is left when `Stop` and `Run` have returned. -/
theorem stop_closes_all_iff (config : Config) (labels : List LifecycleLabel) (u : Lifecycle)
    (hr : run Lifecycle.step (Lifecycle.start config) labels = some u) :
    ((∀ done rest t, labels = done ++ rest →
        run Lifecycle.step (Lifecycle.start config) done = some t → t.StaysEmpty) ↔
      Along Lifecycle.step InsertsInTime (Lifecycle.start config) labels) ∧
    (Along Lifecycle.step InsertsInTime (Lifecycle.start config) labels →
      ∀ done rest t, labels = done ++ rest →
        run Lifecycle.step (Lifecycle.start config) done = some t → t.NothingLeft) := by
  have hwinding {done : List LifecycleLabel} {t : Lifecycle}
      (hdone : run Lifecycle.step (Lifecycle.start config) done = some t) : t.Winding :=
    run_invariant (fun _ _ _ h hstep => step_winding h hstep) (start_winding config) hdone
  have hiff := along_iff_states (G := InsertsInTime) (I := fun s => s.Winding ∧ s.StaysEmpty)
    (P := StaysEmpty)
    (fun s l t h hl hstep =>
      ⟨step_winding h.1 hstep, step_staysEmpty h.1.progress h.2 hl hstep⟩)
    (fun s h => h.2) (fun s l t _ hstep ht => insertsInTime_of_staysEmpty hstep ht)
    ⟨start_winding config, fun hpast => by cases hpast⟩ hr
  exact ⟨hiff, fun hl done rest t hsplit hdone =>
    (hwinding hdone).nothingLeft (hiff.mpr hl done rest t hsplit hdone)⟩

/-- A client is accepted, and its session is put into the table before the server is stopped. -/
def stopsAfterInsert : List LifecycleLabel :=
  [.accept (some 7), .checkLimit, .addFd true, .create 0 0 (fun _ => 0), .insert] ++
    List.replicate 5 .stop ++ [.exitRun]

theorem stop_closes_all_after_insert :
    ∃ u, run Lifecycle.step (Lifecycle.start System.smallConfig) stopsAfterInsert = some u ∧
      u.NothingLeft := by
  have hrun : (run Lifecycle.step (Lifecycle.start System.smallConfig) stopsAfterInsert).isSome =
      true := by
    decide
  obtain ⟨u, hu⟩ := Option.isSome_iff_exists.mp hrun
  refine ⟨u, hu, ?_⟩
  exact (stop_closes_all_iff System.smallConfig stopsAfterInsert u hu).2 (by decide)
    stopsAfterInsert [] u (List.append_nil _).symm hu

/-- The same client, but the whole of `Stop` falls between the creation of its session and the
insertion. -/
def stopsBeforeInsert : List LifecycleLabel :=
  [.accept (some 7), .checkLimit, .addFd true, .create 0 0 (fun _ => 0)] ++
    List.replicate 5 .stop ++ [.insert, .exitRun]

theorem stop_leaves_session :
    ∃ u, run Lifecycle.step (Lifecycle.start System.smallConfig) stopsBeforeInsert = some u ∧
      u.stop = .returned ∧ u.loop = .returned ∧ u.server.sessions[(7 : Int)]? = some 0 ∧
      u.server.kernel.opened 7 = true ∧ ¬ u.NothingLeft := by
  have hrun : (run Lifecycle.step (Lifecycle.start System.smallConfig) stopsBeforeInsert).any (fun u =>
      u.stop = .returned && u.loop = .returned && u.server.sessions[(7 : Int)]? = some 0 &&
        u.server.kernel.opened 7) = true := by
    decide
  obtain ⟨u, hu, hfacts⟩ := (Option.any_eq_true _ _).mp hrun
  simp only [Bool.and_eq_true, decide_eq_true_eq] at hfacts
  obtain ⟨⟨⟨hstop, hloop⟩, htable⟩, hopen⟩ := hfacts
  refine ⟨u, hu, hstop, hloop, htable, hopen, fun h => ?_⟩
  rw [(h hstop hloop).2 7] at hopen
  cases hopen

end RtspForward
