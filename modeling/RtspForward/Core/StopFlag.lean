import RtspForward.Lib.Transition

/-!
# The two running flags

`RtspServer` and its event loop have a flag each. `rtsp_forward_run` reads the flag of the
server twice and then sets that of the loop; `rtsp_forward_stop` clears the flag of the server
and then that of the loop. One thread is in `rtsp_forward_run`, another one calls start and
stop, one after the other, and every load and every store is one step.
-/
namespace RtspForward

open Lib Transition

/-- Where the thread in `rtsp_forward_run` stands. -/
inductive RunPc where
  | idle
  /-- The API has seen the server running. -/
  | apiChecked
  /-- `RtspServer::Run` has seen it running. -/
  | serverChecked
  /-- `EpollLoop::Run` is about to set its flag. -/
  | entered
  /-- It is at the test of its loop. -/
  | testing
  /-- It waits for events and dispatches them. -/
  | dispatching
  deriving DecidableEq, Repr

/-- Where the thread that starts and stops the server stands. -/
inductive ControlPc where
  | idle
  /-- `rtsp_forward_start` has seen the server not running. -/
  | startChecked
  /-- The listener listens. -/
  | listening
  /-- `EpollLoop::Init` has the descriptor and is about to set the flag. -/
  | initializing
  /-- The event loop is initialized. -/
  | initialized
  /-- `rtsp_forward_stop` has seen the server running. -/
  | stopChecked
  /-- `RtspServer::Stop` has seen it running. -/
  | stopping
  /-- `RtspServer::Stop` has cleared the flag of the server. -/
  | cleared
  /-- `EpollLoop::Stop` has cleared the flag of the loop. -/
  | loopStopped
  deriving DecidableEq, Repr

structure RunControl where
  /-- `running_` of the server. -/
  running : Bool := false
  /-- `running_` of the event loop. -/
  loopRunning : Bool := false
  epollValid : Bool := false
  run : RunPc := .idle
  control : ControlPc := .idle
  /-- History: since the last successful start, a stop has cleared the flag of the loop. -/
  stopped : Bool := false
  deriving DecidableEq, Repr

/-- Who takes the next step; `ok` answers the system calls of a start. -/
inductive RunControlLabel where
  | runThread
  | callStart
  | callStop
  | controlThread (ok : Bool)
  deriving DecidableEq, Repr

namespace RunControl

/-- A step of the thread in `rtsp_forward_run`; an idle one makes the call. -/
def runThread (s : RunControl) : RunControl :=
  match s.run with
  | .idle => { s with run := if s.running then .apiChecked else .idle }
  | .apiChecked => { s with run := if s.running then .serverChecked else .idle }
  | .serverChecked => { s with run := if s.epollValid then .entered else .idle }
  | .entered => { s with loopRunning := true, run := .testing }
  | .testing => { s with run := if s.loopRunning then .dispatching else .idle }
  | .dispatching => { s with run := .testing }

/-- A step of a start or a stop that has been called. -/
def controlThread (s : RunControl) (ok : Bool) : Option RunControl :=
  match s.control with
  | .idle => none
  | .startChecked => some { s with control := if ok then .listening else .idle }
  | .listening =>
    if s.epollValid then some { s with control := .initialized }
    else if ok then some { s with epollValid := true, control := .initializing }
    else some { s with control := .idle }
  | .initializing => some { s with loopRunning := true, control := .initialized }
  | .initialized =>
    if ok then some { s with running := true, stopped := false, control := .idle }
    else some { s with control := .idle }
  | .stopChecked => some { s with control := if s.running then .stopping else .idle }
  | .stopping => some { s with running := false, control := .cleared }
  | .cleared => some { s with loopRunning := false, stopped := true, control := .loopStopped }
  | .loopStopped => some { s with control := .idle }

def step (s : RunControl) : RunControlLabel → Option RunControl
  | .runThread => some s.runThread
  | .callStart =>
    if s.control = .idle then
      some { s with control := if s.running then .idle else .startChecked }
    else none
  | .callStop =>
    if s.control = .idle then
      some { s with control := if s.running then .stopChecked else .idle }
    else none
  | .controlThread ok => s.controlThread ok

/-- A stop that has cleared the flag of the loop is heard: the flag is still cleared, and the
next test of the loop ends it. -/
def StopHeard (s : RunControl) : Prop :=
  s.stopped = true → s.loopRunning = false ∧
    ∀ t, s.run = .testing → s.step .runThread = some t → t.run = .idle

/-- `EpollLoop::Run` sets its flag only while the server runs or a stop has still to clear
that flag. -/
def EntersInTime (s : RunControl) (l : RunControlLabel) : Prop :=
  s.run = .entered → l = .runThread → s.running = true ∨ s.control = .cleared

instance (s : RunControl) (l : RunControlLabel) : Decidable (s.EntersInTime l) :=
  inferInstanceAs (Decidable (_ → _ → _))

/-! ## The invariant -/

/-- What is known of the server where a start or a stop stands. -/
def ControlInv (s : RunControl) : Prop :=
  match s.control with
  | .idle | .loopStopped => True
  | .startChecked | .listening => s.running = false
  | .initializing => s.running = false ∧ s.stopped = false ∧ s.epollValid = true
  | .initialized => s.running = false ∧ s.epollValid = true
  | .stopChecked | .stopping => s.running = true
  | .cleared => s.running = false ∧ s.stopped = false ∧ s.epollValid = true

structure Inv (s : RunControl) : Prop where
  epoll : s.running = true ∨ s.stopped = true → s.epollValid = true
  stopped_not_running : s.stopped = true → s.running = false
  control : s.ControlInv
  /-- A call that has seen the server running still does, or a stop came in between. -/
  past : s.run ≠ .idle → s.running = true ∨ s.control = .cleared ∨ s.stopped = true
  heard : s.stopped = true → s.loopRunning = false

theorem Inv.stopHeard {s : RunControl} (h : s.Inv) : s.StopHeard := by
  intro hstopped
  have hloop := h.heard hstopped
  refine ⟨hloop, fun t htest ht => ?_⟩
  obtain rfl := Option.some.inj ht
  simp [runThread, htest, hloop]

theorem start_inv : Inv {} where
  epoll := by simp
  stopped_not_running := by simp
  control := trivial
  past := by simp
  heard := by simp

/-- The run thread changes nothing but the flag of the loop and its own place. -/
theorem runThread_frame (s : RunControl) :
    s.runThread.running = s.running ∧ s.runThread.stopped = s.stopped ∧
      s.runThread.epollValid = s.epollValid ∧ s.runThread.control = s.control := by
  unfold runThread
  cases s.run <;> exact ⟨rfl, rfl, rfl, rfl⟩

/-- It leaves `idle` only when it sees the server running. -/
theorem runThread_run {s : RunControl} (h : s.runThread.run ≠ .idle) :
    s.run ≠ .idle ∨ s.running = true := by
  by_cases hidle : s.run = .idle
  · right
    by_contra hrunning
    exact h (by simp [runThread, hidle, hrunning])
  · exact .inl hidle

theorem runThread_inv {s : RunControl} (h : s.Inv) (henters : s.EntersInTime .runThread) :
    s.runThread.Inv := by
  obtain ⟨hrunning, hstopped, hepoll, hcontrol⟩ := s.runThread_frame
  refine ⟨?_, ?_, ?_, fun hrun => ?_, fun hs => ?_⟩
  · rw [hrunning, hstopped, hepoll]
    exact h.epoll
  · rw [hrunning, hstopped]
    exact h.stopped_not_running
  · unfold ControlInv
    rw [hcontrol, hrunning, hstopped, hepoll]
    exact h.control
  · rw [hrunning, hcontrol, hstopped]
    rcases runThread_run hrun with hpast | hnow
    · exact h.past hpast
    · exact .inl hnow
  · rw [hstopped] at hs
    cases hpc : s.run with
    | entered =>
      -- the server runs or is about to clear the flag, so no stop has cleared it yet
      rcases henters hpc rfl with hyes | hcleared
      · cases hyes.symm.trans (h.stopped_not_running hs)
      · have hinv := h.control
        rw [ControlInv, hcleared] at hinv
        cases hs.symm.trans hinv.2.1
    | idle | apiChecked | serverChecked | testing | dispatching =>
      simpa [runThread, hpc] using h.heard hs

/-- The control thread moves on without a store. -/
theorem move_inv {s : RunControl} {pc : ControlPc} (h : s.Inv) (hcleared : s.control ≠ .cleared)
    (hinv : ControlInv { s with control := pc }) : Inv { s with control := pc } := by
  refine ⟨h.epoll, h.stopped_not_running, hinv, fun hrun => ?_, h.heard⟩
  rcases h.past hrun with hrunning | hpc | hstopped
  · exact .inl hrunning
  · exact absurd hpc hcleared
  · exact .inr (.inr hstopped)

theorem controlThread_inv {s t : RunControl} {ok : Bool} (h : s.Inv)
    (ht : s.controlThread ok = some t) : t.Inv := by
  have hinv := h.control
  unfold ControlInv at hinv
  unfold controlThread at ht
  cases hpc : s.control with
  | idle =>
    rw [hpc] at ht
    cases ht
  | startChecked =>
    rw [hpc] at ht hinv
    obtain rfl := Option.some.inj ht
    apply move_inv h (by simp [hpc])
    cases ok with
    | true => exact hinv
    | false => trivial
  | listening =>
    rw [hpc] at ht hinv
    simp only at ht
    split at ht
    · rename_i hepoll
      obtain rfl := Option.some.inj ht
      exact move_inv h (by simp [hpc]) ⟨hinv, hepoll⟩
    · rename_i hepoll
      have hstopped : s.stopped = false := by
        by_contra hyes
        exact hepoll (h.epoll (.inr (by simpa using hyes)))
      have hpast : s.run = .idle := by
        by_contra hrun
        have hp := h.past hrun
        simp [hpc, hstopped, show s.running = false from hinv] at hp
      split at ht
      · obtain rfl := Option.some.inj ht
        exact ⟨fun _ => rfl, h.stopped_not_running, ⟨hinv, hstopped, rfl⟩,
          fun hrun => absurd hpast hrun, h.heard⟩
      · obtain rfl := Option.some.inj ht
        exact move_inv h (by simp [hpc]) trivial
  | initializing =>
    rw [hpc] at ht hinv
    obtain rfl := Option.some.inj ht
    have hmoved : Inv { s with control := .initialized } :=
      move_inv h (by simp [hpc]) ⟨hinv.1, hinv.2.2⟩
    refine ⟨h.epoll, h.stopped_not_running, ⟨hinv.1, hinv.2.2⟩, hmoved.past, fun hs => ?_⟩
    cases hs.symm.trans hinv.2.1
  | initialized =>
    rw [hpc] at ht hinv
    simp only at ht
    split at ht
    · obtain rfl := Option.some.inj ht
      exact ⟨fun _ => hinv.2, Bool.noConfusion, trivial, fun _ => .inl rfl, Bool.noConfusion⟩
    · obtain rfl := Option.some.inj ht
      exact move_inv h (by simp [hpc]) trivial
  | stopChecked =>
    rw [hpc] at ht hinv
    obtain rfl := Option.some.inj ht
    apply move_inv h (by simp [hpc])
    have hrunning : s.running = true := hinv
    rw [if_pos hrunning]
    exact hrunning
  | stopping =>
    rw [hpc] at ht hinv
    obtain rfl := Option.some.inj ht
    have hepoll : s.epollValid = true := h.epoll (.inl hinv)
    have hstopped : s.stopped = false := by
      by_contra hyes
      cases (h.stopped_not_running (by simpa using hyes)).symm.trans hinv
    exact ⟨fun _ => hepoll, fun _ => rfl, ⟨rfl, hstopped, hepoll⟩, fun _ => .inr (.inl rfl), h.heard⟩
  | cleared =>
    rw [hpc] at ht hinv
    obtain rfl := Option.some.inj ht
    exact ⟨fun _ => hinv.2.2, fun _ => hinv.1, trivial, fun _ => .inr (.inr rfl), fun _ => rfl⟩
  | loopStopped =>
    rw [hpc] at ht
    obtain rfl := Option.some.inj ht
    exact move_inv h (by simp [hpc]) trivial

theorem step_inv {s t : RunControl} {l : RunControlLabel} (h : s.Inv) (henters : s.EntersInTime l)
    (ht : s.step l = some t) : t.Inv := by
  cases l with
  | runThread =>
    obtain rfl := Option.some.inj ht
    exact runThread_inv h henters
  | controlThread ok => exact controlThread_inv h ht
  | callStart =>
    simp only [step] at ht
    split at ht
    · rename_i hidle
      obtain rfl := Option.some.inj ht
      apply move_inv h (by simp [hidle])
      by_cases hrunning : s.running = true
      · rw [if_pos hrunning]
        trivial
      · rw [if_neg hrunning]
        exact Bool.eq_false_iff.mpr hrunning
    · cases ht
  | callStop =>
    simp only [step] at ht
    split at ht
    · rename_i hidle
      obtain rfl := Option.some.inj ht
      apply move_inv h (by simp [hidle])
      by_cases hrunning : s.running = true
      · rw [if_pos hrunning]
        exact hrunning
      · rw [if_neg hrunning]
        trivial
    · cases ht

/-- A store that comes too late undoes a stop. -/
theorem entersInTime_of_stopHeard {s t : RunControl} {l : RunControlLabel} (h : s.Inv)
    (ht : s.step l = some t) (hheard : t.StopHeard) : s.EntersInTime l := by
  rintro hrun rfl
  obtain rfl := Option.some.inj ht
  rcases h.past (by simp [hrun]) with hrunning | hcleared | hstopped
  · exact .inl hrunning
  · exact .inr hcleared
  · have hloop := (hheard ((runThread_frame s).2.1.trans hstopped)).1
    simp [runThread, hrun] at hloop

end RunControl

open RunControl in
/-- **A stop is lost exactly to a late store.** A stop that has cleared the flag of the event
loop is heard in every state of a run, until the next successful start, exactly when
`EpollLoop::Run` never sets the flag after a stop has cleared both: at every such store the
server is running, or the stop that has cleared its flag has not come to that of the loop. -/
theorem stop_heard_iff (ls : List RunControlLabel) (u : RunControl)
    (hr : Transition.run step {} ls = some u) :
    (∀ done rest t, ls = done ++ rest → Transition.run step {} done = some t → t.StopHeard) ↔
      Along step EntersInTime {} ls :=
  along_iff_states (fun _ _ _ h henters ht => step_inv h henters ht) (fun _ h => h.stopHeard)
    (fun _ _ _ h ht hheard => entersInTime_of_stopHeard h ht hheard) start_inv hr

open RunControl

/-- A start. -/
def starts : List RunControlLabel := .callStart :: List.replicate 4 (.controlThread true)

/-- A stop. -/
def stops : List RunControlLabel := .callStop :: List.replicate 4 (.controlThread true)

/-- The server is started, its loop waits for events, and a stop ends it. -/
theorem stop_ends_loop :
    ∃ u, Transition.run step {} (starts ++ List.replicate 5 .runThread ++ stops) = some u ∧
      u.stopped = true ∧ u.loopRunning = false := by
  refine ⟨_, rfl, rfl, ?_⟩
  have hheard := (stop_heard_iff (starts ++ List.replicate 5 .runThread ++ stops) _ rfl).mpr
    (by decide) (starts ++ List.replicate 5 .runThread ++ stops) [] _ (by simp) rfl
  exact (hheard rfl).1

/-- `rtsp_forward_run` has passed both checks when a whole stop takes place. Its loop runs, and
goes on running; the server reports that it is not, and a second stop does nothing. -/
theorem stop_lost :
    ∃ u v, Transition.run step {} (starts ++ List.replicate 3 .runThread ++ stops ++ [.runThread]) =
        some u ∧ u.stopped = true ∧ u.loopRunning = true ∧ u.running = false ∧ ¬ u.StopHeard ∧
      Transition.run step u ([.callStop] ++ List.replicate 2 .runThread) = some v ∧ v = u :=
  ⟨_, _, rfl, rfl, rfl, rfl, fun h => Bool.noConfusion (h rfl).1, rfl, rfl⟩

end RtspForward
