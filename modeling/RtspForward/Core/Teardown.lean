import RtspForward.Core.SessionSteps

/-!
# The end of a session

`TEARDOWN`, and the marking of a slow client by the stream thread, set the state to
`kTeardown` and leave the removal to a later sweep. Every handler overwrites the state, so a
request that comes in between takes the session out of `kTeardown` again.
-/
namespace RtspForward.System

open Lib.Transition

/-- The step handles a request of the session that leads to another state than
`kTeardown`. -/
def revives (s : System) (l : Label) (a : Nat) : Bool :=
  match l with
  | .turn env beyond =>
    s.loop.pc = .reading a &&
      (s.nextRequest a beyond).any fun data =>
        (Request.mk data env).action.target.any fun st => st ≠ .kTeardown
  | _ => false

/-- While the session is in the table it is in `kTeardown`, and a broadcast does not select
it. -/
def StaysDown (a : Nat) (s : System) : Prop :=
  (∀ (fd : Int) x, s.server.sessions[fd]? = some a → s.server.heap a = some x →
    x.state = .kTeardown) ∧ a ∉ s.server.playingSessions

/-- The session is in `kTeardown` as long as it exists, and its name is not given again. -/
structure Down (a : Nat) (s : System) : Prop where
  inv : s.Inv
  named : a < s.server.created
  state : ∀ x, s.server.heap a = some x → x.state = .kTeardown

variable {s t : System} {l : Label} {a : Nat}

theorem Down.staysDown (h : s.Down a) : s.StaysDown a := by
  refine ⟨fun fd x _ hx => h.state x hx, fun hin => ?_⟩
  simp only [Server.playingSessions, List.mem_map, List.mem_filter, Prod.exists] at hin
  obtain ⟨fd, sid, ⟨-, hplay⟩, rfl⟩ := hin
  cases hx : s.server.heap sid with
  | none => simp [hx] at hplay
  | some x => simp [hx, h.state x hx] at hplay

/-- The state after a request of a session that is in `kTeardown`. -/
theorem processData_state_eq (x : RtspSession) (data : Bytes) (env : RequestEnv) (n : Nat) :
    ((x.processData data env).session.consume n).state =
      (Request.mk data env).action.target.getD x.state :=
  (congrArg Media.state (x.processData_media ⟨data, env⟩)).trans (Action.apply_state _ _)

theorem step_down (h : s.Down a) (hl : s.revives l a = false) (hstep : s.step l = some t) :
    t.Down a := by
  refine ⟨step_inv h.inv hstep, h.named.trans_le (step_fixed hstep).2, fun x' hx' => ?_⟩
  rcases step_moves hstep a x' hx' with ⟨rfl, -⟩ | ⟨x, hx, hmove⟩
  · exact absurd h.named (Nat.lt_irrefl _)
  · have hdown := h.state x hx
    cases hmove with
    | unmoved hsame => exact (congrArg Media.state hsame.media_eq).trans hdown
    | recordDrop => simp [RtspSession.recordDrop, hdown]
    | recordSuccess => exact hdown
    | @request env beyond data n hturn hpc hnext =>
      subst hturn
      rw [processData_state_eq]
      cases htarget : (Request.mk data env).action.target with
      | none => exact hdown
      | some st =>
        simpa [revives, hpc, hnext, htarget] using hl

/-- The request is handled, and the session is in the table with another state. -/
theorem revives_of_step (h : s.Down a) (hstep : s.step l = some t) (ht : t.StaysDown a) :
    s.revives l a = false := by
  cases l with
  | turn env beyond =>
    by_contra hrev
    have hrev : s.revives (.turn env beyond) a = true := by simpa using hrev
    simp only [revives, Bool.and_eq_true, decide_eq_true_eq, Option.any_eq_true] at hrev
    obtain ⟨hpc, data, hnext, st, htarget, hst⟩ := hrev
    obtain ⟨x, n, hx, hsessions, hheap, -⟩ := step_request hpc hnext hstep
    have htable : t.server.sessions[s.loop.fd]? = some a := by
      rw [hsessions]
      exact h.inv.handler a (by rw [hpc]; rfl)
    have hstate := ht.1 _ _ htable hheap
    rw [processData_state_eq, htarget, Option.getD_some] at hstate
    exact hst hstate
  | broadcast | load | sendTo | sendV | recordDrop | recordSuccess | streamModify | finish | wait
  | dispatch | handle | checkRead | registerRead | flush | checkWrite | unregister
  | disconnect => rfl

/-- **When `kTeardown` is final.** In a run of the server a session has come to `kTeardown`. In
all later states it is in `kTeardown` until it is removed, and no broadcast selects it,
exactly when none of its requests that would set another state is handled any more: no
`OPTIONS`, `PLAY` or `PAUSE`, no `DESCRIBE` while an SDP is configured, and no `SETUP` that
is accepted. -/
theorem teardown_final_iff (config : Config) (before after : List Label) (s u : System)
    (hs : run step (System.start config) before = some s) (a : Nat) (x : RtspSession)
    (hx : s.server.heap a = some x) (hdown : x.state = .kTeardown)
    (hu : run step s after = some u) :
    (∀ done rest t, after = done ++ rest → run step s done = some t → t.StaysDown a) ↔
      Along step (fun s l => s.revives l a = false) s after := by
  have hinv : s.Inv := run_invariant (fun _ _ _ => step_inv) (start_inv config) hs
  have hnamed : a < s.server.created := by
    by_contra hge
    rw [hinv.server.fresh a (Nat.le_of_not_lt hge)] at hx
    cases hx
  have hstart : s.Down a := ⟨hinv, hnamed, fun y hy => Option.some.inj (hx.symm.trans hy) ▸ hdown⟩
  exact along_iff_states (I := Down a) (fun _ _ _ => step_down) (fun _ h => h.staysDown)
    (fun _ _ _ => revives_of_step) hstart hu

/-- Keep-alives and a further `TEARDOWN` leave the session in `kTeardown`. -/
theorem teardown_final_keepalive :
    ∃ s u x, run step (System.start smallConfig) (tearsDown 7) = some s ∧
      s.server.heap 0 = some x ∧ x.state = .kTeardown ∧
      run step s (requests 7 "GET_PARAMETER * RTSP/1.0\r\nCSeq: 3" ++
        requests 7 "TEARDOWN * RTSP/1.0\r\nCSeq: 4") = some u ∧ u.StaysDown 0 := by
  have hrun : (run step (System.start smallConfig) (tearsDown 7)).any (fun s =>
      (s.server.heap 0).any (fun x => x.state = .kTeardown) &&
        (run step s (requests 7 "GET_PARAMETER * RTSP/1.0\r\nCSeq: 3" ++
          requests 7 "TEARDOWN * RTSP/1.0\r\nCSeq: 4")).isSome &&
        decide (Along step (fun s l => s.revives l 0 = false) s
          (requests 7 "GET_PARAMETER * RTSP/1.0\r\nCSeq: 3" ++
            requests 7 "TEARDOWN * RTSP/1.0\r\nCSeq: 4"))) = true := by
    decide
  obtain ⟨s, hs, hfacts⟩ := (Option.any_eq_true _ _).mp hrun
  simp only [Bool.and_eq_true, decide_eq_true_eq] at hfacts
  obtain ⟨⟨hx, hu⟩, hcond⟩ := hfacts
  obtain ⟨x, hx, hdown⟩ := (Option.any_eq_true _ _).mp hx
  obtain ⟨u, hu⟩ := Option.isSome_iff_exists.mp hu
  have hstays := (teardown_final_iff smallConfig (tearsDown 7) _ s u hs 0 x hx
    (of_decide_eq_true hdown) hu).mpr hcond _ [] u (by simp) hu
  exact ⟨s, u, x, hs, hx, of_decide_eq_true hdown, hu, hstays⟩

/-- A `PLAY` sent after the `TEARDOWN`, and the session is selected again. -/
theorem play_revives :
    ∃ s u x, run step (System.start smallConfig) (tearsDown 7) = some s ∧
      s.server.heap 0 = some x ∧ x.state = .kTeardown ∧
      run step s (requests 7 "PLAY * RTSP/1.0\r\nCSeq: 3") = some u ∧
      u.server.sessions[(7 : Int)]? = some 0 ∧ 0 ∈ u.server.playingSessions ∧
      ¬ u.StaysDown 0 := by
  have hrun : (run step (System.start smallConfig) (tearsDown 7)).any (fun s =>
      (s.server.heap 0).any (fun x => x.state = .kTeardown) &&
        (run step s (requests 7 "PLAY * RTSP/1.0\r\nCSeq: 3")).any fun u =>
          u.server.sessions[(7 : Int)]? = some 0 && decide (0 ∈ u.server.playingSessions)) = true := by
    decide
  obtain ⟨s, hs, hfacts⟩ := (Option.any_eq_true _ _).mp hrun
  simp only [Bool.and_eq_true] at hfacts
  obtain ⟨x, hx, hdown⟩ := (Option.any_eq_true _ _).mp hfacts.1
  obtain ⟨u, hu, hplays⟩ := (Option.any_eq_true _ _).mp hfacts.2
  simp only [Bool.and_eq_true, decide_eq_true_eq] at hplays
  exact ⟨s, u, x, hs, hx, of_decide_eq_true hdown, hu, hplays.1, hplays.2, fun h => h.2 hplays.2⟩

end RtspForward.System
