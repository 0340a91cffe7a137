import RtspForward.Core.RtspServer

/-!
# The state of a playing session

`BroadcastRtp` selects the sessions whose state is `kPlaying`. `PLAY` sets that state,
`GET_PARAMETER`, `SET_PARAMETER`, an unknown method and data that does not parse leave the
state alone, but `OPTIONS` and a `DESCRIBE` that is answered overwrite it.
-/
namespace RtspForward

/-- A request as it arrives, with the environment it is handled in. -/
structure Request where
  data : Bytes
  env : RequestEnv
  deriving DecidableEq, Repr

namespace Request

/-- The method, if the data parses. -/
def method (q : Request) : Option RtspMethod :=
  match RtspParser.parse q.data {} with
  | .ok request => some request.method
  | .error _ => none

/-- An `OPTIONS`, or a `DESCRIBE` while an SDP is configured. -/
def interrupts (q : Request) : Bool :=
  q.method = some .kOptions || (q.method = some .kDescribe && q.env.sdp ≠ [])

end Request

namespace RtspSession

/-- The session after a sequence of requests. -/
def afterRequests (s : RtspSession) (qs : List Request) : RtspSession :=
  qs.foldl (fun s q => (s.processData q.data q.env).session) s

variable {s : RtspSession} {q : Request}

/-- The state after a request, for the methods that do not end or renegotiate a stream. -/
theorem processData_state (hpause : q.method ≠ some .kPause) (hteardown : q.method ≠ some .kTeardown)
    (hsetup : q.method ≠ some .kSetup) :
    (q.method = some .kPlay ∧ (s.processData q.data q.env).session.state = .kPlaying) ∨
    (q.method ≠ some .kPlay ∧ q.interrupts = true ∧
      (s.processData q.data q.env).session.state ≠ .kPlaying) ∨
    (q.method ≠ some .kPlay ∧ q.interrupts = false ∧
      (s.processData q.data q.env).session.state = s.state) := by
  rcases s.processData_cases q.env q.data with ⟨status, hparse, heq⟩ | ⟨request, hparse, heq⟩
  · have hmethod : q.method = none := by rw [Request.method, hparse]
    refine .inr (.inr ⟨by simp [hmethod], by simp [Request.interrupts, hmethod], ?_⟩)
    rw [heq]
    rfl
  · have hmethod : q.method = some request.method := by rw [Request.method, hparse]
    rw [heq]
    unfold handleRequest
    cases hm : request.method with
    | kPlay => exact .inl ⟨by rw [hmethod, hm], rfl⟩
    | kOptions =>
      refine .inr (.inl ⟨by simp [hmethod, hm], by simp [Request.interrupts, hmethod, hm], ?_⟩)
      simp [handleOptions, Handled.setState, setState]
    | kDescribe =>
      by_cases hsdp : q.env.sdp = []
      · refine .inr (.inr ⟨by simp [hmethod, hm],
          by simp [Request.interrupts, hmethod, hm, hsdp], ?_⟩)
        simp [handleDescribe, hsdp, respond, updateActivity]
      · refine .inr (.inl ⟨by simp [hmethod, hm],
          by simp [Request.interrupts, hmethod, hm, hsdp], ?_⟩)
        simp [handleDescribe, hsdp, Handled.setState, setState]
    | kGetParameter | kSetParameter | kUnknown =>
      refine .inr (.inr ⟨by simp [hmethod, hm], by simp [Request.interrupts, hmethod, hm], rfl⟩)
    | kPause => exact absurd (by rw [hmethod, hm]) hpause
    | kTeardown => exact absurd (by rw [hmethod, hm]) hteardown
    | kSetup => exact absurd (by rw [hmethod, hm]) hsetup

/-- Every interrupting request of the sequence is followed by a `PLAY`. -/
def Resumed (qs : List Request) : Prop :=
  ∀ before q after, qs = before ++ q :: after → q.interrupts = true →
    ∃ q' ∈ after, q'.method = some .kPlay

theorem resumed_nil : Resumed [] := by
  intro before q after h
  simp at h

/-- The last request decides: a `PLAY` resumes whatever came before it, an interrupting
request is not resumed, and any other one changes nothing. -/
theorem resumed_concat (qs : List Request) (q : Request) :
    Resumed (qs ++ [q]) ↔
      q.method = some .kPlay ∨ (q.interrupts = false ∧ Resumed qs) := by
  constructor
  · intro h
    by_cases hplay : q.method = some .kPlay
    · exact .inl hplay
    · refine .inr ⟨?_, fun before q₀ after hqs hint => ?_⟩
      · by_contra hint
        obtain ⟨q', hq', -⟩ := h qs q [] rfl (by simpa using hint)
        simp at hq'
      · obtain ⟨q', hq', hm⟩ := h before q₀ (after ++ [q]) (by simp [hqs]) hint
        rcases List.mem_append.mp hq' with hin | hin
        · exact ⟨q', hin, hm⟩
        · obtain rfl : q' = q := by simpa using hin
          exact absurd hm hplay
  · intro h before q₀ after hqs hint
    rcases List.eq_nil_or_concat after with rfl | ⟨after, last, rfl⟩
    · -- the interrupting request is the last one
      obtain ⟨rfl, hlast⟩ : qs = before ∧ [q] = [q₀] := List.append_inj' hqs rfl
      obtain rfl : q = q₀ := by simpa using hlast
      rcases h with hplay | ⟨hno, -⟩
      · simp [Request.interrupts, hplay] at hint
      · simp [hno] at hint
    · rw [List.concat_eq_append, ← List.cons_append, ← List.append_assoc] at hqs
      obtain ⟨rfl, hlast⟩ : qs = before ++ q₀ :: after ∧ [q] = [last] := List.append_inj' hqs rfl
      obtain rfl : q = last := by simpa using hlast
      rcases h with hplay | ⟨-, hrest⟩
      · exact ⟨q, by simp, hplay⟩
      · obtain ⟨q', hq', hm⟩ := hrest before q₀ after rfl hint
        exact ⟨q', by simp [hq'], hm⟩

theorem afterRequests_concat (s : RtspSession) (qs : List Request) (q : Request) :
    s.afterRequests (qs ++ [q]) =
      ((s.afterRequests qs).processData q.data q.env).session := by
  simp [afterRequests]

theorem afterRequests_playing_iff (hplaying : s.state = .kPlaying) {qs : List Request}
    (hqs : ∀ q ∈ qs, q.method ≠ some .kPause ∧ q.method ≠ some .kTeardown ∧
      q.method ≠ some .kSetup) :
    (s.afterRequests qs).state = .kPlaying ↔ Resumed qs := by
  induction qs using List.reverseRecOn with
  | nil => exact ⟨fun _ => resumed_nil, fun _ => hplaying⟩
  | append_singleton qs q ih =>
    have ih := ih fun q' hq' => hqs q' (by simp [hq'])
    obtain ⟨hpause, hteardown, hsetup⟩ := hqs q (by simp)
    rw [resumed_concat, afterRequests_concat]
    rcases processData_state (s := s.afterRequests qs) hpause hteardown hsetup with
      ⟨hplay, hstate⟩ | ⟨hplay, hint, hstate⟩ | ⟨hplay, hint, hstate⟩
    · exact ⟨fun _ => .inl hplay, fun _ => hstate⟩
    · simp [hplay, hint, hstate]
    · rw [hstate, ih]
      simp [hplay, hint]

end RtspSession

/-- A session in the table is selected exactly when its state is `kPlaying`. -/
theorem Server.mem_playingSessions {srv : Server} {fd : Int} {sid : Nat} {s : RtspSession}
    (hfd : srv.sessions[fd]? = some sid) (hs : srv.heap sid = some s) :
    sid ∈ srv.playingSessions ↔ s.state = .kPlaying := by
  simp only [Server.playingSessions, List.mem_map, List.mem_filter, Prod.exists]
  constructor
  · rintro ⟨fd', sid', ⟨-, hplay⟩, rfl⟩
    simpa [hs] using hplay
  · intro hplay
    exact ⟨fd, sid, ⟨Std.TreeMap.mem_toList_iff_getElem?_eq_some.mpr hfd, by simp [hs, hplay]⟩, rfl⟩

/-- **When a playing session keeps playing.** A session that is playing handles a sequence of
requests without `PAUSE`, `TEARDOWN` or `SETUP`. It is playing afterwards, and a broadcast
selects it when it is in the table, exactly when every `OPTIONS` and every `DESCRIBE` that
meets a configured SDP is followed by a `PLAY`. -/
theorem keeps_playing_iff_resumed (s : RtspSession) (hplaying : s.state = .kPlaying)
    (qs : List Request)
    (hqs : ∀ q ∈ qs, q.method ≠ some .kPause ∧ q.method ≠ some .kTeardown ∧
      q.method ≠ some .kSetup) :
    ((s.afterRequests qs).state = .kPlaying ↔ RtspSession.Resumed qs) ∧
      ∀ (srv : Server) (fd : Int) (sid : Nat), srv.sessions[fd]? = some sid →
        srv.heap sid = some (s.afterRequests qs) →
        (sid ∈ srv.playingSessions ↔ RtspSession.Resumed qs) := by
  have hiff := RtspSession.afterRequests_playing_iff hplaying hqs
  exact ⟨hiff, fun srv fd sid hfd hs => (Server.mem_playingSessions hfd hs).trans hiff⟩

/-- A request line and a `CSeq` header, handled in a quiet environment. -/
def simpleRequest (line : String) : Request := ⟨ascii (line ++ " RTSP/1.0\r\nCSeq: 3\r\n\r\n"), .quiet⟩

/-- An `OPTIONS` followed by a `PLAY` and a keep-alive. -/
theorem keeps_playing_after_play :
    ∃ s₀ s, RtspSession.create 7 512 (fun _ => 0) 0 0 0 = some s₀ ∧
      s = s₀.afterRequests [simpleRequest "PLAY rtsp://h/s"] ∧ s.state = .kPlaying ∧
      (s.afterRequests [simpleRequest "OPTIONS *", simpleRequest "PLAY rtsp://h/s",
        simpleRequest "GET_PARAMETER rtsp://h/s"]).state = .kPlaying := by
  refine ⟨_, _, rfl, rfl, by decide, ?_⟩
  refine (keeps_playing_iff_resumed _ (by decide) [simpleRequest "OPTIONS *",
    simpleRequest "PLAY rtsp://h/s", simpleRequest "GET_PARAMETER rtsp://h/s"]
    (by decide)).1.mpr ?_
  refine (RtspSession.resumed_concat [_, _] _).mpr (.inr ⟨by decide, ?_⟩)
  exact (RtspSession.resumed_concat [_] _).mpr (.inl (by decide))

/-- One `OPTIONS`, sent as a keep-alive during playback, and the session is no longer
selected. -/
theorem options_stops_playing :
    ∃ s₀ s, RtspSession.create 7 512 (fun _ => 0) 0 0 0 = some s₀ ∧
      s = s₀.afterRequests [simpleRequest "PLAY rtsp://h/s"] ∧ s.state = .kPlaying ∧
      (simpleRequest "OPTIONS *").method = some .kOptions ∧
      (s.afterRequests [simpleRequest "OPTIONS *"]).state = .kOptionsSent ∧
      (s.afterRequests [simpleRequest "OPTIONS *"]).state ≠ .kPlaying := by
  exact ⟨_, _, rfl, rfl, by decide, by decide, by decide, by decide⟩

end RtspForward
