import RtspForward.Core.RtspServer

/-!
# Descriptors

How a sequence of opened and closed descriptors changes the descriptor table, and which of
its UDP descriptors a session gives up or gets when it handles a request.
-/
namespace RtspForward

/-! ## Changes of the descriptor table -/

/-- `acquired` has been handed out, `released` given back, and the other open descriptors
were left alone. -/
structure Kernel.Changes (k k' : Kernel) (released acquired : List Int) : Prop where
  acquired_closed : ∀ fd ∈ acquired, k.opened fd = false
  opened_iff : ∀ fd, k'.opened fd = true ↔
    (k.opened fd = true ∧ fd ∉ released) ∨ fd ∈ acquired
  interest_eq : ∀ fd, k.opened fd = true → fd ∉ released → k'.interest fd = k.interest fd

namespace Kernel

variable {k k' k'' : Kernel} {fd : Int} {released acquired : List Int}

theorem changes_refl (k : Kernel) : Changes k k [] [] :=
  ⟨by simp, by simp, fun _ _ _ => rfl⟩

theorem Changes.opened_eq (h : Changes k k' [] []) (x : Int) : k'.opened x = k.opened x := by
  have hiff := h.opened_iff x
  simp only [List.not_mem_nil, not_false_eq_true, and_true, or_false] at hiff
  exact Bool.eq_iff_iff.mpr hiff

theorem changes_of_acquire (h : k.acquire fd = some k') : Changes k k' [] [fd] := by
  unfold acquire at h
  split at h
  · cases h
  · rename_i hclosed
    obtain rfl := Option.some.inj h
    have hfd : k.opened fd = false := by simpa using hclosed
    refine ⟨by simp [hfd], fun x => ?_, fun x hx _ => ?_⟩
    · by_cases hx : x = fd <;> simp [hx]
    · have hne : x ≠ fd := by
        rintro rfl
        simp [hfd] at hx
      simp [hne]

theorem Changes.close (h : Changes k k' released acquired) (hfd : fd ∉ acquired) :
    Changes k (k'.close fd) (released ++ [fd]) acquired := by
  refine ⟨h.acquired_closed, fun x => ?_, fun x hx hrel => ?_⟩
  · by_cases hx : x = fd
    · subst hx
      simp [Kernel.close, hfd]
    · simp [Kernel.close, hx, h.opened_iff]
  · simp only [List.mem_append, List.mem_singleton, not_or] at hrel
    simp [Kernel.close, hrel.2, h.interest_eq x hx hrel.1]

theorem Changes.closeAll (h : Changes k k' released acquired) (fds : List Int)
    (hfds : ∀ fd ∈ fds, fd ∉ acquired) :
    Changes k (fds.foldl Kernel.close k') (released ++ fds) acquired := by
  induction fds generalizing k' released with
  | nil => simpa using h
  | cons fd fds ih =>
    have hstep := ih (h.close (hfds fd (by simp))) fun x hx => hfds x (by simp [hx])
    simpa using hstep

theorem Changes.acquire (h : Changes k k' [] acquired) (ha : k'.acquire fd = some k'') :
    Changes k k'' [] (acquired ++ [fd]) := by
  have hnew := changes_of_acquire ha
  have hfd := hnew.acquired_closed fd (by simp)
  have hclosed : k.opened fd = false := by
    by_contra hopen
    have := (h.opened_iff fd).mpr (.inl ⟨by simpa using hopen, by simp⟩)
    simp [hfd] at this
  refine ⟨?_, fun x => ?_, fun x hx _ => ?_⟩
  · intro x hx
    rcases List.mem_append.mp hx with hx | hx
    · exact h.acquired_closed x hx
    · obtain rfl : x = fd := by simpa using hx
      exact hclosed
  · rw [hnew.opened_iff, h.opened_iff]
    simp [or_assoc]
  · have hx' : k'.opened x = true := (h.opened_iff x).mpr (.inl ⟨hx, by simp⟩)
    rw [hnew.interest_eq x hx' (by simp), h.interest_eq x hx (by simp)]

/-- Event sequences in which everything opened is closed again. -/
inductive Balanced : List FdEvent → Prop
  | nil : Balanced []
  | wrap (fd : Int) {es : List FdEvent} : Balanced es →
      Balanced (.opened fd :: es ++ [.closed fd])
  | append {es es' : List FdEvent} : Balanced es → Balanced es' → Balanced (es ++ es')

theorem events_append {es es' : List FdEvent} (h : k.events (es ++ es') = some k'') :
    ∃ k', k.events es = some k' ∧ k'.events es' = some k'' := by
  unfold events at h ⊢
  rw [List.foldlM_append] at h
  exact Option.bind_eq_some_iff.mp h

theorem events_closed (k : Kernel) (fds : List Int) :
    k.events (fds.map .closed) = some (fds.foldl Kernel.close k) := by
  induction fds generalizing k with
  | nil => rfl
  | cons fd fds ih => exact ih (k.close fd)

theorem Balanced.changes {es : List FdEvent} (h : Balanced es) :
    ∀ {k k' : Kernel}, k.events es = some k' → Changes k k' [] [] := by
  induction h with
  | nil =>
    intro k k' hk
    obtain rfl := Option.some.inj hk
    exact changes_refl k
  | @wrap fd es hes ih =>
    intro k k' hk
    obtain ⟨k₂, hk₂, hclose⟩ := events_append hk
    obtain ⟨k₁, hk₁, hes⟩ := Option.bind_eq_some_iff.mp hk₂
    obtain rfl := Option.some.inj hclose
    have hnew := changes_of_acquire hk₁
    have hin := ih hes
    have hfd := hnew.acquired_closed fd (by simp)
    refine ⟨by simp, fun x => ?_, fun x hx _ => ?_⟩
    · by_cases hx : x = fd
      · subst hx
        simp [Kernel.close, hfd]
      · simp [Kernel.close, hx, hin.opened_iff, hnew.opened_iff]
    · have hne : x ≠ fd := by
        rintro rfl
        simp [hfd] at hx
      have hx₁ : k₁.opened x = true := (hnew.opened_iff x).mpr (.inl ⟨hx, by simp⟩)
      have heq : (k₂.close fd).interest x = k₂.interest x := by
        simp [Kernel.close, hne]
      rw [heq, hin.interest_eq x hx₁ (by simp), hnew.interest_eq x hx (by simp)]
  | @append es es' hes hes' ih ih' =>
    intro k k' hk
    obtain ⟨k₁, hk₁, hk₂⟩ := events_append hk
    have h₁ := ih hk₁
    have h₂ := ih' hk₂
    refine ⟨by simp, fun x => ?_, fun x hx _ => ?_⟩
    · rw [h₂.opened_iff, h₁.opened_iff]
      simp
    · have hx₁ : k₁.opened x = true := (h₁.opened_iff x).mpr (.inl ⟨hx, by simp⟩)
      rw [h₂.interest_eq x hx₁ (by simp), h₁.interest_eq x hx (by simp)]

end Kernel

/-! ## The descriptors of a session -/

namespace RtspSession

/-- The UDP descriptors a session holds. -/
def udpFds (s : RtspSession) : List Int := s.udpRtpFd.close.2 ++ s.udpRtcpFd.close.2

theorem mem_close {g : FdGuard} {fd : Int} : fd ∈ g.close.2 ↔ 0 ≤ fd ∧ fd = g.fd := by
  unfold FdGuard.close
  split
  · rename_i h
    constructor
    · intro hfd
      obtain rfl : fd = g.fd := by simpa using hfd
      exact ⟨h, rfl⟩
    · rintro ⟨-, rfl⟩
      simp
  · rename_i h
    constructor
    · intro hfd
      simp at hfd
    · rintro ⟨hpos, rfl⟩
      exact absurd hpos h

theorem mem_udpFds {s : RtspSession} {fd : Int} :
    fd ∈ s.udpFds ↔ 0 ≤ fd ∧ (fd = s.udpRtpFd.fd ∨ fd = s.udpRtcpFd.fd) := by
  rw [udpFds, List.mem_append, mem_close, mem_close]
  tauto

/-- The session holds this descriptor. -/
def Owns (s : RtspSession) (fd : Int) : Prop :=
  (0 ≤ fd ∧ fd = s.conn.fd) ∨ fd ∈ s.udpFds

/-- A request that closes the UDP descriptors of its session, if it holds any: a `TEARDOWN`, or a
`SETUP` for UDP that gets both of its sockets. -/
def closesUdp (data : Bytes) (env : RequestEnv) : Bool :=
  match RtspParser.parse data {} with
  | .error _ => false
  | .ok request =>
    match request.method with
    | .kTeardown => true
    | .kSetup =>
      request.transport.isUdp && request.transport.clientRtpPort ≠ 0 &&
        (createUdpSocket env.rtpSocket).1 ≥ 0 && (createUdpSocket env.rtcpSocket).1 ≥ 0
    | _ => false

/-- The session holds UDP descriptors, and the request makes it give them up. -/
def releasesUdp (s : RtspSession) (data : Bytes) (env : RequestEnv) : Bool :=
  s.udpFds ≠ [] && closesUdp data env

/-- How a request changes the UDP descriptors of a session and the descriptor table: not at
all, or all old ones are given back for some new ones. -/
def UdpEffect (s t : RtspSession) (closes : Bool) (k k' : Kernel) : Prop :=
  (closes = false ∧ t.udpRtpFd = s.udpRtpFd ∧ t.udpRtcpFd = s.udpRtcpFd ∧
    Kernel.Changes k k' [] []) ∨
  (closes = true ∧ Kernel.Changes k k' s.udpFds t.udpFds)

variable {s : RtspSession} {request : RtspRequest} {env : RequestEnv} {k k' : Kernel}

theorem udpEffect_none {t : RtspSession} (hrtp : t.udpRtpFd = s.udpRtpFd)
    (hrtcp : t.udpRtcpFd = s.udpRtcpFd) (hk : k.events [] = some k') :
    UdpEffect s t false k k' := by
  obtain rfl := Option.some.inj hk
  exact .inl ⟨rfl, hrtp, hrtcp, Kernel.changes_refl k⟩

/-- Sockets of which one is missing are closed again. -/
theorem balanced_sockets {rtp rtcp : UdpSocketOutcome}
    (h : ¬ ((createUdpSocket rtp).1 ≥ 0 ∧ (createUdpSocket rtcp).1 ≥ 0)) :
    Kernel.Balanced ((createUdpSocket rtp).2 ++ (createUdpSocket rtcp).2 ++
      (({ fd := (createUdpSocket rtcp).1 } : FdGuard).close.2 ++
        ({ fd := (createUdpSocket rtp).1 } : FdGuard).close.2).map .closed) := by
  cases rtp with
  | socketFailed =>
    cases rtcp with
    | socketFailed => exact .nil
    | bindFailed b => exact .wrap b .nil
    | bound b => simpa [createUdpSocket, FdGuard.close] using Kernel.Balanced.wrap b .nil
  | bindFailed a =>
    cases rtcp with
    | socketFailed => exact .wrap a .nil
    | bindFailed b =>
      simpa [createUdpSocket, FdGuard.close] using
        Kernel.Balanced.append (.wrap a .nil) (.wrap b .nil)
    | bound b =>
      simpa [createUdpSocket, FdGuard.close] using
        Kernel.Balanced.append (.wrap a .nil) (.wrap b .nil)
  | bound a =>
    cases rtcp with
    | socketFailed => simpa [createUdpSocket, FdGuard.close] using Kernel.Balanced.wrap a .nil
    | bindFailed b =>
      simpa [createUdpSocket, FdGuard.close] using Kernel.Balanced.wrap a (.wrap b .nil)
    | bound b => exact absurd ⟨Int.natCast_nonneg a, Int.natCast_nonneg b⟩ h

theorem setupUdp_udpEffect (hopen : ∀ fd ∈ s.udpFds, k.opened fd = true)
    (hk : k.events (s.setupUdp request env).fdEvents = some k') :
    UdpEffect s (s.setupUdp request env).session
      (request.transport.clientRtpPort ≠ 0 && (createUdpSocket env.rtpSocket).1 ≥ 0 &&
        (createUdpSocket env.rtcpSocket).1 ≥ 0) k k' := by
  unfold setupUdp at hk ⊢
  by_cases hport : request.transport.clientRtpPort = 0
  · simp only [hport, ↓reduceIte] at hk ⊢
    exact udpEffect_none rfl rfl hk
  · simp only [hport, ↓reduceIte] at hk ⊢
    by_cases hboth : (createUdpSocket env.rtpSocket).1 ≥ 0 ∧ (createUdpSocket env.rtcpSocket).1 ≥ 0
    · obtain ⟨hrtp, hrtcp⟩ := hboth
      have hvalid : ¬ ((({ fd := (createUdpSocket env.rtpSocket).1 } : FdGuard).isValid = false) ∨
          (({ fd := (createUdpSocket env.rtcpSocket).1 } : FdGuard).isValid = false)) := by
        simp [FdGuard.isValid, hrtp, hrtcp]
      rw [if_neg hvalid] at hk ⊢
      refine .inr ⟨by simp [hport, hrtp, hrtcp], ?_⟩
      -- both sockets are bound, so the events are two new numbers and the old ones closed
      match hr : env.rtpSocket, hc : env.rtcpSocket with
      | .bound a, .bound b =>
        simp only [respond, Handled.setState, hr, hc, createUdpSocket, FdGuard.reset] at hk ⊢
        obtain ⟨k₂, hk₂, hclose⟩ := Kernel.events_append hk
        obtain ⟨k₁, hk₁, hb⟩ := Kernel.events_append hk₂
        rw [Kernel.events_closed, Option.some.injEq] at hclose
        have ha : k.acquire a = some k₁ := by simpa [Kernel.events, Kernel.event] using hk₁
        have hb : k₁.acquire b = some k₂ := by simpa [Kernel.events, Kernel.event] using hb
        have hnew := (Kernel.changes_of_acquire ha).acquire hb
        have hfds : ∀ fd ∈ s.udpRtpFd.close.2 ++ s.udpRtcpFd.close.2, fd ∉ [(a : Int)] ++ [(b : Int)] := by
          intro fd hfd hin
          have hclosed := hnew.acquired_closed fd hin
          rw [hopen fd hfd] at hclosed
          cases hclosed
        have hall := hnew.closeAll _ hfds
        rw [hclose] at hall
        simpa [udpFds, FdGuard.close, setState] using hall
      | .socketFailed, _ => simp [hr, createUdpSocket] at hrtp
      | .bindFailed _, _ => simp [hr, createUdpSocket] at hrtp
      | .bound _, .socketFailed => simp [hc, createUdpSocket] at hrtcp
      | .bound _, .bindFailed _ => simp [hc, createUdpSocket] at hrtcp
    · have hvalid : (({ fd := (createUdpSocket env.rtpSocket).1 } : FdGuard).isValid = false) ∨
          (({ fd := (createUdpSocket env.rtcpSocket).1 } : FdGuard).isValid = false) := by
        by_contra hno
        simp only [FdGuard.isValid, decide_eq_false_iff_not, not_or, not_not] at hno
        exact hboth hno
      rw [if_pos hvalid] at hk ⊢
      refine .inl ⟨?_, rfl, rfl, (balanced_sockets hboth).changes hk⟩
      simpa [hport] using hboth

theorem handleTeardown_udpEffect
    (hk : k.events (s.handleTeardown request env).fdEvents = some k') :
    UdpEffect s (s.handleTeardown request env).session true k k' := by
  refine .inr ⟨rfl, ?_⟩
  simp only [handleTeardown, respond, RtspSession.close] at hk ⊢
  rw [Kernel.events_closed, Option.some.injEq] at hk
  have hall := (Kernel.changes_refl k).closeAll s.udpFds (by simp)
  have hnone : ∀ g : FdGuard, g.close.1.close.2 = [] := by
    intro g
    unfold FdGuard.close
    split
    · rfl
    · simp_all
  simp only [udpFds] at hall
  rw [hk] at hall
  simpa [udpFds, hnone] using hall

/-- The effect of handling some data on the UDP descriptors. -/
theorem processData_udpEffect {data : Bytes} (hopen : ∀ fd ∈ s.udpFds, k.opened fd = true)
    (hk : k.events (s.processData data env).fdEvents = some k') :
    UdpEffect s (s.processData data env).session (closesUdp data env) k k' := by
  unfold closesUdp
  rcases s.processData_cases env data with ⟨status, hparse, heq⟩ | ⟨request, hparse, heq⟩
  · rw [heq] at hk ⊢
    simp only [hparse]
    exact udpEffect_none rfl rfl hk
  · rw [heq] at hk ⊢
    simp only [hparse]
    unfold handleRequest at hk ⊢
    cases hm : request.method with
    | kTeardown =>
      simp only [hm] at hk ⊢
      exact handleTeardown_udpEffect hk
    | kSetup =>
      simp only [hm, handleSetup] at hk ⊢
      by_cases hudp : request.transport.isUdp = true
      · simp only [hudp, ↓reduceIte, Bool.true_and] at hk ⊢
        exact setupUdp_udpEffect hopen hk
      · simp only [hudp, Bool.false_eq_true, ↓reduceIte, Bool.false_and] at hk ⊢
        split at hk
        · rename_i htcp
          rw [if_pos htcp]
          exact udpEffect_none rfl rfl hk
        · rename_i htcp
          rw [if_neg htcp]
          exact udpEffect_none rfl rfl hk
    | kDescribe =>
      simp only [hm, handleDescribe] at hk ⊢
      split at hk
      · rename_i hsdp
        rw [if_pos hsdp]
        exact udpEffect_none rfl rfl hk
      · rename_i hsdp
        rw [if_neg hsdp]
        exact udpEffect_none rfl rfl hk
    | kUnknown | kOptions | kPlay | kPause | kGetParameter | kSetParameter =>
      simp only [hm] at hk ⊢
      exact udpEffect_none rfl rfl hk

/-- The same, as one exchange of UDP descriptors. -/
theorem processData_changes {data : Bytes} (hopen : ∀ fd ∈ s.udpFds, k.opened fd = true)
    (hk : k.events (s.processData data env).fdEvents = some k') :
    ∃ released acquired, k.Changes k' released acquired ∧ (∀ fd ∈ released, fd ∈ s.udpFds) ∧
      ∀ fd, fd ∈ (s.processData data env).session.udpFds ↔
        (fd ∈ s.udpFds ∧ fd ∉ released) ∨ fd ∈ acquired := by
  rcases processData_udpEffect hopen hk with ⟨-, hrtp, hrtcp, hch⟩ | ⟨-, hch⟩
  · exact ⟨[], [], hch, by simp, fun fd => by simp [udpFds, hrtp, hrtcp]⟩
  · exact ⟨_, _, hch, fun _ hfd => hfd, fun fd => by tauto⟩

end RtspSession

end RtspForward
