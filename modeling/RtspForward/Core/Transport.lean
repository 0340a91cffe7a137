import RtspForward.Core.Negotiation
import RtspForward.Core.MessageFraming

/-!
# The transport of a playing session

`ForwardRtp` looks at `is_udp_` and at two descriptors and addresses. A `SETUP` for UDP sets
them all; one for interleaved transport sets none of them, and a `TEARDOWN` closes the
sockets and keeps `is_udp_`.
-/
namespace RtspForward

namespace RtspSession

/-- A packet goes out as an interleaved frame on the connection. -/
def SendsInterleaved (s : RtspSession) : Prop :=
  ∀ (packet : RtpPacket) (now : Int) (tcp : WriteOutcome) (udp : SendToOutcome),
    1 ≤ packet.data.length → packet.data.length ≤ kMaxRtpPacketSize →
    (s.forwardRtp packet now tcp udp).udp = none ∧
      (s.forwardRtp packet now tcp udp).tcp = some (s.conn.sendV
        [RtpForwarder.buildInterleavedHeader packet.streamIndex packet.data.length, packet.data]
        (4 + packet.data.length) tcp)

/-- A packet goes out as a datagram of one of two sockets to one of two ports of the peer,
by its stream. -/
def SendsDatagrams (s : RtspSession) (rtpFd rtcpFd : Int) (peer : SockAddrIn)
    (rtpPort rtcpPort : Int) : Prop :=
  ∀ (packet : RtpPacket) (now : Int) (tcp : WriteOutcome) (udp : SendToOutcome),
    1 ≤ packet.data.length → packet.streamIndex = 0 ∨ packet.streamIndex = 1 →
    (s.forwardRtp packet now tcp udp).tcp = none ∧
      ∃ port : Nat, (port : Int) = (if packet.streamIndex = 0 then rtpPort else rtcpPort) ∧
        (s.forwardRtp packet now tcp udp).udp = some
          { fd := if packet.streamIndex = 0 then rtpFd else rtcpFd
            addr := { peer with port := port }
            bytes := packet.data }

/-- Packets go the way the action has negotiated. -/
def Follows (s : RtspSession) : Action → Prop
  | .setupTcp => s.SendsInterleaved
  | .setupUdp rtpFd rtcpFd transport peer =>
    s.SendsDatagrams rtpFd rtcpFd peer transport.clientRtpPort transport.clientRtcpPort
  | _ => True

/-- Packets go the way the last `SETUP` that was answered with 200 has negotiated. -/
def FollowsSetup (s : RtspSession) (qs : List Request) : Prop :=
  ∀ before q after, qs = before ++ q :: after → (s.afterRequests before).AcceptsSetup q →
    (∀ mid q' rest, after = mid ++ q' :: rest →
      ¬ (s.afterRequests (before ++ q :: mid)).AcceptsSetup q') →
    (s.afterRequests qs).Follows q.action

/-- At every point at which the session plays. -/
def PlaysAsNegotiated (s : RtspSession) (qs : List Request) : Prop :=
  ∀ done rest, qs = done ++ rest → (s.afterRequests done).state = .kPlaying → s.FollowsSetup done

/-- The number of a port. -/
def IsPort (port : Int) : Prop := 0 ≤ port ∧ port < 2 ^ 16

instance (port : Int) : Decidable (IsPort port) := inferInstanceAs (Decidable (_ ∧ _))

/-- What a `SETUP` needs of the requests before and after it: none for UDP before it if it is
for interleaved transport; no `TEARDOWN` after it, and port numbers, if it is for UDP. -/
def KeptBy (before after : List Request) : Action → Prop
  | .setupTcp => ∀ q' ∈ before, q'.action.negotiatesUdp = false
  | .setupUdp _ _ transport _ => (∀ q' ∈ after, q'.method ≠ some .kTeardown) ∧
      IsPort transport.clientRtpPort ∧ IsPort transport.clientRtcpPort
  | _ => True

/-- The last `SETUP` of a sequence that can be accepted has what it needs. -/
def SetUpKept (qs : List Request) : Prop :=
  ∀ before q after, qs = before ++ q :: after → q.action.negotiates = true →
    (∀ q' ∈ after, q'.action.negotiates = false) → KeptBy before after q.action

/-- Every `PLAY` comes after such a sequence. -/
def PlaysKept (qs : List Request) : Prop :=
  ∀ before q after, qs = before ++ q :: after → q.method = some .kPlay → SetUpKept before

variable {s : RtspSession} {qs : List Request}

/-! ## What `ForwardRtp` reads -/

theorem sendsInterleaved_iff (hopen : s.conn.isClosed = false) :
    s.SendsInterleaved ↔ s.isUdp = false := by
  constructor
  · intro h
    have hudp := (h ⟨[0], 0⟩ 0 .wouldBlock .sent (by decide) (by decide)).2
    by_contra hne
    have htrue : s.isUdp = true := by simpa using hne
    simp [forwardRtp, updateActivity, htrue] at hudp
  · intro h packet now tcp udp hpos hmax
    have hne : ¬ packet.data.length = 0 := by omega
    have hle : ¬ packet.data.length > kMaxRtpPacketSize := by omega
    simp only [forwardRtp, updateActivity, h, Bool.false_eq_true, ↓reduceIte, true_and,
      RtpForwarder.forwardTcp, if_neg hne, hopen, if_neg hle]
    split <;> rfl

theorem toPort_eq_iff (port : Int) : (toPort port : Int) = port ↔ IsPort port := by
  unfold toPort IsPort
  omega

theorem forwardRtp_udp (h : s.isUdp = true) (packet : RtpPacket) (now : Int) (tcp : WriteOutcome)
    (udp : SendToOutcome) :
    (s.forwardRtp packet now tcp udp).tcp = none ∧ (s.forwardRtp packet now tcp udp).udp =
      (RtpForwarder.forwardUdp (s.udpEndpoint packet) packet udp).1 := by
  have hactive : (s.updateActivity now).isUdp = true := h
  unfold forwardRtp
  simp only [hactive, ↓reduceIte, true_and]
  rfl

/-- Sockets that are open: the port numbers decide. -/
theorem sendsDatagrams_iff {rtpFd rtcpFd : Nat} {peer : SockAddrIn} {rtpPort rtcpPort : Int}
    (hudp : s.isUdp = true) (hrtp : s.udpRtpFd = ⟨rtpFd⟩) (hrtcp : s.udpRtcpFd = ⟨rtcpFd⟩)
    (hrtpAddr : s.clientRtpAddr = { peer with port := toPort rtpPort })
    (hrtcpAddr : s.clientRtcpAddr = { peer with port := toPort rtcpPort }) :
    s.SendsDatagrams rtpFd rtcpFd peer rtpPort rtcpPort ↔ IsPort rtpPort ∧ IsPort rtcpPort := by
  have hendpoint (packet : RtpPacket) : s.udpEndpoint packet =
      { fd := if packet.streamIndex = 0 then (rtpFd : Int) else rtcpFd
        addr :=
          { peer with port := toPort (if packet.streamIndex = 0 then rtpPort else rtcpPort) } } := by
    by_cases hstream : packet.streamIndex = 0
    · simp [udpEndpoint, hstream, hrtp, hrtpAddr]
    · simp [udpEndpoint, hstream, hrtcp, hrtcpAddr]
  have hfd (packet : RtpPacket) : 0 ≤ (s.udpEndpoint packet).fd := by
    rw [hendpoint]
    simp only
    split <;> exact Int.natCast_nonneg _
  constructor
  · intro h
    have hport (stream : Int) (hstream : stream = 0 ∨ stream = 1) :
        IsPort (if stream = 0 then rtpPort else rtcpPort) := by
      obtain ⟨-, port, hport, hcall⟩ := h ⟨[0], stream⟩ 0 .wouldBlock .sent le_rfl hstream
      rw [(forwardRtp_udp hudp _ _ _ _).2, RtpForwarder.forwardUdp_call (hfd _) le_rfl,
        hendpoint] at hcall
      simp only [Option.some.injEq, SendToCall.mk.injEq, SockAddrIn.mk.injEq, true_and,
        and_true] at hcall
      rw [← toPort_eq_iff, hcall, hport]
    exact ⟨hport 0 (.inl rfl), hport 1 (.inr rfl)⟩
  · rintro ⟨hp, hp'⟩ packet now tcp udp hpos -
    obtain ⟨htcp, hcall⟩ := forwardRtp_udp hudp packet now tcp udp
    rw [RtpForwarder.forwardUdp_call (hfd packet) hpos, hendpoint] at hcall
    refine ⟨htcp, _, ?_, hcall⟩
    split
    · exact (toPort_eq_iff _).mpr hp
    · exact (toPort_eq_iff _).mpr hp'

/-- A socket that is closed sends nothing. -/
theorem not_sendsDatagrams {rtpFd rtcpFd rtpPort rtcpPort : Int} {peer : SockAddrIn}
    (hudp : s.isUdp = true) (hrtp : s.udpRtpFd.fd < 0) :
    ¬ s.SendsDatagrams rtpFd rtcpFd peer rtpPort rtcpPort := by
  intro h
  obtain ⟨-, port, -, hcall⟩ := h ⟨[0], 0⟩ 0 .wouldBlock .sent (by decide) (.inl rfl)
  rw [(forwardRtp_udp hudp _ _ _ _).2] at hcall
  simp [RtpForwarder.forwardUdp, udpEndpoint, hrtp] at hcall

end RtspSession

/-! ## What a sequence of actions leaves -/

namespace Action

theorem close_fd_neg (g : FdGuard) : g.close.1.fd < 0 := by
  unfold FdGuard.close
  split
  · exact (by decide : (-1 : Int) < 0)
  · rename_i h
    exact Int.not_le.mp h

/-- Whether packets go over UDP. -/
theorem foldl_isUdp (as : List Action) (m : Media) :
    (as.foldl apply m).isUdp = (m.isUdp || as.any negotiatesUdp) := by
  induction as generalizing m with
  | nil => simp
  | cons a as ih =>
    rw [List.foldl_cons, ih]
    cases a <;> simp [apply, negotiatesUdp]

/-- The sockets and addresses stay while nothing is negotiated or torn down. -/
theorem foldl_kept {as : List Action} {m : Media}
    (h : ∀ a ∈ as, a.negotiates = false ∧ a ≠ .teardown) :
    as.foldl apply m = { m with state := (as.foldl apply m).state } := by
  induction as generalizing m with
  | nil => rfl
  | cons a as ih =>
    obtain ⟨hneg, hne⟩ := h a (by simp)
    have htail := ih (m := a.apply m) fun a' ha' => h a' (by simp [ha'])
    have happly : a.apply m = { m with state := (a.apply m).state } := by
      cases a with
      | setupTcp | setupUdp => simp [negotiates] at hneg
      | teardown => exact absurd rfl hne
      | ignored | options | describe | play | pause => rfl
    rw [List.foldl_cons, htail, happly]

/-- A `TEARDOWN` closes the sockets, and without a `SETUP` they stay closed. -/
theorem foldl_closed {as : List Action} {m : Media} (h : ∀ a ∈ as, a.negotiates = false)
    (hclosed : .teardown ∈ as ∨ m.udpRtpFd.fd < 0) : (as.foldl apply m).udpRtpFd.fd < 0 := by
  induction as generalizing m with
  | nil => simpa using hclosed
  | cons a as ih =>
    have hneg := h a (by simp)
    refine ih (fun a' ha' => h a' (by simp [ha'])) ?_
    by_cases hin : .teardown ∈ as
    · exact .inl hin
    · right
      cases a with
      | teardown => exact close_fd_neg m.udpRtpFd
      | setupTcp | setupUdp => simp [negotiates] at hneg
      | ignored | options | describe | play | pause => simpa [hin, apply] using hclosed

end Action

namespace RtspSession

variable {s : RtspSession} {qs : List Request}

theorem afterRequests_isClosed (s : RtspSession) (qs : List Request) :
    (s.afterRequests qs).conn.isClosed = s.conn.isClosed := by
  induction qs using List.reverseRecOn with
  | nil => rfl
  | append_singleton qs q ih =>
    obtain ⟨w, hw⟩ := (s.afterRequests qs).processData_frame q.env q.data
    rw [afterRequests_concat, hw]
    exact ih

theorem afterRequests_isUdp (hudp : s.isUdp = false) :
    (s.afterRequests qs).isUdp = qs.any fun q => q.action.negotiatesUdp := by
  have h := Action.foldl_isUdp (qs.map Request.action) s.media
  rw [← afterRequests_media] at h
  simpa [media, hudp, List.any_map, Function.comp_def] using h

theorem negotiatesUdp_of_negotiates {a : Action} (h : a.negotiates = false) :
    a.negotiatesUdp = false := by
  cases a <;> first | rfl | simp [Action.negotiates] at h

/-- What is left of a `SETUP` for UDP: the sockets, unless a `TEARDOWN` has closed them. -/
theorem afterRequests_udp {before after : List Request} {q : Request} {rtpFd rtcpFd : Nat}
    {transport : TransportInfo} {peer : SockAddrIn}
    (hq : q.action = .setupUdp rtpFd rtcpFd transport peer)
    (hafter : ∀ q' ∈ after, q'.action.negotiates = false) :
    (s.afterRequests (before ++ q :: after)).Follows q.action ↔
      (∀ q' ∈ after, q'.method ≠ some .kTeardown) ∧
        IsPort transport.clientRtpPort ∧ IsPort transport.clientRtcpPort := by
  have hmedia := s.afterRequests_media (before ++ q :: after)
  rw [List.map_append, List.foldl_append, List.map_cons, List.foldl_cons, hq] at hmedia
  generalize (before.map Request.action).foldl Action.apply s.media = m at hmedia
  have hrest : ∀ a ∈ after.map Request.action, a.negotiates = false := by simpa using hafter
  generalize hlater : after.map Request.action = later at hmedia hrest
  generalize s.afterRequests (before ++ q :: after) = t at hmedia ⊢
  have hudp : t.isUdp = true := by
    have h := Action.foldl_isUdp later (Action.apply m (.setupUdp rtpFd rtcpFd transport peer))
    rw [← hmedia] at h
    simpa [Action.apply, media] using h
  have hteardown : (∀ q' ∈ after, q'.method ≠ some .kTeardown) ↔ .teardown ∉ later := by
    rw [← hlater]
    simp only [List.mem_map, not_exists, not_and, Request.action_iff]
  rw [hq, hteardown]
  by_cases htorn : .teardown ∈ later
  · have hclosed := Action.foldl_closed hrest (.inl htorn)
      (m := Action.apply m (.setupUdp rtpFd rtcpFd transport peer))
    rw [← hmedia] at hclosed
    exact iff_of_false (not_sendsDatagrams hudp hclosed) fun h => h.1 htorn
  · have hlater : ∀ a ∈ later, a.negotiates = false ∧ a ≠ .teardown :=
      fun a ha => ⟨hrest a ha, fun heq => htorn (heq ▸ ha)⟩
    have hkept := Action.foldl_kept hlater
      (m := Action.apply m (.setupUdp rtpFd rtcpFd transport peer))
    rw [← hmedia] at hkept
    simp only [media, Action.apply, Media.mk.injEq, true_and] at hkept
    obtain ⟨-, hrtp, hrtcp, hrtpAddr, hrtcpAddr⟩ := hkept
    have hiff := sendsDatagrams_iff hudp hrtp hrtcp hrtpAddr hrtcpAddr
    simpa [Follows, htorn] using hiff

/-- The last accepted `SETUP` is followed exactly when it has what it needs. -/
theorem follows_iff (hopen : s.conn.isClosed = false) (hudp : s.isUdp = false)
    {before after : List Request} {q : Request} (hq : q.action.negotiates = true)
    (hafter : ∀ q' ∈ after, q'.action.negotiates = false) :
    (s.afterRequests (before ++ q :: after)).Follows q.action ↔ KeptBy before after q.action := by
  cases haction : q.action with
  | setupUdp rtpFd rtcpFd transport peer =>
    have hiff : (s.afterRequests (before ++ q :: after)).Follows q.action ↔ _ :=
      afterRequests_udp haction hafter
    rwa [haction] at hiff
  | setupTcp =>
    have hopen' := (s.afterRequests_isClosed (before ++ q :: after)).trans hopen
    refine (sendsInterleaved_iff hopen').trans ?_
    have hlater : ∀ q' ∈ after, q'.action.negotiatesUdp = false :=
      fun q' hq' => negotiatesUdp_of_negotiates (hafter q' hq')
    rw [afterRequests_isUdp hudp]
    simp only [KeptBy, List.any_eq_false, List.mem_append, List.mem_cons]
    constructor
    · intro h q' hq'
      exact Bool.eq_false_of_not_eq_true (h q' (.inl hq'))
    · rintro h q' (hq' | rfl | hq')
      · simp [h q' hq']
      · simp [haction, Action.negotiatesUdp]
      · simp [hlater q' hq']
  | ignored | options | describe | play | pause | teardown =>
    simp [haction, Action.negotiates] at hq

theorem followsSetup_iff (hopen : s.conn.isClosed = false) (hudp : s.isUdp = false) :
    s.FollowsSetup qs ↔ SetUpKept qs := by
  have hlast (after : List Request) : (∀ mid q' rest, after = mid ++ q' :: rest →
      ¬ q'.action.negotiates = true) ↔ ∀ q' ∈ after, q'.action.negotiates = false := by
    constructor
    · intro h q' hq'
      obtain ⟨mid, rest, rfl⟩ := List.append_of_mem hq'
      exact Bool.eq_false_of_not_eq_true (h mid q' rest rfl)
    · rintro h mid q' rest rfl
      simp [h q' (by simp)]
  unfold FollowsSetup SetUpKept
  simp only [acceptsSetup_iff, hlast]
  constructor
  · rintro h before q after rfl hq hafter
    exact (follows_iff hopen hudp hq hafter).mp (h before q after rfl hq hafter)
  · rintro h before q after rfl hq hafter
    exact (follows_iff hopen hudp hq hafter).mpr (h before q after rfl hq hafter)

theorem keptBy_append {before after tail : List Request} (a : Action)
    (hteardown : ∀ q ∈ tail, q.method ≠ some .kTeardown) :
    KeptBy before (after ++ tail) a ↔ KeptBy before after a := by
  cases a with
  | setupUdp rtpFd rtcpFd transport peer =>
    refine and_congr_left fun _ => ⟨fun h q hq => h q (by simp [hq]), fun h q hq => ?_⟩
    rcases List.mem_append.mp hq with hin | hin
    · exact h q hin
    · exact hteardown q hin
  | setupTcp | ignored | options | describe | play | pause | teardown => rfl

/-- Requests that neither negotiate nor end anything make no difference. -/
theorem setUpKept_append {tail : List Request} (hinert : Inert tail) :
    SetUpKept (qs ++ tail) ↔ SetUpKept qs := by
  constructor
  · rintro h before q after rfl hq hafter
    rw [← keptBy_append _ fun q' hq' => (hinert q' hq').2]
    refine h before q (after ++ tail) (by simp) hq fun q' hq' => ?_
    rcases List.mem_append.mp hq' with hin | hin
    · exact hafter q' hin
    · exact (hinert q' hin).1
  · intro h before q after hsplit hq hafter
    obtain ⟨mid, rfl, rfl⟩ := split_append (P := fun q => q.action.negotiates = true) hsplit hq
      fun y hy => by simp [(hinert y hy).1]
    rw [keptBy_append _ fun q' hq' => (hinert q' hq').2]
    exact h before q mid rfl hq fun q' hq' => hafter q' (by simp [hq'])

theorem setUpKept_concat {q : Request} (hq : q.action.negotiates = true)
    (hkept : KeptBy qs [] q.action) : SetUpKept (qs ++ [q]) := by
  intro before q' after hsplit hq' hafter
  rcases List.eq_nil_or_concat after with rfl | ⟨after, last, rfl⟩
  · obtain ⟨rfl, hlast⟩ : qs = before ∧ [q] = [q'] := List.append_inj' hsplit rfl
    obtain rfl : q = q' := by simpa using hlast
    exact hkept
  · rw [List.concat_eq_append, ← List.cons_append, ← List.append_assoc] at hsplit
    obtain ⟨-, hlast⟩ := List.append_inj' hsplit rfl
    have hfalse := hafter q (by simp_all)
    simp [hq] at hfalse

theorem playsAsNegotiated_iff (hinit : s.state = .kInit) (hopen : s.conn.isClosed = false)
    (hudp : s.isUdp = false) : s.PlaysAsNegotiated qs ↔ PlaysKept qs := by
  constructor
  · intro h before q after hsplit hm
    have htarget : q.action.target = some .kPlaying := by
      rw [q.action_iff.1.mpr hm]
      rfl
    have hstate : (s.afterRequests (before ++ [q])).state = .kPlaying := by
      rw [afterRequests_concat_state, htarget, Option.getD_some]
    have hkept := (followsSetup_iff hopen hudp).mp (h (before ++ [q]) after (by simp [hsplit]) hstate)
    exact (setUpKept_append (inert_of_state htarget (by decide) (by simp))).mp hkept
  · intro h done rest hsplit hst
    obtain ⟨before, q, after, rfl, htarget, hafter⟩ := afterRequests_state (by simp [hinit]) hst
    have hm := q.action_iff.1.mp ((Request.target_eq_iff _).1.mp htarget)
    have hkept := h before q (after ++ rest) (by simp [hsplit]) hm
    exact (followsSetup_iff hopen hudp).mpr
      ((setUpKept_append (inert_of_state htarget (by decide) hafter)).mpr hkept)

/-- **Which transport a playing session uses.** A fresh session handles a sequence of requests.
At every point at which it plays, packets go the way the last `SETUP` answered with 200 has
negotiated, exactly when each `PLAY` finds it so: no `SETUP` for UDP came before it if it was
for interleaved transport, and no `TEARDOWN` after it, with client ports below 65536, if it
was for UDP. -/
theorem plays_as_negotiated_iff (fd : Int) (bufferSize : Nat) (garbage : Nat → UInt8)
    (timestamp seq : Nat) (now : Int) (s : RtspSession)
    (hcreate : create fd bufferSize garbage timestamp seq now = some s) (hfd : 0 ≤ fd)
    (qs : List Request) : s.PlaysAsNegotiated qs ↔ PlaysKept qs := by
  obtain ⟨hinit, hudp⟩ := create_state hcreate
  exact playsAsNegotiated_iff hinit (create_read hcreate hfd).2.1 hudp

/-- A `SETUP` for UDP, handled in a quiet environment. -/
def setupUdpRequest : Request :=
  ⟨ascii "SETUP * RTSP/1.0\r\nCSeq: 2\r\nTransport: RTP/AVP;client_port=5000-5001\r\n\r\n", .quiet⟩

theorem plays_over_udp :
    ∃ s, create 7 512 (fun _ => 0) 0 0 0 = some s ∧
      (s.afterRequests [setupUdpRequest, simpleRequest "PLAY *"]).state = .kPlaying ∧
      s.PlaysAsNegotiated [setupUdpRequest, simpleRequest "PLAY *"] := by
  refine ⟨_, rfl, by decide,
    (plays_as_negotiated_iff 7 512 (fun _ => 0) 0 0 0 _ rfl (by decide) _).mpr ?_⟩
  rintro (_ | ⟨q₀, before⟩) q after hsplit hm
  · obtain ⟨rfl, -⟩ := List.cons.inj hsplit
    exact absurd hm (by decide)
  · obtain ⟨rfl, hsplit⟩ := List.cons.inj hsplit
    obtain rfl : before = [] := by
      cases before with
      | nil => rfl
      | cons q₁ before => simp at hsplit
    have hkept : SetUpKept ([] ++ [setupUdpRequest]) :=
      setUpKept_concat (by decide) ⟨by simp, by decide⟩
    exact hkept

/-- The client falls back from UDP to its connection, and packets still go out as
datagrams. -/
theorem fallback_stays_on_udp :
    ∃ s, create 7 512 (fun _ => 0) 0 0 0 = some s ∧
      (s.afterRequests [setupUdpRequest]).AcceptsSetup setupTcpRequest ∧
      (s.afterRequests [setupUdpRequest, setupTcpRequest, simpleRequest "PLAY *"]).state = .kPlaying ∧
      ((s.afterRequests [setupUdpRequest, setupTcpRequest, simpleRequest "PLAY *"]).forwardRtp
        ⟨[1], 0⟩ 0 (.accepted 5) .sent).udp = some ⟨10, ⟨0, 5000, 0⟩, [1]⟩ ∧
      ¬ s.PlaysAsNegotiated [setupUdpRequest, setupTcpRequest, simpleRequest "PLAY *"] := by
  have haccept (s : RtspSession) : s.AcceptsSetup setupTcpRequest :=
    (s.acceptsSetup_iff _).mpr (by decide)
  refine ⟨_, rfl, haccept _, by decide, by decide, fun h => ?_⟩
  have hfollows := h _ [] (by simp) (by decide) [setupUdpRequest] setupTcpRequest
    [simpleRequest "PLAY *"] rfl (haccept _) fun mid q' rest hsplit => by
      have hmem : q' ∈ [simpleRequest "PLAY *"] := by simp [hsplit]
      obtain rfl : q' = simpleRequest "PLAY *" := by simpa using hmem
      rw [acceptsSetup_iff]
      decide
  have haction : setupTcpRequest.action = .setupTcp := by decide
  rw [haction] at hfollows
  have hnone := (hfollows ⟨[1], 0⟩ 0 (.accepted 5) .sent (by decide) (by decide)).1
  revert hnone
  decide

end RtspSession

end RtspForward
