import RtspForward.Core.Negotiation
import RtspForward.Core.Responses

/-!
# Negotiated ports

A port of a `Transport` header is read by `strtol`, cast to `int`, printed into the response
and cut to 16 bits for the address packets go to. A missing second port is the first plus
one. Nothing but a first port of 0 is refused.
-/
namespace RtspForward

open Lib RtspParser ClientDecoder

/-! ## What is written in a header -/

namespace RtspParser

/-- The number at the front of a text, of any size, and what follows it: 0 and the text
itself if there is none. -/
def leadingNumber (text : Bytes) : Int × Bytes :=
  let t := text.dropWhile isSpace
  let u := if t.head? = some 45 ∨ t.head? = some 43 then t.tail else t
  let digits := u.takeWhile isDigit
  if digits = [] then (0, text)
  else (if t.head? = some 45 then -digitsValue digits else digitsValue digits, u.dropWhile isDigit)

/-- The numbers written behind a label: the first one, and the second one if a minus sign
follows the first. -/
def written (label text : Bytes) : Option (Int × Option Int) :=
  (Search.find label text).map fun pos =>
    let first := leadingNumber (cString (text.drop (pos + label.length)))
    match first.2 with
    | 45 :: rest => (first.1, some (leadingNumber rest).1)
    | _ => (first.1, none)

/-- The `int` a written number becomes: it saturates at 64 bits and is cut to 32. -/
def asInt (n : Int) : Int := toInt (clampLong n)

theorem strtol_eq (text : Bytes) :
    strtol text = (clampLong (leadingNumber text).1, (leadingNumber text).2) := by
  simp only [strtol, leadingNumber]
  generalize (if (text.dropWhile isSpace).head? = some 45 ∨ (text.dropWhile isSpace).head? = some 43
    then (text.dropWhile isSpace).tail else text.dropWhile isSpace) = u
  split <;> rfl

/-- The two `int`s of a pair, by what is written. -/
theorem numberPair_eq (label text : Bytes) :
    numberPair label text = (written label text).map fun w =>
      (asInt w.1, match w.2 with
        | some second => asInt second
        | none => Int.bmod (asInt w.1 + 1) (2 ^ 32)) := by
  unfold numberPair written
  cases Search.find label text with
  | none => rfl
  | some pos =>
    simp only [Option.map_some, strtol_eq]
    generalize leadingNumber (cString (text.drop (pos + label.length))) = first
    obtain ⟨n, rest⟩ := first
    cases rest with
    | nil => rfl
    | cons b rest =>
      by_cases hb : b = 45
      · subst hb
        rfl
      · simp [hb, asInt]

/-- The `int` that `ParseTransport` adds 1 to, if it does so for this label. -/
def incremented (label text : Bytes) : Option Int :=
  match Search.find label text with
  | none => none
  | some pos =>
    let p := strtol (cString (text.drop (pos + label.length)))
    match p.2 with
    | 45 :: _ => none
    | _ => some (toInt p.1)

theorem incremented_eq (label text : Bytes) :
    incremented label text = (written label text).bind fun w =>
      match w.2 with
      | some _ => none
      | none => some (asInt w.1) := by
  unfold incremented written
  cases Search.find label text with
  | none => rfl
  | some pos =>
    simp only [Option.map_some, Option.bind_some, strtol_eq]
    generalize leadingNumber (cString (text.drop (pos + label.length))) = first
    obtain ⟨n, rest⟩ := first
    cases rest with
    | nil => rfl
    | cons b rest =>
      by_cases hb : b = 45
      · subst hb
        rfl
      · simp [hb, asInt]

/-- The labels `ParseTransport` looks for. -/
def pairLabels : List Bytes := [ascii "client_port=", ascii "server_port=", ascii "interleaved="]

/-- No addition in `ParseTransport` leaves the range of an `int`. -/
def NoOverflow (text : Bytes) : Prop :=
  ∀ label ∈ pairLabels, ∀ v, incremented label text = some v → v + 1 < 2 ^ 31

/-- Each branch of `ParseTransport` sets fields of its own. -/
theorem parseTransport_fields (text : Bytes) :
    (parseTransport text).isUdp = !(Search.find (ascii "TCP") text).isSome ∧
      ((parseTransport text).clientRtpPort, (parseTransport text).clientRtcpPort) =
        (numberPair (ascii "client_port=") text).getD (0, 0) := by
  unfold parseTransport
  simp only
  cases (Search.find (ascii "TCP") text).isSome <;>
  cases numberPair (ascii "client_port=") text <;>
  cases numberPair (ascii "server_port=") text <;>
  cases numberPair (ascii "interleaved=") text <;> simp

theorem parseTransport_isUdp (text : Bytes) :
    (parseTransport text).isUdp = !(Search.find (ascii "TCP") text).isSome :=
  (parseTransport_fields text).1

theorem parseTransport_client (text : Bytes) :
    ((parseTransport text).clientRtpPort, (parseTransport text).clientRtcpPort) =
      (numberPair (ascii "client_port=") text).getD (0, 0) :=
  (parseTransport_fields text).2

end RtspParser

/-! ## The ports of a session -/

namespace RtspSession

/-- The ports packets go to are ports, and the pair the client reads in the response. -/
def UsesEchoedPorts (h : Handled) : Prop :=
  ∃ reply, h.reply = some reply ∧
    (1 ≤ h.session.clientRtpAddr.port ∧ h.session.clientRtpAddr.port ≤ 65535) ∧
    (1 ≤ h.session.clientRtcpAddr.port ∧ h.session.clientRtcpAddr.port ≤ 65535) ∧
    (headerValue (ascii "Transport") reply.response).bind (numberPair (ascii "client_port=")) =
      some ((h.session.clientRtpAddr.port : Int), (h.session.clientRtcpAddr.port : Int))

/-- No `int` overflows while the header is parsed; and every `SETUP` for UDP with it is either
answered with 200 and uses the ports it has echoed, or refused. -/
def PortsAgree (transportStr : Bytes) : Prop :=
  NoOverflow transportStr ∧
    ∀ (s : RtspSession) (request : RtspRequest) (env : RequestEnv), s.HasGeneratedId →
      request.transport = parseTransport transportStr → request.transport.isUdp = true →
      ((s.handleSetup request env).code = some 200 ∧ UsesEchoedPorts (s.handleSetup request env)) ∨
      ((s.handleSetup request env).code ≠ some 200 ∧ (s.handleSetup request env).status ≠ .ok)

def IsPortNumber (port : Int) : Prop := 1 ≤ port ∧ port ≤ 65535

instance (port : Int) : Decidable (IsPortNumber port) := inferInstanceAs (Decidable (_ ∧ _))

/-- A written pair the code can use: its first number is 0 as an `int`, so that it is refused,
or both ports are ports. -/
def PairUsable : Option (Int × Option Int) → Prop
  | none => True
  | some (first, some second) =>
    asInt first = 0 ∨ (IsPortNumber (asInt first) ∧ IsPortNumber (asInt second))
  | some (first, none) =>
    asInt first = 0 ∨ (IsPortNumber (asInt first) ∧ IsPortNumber (asInt first + 1))

/-- What the text of the header has to be: no pair is a single number that is the largest
`int`, and, unless the text asks for TCP, the client ports are usable. -/
def PortsUsable (transportStr : Bytes) : Prop :=
  (∀ label ∈ pairLabels, ∀ first, written label transportStr = some (first, none) →
    asInt first ≠ 2 ^ 31 - 1) ∧
  (Search.find (ascii "TCP") transportStr = none →
    PairUsable (written (ascii "client_port=") transportStr))

theorem noOverflow_iff (transportStr : Bytes) :
    NoOverflow transportStr ↔ ∀ label ∈ pairLabels, ∀ first,
      written label transportStr = some (first, none) → asInt first ≠ 2 ^ 31 - 1 := by
  have hlabel (label : Bytes) : (∀ v, incremented label transportStr = some v → v + 1 < 2 ^ 31) ↔
      ∀ first, written label transportStr = some (first, none) → asInt first ≠ 2 ^ 31 - 1 := by
    rw [incremented_eq]
    cases written label transportStr with
    | none => simp
    | some w =>
      obtain ⟨first, second⟩ := w
      cases second with
      | some second => simp
      | none =>
        have hlt : asInt first < 2 ^ 31 := toInt_lt _
        simp only [Option.bind_some, Option.some.injEq, forall_eq', Prod.mk.injEq, and_true]
        omega
  exact forall₂_congr fun label _ => hlabel label

/-- The two client ports of a header, by what is written. -/
theorem client_ports (transportStr : Bytes) :
    ∃ rtp rtcp : Int32, (parseTransport transportStr).clientRtpPort = rtp.toInt ∧
      (parseTransport transportStr).clientRtcpPort = rtcp.toInt ∧
      (PairUsable (written (ascii "client_port=") transportStr) ↔
        rtp.toInt = 0 ∨ (IsPortNumber rtp.toInt ∧ IsPortNumber rtcp.toInt)) := by
  have hclient := parseTransport_client transportStr
  have hint (n : Int) : asInt n = (Int32.ofInt (clampLong n)).toInt := by
    rw [Int32.toInt_ofInt]
    rfl
  rw [numberPair_eq] at hclient
  cases hw : written (ascii "client_port=") transportStr with
  | none =>
    rw [hw] at hclient
    obtain ⟨hrtp, hrtcp⟩ := Prod.mk.inj hclient
    exact ⟨0, 0, hrtp, hrtcp, by simp [PairUsable]⟩
  | some w =>
    rw [hw] at hclient
    obtain ⟨hrtp, hrtcp⟩ := Prod.mk.inj hclient
    obtain ⟨first, second⟩ := w
    cases second with
    | some second => exact ⟨_, _, hrtp.trans (hint _), hrtcp.trans (hint _), by simp [PairUsable, hint]⟩
    | none =>
      have hnext : Int.bmod (asInt first + 1) (2 ^ 32) = (Int32.ofInt (asInt first + 1)).toInt := by
        rw [Int32.toInt_ofInt]
        rfl
      refine ⟨_, _, hrtp.trans (hint _), hrtcp.trans hnext, ?_⟩
      rw [← hnext, ← hint]
      -- below 65536 the sum does not wrap
      have hsum (h : IsPortNumber (asInt first)) :
          Int.bmod (asInt first + 1) (2 ^ 32) = asInt first + 1 := by
        obtain ⟨hmin, hmax⟩ := h
        apply Int.bmod_eq_of_le <;> omega
      constructor
      · intro h
        rcases h with h | ⟨hfirst, hsecond⟩
        · exact .inl h
        · exact .inr ⟨hfirst, by rwa [hsum hfirst]⟩
      · intro h
        rcases h with h | ⟨hfirst, hsecond⟩
        · exact .inl h
        · exact .inr ⟨hfirst, by rwa [hsum hfirst] at hsecond⟩

/-- An accepted `SETUP` for UDP: its first port is not 0, both are cut to 16 bits for the
addresses, and both are in the response as they are. -/
theorem handleSetup_udp {request : RtspRequest} {env : RequestEnv} (s : RtspSession)
    (hudp : request.transport.isUdp = true)
    (hcode : (s.handleSetup request env).code = some 200) :
    request.transport.clientRtpPort ≠ 0 ∧
      (s.handleSetup request env).session.clientRtpAddr.port =
        toPort request.transport.clientRtpPort ∧
      (s.handleSetup request env).session.clientRtcpAddr.port =
        toPort request.transport.clientRtcpPort ∧
      ∃ result, (s.handleSetup request env).reply = some ⟨RtspBuilder.buildSetupResponseUdp
        request.cseq s.sessionId env.serverRtpPort env.serverRtcpPort
          request.transport.clientRtpPort request.transport.clientRtcpPort, result⟩ := by
  have hmedia := handleSetup_media s request env
  have hreply := (handleSetup_sends s request env).1
  rw [handleSetup_code] at hcode
  unfold RtspRequest.setupAction at hcode hmedia
  unfold setupAnswer at hreply
  rw [if_pos hudp] at hcode hmedia
  simp only [hudp, ↓reduceIte] at hreply
  by_cases hport : request.transport.clientRtpPort = 0
  · rw [if_pos hport] at hcode
    cases hcode
  rw [if_neg hport] at hcode hmedia hreply
  cases hrtp : env.rtpSocket with
  | socketFailed | bindFailed =>
    rw [hrtp] at hcode
    cases hcode
  | bound rtpFd =>
    cases hrtcp : env.rtcpSocket with
    | socketFailed | bindFailed =>
      rw [hrtp, hrtcp] at hcode
      cases hcode
    | bound rtcpFd =>
      rw [hrtp, hrtcp] at hmedia hreply
      rw [if_neg (by simp [createUdpSocket])] at hreply
      exact ⟨hport, congrArg (fun m => m.clientRtpAddr.port) hmedia,
        congrArg (fun m => m.clientRtcpAddr.port) hmedia, _, hreply⟩

/-- An accepted `SETUP` uses the ports it has echoed exactly when they are ports. -/
theorem usesEchoedPorts_iff {request : RtspRequest} {env : RequestEnv} {s : RtspSession}
    (hid : s.HasGeneratedId) (hudp : request.transport.isUdp = true)
    (hcode : (s.handleSetup request env).code = some 200) {rtp rtcp : Int32}
    (hrtp : request.transport.clientRtpPort = rtp.toInt)
    (hrtcp : request.transport.clientRtcpPort = rtcp.toInt) :
    UsesEchoedPorts (s.handleSetup request env) ↔
      IsPortNumber rtp.toInt ∧ IsPortNumber rtcp.toInt := by
  obtain ⟨-, hrtpAddr, hrtcpAddr, result, hreply⟩ := s.handleSetup_udp hudp hcode
  have hecho := headerValue_setupUdp hid.isHexDigit request.cseq env.serverRtpPort
    env.serverRtcpPort request.transport.clientRtpPort request.transport.clientRtcpPort
  unfold UsesEchoedPorts
  simp only [hreply, Option.some.injEq, exists_eq_left', hecho, Option.bind_some, hrtpAddr, hrtcpAddr]
  rw [hrtp, hrtcp, Output.numberPair_udpTransport]
  simp only [Option.some.injEq, Prod.mk.injEq]
  unfold toPort IsPortNumber
  omega

end RtspSession

open RtspSession in
/-- **Negotiated ports are the ports used, for usable texts only.** No `int` overflows, and
every `SETUP` for UDP uses the ports it has echoed or is refused, exactly when no pair of the
text is a single number that is the largest `int`, and, unless the text asks for TCP, the
client ports are refused for a first port of 0 or are both between 1 and 65535. -/
theorem ports_agree_iff (transportStr : Bytes) :
    PortsAgree transportStr ↔ PortsUsable transportStr := by
  obtain ⟨rtp, rtcp, hrtp, hrtcp, husable⟩ := client_ports transportStr
  have hisUdp := parseTransport_isUdp transportStr
  unfold PortsAgree PortsUsable
  rw [noOverflow_iff]
  refine and_congr_right fun _ => ⟨fun h hnone => ?_, fun h s request env hid htransport hudp => ?_⟩
  · rw [husable]
    by_cases hzero : rtp.toInt = 0
    · exact .inl hzero
    -- a session and an outside world in which both sockets are bound
    have hudp : (parseTransport transportStr).isUdp = true := by rw [hisUdp, hnone]; rfl
    obtain ⟨s, hs⟩ : ∃ s, create 7 512 (fun _ => 0) 0 0 0 = some s := ⟨_, rfl⟩
    have hid : s.HasGeneratedId := by
      obtain ⟨conn, -, rfl⟩ := Option.map_eq_some_iff.mp hs
      exact ⟨0, 0, rfl⟩
    have hcode : (s.handleSetup { transport := parseTransport transportStr } .quiet).code =
        some 200 := by
      rw [handleSetup_code, RtspRequest.setupAction, if_pos hudp, if_neg (by rwa [hrtp])]
      rfl
    rcases h s { transport := parseTransport transportStr } .quiet hid rfl hudp with
      ⟨-, huses⟩ | ⟨hrefused, -⟩
    · exact .inr ((usesEchoedPorts_iff hid hudp hcode hrtp hrtcp).mp huses)
    · exact absurd hcode hrefused
  · have hnone : Search.find (ascii "TCP") transportStr = none := by
      rw [htransport, hisUdp, Bool.not_eq_true', Option.isSome_eq_false_iff,
        Option.isNone_iff_eq_none] at hudp
      exact hudp
    rw [← htransport] at hrtp hrtcp
    by_cases hcode : (s.handleSetup request env).code = some 200
    · refine .inl ⟨hcode, (usesEchoedPorts_iff hid hudp hcode hrtp hrtcp).mpr ?_⟩
      rcases husable.mp (h hnone) with hzero | hports
      · exact absurd (hrtp.trans hzero) (s.handleSetup_udp hudp hcode).1
      · exact hports
    · refine .inr ⟨hcode, ?_⟩
      rwa [Ne, handleSetup_status, ← handleSetup_code]

/-- A `SETUP` for a port above 65535. -/
def setupAboveRange : Bytes :=
  ascii "SETUP * RTSP/1.0\r\nCSeq: 2\r\nTransport: RTP/AVP;client_port=70000-70001\r\n\r\n"

/-- It is answered with 200 and the ports it asks for, and packets go to other ports. And a
single port that is the largest `int` overflows in the parser. -/
theorem ports_above_range :
    (∃ s, RtspSession.create 7 512 (fun _ => 0) 0 0 0 = some s ∧
      (s.processData setupAboveRange .quiet).code = some 200 ∧
      (s.processData setupAboveRange .quiet).reply.bind (fun reply =>
        headerValue (ascii "Transport") reply.response) =
        some (ascii "RTP/AVP;unicast;client_port=70000-70001;server_port=6970-6971") ∧
      (s.processData setupAboveRange .quiet).session.clientRtpAddr.port = 4464 ∧
      (s.processData setupAboveRange .quiet).session.clientRtcpAddr.port = 4465) ∧
    ¬ RtspSession.PortsAgree (ascii "RTP/AVP;client_port=70000-70001") ∧
    ¬ NoOverflow (ascii "RTP/AVP;client_port=2147483647") := by
  refine ⟨⟨_, rfl, by decide +kernel, by decide +kernel, by decide +kernel, by decide +kernel⟩,
    fun h => ?_, fun h => ?_⟩
  · obtain ⟨s, hs⟩ : ∃ s, RtspSession.create 7 512 (fun _ => 0) 0 0 0 = some s ∧
        s.sessionId = RtspSession.generateSessionId 0 0 := ⟨_, rfl, rfl⟩
    let request : RtspRequest := { transport := parseTransport (ascii "RTP/AVP;client_port=70000-70001") }
    have hport : request.transport.clientRtpPort = 70000 := by decide
    rcases h.2 s request .quiet ⟨0, 0, hs.2⟩ rfl (by decide) with ⟨hcode, huses⟩ | ⟨hcode, -⟩
    · have hports := (RtspSession.usesEchoedPorts_iff ⟨0, 0, hs.2⟩ (by decide) hcode
        (show _ = (70000 : Int32).toInt from hport)
        (show _ = (70001 : Int32).toInt by decide)).mp huses
      exact absurd hports (by decide)
    · rw [Ne, RtspSession.handleSetup_code] at hcode
      exact hcode (by decide)
  · exact absurd (h (ascii "client_port=") (by decide) 2147483647 (by decide))
      (by decide)

end RtspForward
