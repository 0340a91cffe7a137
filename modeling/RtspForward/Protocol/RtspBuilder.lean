import RtspForward.Protocol.RtspParser

/-!
# The response builder

`protocol/rtsp_builder.cc`. Header lines are written in the order of the map, that is,
by key.
-/
namespace RtspForward.RtspBuilder

/-- `std::to_string`. -/
def toString (n : Int) : Bytes :=
  let digits := (Nat.toDigits 10 n.natAbs).map fun c => UInt8.ofNat c.toNat
  if n < 0 then 45 :: digits else digits

def crlf : Bytes := [13, 10]

/-- `BuildResponse`; the overload without a body is the one with an empty body. -/
def buildResponse (statusCode : Int) (reasonPhrase : Bytes) (headers : Headers)
    (body : Bytes := []) : Bytes :=
  kRtspVersion ++ ascii " " ++ toString statusCode ++ ascii " " ++ reasonPhrase ++ crlf ++
    (headers.toList.map fun pair => pair.1 ++ ascii ": " ++ pair.2 ++ crlf).flatten ++ crlf ++ body

/-- The `Session` header is left out when the id is empty. -/
def withSession (headers : Headers) (sessionId : Bytes) : Headers :=
  if sessionId = [] then headers else headers.insert (ascii "Session") sessionId

/-- The map every response starts from. -/
def cseqHeader (cseq : Int) : Headers := (∅ : Headers).insert (ascii "CSeq") (toString cseq)

/-- `BuildOptionsResponse`. -/
def buildOptionsResponse (cseq : Int) (sessionId : Bytes := []) : Bytes :=
  buildResponse 200 (ascii "OK")
    (withSession ((cseqHeader cseq).insert (ascii "Public") kRtspOptionsMethods) sessionId)

/-- `BuildDescribeResponse`. -/
def buildDescribeResponse (cseq : Int) (sdpContent : Bytes) : Bytes :=
  buildResponse 200 (ascii "OK")
    (((cseqHeader cseq).insert (ascii "Content-Type") kContentTypeSdp).insert
      (ascii "Content-Length") (toString sdpContent.length)) sdpContent

/-- `BuildSetupResponse`. -/
def buildSetupResponse (cseq : Int) (sessionId : Bytes) (rtpChannel : Int := kDefaultRtpChannel)
    (rtcpChannel : Int := kDefaultRtcpChannel) : Bytes :=
  let transport := ascii "RTP/AVP/TCP;interleaved=" ++ toString rtpChannel ++ ascii "-" ++
    toString rtcpChannel
  buildResponse 200 (ascii "OK")
    (withSession ((cseqHeader cseq).insert (ascii "Transport") transport) sessionId)

/-- `BuildSetupResponseUdp`. -/
def buildSetupResponseUdp (cseq : Int) (sessionId : Bytes) (serverRtpPort serverRtcpPort
    clientRtpPort clientRtcpPort : Int) : Bytes :=
  let transport := ascii "RTP/AVP;unicast;client_port=" ++ toString clientRtpPort ++ ascii "-" ++
    toString clientRtcpPort ++ ascii ";server_port=" ++ toString serverRtpPort ++ ascii "-" ++
    toString serverRtcpPort
  buildResponse 200 (ascii "OK")
    (withSession ((cseqHeader cseq).insert (ascii "Transport") transport) sessionId)

/-- `BuildPlayResponse`. -/
def buildPlayResponse (cseq : Int) (sessionId : Bytes) : Bytes :=
  buildResponse 200 (ascii "OK")
    (withSession ((cseqHeader cseq).insert (ascii "Range") kRtspPlayRange) sessionId)

/-- `BuildSimpleResponse`. -/
def buildSimpleResponse (cseq : Int) (sessionId : Bytes) : Bytes :=
  buildResponse 200 (ascii "OK") (withSession (cseqHeader cseq) sessionId)

/-- `GetReasonPhrase`. -/
def getReasonPhrase (statusCode : Int) : Bytes :=
  match statusCode with
  | 200 => ascii "OK"
  | 400 => ascii "Bad Request"
  | 401 => ascii "Unauthorized"
  | 404 => ascii "Not Found"
  | 405 => ascii "Method Not Allowed"
  | 451 => ascii "Parameter Not Understood"
  | 500 => ascii "Internal Server Error"
  | 501 => ascii "Not Implemented"
  | _ => ascii "Unknown"

/-- `BuildErrorResponse`: the message is the body. -/
def buildErrorResponse (cseq statusCode : Int) (message : Bytes) : Bytes :=
  buildResponse statusCode (getReasonPhrase statusCode)
    (((cseqHeader cseq).insert (ascii "Content-Type") kContentTypeText).insert
      (ascii "Content-Length") (toString message.length)) message

/-! ## Numbers in a text -/

theorem toNat_of_mem_toDigits {n : Nat} {c : Char} (h : c ∈ Nat.toDigits 10 n) :
    48 ≤ c.toNat ∧ c.toNat ≤ 57 := by
  have hdigit := Nat.isDigit_of_mem_toDigits (by decide) (by decide) h
  simp only [Char.isDigit, ge_iff_le, Bool.and_eq_true, decide_eq_true_eq,
    UInt32.le_iff_toNat_le] at hdigit
  exact hdigit

theorem isDigit_of_mem_digits {n : Nat} {b : UInt8}
    (h : b ∈ (Nat.toDigits 10 n).map fun c => UInt8.ofNat c.toNat) : RtspParser.isDigit b := by
  obtain ⟨c, hc, rfl⟩ := List.mem_map.mp h
  have hbounds := toNat_of_mem_toDigits hc
  simp only [RtspParser.isDigit, Bool.and_eq_true, decide_eq_true_eq, UInt8.le_iff_toNat_le,
    UInt8.toNat_ofNat']
  rwa [Nat.mod_eq_of_lt (by omega)]

/-- A number is written with digits and a minus sign. -/
theorem mem_toString {n : Int} {b : UInt8} (h : b ∈ toString n) :
    b = 45 ∨ RtspParser.isDigit b := by
  unfold toString at h
  simp only at h
  split at h
  · rcases List.mem_cons.mp h with hb | hb
    · exact .inl hb
    · exact .inr (isDigit_of_mem_digits hb)
  · exact .inr (isDigit_of_mem_digits h)

theorem digitsValue_toDigits (n : Nat) :
    RtspParser.digitsValue ((Nat.toDigits 10 n).map fun c => UInt8.ofNat c.toNat) = n := by
  have hvalue := Nat.ofDigitChars_ten_toDigits (n := n)
  rw [Nat.ofDigitChars_eq_foldl] at hvalue
  rw [RtspParser.digitsValue, List.foldl_map]
  refine Eq.trans ?_ hvalue
  apply List.foldl_ext
  intro acc c hc
  have hbounds := toNat_of_mem_toDigits hc
  rw [UInt8.toNat_ofNat', Nat.mod_eq_of_lt (by omega), Nat.mul_comm]
  rfl

end RtspForward.RtspBuilder
