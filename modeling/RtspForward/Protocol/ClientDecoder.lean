import RtspForward.Lib.Decoding
import RtspForward.Protocol.RtspBuilder
import RtspForward.Rtp.RtpForwarder

/-!
# What a client reads back

Interleaved frames and responses share one byte stream. The decoder below is the
reference a client follows: a marker starts a frame, whose length is in its header;
anything else is a response, whose header lines end at the first empty line and whose body
is as long as `Content-Length` says. It reads back every sequence of frames and responses.
-/
namespace RtspForward

open Lib

/-- A response as a client sees it; the header map as its pairs in the order of the keys. -/
structure Response where
  statusCode : Int
  headers : List (Bytes × Bytes)
  body : Bytes
  deriving DecidableEq, Repr

inductive Message where
  | frame (channel : UInt8) (payload : Bytes)
  | response (r : Response)
  deriving DecidableEq, Repr

namespace ClientDecoder

/-- A decimal number with an optional sign. -/
def decimal (text : Bytes) : Int :=
  if text.head? = some 45 then -RtspParser.digitsValue text.tail else RtspParser.digitsValue text

/-- The second word of a status line. -/
def statusCode (line : Bytes) : Int :=
  decimal (((line.dropWhile (· ≠ 32)).drop 1).takeWhile (· ≠ 32))

/-- A header line is cut at its first colon and blank. -/
def header (line : Bytes) : Option (Bytes × Bytes) :=
  (Search.find (ascii ": ") line).map fun i => (line.take i, line.drop (i + 2))

def contentLength (headers : List (Bytes × Bytes)) : Nat :=
  match headers.find? fun h => h.1 = ascii "Content-Length" with
  | none => 0
  | some h => (decimal h.2).toNat

def nextFrame : Bytes → Option (Message × Bytes)
  | _ :: channel :: hi :: lo :: rest =>
    let length := hi.toNat * 256 + lo.toNat
    if rest.length < length then none
    else some (.frame channel (rest.take length), rest.drop length)
  | _ => none

def nextResponse (s : Bytes) : Option (Message × Bytes) := do
  let i ← Search.find [13, 10, 13, 10] s
  match Decoding.lines 13 10 (s.take (i + 2)) with
  | [] => none
  | status :: lines =>
    let headers ← lines.mapM header
    let rest := s.drop (i + 4)
    let length := contentLength headers
    if rest.length < length then none
    else some (.response ⟨statusCode status, headers, rest.take length⟩, rest.drop length)

/-- The first message of a stream, and the rest of the stream. -/
def next (s : Bytes) : Option (Message × Bytes) :=
  if s.head? = some kRtpInterleavedMarker then nextFrame s else nextResponse s

def decode (s : Bytes) : Option (List Message) := Decoding.decodeAll next s.length s

end ClientDecoder

/-! ## What the server puts on a connection -/

/-- An interleaved frame, or a response of one of the builder's functions. -/
inductive Output where
  | rtp (packet : RtpPacket)
  | options (cseq : Int) (sessionId : Bytes)
  | describe (cseq : Int) (sdpContent : Bytes)
  | setup (cseq : Int) (sessionId : Bytes) (rtpChannel rtcpChannel : Int)
  | setupUdp (cseq : Int) (sessionId : Bytes)
      (serverRtpPort serverRtcpPort clientRtpPort clientRtcpPort : Int)
  | play (cseq : Int) (sessionId : Bytes)
  | simple (cseq : Int) (sessionId : Bytes)
  | error (cseq statusCode : Int) (message : Bytes)

namespace Output

open RtspBuilder

def bytes : Output → Bytes
  | rtp packet => RtpForwarder.frame packet
  | options cseq sessionId => buildOptionsResponse cseq sessionId
  | describe cseq sdpContent => buildDescribeResponse cseq sdpContent
  | setup cseq sessionId rtpChannel rtcpChannel =>
    buildSetupResponse cseq sessionId rtpChannel rtcpChannel
  | setupUdp cseq sessionId serverRtp serverRtcp clientRtp clientRtcp =>
    buildSetupResponseUdp cseq sessionId serverRtp serverRtcp clientRtp clientRtcp
  | play cseq sessionId => buildPlayResponse cseq sessionId
  | simple cseq sessionId => buildSimpleResponse cseq sessionId
  | error cseq statusCode message => buildErrorResponse cseq statusCode message

def sessionHeader (sessionId : Bytes) : List (Bytes × Bytes) :=
  if sessionId = [] then [] else [(ascii "Session", sessionId)]

/-- The header pair every response starts with. -/
def cseqPair (cseq : Int) : Bytes × Bytes := (ascii "CSeq", RtspBuilder.toString cseq)

/-- The three headers of a response with a body. -/
def bodyHeaders (cseq : Int) (contentType body : Bytes) : List (Bytes × Bytes) :=
  [cseqPair cseq, (ascii "Content-Length", RtspBuilder.toString body.length),
    (ascii "Content-Type", contentType)]

def interleavedTransport (rtpChannel rtcpChannel : Int) : Bytes :=
  ascii "RTP/AVP/TCP;interleaved=" ++ RtspBuilder.toString rtpChannel ++ ascii "-" ++
    RtspBuilder.toString rtcpChannel

def udpTransport (serverRtp serverRtcp clientRtp clientRtcp : Int) : Bytes :=
  ascii "RTP/AVP;unicast;client_port=" ++ RtspBuilder.toString clientRtp ++ ascii "-" ++
    RtspBuilder.toString clientRtcp ++ ascii ";server_port=" ++ RtspBuilder.toString serverRtp ++
    ascii "-" ++ RtspBuilder.toString serverRtcp

/-- What the client is meant to read. -/
def message : Output → Message
  | rtp packet => .frame (UInt8.ofInt packet.streamIndex) packet.data
  | options cseq sessionId =>
    .response ⟨200, cseqPair cseq :: (ascii "Public", kRtspOptionsMethods) :: sessionHeader sessionId, []⟩
  | describe cseq sdpContent => .response ⟨200, bodyHeaders cseq kContentTypeSdp sdpContent, sdpContent⟩
  | setup cseq sessionId rtpChannel rtcpChannel =>
    .response ⟨200, cseqPair cseq :: sessionHeader sessionId ++
      [(ascii "Transport", interleavedTransport rtpChannel rtcpChannel)], []⟩
  | setupUdp cseq sessionId serverRtp serverRtcp clientRtp clientRtcp =>
    .response ⟨200, cseqPair cseq :: sessionHeader sessionId ++
      [(ascii "Transport", udpTransport serverRtp serverRtcp clientRtp clientRtcp)], []⟩
  | play cseq sessionId =>
    .response ⟨200, cseqPair cseq :: (ascii "Range", kRtspPlayRange) :: sessionHeader sessionId, []⟩
  | simple cseq sessionId => .response ⟨200, cseqPair cseq :: sessionHeader sessionId, []⟩
  | error cseq statusCode message =>
    .response ⟨statusCode, bodyHeaders cseq kContentTypeText message, message⟩

def isHexDigit (b : UInt8) : Bool := RtspParser.isDigit b || (65 ≤ b && b ≤ 70) || (97 ≤ b && b ≤ 102)

/-- The packets `ForwardTcp` takes, and session ids as they are generated. -/
def Valid : Output → Prop
  | rtp packet => (packet.streamIndex = 0 ∨ packet.streamIndex = 1) ∧ 1 ≤ packet.data.length ∧
      packet.data.length ≤ kMaxRtpPacketSize
  | options _ sessionId | setup _ sessionId _ _ | setupUdp _ sessionId _ _ _ _ | play _ sessionId
  | simple _ sessionId => ∀ b ∈ sessionId, isHexDigit b
  | describe _ _ | error _ _ _ => True

end Output

namespace ClientDecoder

open RtspBuilder

theorem decimal_toString (n : Int) : decimal (RtspBuilder.toString n) = n := by
  unfold RtspBuilder.toString decimal
  simp only
  split
  · rw [if_pos (List.head?_cons ..), List.tail_cons, digitsValue_toDigits]
    omega
  · rw [if_neg, digitsValue_toDigits]
    · omega
    · intro h
      have hmem := isDigit_of_mem_digits (List.mem_of_mem_head? h)
      exact absurd hmem (by decide)

theorem toString_tidy (n : Int) : 13 ∉ RtspBuilder.toString n :=
  fun h => absurd (mem_toString h) (by decide)

def statusLine (code : Int) (reason : Bytes) : Bytes :=
  kRtspVersion ++ ascii " " ++ RtspBuilder.toString code ++ ascii " " ++ reason

theorem statusLine_tidy (code : Int) {reason : Bytes} (hreason : 13 ∉ reason) :
    13 ∉ statusLine code reason := by
  have hcode := toString_tidy code
  have hversion : 13 ∉ kRtspVersion := by decide
  have hblank : 13 ∉ ascii " " := by decide
  simp [statusLine, hcode, hversion, hblank, hreason]

/-- The status code stands between the first two blanks. -/
theorem statusCode_statusLine (code : Int) (reason : Bytes) :
    statusCode (statusLine code reason) = code := by
  have hblank : ascii " " = [32] := by decide
  have hdrop : (kRtspVersion ++ 32 :: (RtspBuilder.toString code ++ 32 :: reason)).dropWhile
      (· ≠ 32) = 32 :: (RtspBuilder.toString code ++ 32 :: reason) := by
    rw [List.dropWhile_append_of_pos (by decide +kernel)]
    simp
  have htake : (RtspBuilder.toString code ++ 32 :: reason).takeWhile (· ≠ 32) =
      RtspBuilder.toString code := by
    rw [List.takeWhile_append_of_pos]
    · simp
    · intro b hb
      simp only [ne_eq, decide_not, Bool.not_eq_eq_eq_not, Bool.not_true, decide_eq_false_iff_not]
      rintro rfl
      exact absurd (mem_toString hb) (by decide)
  simp only [statusCode, statusLine, hblank, List.append_assoc, List.cons_append, List.nil_append, hdrop,
    List.drop_one, List.tail_cons, htake, decimal_toString]

theorem statusCode_buildResponse (code : Int) (reason body : Bytes) (headers : Headers) :
    statusCode (buildResponse code reason headers body) = code := by
  have htext : buildResponse code reason headers body = statusLine code (reason ++ (crlf ++
      (headers.toList.map fun pair => pair.1 ++ ascii ": " ++ pair.2 ++ crlf).flatten ++ crlf ++
        body)) := by
    simp [buildResponse, statusLine]
  rw [htext, statusCode_statusLine]

/-- A key without a colon is read back. -/
theorem header_line (key value : Bytes) (hkey : 58 ∉ key) :
    header (key ++ ascii ": " ++ value) = some (key, value) := by
  have hcolon : ascii ": " = [58, 32] := by decide
  have hfind : Search.find [58, 32] (key ++ ([58, 32] ++ value)) = some key.length := by
    rw [Decoding.find_skip key _ hkey]
    simp [Search.find]
  rw [header, hcolon, List.append_assoc, hfind, Option.map_some, List.take_left', List.drop_append]
  · simp
  · rfl

/-- Headers that keep to their lines. -/
def Tidy (headers : List (Bytes × Bytes)) : Prop :=
  ∀ h ∈ headers, 13 ∉ h.1 ∧ 58 ∉ h.1 ∧ 13 ∉ h.2

/-- The lines of a header map. -/
def headerLines (headers : List (Bytes × Bytes)) : List Bytes :=
  headers.map fun h => h.1 ++ ascii ": " ++ h.2

theorem mapM_headerLines {headers : List (Bytes × Bytes)} (h : Tidy headers) :
    (headerLines headers).mapM header = some headers := by
  induction headers with
  | nil => rfl
  | cons pair headers ih =>
    have htail := ih fun h' hh' => h h' (by simp [hh'])
    rw [headerLines] at htail ⊢
    rw [List.map_cons, List.mapM_cons, header_line _ _ (h pair (by simp)).2.1, htail]
    rfl

theorem mem_headerLines {headers : List (Bytes × Bytes)} (h : Tidy headers) {line : Bytes}
    (hline : line ∈ headerLines headers) : 13 ∉ line ∧ line ≠ [] := by
  obtain ⟨pair, hpair, rfl⟩ := List.mem_map.mp hline
  obtain ⟨hkey, -, hvalue⟩ := h pair hpair
  have hcolon : ascii ": " = [58, 32] := by decide
  rw [hcolon]
  exact ⟨by simp [hkey, hvalue], by simp⟩

/-- A response is its status line and its header lines, an empty line, and its body. -/
theorem buildResponse_eq (code : Int) (reason body : Bytes) (headers : Headers) :
    buildResponse code reason headers body =
      Decoding.unlines 13 10 (statusLine code reason :: headerLines headers.toList) ++
        13 :: 10 :: body := by
  simp [buildResponse, statusLine, headerLines, Decoding.unlines, crlf, Function.comp_def]

theorem head?_buildResponse (code : Int) (reason body : Bytes) (headers : Headers) :
    (buildResponse code reason headers body).head? = some 82 := by
  have hversion : kRtspVersion = 82 :: kRtspVersion.tail := by decide
  rw [buildResponse, hversion]
  rfl

/-- A response is read back when its status line and its headers keep to their lines, and
`Content-Length` is the length of its body. -/
theorem reads_response {code : Int} {reason body : Bytes} {headers : Headers}
    {pairs : List (Bytes × Bytes)} (hpairs : headers.toList = pairs) (hreason : 13 ∉ reason)
    (htidy : Tidy pairs) (hlength : contentLength pairs = body.length) :
    Decoding.Reads next (buildResponse code reason headers body) (.response ⟨code, pairs, body⟩) := by
  subst hpairs
  have hhead := head?_buildResponse code reason body headers
  refine ⟨by rintro hnil; simp [hnil] at hhead, fun rest => ?_⟩
  have hmarker : (buildResponse code reason headers body ++ rest).head? ≠
      some kRtpInterleavedMarker := by
    rw [List.head?_append, hhead]
    exact fun h => absurd (Option.some.inj h) (by decide)
  rw [next, if_neg hmarker, buildResponse_eq]
  have hstatus := statusLine_tidy code hreason
  have hlines : Decoding.lines 13 10 (Decoding.unlines 13 10
      (statusLine code reason :: headerLines headers.toList)) =
      statusLine code reason :: headerLines headers.toList := by
    apply Decoding.lines_unlines
    rintro line (_ | ⟨_, hline⟩)
    · exact hstatus
    · exact (mem_headerLines htidy hline).1
  obtain ⟨i, hfind, hi⟩ := Decoding.find_block (by decide : (13 : UInt8) ≠ 10) hstatus
    (fun line hline => mem_headerLines htidy hline) (body ++ rest)
  generalize Decoding.unlines 13 10 (statusLine code reason :: headerLines headers.toList) =
    block at hlines hfind hi ⊢
  have htext : block ++ 13 :: 10 :: body ++ rest = block ++ 13 :: 10 :: (body ++ rest) := by simp
  have htake : (block ++ 13 :: 10 :: (body ++ rest)).take (i + 2) = block := by
    rw [hi, List.take_left]
  have hdrop : (block ++ 13 :: 10 :: (body ++ rest)).drop (i + 4) = body ++ rest := by
    rw [show i + 4 = i + 2 + 2 from rfl, hi, ← List.drop_drop, List.drop_left]
    rfl
  have henough : ¬ (body ++ rest).length < body.length := by simp
  rw [htext]
  simp only [nextResponse, hfind, Option.bind_eq_bind, Option.bind_some, htake, hlines,
    mapM_headerLines htidy, hdrop, hlength, if_neg henough, statusCode_statusLine, List.take_left,
    List.drop_left]

/-- A frame is read back when its length fits the header. -/
theorem reads_frame {p : RtpPacket} (h : p.data.length < 2 ^ 16) :
    Decoding.Reads next (RtpForwarder.frame p) (.frame (UInt8.ofInt p.streamIndex) p.data) := by
  refine ⟨by simp [RtpForwarder.frame, RtpForwarder.buildInterleavedHeader], fun rest => ?_⟩
  have hlength : (UInt8.ofNat (p.data.length / 256)).toNat * 256 +
      (UInt8.ofNat p.data.length).toNat = p.data.length := by
    simp only [UInt8.toNat_ofNat']
    omega
  have henough : ¬ (p.data ++ rest).length < p.data.length := by simp
  simp only [next, RtpForwarder.frame, RtpForwarder.buildInterleavedHeader, List.cons_append,
    List.nil_append, List.head?_cons, ↓reduceIte, nextFrame, hlength, if_neg henough,
    List.take_left, List.drop_left]

/-! ## Header maps -/

theorem tidy_cons {key value : Bytes} {headers : List (Bytes × Bytes)}
    (hkey : 13 ∉ key ∧ 58 ∉ key) (hvalue : 13 ∉ value) (h : Tidy headers) :
    Tidy ((key, value) :: headers) := by
  rintro pair (_ | ⟨_, hpair⟩)
  · exact ⟨hkey.1, hkey.2, hvalue⟩
  · exact h pair hpair

theorem tidy_append {hs hs' : List (Bytes × Bytes)} (h : Tidy hs) (h' : Tidy hs') :
    Tidy (hs ++ hs') := by
  intro pair hpair
  rcases List.mem_append.mp hpair with hp | hp
  · exact h pair hp
  · exact h' pair hp

theorem tidy_nil : Tidy [] := by simp [Tidy]

theorem tidy_cseq {cseq : Int} {headers : List (Bytes × Bytes)} (h : Tidy headers) :
    Tidy (Output.cseqPair cseq :: headers) :=
  tidy_cons (by decide) (toString_tidy cseq) h

theorem tidy_session {sessionId : Bytes} (h : ∀ b ∈ sessionId, Output.isHexDigit b) :
    Tidy (Output.sessionHeader sessionId) := by
  unfold Output.sessionHeader
  split
  · exact tidy_nil
  · exact tidy_cons (by decide) (fun hb => absurd (h 13 hb) (by decide)) tidy_nil

theorem tidy_bodyHeaders (cseq : Int) {contentType : Bytes} (body : Bytes)
    (h : 13 ∉ contentType) : Tidy (Output.bodyHeaders cseq contentType body) :=
  tidy_cseq (tidy_cons (by decide) (toString_tidy _) (tidy_cons (by decide) h tidy_nil))

theorem interleavedTransport_tidy (rtpChannel rtcpChannel : Int) :
    13 ∉ Output.interleavedTransport rtpChannel rtcpChannel := by
  have hlabel : 13 ∉ ascii "RTP/AVP/TCP;interleaved=" := by decide
  have hdash : 13 ∉ ascii "-" := by decide
  simp [Output.interleavedTransport, hlabel, hdash, toString_tidy]

theorem udpTransport_tidy (serverRtp serverRtcp clientRtp clientRtcp : Int) :
    13 ∉ Output.udpTransport serverRtp serverRtcp clientRtp clientRtcp := by
  have hclient : 13 ∉ ascii "RTP/AVP;unicast;client_port=" := by decide
  have hserver : 13 ∉ ascii ";server_port=" := by decide
  have hdash : 13 ∉ ascii "-" := by decide
  simp [Output.udpTransport, hclient, hserver, hdash, toString_tidy]

theorem getReasonPhrase_tidy (code : Int) : 13 ∉ getReasonPhrase code := by
  unfold getReasonPhrase
  split <;> decide

/-- Only the headers of a body name a length. -/
theorem contentLength_bodyHeaders (cseq : Int) (contentType body : Bytes) :
    contentLength (Output.bodyHeaders cseq contentType body) = body.length := by
  have hkey : ascii "CSeq" ≠ ascii "Content-Length" := by decide
  simp [contentLength, Output.bodyHeaders, Output.cseqPair, hkey, decimal_toString]

/-- A response that may name a session and has no body: both forms of the header map are
given by their pairs, none of which is a length. -/
theorem reads_bodiless (headers : Bytes → Headers) (pairs : Bytes → List (Bytes × Bytes))
    (hnil : (headers []).toList = pairs [] ∧ contentLength (pairs []) = 0)
    (hcons : ∀ b id, (headers (b :: id)).toList = pairs (b :: id) ∧
      contentLength (pairs (b :: id)) = 0) {sessionId : Bytes} (htidy : Tidy (pairs sessionId)) :
    Decoding.Reads next (buildResponse 200 (ascii "OK") (headers sessionId))
      (.response ⟨200, pairs sessionId, []⟩) := by
  cases sessionId with
  | nil => exact reads_response hnil.1 (by decide) htidy hnil.2
  | cons b id => exact reads_response (hcons b id).1 (by decide) htidy (hcons b id).2

end ClientDecoder

open ClientDecoder RtspBuilder

/-- Every output of the server is read back, whatever follows it. -/
theorem Output.reads (m : Output) (h : m.Valid) : Decoding.Reads next m.bytes m.message := by
  cases m with
  | rtp packet =>
    apply reads_frame
    have hmax := h.2.2
    simp only [kMaxRtpPacketSize] at hmax
    omega
  | options cseq sessionId =>
    apply reads_bodiless (fun id => withSession
      ((cseqHeader cseq).insert (ascii "Public") kRtspOptionsMethods) id) (fun id =>
      cseqPair cseq :: (ascii "Public", kRtspOptionsMethods) :: sessionHeader id)
    · exact ⟨rfl, rfl⟩
    · exact fun b id => ⟨rfl, rfl⟩
    · exact tidy_cseq (tidy_cons (by decide) (by decide) (tidy_session h))
  | describe cseq sdpContent =>
    exact reads_response rfl (by decide) (tidy_bodyHeaders _ _ (by decide))
      (contentLength_bodyHeaders _ _ _)
  | setup cseq sessionId rtpChannel rtcpChannel =>
    apply reads_bodiless (fun id => withSession ((cseqHeader cseq).insert
      (ascii "Transport") (interleavedTransport rtpChannel rtcpChannel)) id) (fun id =>
      cseqPair cseq :: sessionHeader id ++
        [(ascii "Transport", interleavedTransport rtpChannel rtcpChannel)])
    · exact ⟨rfl, rfl⟩
    · exact fun b id => ⟨rfl, rfl⟩
    · exact tidy_append (tidy_cseq (tidy_session h))
        (tidy_cons (by decide) (interleavedTransport_tidy _ _) tidy_nil)
  | setupUdp cseq sessionId serverRtp serverRtcp clientRtp clientRtcp =>
    apply reads_bodiless (fun id => withSession ((cseqHeader cseq).insert
      (ascii "Transport") (udpTransport serverRtp serverRtcp clientRtp clientRtcp)) id) (fun id =>
      cseqPair cseq :: sessionHeader id ++
        [(ascii "Transport", udpTransport serverRtp serverRtcp clientRtp clientRtcp)])
    · exact ⟨rfl, rfl⟩
    · exact fun b id => ⟨rfl, rfl⟩
    · exact tidy_append (tidy_cseq (tidy_session h))
        (tidy_cons (by decide) (udpTransport_tidy _ _ _ _) tidy_nil)
  | play cseq sessionId =>
    apply reads_bodiless (fun id => withSession
      ((cseqHeader cseq).insert (ascii "Range") kRtspPlayRange) id) (fun id =>
      cseqPair cseq :: (ascii "Range", kRtspPlayRange) :: sessionHeader id)
    · exact ⟨rfl, rfl⟩
    · exact fun b id => ⟨rfl, rfl⟩
    · exact tidy_cseq (tidy_cons (by decide) (by decide) (tidy_session h))
  | simple cseq sessionId =>
    apply reads_bodiless (fun id => withSession (cseqHeader cseq) id) (fun id =>
      cseqPair cseq :: sessionHeader id)
    · exact ⟨rfl, rfl⟩
    · exact fun b id => ⟨rfl, rfl⟩
    · exact tidy_cseq (tidy_session h)
  | error cseq statusCode message =>
    exact reads_response rfl (getReasonPhrase_tidy _) (tidy_bodyHeaders _ _ (by decide))
      (contentLength_bodyHeaders _ _ _)

/-- **The mixed stream is uniquely decodable.** Any sequence of interleaved frames and
responses, concatenated, is read back as that sequence: the channels and payloads of the
frames, and the status codes, header maps and bodies of the responses. -/
theorem decode_outputs (ms : List Output) (h : ∀ m ∈ ms, m.Valid) :
    decode (ms.map Output.bytes).flatten = some (ms.map Output.message) :=
  Decoding.decodeAll_flatten (fun m hm => m.reads (h m hm)) le_rfl

/-- A body that looks like a frame and holds an empty line, between two frames. -/
def mixedOutputs : List Output :=
  [.rtp ⟨[0x24, 13, 10, 13, 10], 0⟩, .describe (-3) [0x24, 0, 0, 9, 13, 10, 13, 10],
    .setup 4 (ascii "5f3a0") 0 1, .rtp ⟨[7], 1⟩, .error 5 461 []]

theorem decode_mixedOutputs :
    decode (mixedOutputs.map Output.bytes).flatten =
      some [.frame 0 [0x24, 13, 10, 13, 10],
        .response ⟨200, [(ascii "CSeq", ascii "-3"), (ascii "Content-Length", ascii "8"),
          (ascii "Content-Type", ascii "application/sdp")], [0x24, 0, 0, 9, 13, 10, 13, 10]⟩,
        .response ⟨200, [(ascii "CSeq", ascii "4"), (ascii "Session", ascii "5f3a0"),
          (ascii "Transport", ascii "RTP/AVP/TCP;interleaved=0-1")], []⟩,
        .frame 1 [7],
        .response ⟨461, [(ascii "CSeq", ascii "5"), (ascii "Content-Length", ascii "0"),
          (ascii "Content-Type", ascii "text/plain")], []⟩] := by
  refine (decode_outputs mixedOutputs ?_).trans (by decide)
  simp only [mixedOutputs, List.forall_mem_cons, List.not_mem_nil, false_implies, implies_true,
    and_true, Output.Valid, true_and]
  decide +kernel

end RtspForward
