import RtspForward.Protocol.ClientDecoder
import RtspForward.Protocol.Numbers

/-!
# The `Transport` header, written and read

`ParseTransport` finds a pair of numbers by its label and reads them with `strtol`, for
which a minus sign belongs to the number it stands in front of. The texts the builder
writes are read back: a printed number ends where the next field starts, and no label
occurs inside another field.
-/
namespace RtspForward

open Lib RtspParser

namespace RtspParser

/-! ## Printed numbers -/

/-- `strtol` reads back what `to_string` wrote. -/
theorem strtol_toString (n : Int) {rest : Bytes} (hrest : Text.Stops isDigit rest) :
    strtol (RtspBuilder.toString n ++ rest) = (clampLong n, rest) := by
  have hdigits : ∀ b ∈ (Nat.toDigits 10 n.natAbs).map fun c => UInt8.ofNat c.toNat, isDigit b :=
    fun b hb => RtspBuilder.isDigit_of_mem_digits hb
  have hread := strtol_digits (by simp [Nat.toDigits_ne_nil]) hdigits hrest
  rw [RtspBuilder.digitsValue_toDigits] at hread
  unfold RtspBuilder.toString
  simp only
  split
  · rename_i hneg
    rw [List.cons_append, hread.2.1, Int.natCast_natAbs, abs_of_neg hneg, neg_neg]
  · rename_i hpos
    rw [hread.1, Int.natCast_natAbs, abs_of_nonneg (not_lt.mp hpos)]

theorem toInt_clampLong_int32 (n : Int32) : toInt (clampLong n.toInt) = n.toInt :=
  toInt_clampLong n.le_toInt n.toInt_lt

theorem zero_notMem_toString (n : Int) : 0 ∉ RtspBuilder.toString n :=
  fun h => absurd (RtspBuilder.mem_toString h) (by decide)

/-- A printed pair behind its label is read back. -/
theorem numberPair_printed {label text rest : Bytes} {pos : Nat} (a b : Int32)
    (hfind : Search.find label text = some pos)
    (hdrop : text.drop (pos + label.length) =
      RtspBuilder.toString a.toInt ++ 45 :: (RtspBuilder.toString b.toInt ++ rest))
    (hstops : Text.Stops isDigit rest) (hrest : 0 ∉ rest) :
    numberPair label text = some (a.toInt, b.toInt) := by
  have hzero : 0 ∉ RtspBuilder.toString a.toInt ++ 45 :: (RtspBuilder.toString b.toInt ++ rest) := by
    simp [zero_notMem_toString, hrest]
  have hfirst : strtol (RtspBuilder.toString a.toInt ++ 45 :: (RtspBuilder.toString b.toInt ++ rest)) =
      (clampLong a.toInt, 45 :: (RtspBuilder.toString b.toInt ++ rest)) :=
    strtol_toString _ (Text.stops_cons.mpr (by decide))
  simp only [numberPair, hfind, hdrop, cString_of_notMem hzero, hfirst, strtol_toString _ hstops,
    toInt_clampLong_int32]

end RtspParser

namespace Output

/-- A byte that is neither a digit nor a minus sign is not in a printed number. -/
theorem notMem_toString {b : UInt8} (n : Int) (h : ¬ (b = 45 ∨ isDigit b)) :
    b ∉ RtspBuilder.toString n :=
  fun hb => h (RtspBuilder.mem_toString hb)

/-- The fields of the text for UDP, with what stands around the numbers. -/
theorem udpTransport_eq (serverRtp serverRtcp clientRtp clientRtcp : Int) :
    udpTransport serverRtp serverRtcp clientRtp clientRtcp =
      ascii "RTP/AVP;unicast;client_port=" ++ (RtspBuilder.toString clientRtp ++
        45 :: (RtspBuilder.toString clientRtcp ++ (59 :: (ascii "server_port=" ++
          (RtspBuilder.toString serverRtp ++ 45 :: (RtspBuilder.toString serverRtcp ++ [])))))) := by
  have hdash : ascii "-" = [45] := by decide
  have hserver : ascii ";server_port=" = 59 :: ascii "server_port=" := by decide
  simp [udpTransport, hdash, hserver]

theorem notMem_udpTransport {b : UInt8} (serverRtp serverRtcp clientRtp clientRtcp : Int)
    (hnumber : ¬ (b = 45 ∨ isDigit b)) (hlabels : b ∉ ascii "RTP/AVP;unicast;client_port=" ∧
      b ≠ 59 ∧ b ∉ ascii "server_port=") :
    b ∉ udpTransport serverRtp serverRtcp clientRtp clientRtcp := by
  have hdash : b ≠ 45 := fun h => hnumber (.inl h)
  simp [udpTransport_eq, notMem_toString _ hnumber, hlabels.1, hlabels.2.1, hlabels.2.2, hdash]

theorem find_client_port (rest : Bytes) :
    Search.find (ascii "client_port=") (ascii "RTP/AVP;unicast;client_port=" ++ rest) = some 16 :=
  Search.find_append_of_some (by decide) rest

/-- The label of the server ports is not in what stands before it. -/
theorem find_server_port (clientRtp clientRtcp : Int) (rest : Bytes) :
    Search.find (ascii "server_port=") (ascii "RTP/AVP;unicast;client_port=" ++
      ((RtspBuilder.toString clientRtp ++ 45 :: (RtspBuilder.toString clientRtcp ++ [59])) ++
        (ascii "server_port=" ++ rest))) =
      some ((RtspBuilder.toString clientRtp ++ 45 :: (RtspBuilder.toString clientRtcp ++ [59])).length +
        28) := by
  have hlabel : ascii "server_port=" = 115 :: (ascii "server_port=").tail := by decide
  have hs : (115 : UInt8) ∉
      RtspBuilder.toString clientRtp ++ 45 :: (RtspBuilder.toString clientRtcp ++ [59]) := by
    simp [notMem_toString _ (b := 115) (by decide)]
  have hhere : Search.find (ascii "server_port=") (ascii "server_port=" ++ rest) = some 0 :=
    Search.find_append_of_some (by decide) rest
  have hlength : (ascii "RTP/AVP;unicast;client_port=").length = 28 := by decide
  rw [Search.find_append_of_clear (by decide), hlabel,
    Decoding.find_skip _ _ hs, ← hlabel, hhere, hlength, Option.map_some, Option.map_some, Nat.zero_add]

/-- The client ports in the text for UDP are read back. -/
theorem numberPair_udpTransport (a b : Int32) (serverRtp serverRtcp : Int) :
    numberPair (ascii "client_port=") (udpTransport serverRtp serverRtcp a.toInt b.toInt) =
      some (a.toInt, b.toInt) := by
  have hserverLabel : 0 ∉ ascii "server_port=" := by decide
  have hdrop (rest : Bytes) : (ascii "RTP/AVP;unicast;client_port=" ++ rest).drop
      (16 + (ascii "client_port=").length) = rest := by
    rw [show 16 + (ascii "client_port=").length =
      (ascii "RTP/AVP;unicast;client_port=").length by decide, List.drop_left]
  rw [udpTransport_eq]
  refine numberPair_printed a b (find_client_port _) (hdrop _) ?_ ?_
  · exact Text.stops_cons.mpr (by decide)
  · simp [zero_notMem_toString, hserverLabel]

/-- `ParseTransport` of the text for UDP. -/
theorem parseTransport_udpTransport (a b c d : Int32) :
    parseTransport (udpTransport c.toInt d.toInt a.toInt b.toInt) =
      { isUdp := true, clientRtpPort := a.toInt, clientRtcpPort := b.toInt,
        serverRtpPort := c.toInt, serverRtcpPort := d.toInt } := by
  have htcp : Search.find (ascii "TCP") (udpTransport c.toInt d.toInt a.toInt b.toInt) = none :=
    Search.find_eq_none_of_notMem (a := 67) (by decide)
      (notMem_udpTransport _ _ _ _ (by decide) (by decide))
  have hinterleaved : numberPair (ascii "interleaved=")
      (udpTransport c.toInt d.toInt a.toInt b.toInt) = none := by
    rw [numberPair, Search.find_eq_none_of_notMem (a := 100) (by decide)
      (notMem_udpTransport _ _ _ _ (by decide) (by decide))]
  have hclient := numberPair_udpTransport a b c.toInt d.toInt
  have hserver : numberPair (ascii "server_port=")
      (udpTransport c.toInt d.toInt a.toInt b.toInt) = some (c.toInt, d.toInt) := by
    have htext : udpTransport c.toInt d.toInt a.toInt b.toInt =
        ascii "RTP/AVP;unicast;client_port=" ++ ((RtspBuilder.toString a.toInt ++
          45 :: (RtspBuilder.toString b.toInt ++ [59])) ++ (ascii "server_port=" ++
            (RtspBuilder.toString c.toInt ++ 45 :: (RtspBuilder.toString d.toInt ++ [])))) := by
      simp [udpTransport_eq]
    rw [htext]
    refine numberPair_printed c d (find_server_port _ _ _) ?_ Text.stops_nil (by simp)
    rw [← List.append_assoc, ← List.append_assoc]
    apply List.drop_left'
    simp only [List.length_append, show (ascii "RTP/AVP;unicast;client_port=").length = 28 by
      decide]
    omega
  simp [parseTransport, htcp, hinterleaved, hclient, hserver]

theorem interleavedTransport_eq (rtpChannel rtcpChannel : Int) :
    interleavedTransport rtpChannel rtcpChannel = ascii "RTP/AVP/TCP;interleaved=" ++
      (RtspBuilder.toString rtpChannel ++ 45 :: (RtspBuilder.toString rtcpChannel ++ [])) := by
  have hdash : ascii "-" = [45] := by decide
  simp [interleavedTransport, hdash]

/-- `ParseTransport` of the text for TCP. -/
theorem parseTransport_interleavedTransport (a b : Int32) :
    parseTransport (interleavedTransport a.toInt b.toInt) =
      { isTcp := true, interleavedRtp := a.toInt, interleavedRtcp := b.toInt } := by
  have hnone (label : Bytes) (hlabel : 95 ∈ label) :
      numberPair label (interleavedTransport a.toInt b.toInt) = none := by
    have htext : (95 : UInt8) ∉ ascii "RTP/AVP/TCP;interleaved=" := by decide
    rw [numberPair, Search.find_eq_none_of_notMem hlabel]
    simp [interleavedTransport_eq, htext, notMem_toString _ (b := 95) (by decide)]
  have htcp : Search.find (ascii "TCP") (interleavedTransport a.toInt b.toInt) = some 8 := by
    rw [interleavedTransport_eq]
    exact Search.find_append_of_some (by decide) _
  have hinterleaved : numberPair (ascii "interleaved=") (interleavedTransport a.toInt b.toInt) =
      some (a.toInt, b.toInt) := by
    rw [interleavedTransport_eq]
    refine numberPair_printed a b (Search.find_append_of_some (i := 12) (by decide) _) ?_
      Text.stops_nil (by simp)
    rw [show 12 + (ascii "interleaved=").length = (ascii "RTP/AVP/TCP;interleaved=").length by
      decide, List.drop_left]
  simp [parseTransport, htcp, hinterleaved, hnone (ascii "client_port=") (by decide),
    hnone (ascii "server_port=") (by decide)]

end Output

namespace ClientDecoder

/-- The value of a header of the one response on a stream. -/
def headerValue (name stream : Bytes) : Option Bytes :=
  match decode stream with
  | some [.response r] => (r.headers.find? fun h => h.1 = name).map (·.2)
  | _ => none

/-- A response on its own is read as itself. -/
theorem decode_bytes {m : Output} (h : m.Valid) : decode m.bytes = some [m.message] := by
  have hall : ∀ m' ∈ [m], Decoding.Reads next m'.bytes m'.message := by
    intro m' hm'
    exact m'.reads (List.mem_singleton.mp hm' ▸ h)
  have hread := Decoding.decodeAll_flatten hall le_rfl
  simpa [decode] using hread

theorem headerValue_bytes {m : Output} {r : Response} (h : m.Valid) (hr : m.message = .response r)
    (name : Bytes) :
    headerValue name m.bytes = (r.headers.find? fun h => h.1 = name).map (·.2) := by
  rw [headerValue, decode_bytes h, hr]

/-- The `Transport` header stands behind the sequence number and the session. -/
theorem find?_transport (cseq : Int) (sessionId value : Bytes) :
    (Output.cseqPair cseq :: Output.sessionHeader sessionId ++ [(ascii "Transport", value)]).find?
      (fun h => h.1 = ascii "Transport") = some (ascii "Transport", value) := by
  have hcseq : ascii "CSeq" ≠ ascii "Transport" := by decide
  have hsession : ascii "Session" ≠ ascii "Transport" := by decide
  unfold Output.sessionHeader
  split <;> simp [Output.cseqPair, hcseq, hsession]

theorem headerValue_setupUdp {sessionId : Bytes} (h : ∀ b ∈ sessionId, Output.isHexDigit b)
    (cseq serverRtp serverRtcp clientRtp clientRtcp : Int) :
    headerValue (ascii "Transport") (RtspBuilder.buildSetupResponseUdp cseq sessionId serverRtp
      serverRtcp clientRtp clientRtcp) =
      some (Output.udpTransport serverRtp serverRtcp clientRtp clientRtcp) := by
  have hvalue := headerValue_bytes
    (m := .setupUdp cseq sessionId serverRtp serverRtcp clientRtp clientRtcp) h rfl
    (ascii "Transport")
  rw [find?_transport] at hvalue
  exact hvalue

theorem headerValue_setup {sessionId : Bytes} (h : ∀ b ∈ sessionId, Output.isHexDigit b)
    (cseq rtpChannel rtcpChannel : Int) :
    headerValue (ascii "Transport") (RtspBuilder.buildSetupResponse cseq sessionId rtpChannel
      rtcpChannel) = some (Output.interleavedTransport rtpChannel rtcpChannel) := by
  have hvalue := headerValue_bytes (m := .setup cseq sessionId rtpChannel rtcpChannel) h rfl
    (ascii "Transport")
  rw [find?_transport] at hvalue
  exact hvalue

end ClientDecoder

namespace RtspBuilder

theorem getElem?_withSession {headers : Headers} {name : Bytes} (hname : name ≠ ascii "Session")
    (sessionId : Bytes) : (withSession headers sessionId)[name]? = headers[name]? := by
  unfold withSession
  split
  · rfl
  · rw [Std.TreeMap.getElem?_insert, if_neg]
    intro heq
    exact hname (Std.LawfulEqCmp.eq_of_compare heq).symm

theorem getElem?_transport (headers : Headers) (value sessionId : Bytes) :
    (withSession (headers.insert (ascii "Transport") value) sessionId)[ascii "Transport"]? =
      some value := by
  rw [getElem?_withSession (by decide), Std.TreeMap.getElem?_insert_self]

end RtspBuilder

open RtspBuilder ClientDecoder in
/-- **The `Transport` header is read back.** For any 32-bit ports and channels, the value
the builder puts into the header map of its response parses to what it was built from; so
does the value a client reads out of the response, when the session id is one the server
generates. -/
theorem parseTransport_setupResponses (cseq : Int) (sessionId : Bytes) (a b c d : Int32) :
    let udp := buildSetupResponseUdp cseq sessionId c.toInt d.toInt a.toInt b.toInt
    let tcp := buildSetupResponse cseq sessionId a.toInt b.toInt
    let udpInfo : TransportInfo :=
      { isUdp := true, isTcp := false, clientRtpPort := a.toInt, clientRtcpPort := b.toInt,
        serverRtpPort := c.toInt, serverRtcpPort := d.toInt, interleavedRtp := 0,
        interleavedRtcp := 0 }
    let tcpInfo : TransportInfo :=
      { isUdp := false, isTcp := true, clientRtpPort := 0, clientRtcpPort := 0, serverRtpPort := 0,
        serverRtcpPort := 0, interleavedRtp := a.toInt, interleavedRtcp := b.toInt }
    (∃ headers : Headers, udp = buildResponse 200 (ascii "OK") headers ∧
      (headers[ascii "Transport"]?).map parseTransport = some udpInfo) ∧
    (∃ headers : Headers, tcp = buildResponse 200 (ascii "OK") headers ∧
      (headers[ascii "Transport"]?).map parseTransport = some tcpInfo) ∧
    ((∀ x ∈ sessionId, Output.isHexDigit x) →
      (headerValue (ascii "Transport") udp).map parseTransport = some udpInfo ∧
      (headerValue (ascii "Transport") tcp).map parseTransport = some tcpInfo) := by
  intro udp tcp udpInfo tcpInfo
  have hudp := Output.parseTransport_udpTransport a b c d
  have htcp := Output.parseTransport_interleavedTransport a b
  refine ⟨⟨_, rfl, ?_⟩, ⟨_, rfl, ?_⟩, fun hid => ⟨?_, ?_⟩⟩
  · rw [getElem?_transport]
    exact congrArg some hudp
  · rw [getElem?_transport]
    exact congrArg some htcp
  · rw [headerValue_setupUdp hid]
    exact congrArg some hudp
  · rw [headerValue_setup hid]
    exact congrArg some htcp

open RtspBuilder ClientDecoder in
/-- The extreme values, and a number that is its own negation. -/
theorem parseTransport_setupResponses_extreme :
    (headerValue (ascii "Transport") (buildSetupResponseUdp 3 (ascii "5f3a0") 0 (-1)
      (-2147483648) 2147483647)).map parseTransport =
      some { isUdp := true, clientRtpPort := -2147483648, clientRtcpPort := 2147483647,
             serverRtpPort := 0, serverRtcpPort := -1 } :=
  ((parseTransport_setupResponses 3 (ascii "5f3a0") (-2147483648) 2147483647 0 (-1)).2.2
    (by decide +kernel)).1

end RtspForward
