import RtspForward.Core.Replies
import RtspForward.Protocol.DerivedFields
import RtspForward.Protocol.TransportHeader

/-!
# Responses as a client reads them

Session ids are hexadecimal digits, so every response of a session is one a client reads
back, header by header. The sequence number of a request passes through `strtol` and a cast
to `int` before it is printed again.
-/
namespace RtspForward

open Lib RtspParser ClientDecoder

/-! ## Session ids -/

theorem hexDigit_digitChar : ∀ d < 16, Output.isHexDigit (UInt8.ofNat d.digitChar.toNat) := by
  decide

theorem isHexDigit_hex (n : Nat) : ∀ b ∈ RtspSession.hex n, Output.isHexDigit b := by
  induction n using Nat.strong_induction_on with
  | _ n ih =>
    intro b hb
    rw [RtspSession.hex, Nat.toDigits_eq_if (by decide)] at hb
    split at hb
    · rename_i hlt
      obtain rfl : b = UInt8.ofNat n.digitChar.toNat := by simpa using hb
      exact hexDigit_digitChar n hlt
    · rename_i hge
      rw [List.map_append, List.mem_append] at hb
      rcases hb with hb | hb
      · exact ih (n / 16) (by omega) b hb
      · obtain rfl : b = UInt8.ofNat (n % 16).digitChar.toNat := by simpa using hb
        exact hexDigit_digitChar _ (Nat.mod_lt _ (by decide))

theorem isHexDigit_generateSessionId (timestamp seq : Nat) :
    ∀ b ∈ RtspSession.generateSessionId timestamp seq, Output.isHexDigit b := by
  intro b hb
  rcases List.mem_append.mp (List.mem_of_mem_take hb) with h | h
  · exact isHexDigit_hex timestamp b h
  · exact isHexDigit_hex seq b h

namespace RtspSession

/-- The id the constructor gave the session. -/
def HasGeneratedId (s : RtspSession) : Prop :=
  ∃ timestamp seq, s.sessionId = generateSessionId timestamp seq

theorem HasGeneratedId.isHexDigit {s : RtspSession} (h : s.HasGeneratedId) :
    ∀ b ∈ s.sessionId, Output.isHexDigit b := by
  obtain ⟨timestamp, seq, hid⟩ := h
  rw [hid]
  exact isHexDigit_generateSessionId timestamp seq

theorem answer_valid {s : RtspSession} (h : s.HasGeneratedId) (request : RtspRequest)
    (env : RequestEnv) : (s.answer request env).Valid := by
  have hid := h.isHexDigit
  unfold answer setupAnswer
  cases request.method with
  | kDescribe =>
    simp only
    split <;> exact trivial
  | kSetup =>
    simp only
    split
    · split
      · exact trivial
      · split
        · exact trivial
        · exact hid
    · split
      · exact hid
      · exact trivial
  | kUnknown => exact trivial
  | kOptions => exact fun b hb => absurd hb (by simp)
  | kPlay | kPause | kTeardown | kGetParameter | kSetParameter => exact hid

end RtspSession

/-! ## The sequence number -/

/-- The sequence number is the first header of a response. -/
theorem headerValue_cseq {out : Output} (hvalid : out.Valid) {cseq : Int}
    (hcseq : out.cseq = some cseq) :
    headerValue (ascii "CSeq") out.bytes = some (RtspBuilder.toString cseq) := by
  have hfind (r : Response) (hmessage : out.message = .response r)
      (hhead : r.headers.head? = some (Output.cseqPair cseq)) :
      headerValue (ascii "CSeq") out.bytes = some (RtspBuilder.toString cseq) := by
    obtain ⟨hs, hheaders⟩ := List.head?_eq_some_iff.mp hhead
    rw [headerValue_bytes hvalid hmessage, hheaders]
    simp [Output.cseqPair]
  cases out with
  | rtp => cases hcseq
  | options | describe | setup | setupUdp | play | simple | error =>
    cases hcseq
    exact hfind _ rfl rfl

/-- **The sequence number is echoed exactly when it fits an `int`.** The request carries a
`CSeq` header whose value is a string of digits; its one response, whatever the method and
the outcome, has a `CSeq` header for the same number if and only if that number is below
`2 ^ 31`. -/
theorem cseq_echoed_iff (s : RtspSession) (hid : s.HasGeneratedId) (env : RequestEnv)
    (data : Bytes) (request : RtspRequest) (hparse : parse data {} = .ok request) (digits : Bytes)
    (hheader : request.headers[ascii "cseq"]? = some digits) (hne : digits ≠ [])
    (hdigits : ∀ b ∈ digits, isDigit b) :
    (∃ reply, (s.handleRequest request env).reply = some reply ∧
      (headerValue (ascii "CSeq") reply.response).map decimal = some (digitsValue digits : Int)) ↔
      digitsValue digits < 2 ^ 31 := by
  have hcseq : request.cseq = toInt (clampLong (digitsValue digits)) := by
    rw [(parse_derived hparse).cseq, hheader, Option.map_some, Option.getD_some,
      parseCSeq_of_isDecimal (.unsigned digits hne hdigits)]
  have hvalue := headerValue_cseq (RtspSession.answer_valid hid request env)
    (s.answer_cseq request env)
  rw [(s.handleRequest_sends request env).1]
  simp only [Option.some.injEq, exists_eq_left', hvalue, Option.map_some, decimal_toString, hcseq]
  constructor
  · intro h
    have hlt := toInt_lt (clampLong (digitsValue digits))
    omega
  · intro h
    exact toInt_clampLong (by omega) (by omega)

/-- The largest number that is echoed. -/
def largestCSeq : Bytes := ascii "OPTIONS * RTSP/1.0\r\nCSeq: 2147483647\r\n\r\n"

theorem largest_cseq_echoed :
    ∃ s request, RtspSession.create 7 512 (fun _ => 0) 0 0 0 = some s ∧
      parse largestCSeq {} = .ok request ∧
      ∃ reply, (s.handleRequest request .quiet).reply = some reply ∧
        (headerValue (ascii "CSeq") reply.response).map decimal = some 2147483647 := by
  refine ⟨_, _, rfl, rfl, ?_⟩
  exact (cseq_echoed_iff _ ⟨0, 0, rfl⟩ .quiet largestCSeq _ rfl (ascii "2147483647")
    (by decide +kernel) (by decide +kernel) (by decide +kernel)).mpr (by decide +kernel)

/-- The number `2 ^ 32 + 1` is answered as if it were the first request. -/
theorem large_cseq_not_echoed :
    ∃ s request, RtspSession.create 7 512 (fun _ => 0) 0 0 0 = some s ∧
      parse (ascii "OPTIONS * RTSP/1.0\r\nCSeq: 4294967297\r\n\r\n") {} = .ok request ∧
      request.headers[ascii "cseq"]? = some (ascii "4294967297") ∧
      (s.handleRequest request .quiet).reply.bind (fun reply =>
        headerValue (ascii "CSeq") reply.response) = some (ascii "1") ∧
      (s.handleRequest request .quiet).reply.bind (fun reply =>
        (headerValue (ascii "CSeq") reply.response).map decimal) ≠
          some (digitsValue (ascii "4294967297") : Int) :=
  ⟨_, _, rfl, rfl, by decide +kernel, by decide +kernel, by decide +kernel⟩

end RtspForward
