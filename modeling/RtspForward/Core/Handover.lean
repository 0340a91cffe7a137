import RtspForward.Core.MessageFraming
import RtspForward.Protocol.LineRoles

/-!
# From the framer to the parser

The read loop ends a request at the first `CRLF CRLF`; `Parse` ends its headers at the first
line that is empty but for a carriage return. The read loop limits the bytes it waits with,
`Parse` the bytes it is given. What comes of a request depends on whether the two agree.
-/
namespace RtspForward

open Lib Lib.Search RtspParser

/-! ## Where the headers end -/

theorem Terminated.eq_append {r : Bytes} (h : Terminated r) :
    r = r.take (r.length - 4) ++ requestTerminator := by
  have hfour := h.four_le
  obtain ⟨-, hend⟩ := (h.terminator_iff (r.length - 4)).mpr (Nat.sub_add_cancel hfour)
  have hlen : requestTerminator.length = (r.drop (r.length - 4)).length := by
    rw [List.length_drop]
    show 4 = _
    omega
  rw [hend.eq_of_length hlen, List.take_append_drop]

namespace RtspParser

/-- A line feed ends a line, whatever follows. -/
theorem lines_append (front rest : Bytes) :
    ∃ line ls, lines (front ++ 10 :: rest) = line :: ls ++ lines rest := by
  induction front with
  | nil => exact ⟨[], [], rfl⟩
  | cons b front ih =>
    obtain ⟨line, ls, hls⟩ := ih
    rw [List.cons_append, lines]
    split
    · exact ⟨[], line :: ls, by rw [hls]; rfl⟩
    · rw [hls]
      exact ⟨b :: line, ls, rfl⟩

/-- The last line of a terminated request is empty, and the last one only. -/
theorem lines_of_terminated {r : Bytes} (h : Terminated r) :
    ∃ line ls, lines r = line :: ls ++ [[13]] := by
  rw [h.eq_append]
  have hsplit : r.take (r.length - 4) ++ requestTerminator =
      (r.take (r.length - 4) ++ [13]) ++ 10 :: [13, 10] := by
    simp [requestTerminator]
  rw [hsplit]
  exact lines_append _ _

/-- When the headers end at `e`, the lines before the last one are not empty exactly when `e` is
the last one. -/
theorem dropLast_ne_nil_iff {line e : Bytes} {heads body : List Bytes} (hline : stripCr line ≠ [])
    (hheads : ∀ l ∈ heads, stripCr l ≠ []) (he : stripCr e = []) :
    (∀ l ∈ (line :: (heads ++ e :: body)).dropLast, stripCr l ≠ []) ↔ body = [] := by
  rw [← List.cons_append, List.dropLast_append_of_ne_nil (by simp)]
  constructor
  · intro hall
    cases body with
    | nil => rfl
    | cons l body => exact absurd he (hall e (by simp))
  · rintro rfl l hl
    rcases List.mem_cons.mp (by simpa using hl) with rfl | hl
    · exact hline
    · exact hheads l hl

/-- With no body, every line but the last is the request line or a header line. -/
theorem roles_before_last {line e : Bytes} {heads : List Bytes} {r : Bytes}
    (hlines : lines r = line :: (heads ++ [e])) (hword : ∃ b ∈ line, isSpace b = false)
    (hheads : ∀ l ∈ heads, stripCr l ≠ []) (he : stripCr e = []) (request : RtspRequest) {i : Nat}
    (hi : i + 1 < (lines r).length) :
    (roles r request)[i]? = some .requestLine ∨ (roles r request)[i]? = some .header := by
  obtain ⟨hhead, -, hroles⟩ := @lines_by_role heads [] e hheads he
  rw [(foldlM_lines hlines hword request).2, hhead, hroles]
  rw [hlines, List.length_cons, List.length_append, List.length_singleton] at hi
  cases i with
  | zero => exact .inl rfl
  | succ i =>
    refine .inr ?_
    rw [List.getElem?_cons_succ, List.getElem?_append_left (by simpa using hi),
      List.getElem?_replicate_of_lt (by omega)]

end RtspParser

/-- **Framer and parser agree on the end of the headers** exactly when no earlier line is empty:
a terminated request of bounded length ends in an empty line, and whenever `Parse` succeeds on
it every line before is taken as the request line or as a header line and the body is empty,
if and only if there is no request line, or none of these lines is empty but for a carriage
return. -/
theorem header_lines_agree_iff (r : Bytes) (hmax : r.length ≤ kMaxRtspRequestDataLen)
    (hend : Terminated r) :
    (lines r).getLast? = some [13] ∧
    ((∀ request request', parse r request = .ok request' → request'.body = [] ∧
      ∀ i, i + 1 < (lines r).length → (roles r request)[i]? = some .requestLine ∨
        (roles r request)[i]? = some .header) ↔
    ¬ HasRequestLine r ∨ ∀ line ∈ (lines r).dropLast, stripCr line ≠ []) := by
  obtain ⟨line, ls, hlines⟩ := lines_of_terminated hend
  refine ⟨by rw [hlines, List.getLast?_concat], ?_⟩
  have hpos : 0 < r.length := by
    have hfour := hend.four_le
    omega
  by_cases hword : HasRequestLine r
  · have haccepted : Accepted r := ⟨hpos, hmax, hword⟩
    have hfirst : ∃ b ∈ line, isSpace b = false := by
      obtain ⟨l, hl, hb⟩ := hword
      rw [hlines] at hl
      obtain rfl : line = l := by simpa using hl
      exact hb
    have hstrip := ne_nil_of_word ((word_stripCr line).mpr hfirst)
    -- the headers end at the first empty line, and there is one
    obtain ⟨heads, e, body, hls, hheads, he⟩ := exists_split (ls ++ [[13]])
      ⟨[13], by simp, rfl⟩
    have hcons : lines r = line :: (heads ++ e :: body) := by rw [hlines, ← hls, List.cons_append]
    have hread : ∀ initial, (readRequest r initial).body = [] ↔ body = [] := by
      intro initial
      rw [readRequest, hcons]
      simp only [(@lines_by_role heads body e hheads he).2.1, joinBody_eq_nil]
    have hcond := @dropLast_ne_nil_iff line e heads body hstrip hheads he
    rw [← hcons] at hcond
    constructor
    · intro h
      have hempty := (h {} _ (parse_of_accepted haccepted {})).1
      exact .inr (hcond.mpr ((hread _).mp hempty))
    · rintro (hno | hall) request request' hparse
      · exact absurd hword hno
      · obtain rfl := hcond.mp hall
        obtain ⟨-, rfl⟩ := parse_eq_ok_iff.mp hparse
        exact ⟨(hread _).mpr rfl, fun i hi => roles_before_last hcons hfirst hheads he request hi⟩
  · constructor
    · exact fun _ => .inl hword
    · intro _ request request' hparse
      exact absurd (parse_eq_ok_iff.mp hparse).1.requestLine hword

/-- A request whose lines all end in `CRLF`. -/
theorem header_lines_agree_plain :
    ∃ r request', parse r {} = .ok request' ∧ request'.body = [] ∧
      r = ascii "OPTIONS * RTSP/1.0\r\nCSeq: 1\r\n\r\n" := by
  refine ⟨ascii "OPTIONS * RTSP/1.0\r\nCSeq: 1\r\n\r\n", _, rfl, ?_, rfl⟩
  exact ((header_lines_agree_iff (ascii "OPTIONS * RTSP/1.0\r\nCSeq: 1\r\n\r\n") (by decide)
    (by decide)).2.mpr (.inr (by decide)) {} _ rfl).1

/-- An empty line that ends in a bare line feed: the framer reads on to the terminator, and the
parser takes the header behind it for the body. -/
theorem header_hidden_in_body :
    ∃ r request', r.length ≤ kMaxRtspRequestDataLen ∧ Terminated r ∧ parse r {} = .ok request' ∧
      request'.body ≠ [] ∧ roles r {} = [.requestLine, .endOfHeaders, .body, .body] ∧
      (lines r)[2]? = some (ascii "CSeq: 1\r") ∧ request'.headers[ascii "cseq"]? = none := by
  refine ⟨ascii "OPTIONS * RTSP/1.0\n\nCSeq: 1\r\n\r\n", _, by decide, by decide, rfl, ?_, ?_, ?_, ?_⟩
  · decide
  · decide
  · decide
  · decide

/-! ## The size of a request -/

namespace RtspSession

variable {s : RtspSession}

/-- A handler's own refusals are not those of the parser. -/
theorem handleRequest_code (s : RtspSession) (request : RtspRequest) (env : RequestEnv) :
    (s.handleRequest request env).status.code ≠ .kParseError := by
  unfold handleRequest
  cases request.method with
  | kDescribe =>
    unfold handleDescribe
    simp only
    split <;> simp [respond, Handled.setState]
  | kSetup =>
    unfold handleSetup setupUdp
    simp only
    split
    · split
      · simp [respond]
      · split <;> simp [respond, Handled.setState]
    · split <;> simp [respond, Handled.setState]
  | kUnknown | kOptions | kPlay | kPause | kTeardown | kGetParameter | kSetParameter =>
    simp [respond, Handled.setState, handleOptions, handlePlay, handlePause, handleTeardown,
      handleParameter]

/-- `ProcessData` refuses data for its size exactly when it is over the limit. -/
theorem processData_tooLarge_iff (s : RtspSession) (data : Bytes) (env : RequestEnv) :
    (s.processData data env).status = .parseError "request too large" ↔
      kMaxRtspRequestDataLen < data.length := by
  rw [← @parse_tooLarge_iff data {}]
  rcases s.processData_cases env data with ⟨status, hparse, heq⟩ | ⟨request, hparse, heq⟩
  · rw [heq, hparse]
    simp
  · rw [heq, hparse]
    simp only [reduceCtorEq, iff_false]
    intro hstatus
    exact handleRequest_code _ _ _ (congrArg Status.code hstatus)

end RtspSession

/-- What has come of a session after some read events. -/
structure Delivery where
  session : RtspSession
  removed : List Removal := []
  handled : List Handled := []
  closed : Bool := false

/-- What `ProcessConnectionData` is given with a read event. -/
def ReadEvent.env (ev : ReadEvent) : ReadEnv where
  recv := .data ev.chunk
  request := ev.request
  beyond := ev.beyond

/-- The read events of a connection, up to one that closes it. -/
def deliver (s : RtspSession) : List ReadEvent → Option Delivery
  | [] => some { session := s }
  | ev :: events =>
    (s.processConnectionData ev.env).bind fun res =>
      if res.closed then
        some { session := res.session, removed := res.removed, handled := res.handled,
               closed := true }
      else (deliver res.session events).map fun d =>
        { d with removed := res.removed ++ d.removed, handled := res.handled ++ d.handled }

/-- The request was handed to the parser, and the connection kept. -/
structure Delivery.HandedOver (d : Delivery) (r : Bytes) : Prop where
  kept : d.closed = false
  removed_eq : d.removed = [.dispatched r]
  handled_once : d.handled.length = 1

/-- The connection was closed as the buffered piece of a request was too large. -/
structure Delivery.Refused (d : Delivery) : Prop where
  closed : d.closed = true
  tooLarge : turn d.session.conn.readBuffer = .tooLarge
  removed_nil : d.removed = []
  handled_nil : d.handled = []

/-- The request was handed to the parser, and was not too large for it. -/
def Delivery.AcceptedForSize (d : Delivery) (r : Bytes) : Prop :=
  d.HandedOver r ∧ ∀ h ∈ d.handled, h.status ≠ .parseError "request too large"

/-- Some read event leaves the limit or more of `total` bytes buffered, and more to come;
`arrived` bytes were there before. -/
def Pauses (arrived total : Nat) (events : List ReadEvent) : Prop :=
  ∃ n ≤ events.length,
    kMaxRtspRequestDataLen ≤ arrived + ((events.take n).map ReadEvent.chunk).flatten.length ∧
      arrived + ((events.take n).map ReadEvent.chunk).flatten.length < total

instance (arrived total : Nat) (events : List ReadEvent) :
    Decidable (Pauses arrived total events) :=
  inferInstanceAs (Decidable (∃ n ≤ events.length, _ ∧ _))

theorem pauses_cons {arrived total : Nat} {ev : ReadEvent} {events : List ReadEvent}
    (h : arrived < kMaxRtspRequestDataLen) :
    Pauses arrived total (ev :: events) ↔ Pauses (arrived + ev.chunk.length) total events := by
  constructor
  · intro ⟨n, hn, hlong, hmore⟩
    cases n with
    | zero =>
      simp only [List.take_zero, List.map_nil, List.flatten_nil, List.length_nil] at hlong
      omega
    | succ n =>
      simp only [List.take_succ_cons, List.map_cons, List.flatten_cons, List.length_append,
        List.length_cons] at hn hlong hmore
      exact ⟨n, by omega, by omega, by omega⟩
  · intro ⟨n, hn, hlong, hmore⟩
    refine ⟨n + 1, by simpa using hn, ?_, ?_⟩
    · simp only [List.take_succ_cons, List.map_cons, List.flatten_cons, List.length_append]
      omega
    · simp only [List.take_succ_cons, List.map_cons, List.flatten_cons, List.length_append]
      omega

theorem pauses_of_le {arrived total : Nat} {events : List ReadEvent}
    (hlong : kMaxRtspRequestDataLen ≤ arrived) (hmore : arrived < total) :
    Pauses arrived total events :=
  ⟨0, Nat.zero_le _, by simpa using hlong, by simpa using hmore⟩

theorem RtspSession.readLoop_wait {s : RtspSession} (env : ReadEnv) (fuel k : Nat)
    (h : turn s.conn.readBuffer = .wait) :
    RtspSession.readLoop env (fuel + 1) k s = some { session := s } := by
  simp only [readLoop, h]

theorem Reader.step_of_open {x : Reader} {ev : ReadEvent} {res : ReadResult}
    (hres : x.session.processConnectionData ev.env = some res) (hopen : res.closed = false) :
    x.step ev = some ⟨res.session, x.removed ++ res.removed⟩ := by
  have hsame : x.session.processConnectionData
      { recv := .data ev.chunk, request := ev.request, beyond := ev.beyond } = some res := hres
  simp only [Reader.step, hsame, hopen, Bool.false_eq_true, ↓reduceIte]

theorem Reader.step_of_closed {x : Reader} {ev : ReadEvent} {res : ReadResult}
    (hres : x.session.processConnectionData ev.env = some res) (hclosed : res.closed = true) :
    x.step ev = none := by
  have hsame : x.session.processConnectionData
      { recv := .data ev.chunk, request := ev.request, beyond := ev.beyond } = some res := hres
  simp only [Reader.step, hsame, hclosed, ↓reduceIte]

section Events

variable {s : RtspSession} {ev : ReadEvent} {p r : Bytes}

/-- A read event that leaves a piece of a request in the buffer. -/
theorem event_incomplete (hvalid : s.conn.readBuffer.Valid) (hopen : s.conn.isClosed = false)
    (hpos : 1 ≤ ev.chunk.length)
    (hfit : ev.chunk.length ≤ s.conn.readBuffer.contiguousWritableSize)
    (hp : s.conn.readBuffer.contents ++ ev.chunk = p) (hnone : nextMessage p = none)
    (hhead : p.head? ≠ some kRtpInterleavedMarker) :
    s.processConnectionData ev.env =
        some { session := s.filled ev.chunk,
               closed := decide (kMaxRtspRequestDataLen ≤ p.length) } ∧
      (kMaxRtspRequestDataLen ≤ p.length →
        turn (s.filled ev.chunk).conn.readBuffer = .tooLarge) := by
  have hfilled := RtspSession.readsTo_filled hvalid hfit
  have hturn := turn_eq hfilled.valid
  rw [hfilled.contents_eq, hp, hnone] at hturn
  simp only at hturn
  rw [RtspSession.processConnectionData_chunk ev.env rfl hvalid hopen hpos hfit]
  by_cases hlong : kMaxRtspRequestDataLen ≤ p.length
  · rw [if_pos ⟨hhead, hlong⟩] at hturn
    refine ⟨?_, fun _ => hturn⟩
    simp only [RtspSession.readLoop, hturn, hlong, decide_true]
  · rw [if_neg fun h => hlong h.2] at hturn
    refine ⟨?_, fun h => absurd h hlong⟩
    simp only [RtspSession.readLoop, hturn, hlong, decide_false]

/-- A read event that completes a request. -/
theorem event_complete (hvalid : s.conn.readBuffer.Valid) (hopen : s.conn.isClosed = false)
    (hpos : 1 ≤ ev.chunk.length)
    (hfit : ev.chunk.length ≤ s.conn.readBuffer.contiguousWritableSize)
    (hr : s.conn.readBuffer.contents ++ ev.chunk = r) (hend : Terminated r)
    (hhead : r.head? ≠ some kRtpInterleavedMarker) :
    ∃ res h, s.processConnectionData ev.env = some res ∧ res.closed = false ∧
      res.removed = [.dispatched r] ∧ res.handled = [h] ∧
      (h.status = .parseError "request too large" ↔ kMaxRtspRequestDataLen < r.length) := by
  have hfilled := RtspSession.readsTo_filled hvalid hfit
  have hwhole : nextMessage r = some r.length := by
    have hnext := (hend.delimits hhead).complete []
    rwa [List.append_nil] at hnext
  have hturn := turn_eq hfilled.valid
  rw [hfilled.contents_eq, hr, hwhole] at hturn
  simp only [if_neg hhead] at hturn
  -- behind the request nothing is left, so the loop ends at its next turn
  let h := (s.filled ev.chunk).dispatch ev.env 0 r.length
  obtain ⟨hread, hfd⟩ := (s.filled ev.chunk).dispatch_read ev.env 0 r.length
  have hnext := RtspSession.readsTo_consume (t := h.session) hfilled.valid hread hfd r.length
  rw [hfilled.contents_eq, hr, List.drop_length] at hnext
  have hwait : turn (h.session.consume r.length).conn.readBuffer = .wait := by
    rw [turn_eq hnext.valid, hnext.contents_eq]
    decide
  have hrest : RtspSession.readLoop ev.env r.length 1 (h.session.consume r.length) =
      some { session := h.session.consume r.length } := by
    obtain ⟨fuel, hfuel⟩ : ∃ fuel, r.length = fuel + 1 :=
      Nat.exists_eq_succ_of_ne_zero (by have := hend.four_le; omega)
    have hlast := RtspSession.readLoop_wait ev.env fuel 1 hwait
    rwa [← hfuel] at hlast
  have hstatus : h.status = .parseError "request too large" ↔
      kMaxRtspRequestDataLen < r.length := by
    have hview : ((s.filled ev.chunk).conn.readBuffer.rawView r.length ev.env.beyond).length =
        r.length := by
      simp [RingBuffer.rawView]
    rw [← hview]
    exact RtspSession.processData_tooLarge_iff _ _ _
  refine ⟨{ session := h.session.consume r.length, removed := [.dispatched r], handled := [h],
            writeInterest := (h.session.consume r.length).conn.needFlush || false },
    h, ?_, rfl, rfl, rfl, hstatus⟩
  rw [RtspSession.processConnectionData_chunk ev.env rfl hvalid hopen hpos hfit, hr]
  simp only [RtspSession.readLoop, hturn]
  rw [hfilled.contents_eq, hr, List.take_length]
  exact congrArg _ hrest

end Events

/-- What comes of a request of which a piece shorter than the limit has arrived. -/
structure Delivery.Outcome (d : Delivery) (r : Bytes) (pauses : Prop) : Prop where
  refused : pauses → d.Refused
  handedOver : ¬ pauses → d.HandedOver r ∧
    ∀ h ∈ d.handled, h.status = .parseError "request too large" ↔ kMaxRtspRequestDataLen < r.length

/-- The event that completes the request is the last one, and hands it over. -/
theorem deliver_complete {r : Bytes} (hend : Terminated r)
    (hhead : r.head? ≠ some kRtpInterleavedMarker) {x : Reader} {ev : ReadEvent}
    {events : List ReadEvent} (hvalid : x.session.conn.readBuffer.Valid)
    (hopen : x.session.conn.isClosed = false)
    (hall : x.session.conn.readBuffer.contents ++ ev.chunk = r)
    (hbytes : r ++ (events.map ReadEvent.chunk).flatten = r)
    (hfit : Transition.Along Reader.step Reader.Fits x (ev :: events)) :
    events = [] ∧ ∃ d, deliver x.session [ev] = some d ∧ d.HandedOver r ∧
      ∀ h ∈ d.handled, h.status = .parseError "request too large" ↔
        kMaxRtspRequestDataLen < r.length := by
  obtain ⟨res, h, hres, hkept, hremoved, hhandled, hstatus⟩ :=
    event_complete hvalid hopen hfit.1.1 hfit.1.2 hall hend hhead
  refine ⟨?_, { session := res.session, removed := res.removed ++ [],
                handled := res.handled ++ [] }, ?_, ⟨rfl, ?_, ?_⟩, ?_⟩
  · -- a chunk behind it would be empty
    cases events with
    | nil => rfl
    | cons ev' events =>
      have hpos := (hfit.2 _ (Reader.step_of_open hres hkept)).1.1
      have hnil := congrArg List.length hbytes
      simp only [List.map_cons, List.flatten_cons, List.length_append] at hnil
      omega
  · rw [deliver, hres]
    simp [hkept, deliver]
  · rw [hremoved, List.append_nil]
  · rw [hhandled]
    rfl
  · rw [hhandled]
    simpa using hstatus

theorem deliver_outcome {r : Bytes} (hend : Terminated r)
    (hhead : r.head? ≠ some kRtpInterleavedMarker) {events : List ReadEvent} :
    ∀ {x : Reader}, x.session.conn.readBuffer.Valid → x.session.conn.isClosed = false →
      x.session.conn.readBuffer.contents ≠ r →
      x.session.conn.readBuffer.contents.length < kMaxRtspRequestDataLen →
      x.session.conn.readBuffer.contents ++ (events.map ReadEvent.chunk).flatten = r →
      Transition.Along Reader.step Reader.Fits x events →
      ∃ d, deliver x.session events = some d ∧
        d.Outcome r (Pauses x.session.conn.readBuffer.contents.length r.length events) := by
  induction events with
  | nil =>
    intro x _ _ hne _ hbytes
    exact absurd (by simpa using hbytes) hne
  | cons ev events ih =>
    intro x hvalid hopen hne hshort hbytes hfit
    rw [List.map_cons, List.flatten_cons, ← List.append_assoc] at hbytes
    have hlen : (x.session.conn.readBuffer.contents ++ ev.chunk).length =
        x.session.conn.readBuffer.contents.length + ev.chunk.length := List.length_append
    simp only [pauses_cons hshort, ← hlen]
    by_cases hall : x.session.conn.readBuffer.contents ++ ev.chunk = r
    · rw [hall] at hbytes ⊢
      obtain ⟨rfl, d, hd, hover⟩ := deliver_complete hend hhead hvalid hopen hall hbytes hfit
      refine ⟨d, hd, fun hpause => ?_, fun _ => hover⟩
      obtain ⟨n, -, -, hmore⟩ := hpause
      omega
    · have hbegins : x.session.conn.readBuffer.contents ++ ev.chunk <+: r := ⟨_, hbytes⟩
      have hnone := (hend.delimits hhead).incomplete _ hbegins hall
      have hhead' : (x.session.conn.readBuffer.contents ++ ev.chunk).head? ≠
          some kRtpInterleavedMarker := by
        intro hp
        apply hhead
        rw [← hbytes, List.head?_append, hp]
        rfl
      have hmore : (x.session.conn.readBuffer.contents ++ ev.chunk).length < r.length :=
        Nat.lt_of_le_of_ne hbegins.length_le fun heq => hall (hbegins.eq_of_length heq)
      obtain ⟨hres, hturn⟩ := event_incomplete hvalid hopen hfit.1.1 hfit.1.2 rfl hnone hhead'
      by_cases hlong : kMaxRtspRequestDataLen ≤
          (x.session.conn.readBuffer.contents ++ ev.chunk).length
      · -- over the limit and not complete: the connection is closed
        rw [decide_eq_true hlong] at hres
        refine ⟨{ session := x.session.filled ev.chunk, closed := true }, ?_,
          fun _ => ⟨rfl, hturn hlong, rfl, rfl⟩,
          fun hno => absurd (pauses_of_le hlong hmore) hno⟩
        rw [deliver, hres]
        rfl
      · rw [decide_eq_false hlong] at hres
        have hfilled := RtspSession.readsTo_filled hvalid hfit.1.2
        have hopen' : (x.session.filled ev.chunk).conn.isClosed = false := hopen
        obtain ⟨d, hd, hout⟩ := ih (x := ⟨x.session.filled ev.chunk, x.removed ++ []⟩) hfilled.valid
          hopen' (by rw [hfilled.contents_eq]; exact hall)
          (by rw [hfilled.contents_eq]; exact Nat.lt_of_not_le hlong)
          (by rw [hfilled.contents_eq]; exact hbytes)
          (hfit.2 _ (Reader.step_of_open hres rfl))
        rw [hfilled.contents_eq] at hout
        refine ⟨d, ?_, hout⟩
        rw [deliver, hres]
        simp [hd]

theorem Delivery.Outcome.accepted_iff {d : Delivery} {r : Bytes} {pauses : Prop}
    (h : d.Outcome r pauses) (hlong : pauses → kMaxRtspRequestDataLen < r.length) :
    d.AcceptedForSize r ↔ r.length ≤ kMaxRtspRequestDataLen := by
  by_cases hpause : pauses
  · have hclosed := (h.refused hpause).closed
    refine iff_of_false (fun haccept => ?_) (by have := hlong hpause; omega)
    rw [haccept.1.kept] at hclosed
    cases hclosed
  · obtain ⟨hover, hstatus⟩ := h.handedOver hpause
    constructor
    · intro haccept
      obtain ⟨x, hx⟩ := List.length_eq_one_iff.mp hover.handled_once
      have hmem : x ∈ d.handled := by simp [hx]
      have hno := haccept.2 x hmem
      rw [ne_eq, hstatus x hmem] at hno
      omega
    · intro hle
      refine ⟨hover, fun x hx => ?_⟩
      rw [ne_eq, hstatus x hx]
      omega

/-- A request delivered to a session that has read nothing of it. -/
theorem deliver_empty {s : RtspSession} (hvalid : s.conn.readBuffer.Valid)
    (hopen : s.conn.isClosed = false) (hempty : s.conn.readBuffer.contents = []) {r : Bytes}
    (hend : Terminated r) (hhead : r.head? ≠ some kRtpInterleavedMarker) {events : List ReadEvent}
    (hfit : Transition.Along Reader.step Reader.Fits { session := s } events)
    (hbytes : (events.map ReadEvent.chunk).flatten = r) :
    ∃ d, deliver s events = some d ∧ d.Outcome r (Pauses 0 r.length events) := by
  have hne : s.conn.readBuffer.contents ≠ r := by
    rw [hempty]
    rintro rfl
    exact absurd hend.four_le (by decide)
  have hshort : s.conn.readBuffer.contents.length < kMaxRtspRequestDataLen := by
    rw [hempty]
    decide
  have hdeliver := deliver_outcome hend hhead (x := { session := s }) hvalid hopen hne hshort
    (by rw [hempty, List.nil_append, hbytes]) hfit
  rwa [show ({ session := s } : Reader).session.conn.readBuffer.contents = [] from hempty]
    at hdeliver

/-- **The size limit depends on segmentation** for requests over it only: a terminated request
is delivered to a session with an empty read buffer in two ways. The two outcomes are the same,
handed over or refused, with acceptance for size exactly up to the limit, if and only if both
deliveries or neither have a read event after which the limit or more has arrived, but not all. -/
theorem size_limit_agrees_iff (s : RtspSession) (hvalid : s.conn.readBuffer.Valid)
    (hopen : s.conn.isClosed = false) (hempty : s.conn.readBuffer.contents = []) (r : Bytes)
    (hend : Terminated r) (hhead : r.head? ≠ some kRtpInterleavedMarker)
    (events events' : List ReadEvent)
    (hfit : Transition.Along Reader.step Reader.Fits { session := s } events)
    (hfit' : Transition.Along Reader.step Reader.Fits { session := s } events')
    (hbytes : (events.map ReadEvent.chunk).flatten = r)
    (hbytes' : (events'.map ReadEvent.chunk).flatten = r) :
    ∃ d d', deliver s events = some d ∧ deliver s events' = some d' ∧
      ((((d.HandedOver r ∧ d'.HandedOver r) ∨ (d.Refused ∧ d'.Refused)) ∧
        (d.AcceptedForSize r ↔ r.length ≤ kMaxRtspRequestDataLen) ∧
        (d'.AcceptedForSize r ↔ r.length ≤ kMaxRtspRequestDataLen)) ↔
      (Pauses 0 r.length events ↔ Pauses 0 r.length events')) := by
  obtain ⟨d, hd, hfirst⟩ := deliver_empty hvalid hopen hempty hend hhead hfit hbytes
  obtain ⟨d', hd', hsecond⟩ := deliver_empty hvalid hopen hempty hend hhead hfit' hbytes'
  have hlong {evs : List ReadEvent} :
      Pauses 0 r.length evs → kMaxRtspRequestDataLen < r.length := by
    rintro ⟨n, -, hreach, hmore⟩
    omega
  have haccept := hfirst.accepted_iff hlong
  have haccept' := hsecond.accepted_iff hlong
  refine ⟨d, d', hd, hd', ?_⟩
  have happart {x : Delivery} (hover : x.HandedOver r) (hrefused : x.Refused) : False := by
    have hclosed := hrefused.closed
    rw [hover.kept] at hclosed
    cases hclosed
  constructor
  · rintro ⟨⟨hover, hover'⟩ | ⟨hrefused, hrefused'⟩, -⟩
    · exact iff_of_false (fun h => happart hover (hfirst.refused h))
        (fun h => happart hover' (hsecond.refused h))
    · refine iff_of_true ?_ ?_
      · by_contra h
        exact happart (hfirst.handedOver h).1 hrefused
      · by_contra h
        exact happart (hsecond.handedOver h).1 hrefused'
  · intro hiff
    refine ⟨?_, haccept, haccept'⟩
    by_cases h : Pauses 0 r.length events
    · exact .inr ⟨hfirst.refused h, hsecond.refused (hiff.mp h)⟩
    · exact .inl ⟨(hfirst.handedOver h).1, (hsecond.handedOver fun h' => h (hiff.mpr h')).1⟩

/-- Read events with these chunks. -/
def readsOf (chunks : List Bytes) : List ReadEvent :=
  chunks.map fun chunk => ⟨chunk, fun _ => .quiet, fun _ => 0⟩

/-- A short request in one piece and in three. -/
theorem size_limit_agrees_short :
    ∃ s d d', RtspSession.create 7 8 (fun _ => 0) 0 0 0 = some s ∧
      deliver s (readsOf [[97, 13, 10, 13, 10]]) = some d ∧
      deliver s (readsOf [[97], [13, 10, 13], [10]]) = some d' ∧
      ((d.HandedOver [97, 13, 10, 13, 10] ∧ d'.HandedOver [97, 13, 10, 13, 10]) ∨
        (d.Refused ∧ d'.Refused)) := by
  obtain ⟨s, hs⟩ : ∃ s, RtspSession.create 7 8 (fun _ => 0) 0 0 0 = some s := ⟨_, rfl⟩
  obtain ⟨hvalid, hopen, -, hnil⟩ := RtspSession.create_read hs (by decide)
  have hfit : Transition.Along Reader.step Reader.Fits { session := s }
      (readsOf [[97, 13, 10, 13, 10]]) := by
    obtain rfl := Option.some.inj hs
    exact ⟨⟨by decide, by decide⟩, fun _ _ => trivial⟩
  have hfit' : Transition.Along Reader.step Reader.Fits { session := s }
      (readsOf [[97], [13, 10, 13], [10]]) := by
    obtain rfl := Option.some.inj hs
    refine ⟨⟨by decide, by decide⟩, fun t ht => ?_⟩
    obtain rfl := Option.some.inj ht
    refine ⟨⟨by decide, by decide⟩, fun t ht => ?_⟩
    obtain rfl := Option.some.inj ht
    exact ⟨⟨by decide, by decide⟩, fun _ _ => trivial⟩
  obtain ⟨d, d', hd, hd', hiff⟩ := size_limit_agrees_iff s hvalid hopen hnil [97, 13, 10, 13, 10]
    (by decide) (by decide) _ _ hfit hfit' rfl rfl
  exact ⟨s, d, d', hs, hd, hd', (hiff.mpr (by decide)).1⟩

/-- A request of 4100 bytes. -/
def longRequest : Bytes := List.replicate kMaxRtspRequestDataLen 65 ++ requestTerminator

theorem longRequest_length : longRequest.length = 4100 := by
  rw [longRequest, List.length_append, List.length_replicate]
  rfl

theorem longRequest_terminated : Terminated longRequest := by
  have hclear : Clear requestTerminator (List.replicate kMaxRtspRequestDataLen 65) := by
    intro i hi
    rw [List.length_replicate] at hi
    obtain ⟨k, hk⟩ := Nat.exists_eq_add_of_lt hi
    have hdrop : (List.replicate kMaxRtspRequestDataLen (65 : UInt8)).drop i =
        65 :: List.replicate k 65 := by
      rw [List.drop_replicate, show kMaxRtspRequestDataLen - i = k + 1 by omega,
        List.replicate_succ]
    rw [hdrop]
    simp [requestTerminator]
  rw [terminated_iff, longRequest_length, longRequest, find_append_of_clear hclear,
    List.length_replicate]
  exact ⟨by decide, rfl⟩

/-- The long request is handed over when it arrives at once, and closes the connection when its
terminator comes by itself. -/
theorem size_limit_segmented :
    ∃ s d d', RtspSession.create 7 65536 (fun _ => 0) 0 0 0 = some s ∧
      deliver s (readsOf [longRequest]) = some d ∧
      deliver s (readsOf [List.replicate kMaxRtspRequestDataLen 65, requestTerminator]) = some d' ∧
      d.HandedOver longRequest ∧ d'.Refused := by
  obtain ⟨s, hs⟩ : ∃ s, RtspSession.create 7 65536 (fun _ => 0) 0 0 0 = some s := ⟨_, rfl⟩
  obtain ⟨hvalid, hopen, -, hnil⟩ := RtspSession.create_read hs (by decide)
  have hroom : s.conn.readBuffer.contiguousWritableSize = 65536 := by
    obtain rfl := Option.some.inj hs
    rfl
  have hhead : longRequest.head? ≠ some kRtpInterleavedMarker := by decide
  have hpiece : (List.replicate kMaxRtspRequestDataLen (65 : UInt8)).length = 4096 :=
    List.length_replicate
  have hfit : Transition.Along Reader.step Reader.Fits { session := s } (readsOf [longRequest]) := by
    refine ⟨⟨?_, ?_⟩, fun _ _ => trivial⟩
    · show 1 ≤ longRequest.length
      rw [longRequest_length]
      decide
    · show longRequest.length ≤ s.conn.readBuffer.contiguousWritableSize
      rw [longRequest_length, hroom]
      decide
  have hfit' : Transition.Along Reader.step Reader.Fits { session := s }
      (readsOf [List.replicate kMaxRtspRequestDataLen 65, requestTerminator]) := by
    let ev : ReadEvent := ⟨List.replicate kMaxRtspRequestDataLen 65, fun _ => .quiet, fun _ => 0⟩
    have hlong : kMaxRtspRequestDataLen ≤ ev.chunk.length := by
      show kMaxRtspRequestDataLen ≤ (List.replicate kMaxRtspRequestDataLen (65 : UInt8)).length
      rw [List.length_replicate]
    have hpos : 1 ≤ ev.chunk.length := (by decide : 1 ≤ kMaxRtspRequestDataLen).trans hlong
    have hle : ev.chunk.length ≤ s.conn.readBuffer.contiguousWritableSize := by
      show (List.replicate kMaxRtspRequestDataLen (65 : UInt8)).length ≤ _
      rw [hpiece, hroom]
      decide
    refine ⟨⟨hpos, hle⟩, fun t ht => ?_⟩
    -- the first piece closes the connection, so there is no state behind it
    have hnone : nextMessage ev.chunk = none := by
      refine (longRequest_terminated.delimits hhead).incomplete _ (List.prefix_append _ _) ?_
      intro heq
      have hlen := congrArg List.length heq
      rw [longRequest_length, hpiece] at hlen
      omega
    obtain ⟨hres, -⟩ := event_incomplete hvalid hopen hpos hle (by rw [hnil, List.nil_append])
      hnone (by decide)
    rw [decide_eq_true hlong] at hres
    have hclosed := Reader.step_of_closed (x := { session := s }) hres rfl
    rw [hclosed] at ht
    cases ht
  obtain ⟨d, hd, hout⟩ := deliver_empty hvalid hopen hnil longRequest_terminated hhead hfit
    (by simp [readsOf])
  obtain ⟨d', hd', hout'⟩ := deliver_empty hvalid hopen hnil longRequest_terminated hhead hfit'
    (by simp [readsOf, longRequest])
  refine ⟨s, d, d', hs, hd, hd', (hout.handedOver ?_).1, hout'.refused ?_⟩
  · rw [readsOf, List.map_cons, pauses_cons (by decide)]
    rintro ⟨n, -, -, hmore⟩
    simp only [longRequest_length] at hmore
    omega
  · rw [readsOf, List.map_cons, pauses_cons (by decide)]
    simp only [hpiece, longRequest_length]
    exact pauses_of_le (by decide) (by decide)

end RtspForward
