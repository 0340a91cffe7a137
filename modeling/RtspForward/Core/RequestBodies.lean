import RtspForward.Core.MessageFraming
import RtspForward.Lib.Decoding

/-!
# Requests with bodies

`ProcessConnectionData` takes a request to end at its blank line; the body that a
`Content-Length` announces stays in the read buffer and is read as if it were the next
message. That does no harm only to a body that is made of interleaved frames, and to the
last body of the stream.
-/
namespace RtspForward

open Lib Lib.Framing

/-- The request line and the header lines, with the blank line that ends them. -/
def requestHead (requestLine : Bytes) (headerLines : List Bytes) : Bytes :=
  Decoding.unlines 13 10 (requestLine :: headerLines) ++ [13, 10]

/-- The number of bytes the `Content-Length` header gives. -/
def declaredLength (headers : Headers) : Int :=
  match headers[ascii "content-length"]? with
  | none => 0
  | some value => (RtspParser.strtol value).1

/-- A well-formed request, as a client sends it. A method does not start with the marker of
an interleaved frame. -/
structure ClientRequest where
  requestLine : Bytes
  headerLines : List Bytes
  body : Bytes
  /-- What the lines say. -/
  request : RtspRequest
  tidy : ∀ line ∈ requestLine :: headerLines, line ≠ [] ∧ 13 ∉ line ∧ 10 ∉ line
  head_ne : requestLine.head? ≠ some kRtpInterleavedMarker
  parse_head : RtspParser.parse (requestHead requestLine headerLines) {} = .ok request
  body_length : (body.length : Int) = declaredLength request.headers
  length_le : (requestHead requestLine headerLines ++ body).length ≤ kMaxRtspRequestDataLen

namespace ClientRequest

def head (e : ClientRequest) : Bytes := requestHead e.requestLine e.headerLines

def bytes (e : ClientRequest) : Bytes := e.head ++ e.body

end ClientRequest

def Removal.bytes : Removal → Bytes
  | .skipped bytes | .dispatched bytes => bytes

def Removal.isDispatched : Removal → Bool
  | .skipped _ => false
  | .dispatched _ => true

/-- What was taken off the buffer, element by element: each element is taken off in messages
of its own, exactly one of which is dispatched. Of the last one, something may be left. -/
def FramedBy : List ClientRequest → List Removal → Bytes → Prop
  | [], removed, left => removed = [] ∧ left = []
  | [e], removed, left =>
    (removed.map Removal.bytes).flatten ++ left = e.bytes ∧
      (removed.filter Removal.isDispatched).length = 1
  | e :: e' :: es, removed, left =>
    ∃ own rest, removed = own ++ rest ∧ (own.map Removal.bytes).flatten = e.bytes ∧
      (own.filter Removal.isDispatched).length = 1 ∧ FramedBy (e' :: es) rest left

/-- The data is taken for a request with the method and the sequence number of the element. -/
def ParsesAs (e : ClientRequest) (data : Bytes) : Prop :=
  ∃ request, RtspParser.parse data {} = .ok request ∧
    request.method = e.request.method ∧ request.cseq = e.request.cseq

namespace RtspSession

/-- The data the loop of `ProcessConnectionData` hands to `ProcessData`, request by request. -/
def handed (env : ReadEnv) : Nat → Nat → RtspSession → List Bytes
  | 0, _, _ => []
  | fuel + 1, k, s =>
    match turn s.conn.readBuffer with
    | .wait | .tooLarge => []
    | .skip total => handed env fuel k (s.consume total)
    | .request requestLen =>
      s.conn.readBuffer.rawView requestLen env.beyond ::
        handed env fuel (k + 1) ((s.dispatch env k requestLen).session.consume requestLen)

end RtspSession

namespace Reader

/-- The data a read event hands to `ProcessData`. -/
def handed (s : Reader) (ev : ReadEvent) : List Bytes :=
  let env : ReadEnv := { recv := .data ev.chunk, request := ev.request, beyond := ev.beyond }
  let conn := (s.session.conn.recv env.recv).1
  RtspSession.handed env (conn.readBuffer.readableSize + 1) 0 { s.session with conn := conn }

/-- The requests are dispatched one for each element, in order, from the bytes of that element
alone, and with its method and its sequence number. -/
def DispatchesEach (s : Reader) (events : List ReadEvent) (elements : List ClientRequest) : Prop :=
  ∃ t, Transition.run step s events = some t ∧
    FramedBy elements t.removed t.session.conn.readBuffer.contents ∧
    List.Forall₂ ParsesAs elements
      ((Transition.trace step s events).flatMap fun p => p.1.handed p.2)

instance (s : Reader) (ev : ReadEvent) : Decidable (s.Fits ev) :=
  inferInstanceAs (Decidable (_ ∧ _))

end Reader

/-- A sequence of complete interleaved frames. -/
def IsFrames (b : Bytes) : Prop := ∃ frames : List Bytes, b = frames.flatten ∧ ∀ f ∈ frames, IsFrame f

/-- Every body but the last is a sequence of complete interleaved frames, an empty one for
instance, and behind such frames the last body holds no complete message. -/
def BodiesPass : List ClientRequest → Prop
  | [] => True
  | [e] => ∃ frames rest, e.body = frames ++ rest ∧ IsFrames frames ∧ nextMessage rest = none
  | e :: e' :: es => IsFrames e.body ∧ BodiesPass (e' :: es)

/-- The bytes at `offset` of the stream, read straight on from there in a block of `capacity`
bytes. Behind the end of the block they are whatever the memory there holds. -/
def viewAt (capacity offset : Nat) (beyond : Nat → UInt8) (m : Bytes) : Bytes :=
  m.take (capacity - offset % capacity) ++
    (List.range (m.length - (capacity - offset % capacity))).map beyond

/-- The memory behind the block in the read event that brings in the byte before position `n`
of the stream; `arrived` is the position at which the first event starts. -/
def beyondAt : Nat → List ReadEvent → Nat → Nat → UInt8
  | _, [], _ => fun _ => 0
  | arrived, ev :: events, n =>
    if n ≤ arrived + ev.chunk.length then ev.beyond
    else beyondAt (arrived + ev.chunk.length) events n

/-- A head does not run across the end of the block of the read buffer, or the memory behind the
block happens to complete it. -/
def HeadReads (capacity offset : Nat) (beyond : Nat → UInt8) (e : ClientRequest) : Prop :=
  offset % capacity + e.head.length ≤ capacity ∨ ParsesAs e (viewAt capacity offset beyond e.head)

/-- The heads can be read, the first element starting at `offset` of the stream. -/
def HeadsRead (capacity : Nat) (beyond : Nat → Nat → UInt8) : Nat → List ClientRequest → Prop
  | _, [] => True
  | offset, e :: es =>
    HeadReads capacity offset (beyond (offset + e.head.length)) e ∧
      HeadsRead capacity beyond (offset + e.bytes.length) es

/-! ## Complete and incomplete messages -/

theorem frameTotal_append {b : Bytes} (h : 4 ≤ b.length) (rest : Bytes) :
    frameTotal (b ++ rest) = frameTotal b := by
  match b, h with
  | _ :: _ :: _ :: _ :: _, _ => rfl

/-- A message that ends inside a prefix is complete there. -/
theorem nextMessage_of_append {b rest : Bytes} {n : Nat} (h : nextMessage (b ++ rest) = some n)
    (hn : n ≤ b.length) : nextMessage b = some n := by
  have hfour : 4 ≤ b.length := (nextMessage_bounds h).1.trans hn
  rw [nextMessage, frameTotal_append hfour] at h
  rw [nextMessage]
  cases htotal : frameTotal b with
  | some total =>
    simp only [htotal] at h ⊢
    split at h
    · cases h
    · obtain rfl := Option.some.inj h
      rw [if_neg (by omega)]
  | none =>
    simp only [htotal] at h ⊢
    obtain ⟨i, hfind, rfl⟩ := Option.map_eq_some_iff.mp h
    obtain ⟨hoccurs, hfirst⟩ := Search.find_eq_some.mp hfind
    have hfront : Search.find requestTerminator b = some i :=
      Search.find_eq_some.mpr ⟨hoccurs.of_append hn, fun j hj ho => hfirst j hj (ho.append rest)⟩
    rw [hfront, Option.map_some]

theorem nextMessage_pos (b : Bytes) (n : Nat) (h : nextMessage b = some n) :
    0 < n ∧ n ≤ b.length := by
  obtain ⟨hfour, hle⟩ := nextMessage_bounds h
  exact ⟨by omega, hle⟩

/-- What is taken off when something more arrives does not end in what was there before. -/
theorem first_message_longer {b later p : Bytes} {ms : List Bytes} (hnone : nextMessage b = none)
    (h : Drains nextMessage (b ++ later) ms p) : ∀ m ∈ ms.head?, b.length < m.length := by
  generalize hall : b ++ later = all at h
  cases h with
  | stop => simp
  | @take _ _ n ms hnext _ =>
    subst hall
    intro m hm
    obtain rfl := Option.some.inj hm
    rw [List.length_take, Nat.min_eq_left (nextMessage_bounds hnext).2]
    by_contra hn
    rw [nextMessage_of_append hnext (by omega)] at hnone
    cases hnone

/-- What is taken off behind a marker is a frame. -/
theorem isFrame_take {b : Bytes} {n : Nat} (h : nextMessage b = some n)
    (hmarker : (b.take n).head? = some kRtpInterleavedMarker) : IsFrame (b.take n) := by
  obtain ⟨hfour, hle⟩ := nextMessage_bounds h
  match b, hfour.trans hle with
  | marker :: channel :: hi :: lo :: payload, _ =>
    obtain ⟨k, rfl⟩ : ∃ k, n = k + 4 := ⟨n - 4, by omega⟩
    obtain rfl : marker = kRtpInterleavedMarker := by simpa using hmarker
    simp only [nextMessage, frameTotal, ↓reduceIte, Option.ite_none_left_eq_some,
      Option.some.injEq] at h
    refine ⟨channel, hi, lo, payload.take k, rfl, ?_⟩
    simp only [List.length_cons] at hle
    rw [List.length_take]
    omega

/-- A frame that has not arrived completely. -/
theorem exists_frame {p : Bytes} (hmarker : p.head? = some kRtpInterleavedMarker)
    (hnone : nextMessage p = none) : ∃ c, IsFrame c ∧ p <+: c ∧ p ≠ c := by
  match p with
  | [marker] =>
    obtain rfl : marker = kRtpInterleavedMarker := by simpa using hmarker
    exact ⟨[kRtpInterleavedMarker, 0, 0, 0], ⟨0, 0, 0, [], rfl, rfl⟩, ⟨_, rfl⟩, by simp⟩
  | [marker, channel] =>
    obtain rfl : marker = kRtpInterleavedMarker := by simpa using hmarker
    exact ⟨[kRtpInterleavedMarker, channel, 0, 0], ⟨channel, 0, 0, [], rfl, rfl⟩, ⟨_, rfl⟩, by simp⟩
  | [marker, channel, hi] =>
    obtain rfl : marker = kRtpInterleavedMarker := by simpa using hmarker
    refine ⟨kRtpInterleavedMarker :: channel :: hi :: 0 :: List.replicate (hi.toNat * 256) 0,
      ⟨channel, hi, 0, _, rfl, ?_⟩, ⟨_, rfl⟩, by simp⟩
    rw [List.length_replicate, UInt8.toNat_zero, Nat.add_zero]
  | marker :: channel :: hi :: lo :: payload =>
    obtain rfl : marker = kRtpInterleavedMarker := by simpa using hmarker
    simp only [nextMessage, frameTotal, ↓reduceIte, ite_eq_left_iff, reduceCtorEq, imp_false,
      not_not, List.length_cons] at hnone
    -- as many bytes as the header still asks for
    let missing := List.replicate (hi.toNat * 256 + lo.toNat - payload.length) (0 : UInt8)
    have hlen : (payload ++ missing).length = hi.toNat * 256 + lo.toNat := by
      rw [List.length_append, List.length_replicate]
      omega
    refine ⟨_, ⟨channel, hi, lo, payload ++ missing, rfl, hlen⟩, ⟨missing, rfl⟩, fun heq => ?_⟩
    have hlen' := congrArg List.length heq
    simp only [List.length_cons, hlen] at hlen'
    omega

/-- A request that has not arrived completely. -/
theorem exists_request {p : Bytes} (hmarker : p.head? ≠ some kRtpInterleavedMarker)
    (hnone : nextMessage p = none) (hshort : p.length + 5 ≤ kMaxRtspRequestDataLen) :
    IsRequest (p ++ [120, 13, 10, 13, 10]) where
  head_ne := by
    cases p with
    | nil => decide
    | cons b p => simpa using hmarker
  four_le := by simp
  le_max := by simpa using hshort
  terminator_iff i := by
    rw [nextMessage, frameTotal_other hmarker, Option.map_eq_none_iff] at hnone
    have hfour : requestTerminator.length = 4 := rfl
    rw [List.length_append]
    constructor
    · intro hi
      have hle := hi.le
      rw [List.length_append] at hle
      have hend : p.length < i + 4 := by
        by_contra hin
        exact Search.find_eq_none.mp hnone i (hi.of_append (by omega))
      -- the terminator does not hold the byte behind `p`
      by_contra hne
      have hlast : i ≤ p.length := by
        simp only [List.length_cons, List.length_nil] at hle hne
        omega
      obtain ⟨later, hlater⟩ := hi.2
      have hbyte : (p ++ [120, 13, 10, 13, 10])[p.length]? = requestTerminator[p.length - i]? := by
        rw [← List.take_append_drop i (p ++ [120, 13, 10, 13, 10]), ← hlater,
          List.getElem?_append_right (by simp; omega), List.getElem?_append_left (by simp; omega)]
        congr 1
        simp
        omega
      rw [List.getElem?_append_right (Nat.le_refl _), Nat.sub_self] at hbyte
      have hmem : (120 : UInt8) ∈ requestTerminator := List.mem_of_getElem? hbyte.symm
      exact absurd hmem (by decide)
    · intro hi
      obtain rfl : i = p.length + 1 := by
        simp only [List.length_cons, List.length_nil] at hi
        omega
      refine ⟨by simp, ?_⟩
      rw [List.drop_append, List.drop_eq_nil_of_le (by omega), Nat.add_sub_cancel_left]
      exact List.prefix_rfl

/-! ## The elements as messages -/

namespace ClientRequest

variable (e : ClientRequest)

theorem head_append (rest : Bytes) :
    ∃ i, Search.find requestTerminator (e.head ++ rest) = some i ∧ i + 4 = e.head.length := by
  obtain ⟨hline, hlines⟩ := List.forall_mem_cons.mp e.tidy
  obtain ⟨i, hfind, hi⟩ := Decoding.find_block (by decide : (13 : UInt8) ≠ 10) hline.2.1
    (fun line hmem => ⟨(hlines line hmem).2.1, (hlines line hmem).1⟩) rest
  refine ⟨i, ?_, ?_⟩
  · rw [head, requestHead, List.append_assoc]
    exact hfind
  · rw [head, requestHead, List.length_append, ← hi]
    rfl

theorem head_head? (rest : Bytes) : (e.head ++ rest).head? = e.requestLine.head? := by
  have hne : e.requestLine ≠ [] := (e.tidy e.requestLine (by simp)).1
  rw [head, requestHead, Decoding.unlines_cons]
  simp only [List.append_assoc, List.head?_append_of_ne_nil _ hne]

/-- A request line, and two line ends. -/
theorem five_le_head : 5 ≤ e.head.length := by
  have hne : e.requestLine ≠ [] := (e.tidy e.requestLine (by simp)).1
  have hpos := List.length_pos_of_ne_nil hne
  rw [head, requestHead, Decoding.unlines_cons]
  simp only [List.length_append, List.length_cons, List.length_nil]
  omega

theorem bytes_length_le : e.head.length + e.body.length ≤ kMaxRtspRequestDataLen := by
  have hle := e.length_le
  rwa [List.length_append] at hle

theorem isRequest_head : IsRequest e.head where
  head_ne := by
    have hhead := e.head_head? []
    rw [List.append_nil] at hhead
    rw [hhead]
    exact e.head_ne
  four_le := by
    have hfive := e.five_le_head
    omega
  le_max := by
    have hle := e.bytes_length_le
    omega
  terminator_iff j := by
    obtain ⟨i, hfind, hi⟩ := e.head_append []
    rw [List.append_nil] at hfind
    obtain ⟨hoccurs, hfirst⟩ := Search.find_eq_some.mp hfind
    constructor
    · intro hj
      have hle : j + 4 ≤ e.head.length := hj.le
      have hnot : ¬ j < i := fun hlt => hfirst j hlt hj
      omega
    · intro hj
      obtain rfl : j = i := by omega
      exact hoccurs

theorem removal_head : Removal.of e.head = .dispatched e.head := by
  rw [Removal.of, if_neg e.isRequest_head.head_ne]

end ClientRequest

/-- The messages that a stream of elements which pass is taken apart into, and what is left. -/
inductive Splits : List ClientRequest → List Bytes → Bytes → Prop
  | nil : Splits [] [] []
  | last {e : ClientRequest} {frames : List Bytes} {p : Bytes} : (∀ f ∈ frames, IsFrame f) →
      e.body = frames.flatten ++ p → nextMessage p = none → Splits [e] (e.head :: frames) p
  | cons {e e' : ClientRequest} {es : List ClientRequest} {frames ms : List Bytes} {p : Bytes} :
      (∀ f ∈ frames, IsFrame f) → e.body = frames.flatten → Splits (e' :: es) ms p →
      Splits (e :: e' :: es) (e.head :: (frames ++ ms)) p

theorem bodiesPass_iff {elements : List ClientRequest} :
    BodiesPass elements ↔ ∃ ms p, Splits elements ms p := by
  induction elements with
  | nil => exact ⟨fun _ => ⟨[], [], .nil⟩, fun _ => trivial⟩
  | cons e es ih =>
    cases es with
    | nil =>
      constructor
      · rintro ⟨_, p, hbody, ⟨frames, rfl, hframes⟩, hnone⟩
        exact ⟨_, p, .last hframes hbody hnone⟩
      · rintro ⟨_, p, hsplits⟩
        cases hsplits with
        | last hframes hbody hnone => exact ⟨_, p, hbody, ⟨_, rfl, hframes⟩, hnone⟩
    | cons e' es =>
      constructor
      · intro ⟨⟨frames, hbody, hframes⟩, hrest⟩
        obtain ⟨ms, p, hsplits⟩ := ih.mp hrest
        exact ⟨_, p, .cons hframes hbody hsplits⟩
      · rintro ⟨_, p, hsplits⟩
        cases hsplits with
        | cons hframes hbody hrest => exact ⟨⟨_, hbody, hframes⟩, ih.mpr ⟨_, p, hrest⟩⟩

namespace Splits

variable {elements : List ClientRequest} {ms : List Bytes} {p : Bytes}

theorem flatten_append (h : Splits elements ms p) :
    ms.flatten ++ p = (elements.map ClientRequest.bytes).flatten := by
  induction h with
  | nil => rfl
  | last _ hbody _ => simp [ClientRequest.bytes, hbody]
  | cons _ hbody _ ih =>
    rw [List.map_cons, List.flatten_cons, List.flatten_cons, ← ih]
    simp [ClientRequest.bytes, hbody]

theorem isMessage (h : Splits elements ms p) : ∀ m ∈ ms, IsMessage m := by
  induction h with
  | nil => simp
  | @last e frames p hframes _ _ =>
    intro m hm
    rcases List.mem_cons.mp hm with rfl | hm
    · exact .inr e.isRequest_head
    · exact .inl (hframes m hm)
  | @cons e e' es frames ms p hframes _ _ ih =>
    intro m hm
    rcases List.mem_cons.mp hm with rfl | hm
    · exact .inr e.isRequest_head
    · rcases List.mem_append.mp hm with hm | hm
      · exact .inl (hframes m hm)
      · exact ih m hm

theorem next_eq_none (h : Splits elements ms p) : nextMessage p = none := by
  induction h with
  | nil => exact nextMessage_nil
  | last _ _ hnone => exact hnone
  | cons _ _ _ ih => exact ih

/-- What is left of a body is short enough to become a request of bounded length. -/
theorem rest_short (h : Splits elements ms p) : p.length + 5 ≤ kMaxRtspRequestDataLen := by
  induction h with
  | nil => decide
  | @last e frames p _ hbody _ =>
    have hle := e.bytes_length_le
    have hfive := e.five_le_head
    rw [hbody, List.length_append] at hle
    omega
  | cons _ _ _ ih => exact ih

/-- What is left is the beginning of some message. -/
theorem exists_message (h : Splits elements ms p) : ∃ c, IsMessage c ∧ p <+: c ∧ p ≠ c := by
  by_cases hmarker : p.head? = some kRtpInterleavedMarker
  · obtain ⟨c, hframe, hp, hne⟩ := exists_frame hmarker h.next_eq_none
    exact ⟨c, .inl hframe, hp, hne⟩
  · exact ⟨_, .inr (exists_request hmarker h.next_eq_none h.rest_short), List.prefix_append _ _,
      by simp⟩

end Splits

theorem IsFrame.head? {m : Bytes} (h : IsFrame m) : m.head? = some kRtpInterleavedMarker := by
  obtain ⟨channel, hi, lo, payload, rfl, -⟩ := h
  rfl

theorem Removal.bytes_of (m : Bytes) : (Removal.of m).bytes = m := by
  rw [Removal.of]
  split <;> rfl

theorem Removal.bytes_map_of (ms : List Bytes) : (ms.map Removal.of).map Removal.bytes = ms := by
  simp [Function.comp_def, Removal.bytes_of]

theorem Removal.isDispatched_of {m : Bytes} :
    (Removal.of m).isDispatched = false ↔ m.head? = some kRtpInterleavedMarker := by
  rw [Removal.of]
  split <;> simp_all [Removal.isDispatched]

/-- Frames are skipped. -/
theorem filter_frames {frames : List Bytes} (h : ∀ f ∈ frames, IsFrame f) :
    (frames.map Removal.of).filter Removal.isDispatched = [] := by
  rw [List.filter_eq_nil_iff]
  intro r hr
  obtain ⟨f, hf, rfl⟩ := List.mem_map.mp hr
  rw [Removal.isDispatched_of.mpr (h f hf).head?]
  exact Bool.false_ne_true

theorem Splits.framedBy {elements : List ClientRequest} {ms : List Bytes} {p : Bytes}
    (h : Splits elements ms p) : FramedBy elements (ms.map Removal.of) p := by
  induction h with
  | nil => exact ⟨rfl, rfl⟩
  | @last e frames p hframes hbody _ =>
    refine ⟨?_, ?_⟩
    · rw [Removal.bytes_map_of, ClientRequest.bytes, hbody, List.flatten_cons, List.append_assoc]
    · rw [List.map_cons, e.removal_head, List.filter_cons_of_pos rfl, filter_frames hframes]
      rfl
  | @cons e e' es frames ms p hframes hbody _ ih =>
    refine ⟨(e.head :: frames).map Removal.of, ms.map Removal.of, by simp, ?_, ?_, ih⟩
    · rw [Removal.bytes_map_of, ClientRequest.bytes, hbody, List.flatten_cons]
    · rw [List.map_cons, e.removal_head, List.filter_cons_of_pos rfl, filter_frames hframes]
      rfl

/-- Messages taken off an element, one of them dispatched, are its head and frames. -/
theorem ClientRequest.cuts_frames (e : ClientRequest) {s q : Bytes} {ms : List Bytes}
    (hcuts : Cuts nextMessage (e.head ++ s) ms q)
    (hone : ((ms.map Removal.of).filter Removal.isDispatched).length = 1) :
    ∃ frames, ms = e.head :: frames ∧ (∀ f ∈ frames, IsFrame f) ∧ frames.flatten ++ q = s := by
  cases ms with
  | nil => cases hone
  | cons m frames =>
    obtain ⟨rfl, hrest⟩ := hcuts.head_eq e.isRequest_head.delimits
    refine ⟨frames, rfl, fun f hf => ?_, hrest.flatten_append⟩
    rw [List.map_cons, e.removal_head, List.filter_cons_of_pos rfl, List.length_cons,
      Nat.add_eq_right, List.length_eq_zero_iff, List.filter_eq_nil_iff] at hone
    have hskipped := hone (Removal.of f) (List.mem_map_of_mem hf)
    obtain ⟨b, n, hnext, rfl⟩ := hrest.exists_next hf
    exact isFrame_take hnext (Removal.isDispatched_of.mp (Bool.eq_false_iff.mpr hskipped))

/-- Conversely, elements that are taken off one by one pass. -/
theorem FramedBy.splits {p : Bytes} (hnone : nextMessage p = none) :
    ∀ {elements : List ClientRequest} {ms : List Bytes}, FramedBy elements (ms.map Removal.of) p →
      Cuts nextMessage (elements.map ClientRequest.bytes).flatten ms p → Splits elements ms p := by
  intro elements
  induction elements with
  | nil =>
    rintro ms ⟨hms, rfl⟩ _
    obtain rfl := List.map_eq_nil_iff.mp hms
    exact .nil
  | cons e es ih =>
    intro ms hframed hcuts
    cases es with
    | nil =>
      simp only [List.map_cons, List.map_nil, List.flatten_cons, List.flatten_nil, List.append_nil,
        ClientRequest.bytes] at hcuts
      obtain ⟨frames, rfl, hframes, hbody⟩ := e.cuts_frames hcuts hframed.2
      exact .last hframes hbody.symm hnone
    | cons e' es =>
      obtain ⟨own, rest, hms, hown, hone, hrest⟩ := hframed
      obtain ⟨ms₁, ms₂, rfl, rfl, rfl⟩ := List.map_eq_append_iff.mp hms
      rw [Removal.bytes_map_of] at hown
      obtain ⟨q, hfirst, hlater⟩ := hcuts.split
      -- the messages of the first element are its bytes, so the others start behind it
      have hq := hfirst.flatten_append
      rw [hown, List.map_cons, List.flatten_cons] at hq
      obtain rfl := List.append_cancel_left hq
      rw [List.map_cons, List.flatten_cons, ClientRequest.bytes, List.append_assoc] at hfirst
      obtain ⟨frames, rfl, hframes, hbody⟩ := e.cuts_frames hfirst hone
      exact .cons hframes (List.append_cancel_right hbody).symm (ih hrest hlater)

/-! ## What is handed to the parser -/

/-- Up to the end of the block the bytes are those of the stream. -/
theorem viewAt_eq {capacity offset : Nat} {m : Bytes} (beyond : Nat → UInt8)
    (h : offset % capacity + m.length ≤ capacity) : viewAt capacity offset beyond m = m := by
  have hroom : m.length ≤ capacity - offset % capacity := by omega
  rw [viewAt, List.take_of_length_le hroom, Nat.sub_eq_zero_of_le hroom]
  exact List.append_nil m

/-- The raw view of the front of the read buffer. -/
theorem RingBuffer.rawView_viewAt {r : RingBuffer} (h : r.Valid) {offset n : Nat}
    (hpos : r.readPos = offset % r.capacity) (hn : n ≤ r.readableSize) (beyond : Nat → UInt8) :
    r.rawView n beyond = viewAt r.capacity offset beyond (r.contents.take n) := by
  have hlt := h.readPos_lt
  have htake : r.contents.take n = Circular.window r.buffer r.readPos n := by
    rw [contents, Circular.take_window _ _ hn]
  by_cases hin : r.readPos + n ≤ r.capacity
  · rw [viewAt_eq beyond (by rw [← hpos, htake, Circular.length_window]; exact hin), htake]
    exact rawView_eq h hin beyond
  · obtain ⟨k, rfl⟩ : ∃ k, n = (r.capacity - r.readPos) + k := ⟨n - (r.capacity - r.readPos), by omega⟩
    -- the part inside the block, and the part behind it
    have hsplit : r.rawView (r.capacity - r.readPos + k) beyond =
        r.rawView (r.capacity - r.readPos) beyond ++ (List.range k).map beyond := by
      rw [rawView, rawView, List.range_add, List.map_append, List.map_map]
      congr 1
      apply List.map_congr_left
      intro i _
      rw [Function.comp_apply, if_neg (by omega)]
      congr 1
      omega
    rw [hsplit, rawView_eq h (by omega), viewAt, htake, ← hpos, Circular.length_window,
      Circular.take_window _ _ (by omega), Nat.add_sub_cancel_left]

/-- The data handed over for some messages, the first of which starts at `offset`. -/
def views (capacity : Nat) (beyond : Nat → Nat → UInt8) : Nat → List Bytes → List Bytes
  | _, [] => []
  | offset, m :: ms =>
    if m.head? = some kRtpInterleavedMarker then views capacity beyond (offset + m.length) ms
    else
      viewAt capacity offset (beyond (offset + m.length)) m ::
        views capacity beyond (offset + m.length) ms

theorem views_append (capacity : Nat) (beyond : Nat → Nat → UInt8) (ms ms' : List Bytes) :
    ∀ offset, views capacity beyond offset (ms ++ ms') =
      views capacity beyond offset ms ++ views capacity beyond (offset + ms.flatten.length) ms' := by
  induction ms with
  | nil => exact fun _ => rfl
  | cons m ms ih =>
    intro offset
    simp only [List.cons_append, views, List.flatten_cons, List.length_append, ih, Nat.add_assoc]
    split <;> rfl

/-- Frames are not handed over. -/
theorem views_frames (capacity : Nat) (beyond : Nat → Nat → UInt8) {frames : List Bytes}
    (h : ∀ f ∈ frames, IsFrame f) : ∀ offset, views capacity beyond offset frames = [] := by
  induction frames with
  | nil => exact fun _ => rfl
  | cons f frames ih =>
    intro offset
    obtain ⟨hframe, hframes⟩ := List.forall_mem_cons.mp h
    rw [views, if_pos hframe.head?]
    exact ih hframes _

/-- The data depends on the memory at the ends of the messages only. -/
theorem views_congr {capacity lo hi : Nat} {f g : Nat → Nat → UInt8}
    (hfg : ∀ n, lo < n → n ≤ hi → f n = g n) :
    ∀ {ms : List Bytes} {offset : Nat}, (∀ m ∈ ms.head?, lo < offset + m.length) →
      offset + ms.flatten.length ≤ hi → views capacity f offset ms = views capacity g offset ms := by
  intro ms
  induction ms with
  | nil => exact fun _ _ => rfl
  | cons m ms ih =>
    intro offset hlo hhi
    have hend : lo < offset + m.length := hlo m rfl
    rw [List.flatten_cons, List.length_append] at hhi
    have hrest : views capacity f (offset + m.length) ms = views capacity g (offset + m.length) ms :=
      ih (fun m' _ => by omega) (by omega)
    rw [views, views, hrest, hfg _ hend (by omega)]

/-- A head that reaches the parser whole is taken for the request it is. -/
theorem ClientRequest.parsesAs_viewAt (e : ClientRequest) (capacity offset : Nat)
    (beyond : Nat → UInt8) :
    ParsesAs e (viewAt capacity offset beyond e.head) ↔ HeadReads capacity offset beyond e := by
  constructor
  · exact .inr
  · rintro (hin | hparses)
    · rw [viewAt_eq beyond hin]
      exact ⟨e.request, e.parse_head, rfl, rfl⟩
    · exact hparses

theorem ClientRequest.views_cons (e : ClientRequest) (capacity : Nat) (beyond : Nat → Nat → UInt8)
    (offset : Nat) (ms : List Bytes) :
    views capacity beyond offset (e.head :: ms) =
      viewAt capacity offset (beyond (offset + e.head.length)) e.head ::
        views capacity beyond (offset + e.head.length) ms := by
  rw [views, if_neg e.isRequest_head.head_ne]

/-- What is handed over for elements that pass is one head for each of them. -/
theorem Splits.parsesAs_views {elements : List ClientRequest} {ms : List Bytes} {p : Bytes}
    (h : Splits elements ms p) (capacity : Nat) (beyond : Nat → Nat → UInt8) :
    ∀ offset, List.Forall₂ ParsesAs elements (views capacity beyond offset ms) ↔
      HeadsRead capacity beyond offset elements := by
  induction h with
  | nil => exact fun _ => ⟨fun _ => trivial, fun _ => .nil⟩
  | @last e frames p hframes _ _ =>
    intro offset
    rw [e.views_cons, views_frames capacity beyond hframes, List.forall₂_cons,
      e.parsesAs_viewAt, HeadsRead, HeadsRead]
    simp
  | @cons e e' es frames ms p hframes hbody _ ih =>
    intro offset
    have hnext : offset + e.head.length + frames.flatten.length = offset + e.bytes.length := by
      rw [ClientRequest.bytes, List.length_append, hbody, Nat.add_assoc]
    rw [e.views_cons, views_append, views_frames capacity beyond hframes, List.nil_append, hnext,
      List.forall₂_cons, e.parsesAs_viewAt, ih]
    rfl

/-! ## The run of the reader -/

namespace RtspSession

open RingBuffer (ReadSide)

theorem create_readPos {fd now : Int} {bufferSize timestamp seq : Nat} {garbage : Nat → UInt8}
    {s : RtspSession} (h : create fd bufferSize garbage timestamp seq now = some s) :
    s.conn.readBuffer.readPos = 0 := by
  obtain ⟨conn, hconn, rfl⟩ := Option.map_eq_some_iff.mp h
  unfold Connection.create at hconn
  split at hconn
  · rename_i r w hr hw
    obtain rfl := Option.some.inj hconn
    exact RingBuffer.create_readPos hr
  · cases hconn

/-- The front of the read buffer moves on by what is consumed. -/
theorem aligned_consume {capacity offset n : Nat} {s t : RtspSession}
    (h : (ReadSide.mk s.conn.readBuffer offset).Aligned capacity)
    (hread : t.conn.readBuffer = s.conn.readBuffer) (hn : n ≤ s.conn.readBuffer.readableSize) :
    (ReadSide.mk (t.consume n).conn.readBuffer (offset + n)).Aligned capacity := by
  have hstep : ReadSide.step ⟨s.conn.readBuffer, offset⟩ (.consume n) =
      some ⟨s.conn.readBuffer.consume n, offset + n⟩ := by
    rw [ReadSide.step, Nat.min_eq_left hn]
  simpa only [consume, Connection.consume, hread] using ReadSide.aligned_step h hstep

/-- The loop hands over the requests among the messages it takes off. -/
theorem handed_drains (env : ReadEnv) {capacity : Nat} {b p : Bytes} {done : List Bytes}
    (hdrain : Drains nextMessage b done p) :
    ∀ {fuel k offset : Nat} {s : RtspSession},
      (ReadSide.mk s.conn.readBuffer offset).Aligned capacity →
      s.conn.readBuffer.contents = b → b.length < fuel →
      handed env fuel k s = views capacity (fun _ => env.beyond) offset done ∧
        ∀ res, readLoop env fuel k s = some res →
          (ReadSide.mk res.session.conn.readBuffer (offset + done.flatten.length)).Aligned
            capacity := by
  induction hdrain with
  | @stop b hnone =>
    intro fuel k offset s h hb hfuel
    cases fuel with
    | zero => omega
    | succ fuel =>
      have hturn := turn_eq h.valid
      simp only [hb, hnone] at hturn
      split at hturn
      all_goals
        refine ⟨by rw [handed, hturn]; rfl, fun res hres => ?_⟩
        simp only [readLoop, hturn, Option.some.injEq] at hres
        subst hres
        exact h
  | @take b rest n ms hnext hrest ih =>
    intro fuel k offset s h hb hfuel
    obtain ⟨hfour, hle⟩ := nextMessage_bounds hnext
    have hn : n ≤ s.conn.readBuffer.readableSize := by
      rwa [← RingBuffer.length_contents, hb]
    have hlen : (b.take n).length = n := by
      rw [List.length_take, Nat.min_eq_left hle]
    have hend : offset + (b.take n :: ms).flatten.length = offset + n + ms.flatten.length := by
      rw [List.flatten_cons, List.length_append, hlen, Nat.add_assoc]
    cases fuel with
    | zero => omega
    | succ fuel =>
      have hdrop : (b.drop n).length < fuel := by
        rw [List.length_drop]
        omega
      have hturn := turn_take h.valid hb hnext
      rw [views, hlen, hend]
      by_cases hmarker : (b.take n).head? = some kRtpInterleavedMarker
      · rw [if_pos hmarker] at hturn
        have hcontents : (s.consume n).conn.readBuffer.contents = b.drop n := by
          rw [(readsTo_consume (t := s) h.valid rfl rfl n).contents_eq, hb]
        obtain ⟨hhanded, hreads⟩ := ih (k := k) (aligned_consume (t := s) h rfl hn) hcontents hdrop
        refine ⟨by simp only [handed, hturn, hhanded, hmarker, ↓reduceIte], fun res hres => ?_⟩
        simp only [readLoop, hturn, Option.map_eq_some_iff] at hres
        obtain ⟨res, hres, rfl⟩ := hres
        exact hreads res hres
      · rw [if_neg hmarker] at hturn
        obtain ⟨hread, hfd⟩ := s.dispatch_read env k n
        have hcontents :
            ((s.dispatch env k n).session.consume n).conn.readBuffer.contents = b.drop n := by
          rw [(readsTo_consume h.valid hread hfd n).contents_eq, hb]
        have hview : s.conn.readBuffer.rawView n env.beyond =
            viewAt capacity offset env.beyond (b.take n) := by
          rw [RingBuffer.rawView_viewAt h.valid (by rw [h.readPos_eq, h.capacity_eq]) hn,
            h.capacity_eq, hb]
        obtain ⟨hhanded, hreads⟩ := ih (k := k + 1) (aligned_consume h hread hn) hcontents hdrop
        refine ⟨by simp only [handed, hturn, hhanded, hview, hmarker, ↓reduceIte], fun res hres => ?_⟩
        simp only [readLoop, hturn, Option.map_eq_some_iff] at hres
        obtain ⟨res, hres, rfl⟩ := hres
        exact hreads res hres

end RtspSession

namespace Reader

open RingBuffer (ReadSide)

/-- Between two read events: the connection is open, the front of the read buffer is at `offset`
of the stream, and there is no complete message in it. -/
structure At (capacity offset : Nat) (s : Reader) : Prop where
  aligned : (ReadSide.mk s.session.conn.readBuffer offset).Aligned capacity
  opened : s.session.conn.isClosed = false
  idle : nextMessage s.session.conn.readBuffer.contents = none

/-- One read event. -/
theorem step_at {capacity offset : Nat} {s t : Reader} {ev : ReadEvent} (h : s.At capacity offset)
    (hfit : s.Fits ev) (hstep : s.step ev = some t) :
    ∃ ms, Drains nextMessage (s.session.conn.readBuffer.contents ++ ev.chunk) ms
        t.session.conn.readBuffer.contents ∧
      t.removed = s.removed ++ ms.map Removal.of ∧
      s.handed ev = views capacity (fun _ => ev.beyond) offset ms ∧
      t.At capacity (offset + ms.flatten.length) := by
  obtain ⟨hpos, hroom⟩ := hfit
  obtain ⟨ms, p, hdrain⟩ :=
    exists_drains nextMessage_pos (s.session.conn.readBuffer.contents ++ ev.chunk)
  let env : ReadEnv := { recv := .data ev.chunk, request := ev.request, beyond := ev.beyond }
  obtain ⟨res, hres, -, hremoved, hreads⟩ := RtspSession.processConnectionData_drains env rfl
    h.aligned.valid h.opened hpos hroom hdrain
  -- the event did not close the connection
  have ht : t = ⟨res.session, s.removed ++ res.removed⟩ := by
    simp only [step, hres, env] at hstep
    split at hstep
    · cases hstep
    · exact (Option.some.inj hstep).symm
  subst ht
  have hfill : ReadSide.step ⟨s.session.conn.readBuffer, offset⟩ (.recv ev.chunk) =
      some ⟨s.session.conn.readBuffer.fill ev.chunk, offset⟩ := by
    rw [ReadSide.step, if_pos hroom]
  have hfilled := RtspSession.readsTo_filled h.aligned.valid hroom
  obtain ⟨hhanded, haligned⟩ := RtspSession.handed_drains env hdrain (k := 0)
    (s := s.session.filled ev.chunk) (ReadSide.aligned_step h.aligned hfill) hfilled.contents_eq
    (Nat.lt_succ_self _)
  refine ⟨ms, by rwa [hreads.contents_eq], by rw [hremoved], ?_, ?_, ?_, ?_⟩
  · rw [← hfilled.contents_eq, RingBuffer.length_contents] at hhanded
    rw [handed, RtspSession.recv_chunk h.aligned.valid h.opened hpos hroom]
    exact hhanded
  · rw [RtspSession.processConnectionData_chunk env rfl h.aligned.valid h.opened hpos hroom] at hres
    exact haligned res hres
  · have hopen := h.opened
    rwa [Connection.isClosed, ← hreads.fd_eq] at hopen
  · rw [hreads.contents_eq]
    exact hdrain.next_eq_none

/-- Whole deliveries, by induction on the read events: what is taken off, and what is handed to
the parser for it. -/
theorem run_at {capacity : Nat} {events : List ReadEvent} :
    ∀ {offset : Nat} {s t : Reader}, s.At capacity offset → Transition.Along step Fits s events →
      Transition.run step s events = some t →
      ∃ ms, Cuts nextMessage
          (s.session.conn.readBuffer.contents ++ (events.map ReadEvent.chunk).flatten) ms
          t.session.conn.readBuffer.contents ∧
        t.removed = s.removed ++ ms.map Removal.of ∧
        ((Transition.trace step s events).flatMap fun p => p.1.handed p.2) =
          views capacity (beyondAt (offset + s.session.conn.readBuffer.contents.length) events)
            offset ms ∧
        nextMessage t.session.conn.readBuffer.contents = none ∧
        ∀ m ∈ ms.head?, s.session.conn.readBuffer.contents.length < m.length := by
  induction events with
  | nil =>
    intro offset s t h _ hrun
    obtain rfl := Option.some.inj hrun
    refine ⟨[], ?_, by simp, rfl, h.idle, by simp⟩
    rw [List.map_nil, List.flatten_nil, List.append_nil]
    exact .stop
  | cons ev events ih =>
    intro offset s u h hfit hrun
    obtain ⟨t, ht, hrun⟩ := Transition.run_cons.mp hrun
    obtain ⟨ms, hdrain, hremoved, hhanded, hat⟩ := step_at h hfit.1 ht
    obtain ⟨ms', hcuts', hremoved', hhanded', hnone', hlong'⟩ := ih hat (hfit.2 t ht) hrun
    have hcuts := hdrain.cuts nextMessage_pos (events.map ReadEvent.chunk).flatten
    have hlong := first_message_longer h.idle hdrain
    -- where the stream stands behind this event
    have hbytes := (hdrain.cuts nextMessage_pos []).flatten_append
    have hlen := congrArg List.length hbytes
    simp only [List.append_nil, List.length_append] at hlen
    refine ⟨ms ++ ms', ?_, ?_, ?_, hnone', ?_⟩
    · rw [List.map_cons, List.flatten_cons, ← List.append_assoc]
      exact hcuts.trans hcuts'
    · rw [hremoved', hremoved, List.map_append, List.append_assoc]
    · -- a message of this event ends in what has arrived now, a later one behind it
      let arrived := offset + s.session.conn.readBuffer.contents.length
      have hnow : ∀ n, arrived < n → n ≤ arrived + ev.chunk.length →
          ev.beyond = beyondAt arrived (ev :: events) n := by
        intro n _ hn
        rw [beyondAt, if_pos hn]
      have hlater : ∀ n, arrived + ev.chunk.length < n →
          n ≤ offset + ms.flatten.length + ms'.flatten.length →
          beyondAt (offset + ms.flatten.length + t.session.conn.readBuffer.contents.length)
            events n = beyondAt arrived (ev :: events) n := by
        intro n hn _
        rw [beyondAt, if_neg (by omega)]
        congr 1
        omega
      rw [Transition.trace, ht, List.flatMap_cons, hhanded, hhanded', views_append,
        views_congr hnow (fun m hm => by have := hlong m hm; omega) (by omega),
        views_congr hlater (fun m hm => by have := hlong' m hm; omega) (Nat.le_refl _)]
    · cases ms with
      | nil =>
        intro m hm
        have hm := hlong' m hm
        simp only [List.flatten_nil, List.length_nil] at hlen
        omega
      | cons m ms => exact hlong

end Reader

theorem Removal.of_injective : Function.Injective Removal.of :=
  Function.LeftInverse.injective Removal.bytes_of

/-- **Requests with bodies.** A fresh session is handed a sequence of well-formed requests, cut
into read events in any way `recv` allows. It dispatches one request for each element, in
order, from the bytes of that element alone and with its method and its sequence number,
exactly when every body but the last is a sequence of complete interleaved frames, the last
one holds no complete message behind such frames, and the heads can be read. -/
theorem requests_with_bodies_iff (fd : Int) (bufferSize : Nat) (garbage : Nat → UInt8)
    (timestamp seq : Nat) (now : Int) (s : RtspSession)
    (hcreate : RtspSession.create fd bufferSize garbage timestamp seq now = some s) (hfd : 0 ≤ fd)
    (elements : List ClientRequest) (events : List ReadEvent)
    (hfit : Transition.Along Reader.step Reader.Fits { session := s } events)
    (hstream : (events.map ReadEvent.chunk).flatten =
      (elements.map ClientRequest.bytes).flatten) :
    Reader.DispatchesEach { session := s } events elements ↔
      BodiesPass elements ∧ HeadsRead (max bufferSize 1) (beyondAt 0 events) 0 elements := by
  obtain ⟨hvalid, hopen, hsize, hnil⟩ := RtspSession.create_read hcreate hfd
  have hat : Reader.At (max bufferSize 1) 0 { session := s } :=
    ⟨⟨hvalid, hsize, by rw [RtspSession.create_readPos hcreate, Nat.zero_mod]⟩, hopen,
      by rw [hnil]; exact nextMessage_nil⟩
  constructor
  · intro ⟨t, hrun, hframed, hparses⟩
    obtain ⟨ms, hcuts, hremoved, hhanded, hnone, -⟩ := Reader.run_at hat hfit hrun
    simp only [hnil, List.nil_append, List.length_nil, Nat.add_zero] at hcuts hremoved hhanded
    rw [hremoved] at hframed
    rw [hstream] at hcuts
    rw [hhanded] at hparses
    have hsplits := FramedBy.splits hnone hframed hcuts
    exact ⟨bodiesPass_iff.mpr ⟨ms, _, hsplits⟩, (hsplits.parsesAs_views _ _ 0).mp hparses⟩
  · intro ⟨hpass, hheads⟩
    obtain ⟨ms, p, hsplits⟩ := bodiesPass_iff.mp hpass
    obtain ⟨c, hc, hfront, hne⟩ := hsplits.exists_message
    -- the stream is a prefix of the messages and one more, of which `p` is the beginning
    have hmsg : ∀ m ∈ ms ++ [c], IsMessage m := by
      intro m hm
      rcases List.mem_append.mp hm with hm | hm
      · exact hsplits.isMessage m hm
      · rw [List.mem_singleton] at hm
        exact hm ▸ hc
    have hstart : Reader.Holds (max bufferSize 1) (ms ++ [c]) { session := s } :=
      ⟨hvalid, hopen, hsize, by rw [hnil]; exact leftover_nil hmsg⟩
    have hall : (events.map ReadEvent.chunk).flatten = ms.flatten ++ p := by
      rw [hstream, hsplits.flatten_append]
    obtain ⟨t, done, todo, hrun, hsplit, hholds, hremoved, hbytes⟩ :=
      Reader.run_holds hstart hmsg hfit (by
        rw [hnil, List.nil_append, hall, List.flatten_append, List.prefix_append_right_inj]
        simpa using hfront)
    rw [hnil, List.nil_append, hall] at hbytes
    obtain ⟨rfl, hleft⟩ := Leftover.eq_of_arrived hfront hne hsplit hbytes hholds.leftover
    obtain ⟨ms, -, hremoved', hhanded, -, -⟩ := Reader.run_at hat hfit hrun
    simp only [List.nil_append] at hremoved hremoved'
    obtain rfl : ms = done :=
      Removal.of_injective.list_map (hremoved'.symm.trans hremoved)
    simp only [hnil, List.length_nil, Nat.add_zero] at hhanded
    refine ⟨t, hrun, ?_, ?_⟩
    · rw [hremoved, hleft]
      exact hsplits.framedBy
    · rw [hhanded]
      exact (hsplits.parsesAs_views _ _ 0).mpr hheads

/-- A request without a body. -/
def optionsRequest : ClientRequest where
  requestLine := ascii "OPTIONS * RTSP/1.0"
  headerLines := [ascii "CSeq: 2"]
  body := []
  request := (RtspParser.parse
    (requestHead (ascii "OPTIONS * RTSP/1.0") [ascii "CSeq: 2"]) {}).toOption.getD {}
  tidy := by decide
  head_ne := by decide
  parse_head := by rfl
  body_length := by decide
  length_le := by decide

/-- A request that asks for one parameter, which it names in its body. -/
def parameterRequest : ClientRequest where
  requestLine := ascii "GET_PARAMETER * RTSP/1.0"
  headerLines := [ascii "CSeq: 1", ascii "Content-Length: 9"]
  body := ascii "packets\r\n"
  request := (RtspParser.parse (requestHead (ascii "GET_PARAMETER * RTSP/1.0")
    [ascii "CSeq: 1", ascii "Content-Length: 9"]) {}).toOption.getD {}
  tidy := by decide
  head_ne := by decide
  parse_head := by rfl
  body_length := by decide
  length_le := by decide

/-- One read event for each element. -/
def readEach (elements : List ClientRequest) : List ReadEvent :=
  elements.map fun e => ⟨e.bytes, fun _ => .quiet, fun _ => 0⟩

theorem requests_last_body :
    ∃ s, RtspSession.create 7 256 (fun _ => 0) 0 0 0 = some s ∧
      Reader.DispatchesEach { session := s } (readEach [optionsRequest, parameterRequest])
        [optionsRequest, parameterRequest] := by
  refine ⟨_, rfl, (requests_with_bodies_iff 7 256 (fun _ => 0) 0 0 0 _ rfl (by decide)
    [optionsRequest, parameterRequest] (readEach [optionsRequest, parameterRequest])
    (by decide +kernel) (by decide +kernel)).mpr ⟨⟨⟨[], rfl, by simp⟩, ?_⟩, ?_⟩⟩
  · exact ⟨[], parameterRequest.body, rfl, ⟨[], rfl, by simp⟩, by decide +kernel⟩
  · exact ⟨.inl (by decide +kernel), .inl (by decide +kernel), trivial⟩

theorem methods_eq {elements : List ClientRequest} {datas : List Bytes}
    (h : List.Forall₂ ParsesAs elements datas) :
    datas.map (fun data => (RtspParser.parse data {}).toOption.map RtspRequest.method) =
      elements.map fun e => some e.request.method := by
  induction h with
  | nil => rfl
  | cons hparses _ ih =>
    obtain ⟨request, hparse, hmethod, -⟩ := hparses
    rw [List.map_cons, List.map_cons, ih, hparse, ← hmethod]
    rfl

/-- The body is taken for the request line of the next request, which gets no answer to its own
method. -/
theorem body_glued_onto_request :
    ∃ s, RtspSession.create 7 256 (fun _ => 0) 0 0 0 = some s ∧
      Transition.Along Reader.step Reader.Fits { session := s }
        (readEach [parameterRequest, optionsRequest]) ∧
      ((readEach [parameterRequest, optionsRequest]).map ReadEvent.chunk).flatten =
        ([parameterRequest, optionsRequest].map ClientRequest.bytes).flatten ∧
      ¬ Reader.DispatchesEach { session := s } (readEach [parameterRequest, optionsRequest])
        [parameterRequest, optionsRequest] := by
  refine ⟨_, rfl, by decide, by decide, ?_⟩
  rintro ⟨t, -, -, hparses⟩
  have hmethods := methods_eq hparses
  revert hmethods
  decide

end RtspForward
