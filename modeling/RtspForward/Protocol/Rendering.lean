import RtspForward.Lib.Decoding
import RtspForward.Protocol.DerivedFields
import RtspForward.Protocol.Numbers

/-!
# Renderings of a request

A request can be written in many ways: any blanks between the words of the request line
and around names and values, either line end on every line, names in any case and given more
than once. `Parse` reads all of them as the same request.
-/
namespace RtspForward

open Lib RtspParser

namespace Rendering

def isBlank (b : UInt8) : Bool := b = 32 || b = 9

/-- Optional blanks and tabs. -/
structure Gap where
  bytes : Bytes
  blank : ∀ b ∈ bytes, isBlank b

inductive LineEnd where
  | crlf
  | lf
  deriving DecidableEq, Repr

/-- A word of the request line. -/
structure Token where
  text : Bytes
  ne_nil : text ≠ []
  plain : ∀ b ∈ text, isSpace b = false ∧ b ≠ 0

structure Header where
  name : Bytes
  value : Bytes
  name_plain : ∀ b ∈ name, b < 128 ∧ b ≠ 58 ∧ b ≠ 13 ∧ b ≠ 10 ∧ b ≠ 0
  name_trimmed : Text.Trimmed isSpace name
  value_plain : ∀ b ∈ value, b < 128 ∧ b ≠ 13 ∧ b ≠ 10 ∧ b ≠ 0
  value_trimmed : Text.Trimmed isSpace value

/-- A header on its line. -/
structure HeaderLine where
  header : Header
  beforeName : Gap
  afterName : Gap
  beforeValue : Gap
  afterValue : Gap
  lineEnd : LineEnd

end Rendering

open Rendering

/-- A request and the way it is written: the request line, the header lines and an empty
line. -/
structure Rendering where
  method : Token
  methodGap : Gap
  methodGap_ne : methodGap.bytes ≠ []
  url : Token
  urlGap : Gap
  urlGap_ne : urlGap.bytes ≠ []
  version : Token
  requestEnd : LineEnd
  headers : List HeaderLine
  emptyEnd : LineEnd

namespace Rendering

def LineEnd.bytes : LineEnd → Bytes
  | crlf => [13, 10]
  | lf => [10]

/-- The key of a header in the map. -/
def Header.key (h : Header) : Bytes := h.name.map toLower

def HeaderLine.text (l : HeaderLine) : Bytes :=
  l.beforeName.bytes ++ (l.header.name ++ l.afterName.bytes) ++
    58 :: (l.beforeValue.bytes ++ (l.header.value ++ l.afterValue.bytes))

def requestLine (r : Rendering) : Bytes :=
  r.method.text ++ (r.methodGap.bytes ++ (r.url.text ++ (r.urlGap.bytes ++ r.version.text)))

def bytes (r : Rendering) : Bytes :=
  r.requestLine ++ r.requestEnd.bytes ++
    ((r.headers.map fun l => l.text ++ l.lineEnd.bytes).flatten ++ r.emptyEnd.bytes)

/-- The last value given for a key. -/
def lastValue (headers : List HeaderLine) (key : Bytes) : Option Bytes :=
  ((headers.filter fun l => l.header.key = key).getLast?).map fun l => l.header.value

/-! ## Lines -/

/-- A line as the parser cuts it off, with its carriage return. -/
def LineEnd.raw (e : LineEnd) (text : Bytes) : Bytes :=
  match e with
  | crlf => text ++ [13]
  | lf => text

theorem lines_cons {line : Bytes} (h : 10 ∉ line) (rest : Bytes) :
    lines (line ++ 10 :: rest) = line :: lines rest := by
  induction line with
  | nil => simp [lines]
  | cons b line ih =>
    simp only [List.mem_cons, not_or] at h
    rw [List.cons_append, lines, if_neg (Ne.symm h.1), ih h.2]

theorem LineEnd.lines (e : LineEnd) {text : Bytes} (h : 10 ∉ text) (rest : Bytes) :
    RtspParser.lines (text ++ e.bytes ++ rest) = e.raw text :: RtspParser.lines rest := by
  cases e with
  | crlf =>
    have hcr : 10 ∉ text ++ [13] := by simp [h]
    have hline := lines_cons hcr rest
    simpa [LineEnd.bytes, raw] using hline
  | lf =>
    have hline := lines_cons h rest
    simpa [LineEnd.bytes, raw] using hline

theorem LineEnd.stripCr_raw (e : LineEnd) {text : Bytes} (h : 13 ∉ text) :
    stripCr (e.raw text) = text := by
  cases e with
  | crlf => simp [stripCr, raw]
  | lf =>
    rw [raw, stripCr, if_neg]
    intro hlast
    exact h (List.mem_of_getLast? hlast)

theorem isSpace_of_isBlank {b : UInt8} (h : isBlank b) : isSpace b = true := by
  simp only [isBlank, Bool.or_eq_true, decide_eq_true_eq] at h
  rcases h with rfl | rfl <;> rfl

theorem Gap.isSpace (g : Gap) : ∀ b ∈ g.bytes, RtspParser.isSpace b = true :=
  fun b hb => isSpace_of_isBlank (g.blank b hb)

/-- A byte other than a blank and a tab is not in a gap. -/
theorem Gap.notMem (g : Gap) {b : UInt8} (h : isBlank b = false) : b ∉ g.bytes := by
  intro hb
  rw [g.blank b hb] at h
  cases h

theorem Token.notMem (t : Token) {b : UInt8} (h : RtspParser.isSpace b = true) : b ∉ t.text := by
  intro hb
  rw [(t.plain b hb).1] at h
  cases h

theorem requestLine_notMem (r : Rendering) {b : UInt8} (hspace : RtspParser.isSpace b = true)
    (hblank : isBlank b = false) : b ∉ r.requestLine := by
  simp [requestLine, Token.notMem _ hspace, Gap.notMem _ hblank]

theorem Header.name_notMem (h : Header) {b : UInt8} (hb : b = 58 ∨ b = 13 ∨ b = 10 ∨ b = 0) :
    b ∉ h.name := by
  intro hmem
  have hplain := h.name_plain b hmem
  tauto

theorem Header.value_notMem (h : Header) {b : UInt8} (hb : b = 13 ∨ b = 10 ∨ b = 0) :
    b ∉ h.value := by
  intro hmem
  have hplain := h.value_plain b hmem
  tauto

theorem HeaderLine.text_notMem (l : HeaderLine) {b : UInt8} (hb : b = 13 ∨ b = 10)
    (hblank : isBlank b = false) (hcolon : b ≠ 58) : b ∉ l.text := by
  have hname : b ∉ l.header.name := l.header.name_notMem (by tauto)
  have hvalue : b ∉ l.header.value := l.header.value_notMem (by tauto)
  simp [text, Gap.notMem _ hblank, hname, hvalue, hcolon]

/-! ## The request line -/

theorem Token.stops (t : Token) (rest : Bytes) : Text.Stops RtspParser.isSpace (t.text ++ rest) := by
  obtain ⟨b, text, htext⟩ := List.exists_cons_of_ne_nil t.ne_nil
  rw [htext, List.cons_append, Text.stops_cons]
  exact (t.plain b (by simp [htext])).1

/-- The next word of a stream is the one written there. -/
theorem extract_token (g : Bytes) (hg : ∀ b ∈ g, RtspParser.isSpace b = true) (t : Token)
    {rest : Bytes} (hrest : Text.Stops (!RtspParser.isSpace ·) rest) :
    extract (g ++ (t.text ++ rest)) = (t.text, rest) := by
  have hword : ∀ b ∈ t.text, (!RtspParser.isSpace b) = true := by
    intro b hb
    rw [(t.plain b hb).1]
    rfl
  simp only [extract, Text.dropWhile_append hg (t.stops rest), Text.takeWhile_append hword hrest,
    Text.dropWhile_append hword hrest]

/-- A word ends where the next gap starts. -/
theorem Gap.stops (g : Gap) (h : g.bytes ≠ []) (rest : Bytes) :
    Text.Stops (!RtspParser.isSpace ·) (g.bytes ++ rest) := by
  obtain ⟨b, bytes, hbytes⟩ := List.exists_cons_of_ne_nil h
  rw [hbytes, List.cons_append, Text.stops_cons, g.isSpace b (by simp [hbytes])]
  rfl

theorem parseRequestLine_requestLine (r : Rendering) (request : RtspRequest) :
    parseRequestLine r.requestLine request = .ok { request with
      method := parseMethod r.method.text, url := r.url.text, version := r.version.text } := by
  have hmethod : extract r.requestLine = _ :=
    extract_token [] (by simp) r.method (r.methodGap.stops r.methodGap_ne _)
  have hurl := extract_token r.methodGap.bytes r.methodGap.isSpace r.url
    (r.urlGap.stops r.urlGap_ne r.version.text)
  have hversion := extract_token r.urlGap.bytes r.urlGap.isSpace r.version Text.stops_nil
  rw [List.append_nil] at hversion
  simp only [parseRequestLine, hmethod, hurl, hversion, if_neg r.method.ne_nil]

theorem requestLine_ne_nil (r : Rendering) : r.requestLine ≠ [] := by
  simp [requestLine, r.method.ne_nil]

/-! ## Header lines -/

/-- The first colon of a header line is the one behind the name. -/
theorem HeaderLine.find_colon (l : HeaderLine) :
    Search.find (ascii ":") l.text =
      some (l.beforeName.bytes ++ (l.header.name ++ l.afterName.bytes)).length := by
  have hcolon : ascii ":" = [58] := by decide
  have hname : (58 : UInt8) ∉ l.beforeName.bytes ++ (l.header.name ++ l.afterName.bytes) := by
    simp [Gap.notMem (b := 58) _ (by decide), l.header.name_notMem (.inl rfl)]
  rw [hcolon, text, Decoding.find_skip _ _ hname]
  simp [Search.find]

theorem trim_gap (before after : Gap) {text : Bytes} (h : Text.Trimmed RtspParser.isSpace text) :
    trim (before.bytes ++ (text ++ after.bytes)) = text :=
  Text.trim_pad before.isSpace after.isSpace h

theorem parseHeaderLine_text (l : HeaderLine) (request : RtspRequest) :
    parseHeaderLine l.text request = setHeader request l.header.key l.header.value := by
  rw [parseHeaderLine_eq l.find_colon]
  have htake : l.text.take (l.beforeName.bytes ++ (l.header.name ++ l.afterName.bytes)).length =
      l.beforeName.bytes ++ (l.header.name ++ l.afterName.bytes) := List.take_left
  have hdrop : l.text.drop ((l.beforeName.bytes ++ (l.header.name ++ l.afterName.bytes)).length + 1) =
      l.beforeValue.bytes ++ (l.header.value ++ l.afterValue.bytes) := by
    rw [HeaderLine.text, ← List.drop_drop, List.drop_left, List.drop_one, List.tail_cons]
  rw [htake, hdrop, trim_gap _ _ l.header.name_trimmed, trim_gap _ _ l.header.value_trimmed]
  rfl

theorem HeaderLine.text_ne_nil (l : HeaderLine) : l.text ≠ [] := by
  simp [text]

/-- The request after its header lines. -/
def setHeaders (request : RtspRequest) (headers : List HeaderLine) : RtspRequest :=
  headers.foldl (fun request l => setHeader request l.header.key l.header.value) request

theorem parseLine_header (l : HeaderLine) {s : Progress} (hbody : s.inBody = false)
    (hparsed : s.requestLineParsed = true) :
    parseLine s (l.lineEnd.raw l.text) =
      .ok { s with request := setHeader s.request l.header.key l.header.value } := by
  have hstrip := l.lineEnd.stripCr_raw (l.text_notMem (.inl rfl) (by decide) (by decide))
  simp [parseLine, hstrip, l.text_ne_nil, hbody, hparsed, parseHeaderLine_text]

theorem foldlM_headers (headers : List HeaderLine) {s : Progress} (hbody : s.inBody = false)
    (hparsed : s.requestLineParsed = true) :
    (headers.map fun l => l.lineEnd.raw l.text).foldlM parseLine s =
      .ok { s with request := setHeaders s.request headers } := by
  induction headers generalizing s with
  | nil => rfl
  | cons l headers ih =>
    rw [List.map_cons, List.foldlM_cons, parseLine_header l hbody hparsed]
    exact ih hbody hparsed

/-- The parts of a request that header lines leave as they are. -/
theorem setHeaders_frame (request : RtspRequest) (headers : List HeaderLine) :
    (setHeaders request headers).method = request.method ∧
      (setHeaders request headers).url = request.url ∧
      (setHeaders request headers).version = request.version ∧
      (setHeaders request headers).body = request.body := by
  induction headers generalizing request with
  | nil => exact ⟨rfl, rfl, rfl, rfl⟩
  | cons l headers ih => exact ih (setHeader request l.header.key l.header.value)

theorem lastValue_cons (l : HeaderLine) (headers : List HeaderLine) (key : Bytes) :
    lastValue (l :: headers) key = (lastValue headers key).or
      (if l.header.key = key then some l.header.value else none) := by
  unfold lastValue
  by_cases hkey : l.header.key = key
  · rw [List.filter_cons_of_pos (by simpa using hkey), List.getLast?_cons, if_pos hkey]
    cases (headers.filter fun l => l.header.key = key).getLast? <;> rfl
  · rw [List.filter_cons_of_neg (by simpa using hkey), if_neg hkey, Option.or_none]

/-- The map holds the last value of every key. -/
theorem getElem?_setHeaders (request : RtspRequest) (headers : List HeaderLine) (key : Bytes) :
    (setHeaders request headers).headers[key]? =
      (lastValue headers key).or request.headers[key]? := by
  induction headers generalizing request with
  | nil => rfl
  | cons l headers ih =>
    rw [lastValue_cons]
    refine (ih (setHeader request l.header.key l.header.value)).trans ?_
    rw [getElem?_setHeader]
    by_cases hkey : l.header.key = key
    · simp [hkey]
    · simp [hkey]

/-! ## The whole request -/

theorem lines_headers (headers : List HeaderLine) (rest : Bytes) :
    lines ((headers.map fun l => l.text ++ l.lineEnd.bytes).flatten ++ rest) =
      (headers.map fun l => l.lineEnd.raw l.text) ++ lines rest := by
  induction headers with
  | nil => rfl
  | cons l headers ih =>
    have hline := l.lineEnd.lines (l.text_notMem (.inr rfl) (by decide) (by decide))
      ((headers.map fun l => l.text ++ l.lineEnd.bytes).flatten ++ rest)
    simp only [List.map_cons, List.flatten_cons, List.append_assoc, List.cons_append] at hline ⊢
    rw [hline, ih]

theorem lines_bytes (r : Rendering) :
    lines r.bytes = r.requestEnd.raw r.requestLine ::
      ((r.headers.map fun l => l.lineEnd.raw l.text) ++ [r.emptyEnd.raw []]) := by
  have hempty := r.emptyEnd.lines List.not_mem_nil []
  simp only [List.nil_append, List.append_nil] at hempty
  rw [bytes, LineEnd.lines _ (r.requestLine_notMem (by decide) (by decide)), lines_headers, hempty]
  rfl

/-- The request that is read. -/
def request (r : Rendering) : RtspRequest :=
  setHeaders { method := parseMethod r.method.text, url := r.url.text, version := r.version.text }
    r.headers

theorem parse_bytes (r : Rendering) (h : r.bytes.length ≤ kMaxRtspRequestDataLen) :
    parse r.bytes {} = .ok r.request := by
  have hne : r.bytes.length ≠ 0 := by
    have hline := List.length_pos_iff.mpr r.requestLine_ne_nil
    simp only [bytes, List.length_append]
    omega
  have hstrip := r.requestEnd.stripCr_raw (r.requestLine_notMem (b := 13) (by decide) (by decide))
  have hfirst (s : Progress) (hbody : s.inBody = false) (hparsed : s.requestLineParsed = false) :
      parseLine s (r.requestEnd.raw r.requestLine) = .ok { s with
        request := { s.request with
          method := parseMethod r.method.text, url := r.url.text, version := r.version.text }
        requestLineParsed := true } := by
    simp only [parseLine, hstrip, List.length_eq_zero_iff, r.requestLine_ne_nil, false_and,
      ↓reduceIte, hbody, Bool.false_eq_true, hparsed, parseRequestLine_requestLine]
    rfl
  have hlast (s : Progress) (hbody : s.inBody = false) :
      parseLine s (r.emptyEnd.raw []) = .ok { s with inBody := true } := by
    have hempty := r.emptyEnd.stripCr_raw List.not_mem_nil
    simp [parseLine, hempty, hbody]
  rw [parse, if_neg hne, if_neg (by omega), lines_bytes, List.foldlM_cons, hfirst _ rfl rfl]
  show (List.foldlM parseLine _ _ >>= _) = _
  rw [List.foldlM_append, foldlM_headers _ rfl rfl]
  show ((List.foldlM parseLine _ [_]) >>= _) = _
  rw [List.foldlM_cons, hlast _ rfl]
  rfl

theorem getElem?_request (r : Rendering) (key : Bytes) :
    r.request.headers[key]? = lastValue r.headers key := by
  rw [request, getElem?_setHeaders]
  simp

/-- A value that is given for a key is the value of some header. -/
theorem mem_of_lastValue {headers : List HeaderLine} {key value : Bytes}
    (h : lastValue headers key = some value) : ∃ l ∈ headers, l.header.value = value := by
  unfold lastValue at h
  rw [Option.map_eq_some_iff] at h
  obtain ⟨l, hlast, hvalue⟩ := h
  exact ⟨l, (List.mem_filter.mp (List.mem_of_getLast? hlast)).1, hvalue⟩

end Rendering

/-- **`Parse` inverts every rendering of a request.** However a request is written, in at
most 4096 bytes, it is read back: its method, url and version; the last value of every header,
under the lower-cased name; the transport the last `Transport` header describes; the number of
the last `CSeq` header if that is a decimal in the range of an `int`, and 0 if there is none
or it is not a decimal; and no body. -/
theorem parse_inverts_rendering (r : Rendering) (hlength : r.bytes.length ≤ 4096) :
    ∃ request, parse r.bytes {} = .ok request ∧
      request.method = parseMethod r.method.text ∧ request.url = r.url.text ∧
      request.version = r.version.text ∧
      (∀ key, request.headers[key]? = lastValue r.headers key) ∧
      request.transport =
        ((lastValue r.headers (ascii "transport")).map parseTransport).getD {} ∧
      (∀ value n, lastValue r.headers (ascii "cseq") = some value → IsDecimal value n →
        -2 ^ 31 ≤ n → n < 2 ^ 31 → request.cseq = n) ∧
      ((∀ value n, lastValue r.headers (ascii "cseq") = some value → ¬ IsDecimal value n) →
        request.cseq = 0) ∧
      request.body = [] := by
  have hparse := r.parse_bytes hlength
  have hframe := setHeaders_frame
    { method := parseMethod r.method.text, url := r.url.text, version := r.version.text } r.headers
  have hderived := parse_derived hparse
  have htransport := hderived.transport
  have hcseq := hderived.cseq
  rw [r.getElem?_request] at htransport hcseq
  refine ⟨r.request, hparse, hframe.1, hframe.2.1, hframe.2.2.1, r.getElem?_request, htransport,
    ?_, ?_, hframe.2.2.2⟩
  · intro value n hvalue hn hmin hmax
    rw [hcseq, hvalue, Option.map_some, Option.getD_some, parseCSeq_of_isDecimal hn,
      toInt_clampLong hmin hmax]
  · intro hnone
    rw [hcseq]
    cases hvalue : lastValue r.headers (ascii "cseq") with
    | none => rfl
    | some value =>
      obtain ⟨l, -, rfl⟩ := mem_of_lastValue hvalue
      exact parseCSeq_of_not_isDecimal l.header.value_trimmed.front
        (l.header.value_notMem (by simp)) fun n => hnone _ n hvalue

namespace Rendering

def noGap : Gap := ⟨[], by simp⟩

def tabs : Gap := ⟨[9, 32, 9], by decide +kernel⟩

/-- A header given twice, in two cases and between tabs, and lines with both ends. -/
def loose : Rendering where
  method := ⟨ascii "PLAY", by decide, by decide +kernel⟩
  methodGap := tabs
  methodGap_ne := by decide
  url := ⟨ascii "*", by decide, by decide +kernel⟩
  urlGap := tabs
  urlGap_ne := by decide
  version := ⟨ascii "RTSP/1.0", by decide, by decide +kernel⟩
  requestEnd := .lf
  headers := [
    ⟨⟨ascii "cseq", ascii "7", by decide +kernel, by decide, by decide +kernel, by decide⟩,
      noGap, noGap, noGap, noGap, .crlf⟩,
    ⟨⟨ascii "CSeq", ascii "-12", by decide +kernel, by decide, by decide +kernel, by decide⟩,
      tabs, tabs, tabs, tabs, .lf⟩]
  emptyEnd := .crlf

end Rendering

theorem parse_loose :
    ∃ request, parse loose.bytes {} = .ok request ∧ request.method = .kPlay ∧
      request.headers[ascii "cseq"]? = some (ascii "-12") ∧ request.cseq = -12 := by
  obtain ⟨request, hparse, hmethod, -, -, hheaders, -, hcseq, -, -⟩ :=
    parse_inverts_rendering loose (by decide +kernel)
  have hlast : lastValue loose.headers (ascii "cseq") = some (ascii "-12") := by decide +kernel
  refine ⟨request, hparse, hmethod.trans (by decide +kernel), (hheaders _).trans hlast, ?_⟩
  exact hcseq _ _ hlast (.minus (ascii "12") (by decide) (by decide +kernel)) (by decide +kernel)
    (by decide +kernel)

end RtspForward
