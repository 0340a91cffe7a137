import RtspForward.Lib.Text
import RtspForward.Protocol.RtspParser

/-!
# The fields derived from headers

`Parse` sets `cseq` and `transport` when it meets their header and again when it meets it
once more, and every time it writes the header map too. So on every accepted request the two
fields are functions of the map: of the last value of their header.
-/
namespace RtspForward.RtspParser

/-- `cseq` and `transport` are what the header map says; `initial` is the transport of a
request without the header. -/
structure Derived (initial : TransportInfo) (request : RtspRequest) : Prop where
  cseq : request.cseq = ((request.headers[ascii "cseq"]?).map parseCSeq).getD 0
  transport : request.transport =
    ((request.headers[ascii "transport"]?).map parseTransport).getD initial

/-- A header line with this key and value, as it changes the request. -/
def setHeader (request : RtspRequest) (key value : Bytes) : RtspRequest :=
  { request with
    cseq := if key = ascii "cseq" then parseCSeq value else request.cseq
    transport := if key = ascii "transport" then parseTransport value else request.transport
    headers := request.headers.insert key value }

theorem parseHeaderLine_eq {line : Bytes} {colonPos : Nat}
    (h : Lib.Search.find (ascii ":") line = some colonPos) (request : RtspRequest) :
    parseHeaderLine line request = setHeader request ((trim (line.take colonPos)).map toLower)
      (trim (line.drop (colonPos + 1))) := by
  simp only [parseHeaderLine, h, setHeader]
  split
  · rename_i hkey
    have hne : ¬ ascii "cseq" = ascii "transport" := by decide
    simp [hkey, hne]
  · split <;> rfl

/-- A line changes a request by at most one header. -/
theorem parseHeaderLine_cases (line : Bytes) (request : RtspRequest) :
    parseHeaderLine line request = request ∨
      ∃ key value, parseHeaderLine line request = setHeader request key value := by
  cases hfind : Lib.Search.find (ascii ":") line with
  | none => exact .inl (by simp [parseHeaderLine, hfind])
  | some colonPos => exact .inr ⟨_, _, parseHeaderLine_eq hfind request⟩

theorem getElem?_setHeader (request : RtspRequest) (key value name : Bytes) :
    (setHeader request key value).headers[name]? =
      if key = name then some value else request.headers[name]? := by
  have hinsert : (request.headers.insert key value)[name]? =
      if compare key name = .eq then some value else request.headers[name]? :=
    Std.TreeMap.getElem?_insert
  simp only [Std.compare_eq_iff_eq] at hinsert
  exact hinsert

theorem derived_setHeader {initial : TransportInfo} {request : RtspRequest}
    (h : Derived initial request) (key value : Bytes) :
    Derived initial (setHeader request key value) := by
  constructor
  · rw [getElem?_setHeader]
    by_cases hkey : key = ascii "cseq"
    · simp [setHeader, hkey]
    · simpa [setHeader, hkey] using h.cseq
  · rw [getElem?_setHeader]
    by_cases hkey : key = ascii "transport"
    · simp [setHeader, hkey]
    · simpa [setHeader, hkey] using h.transport

theorem derived_parseRequestLine {initial : TransportInfo} {request request' : RtspRequest}
    (h : Derived initial request) {line : Bytes}
    (hline : parseRequestLine line request = .ok request') : Derived initial request' := by
  simp only [parseRequestLine] at hline
  split at hline
  · cases hline
  · cases hline
    exact ⟨h.cseq, h.transport⟩

theorem derived_parseLine {initial : TransportInfo} {s s' : Progress}
    (h : Derived initial s.request) {line : Bytes} (hline : parseLine s line = .ok s') :
    Derived initial s'.request := by
  simp only [parseLine] at hline
  split at hline
  · cases hline
    exact h
  split at hline
  · cases hline
    exact ⟨h.cseq, h.transport⟩
  split at hline
  · cases hrequest : parseRequestLine (stripCr line) s.request with
    | error status =>
      rw [hrequest] at hline
      cases hline
    | ok request =>
      rw [hrequest] at hline
      cases hline
      exact derived_parseRequestLine h hrequest
  · cases hline
    rcases parseHeaderLine_cases (stripCr line) s.request with heq | ⟨key, value, heq⟩
    · rwa [heq]
    · rw [heq]
      exact derived_setHeader h key value

theorem derived_foldlM {initial : TransportInfo} {ls : List Bytes} {s s' : Progress}
    (h : Derived initial s.request) (hfold : ls.foldlM parseLine s = .ok s') :
    Derived initial s'.request := by
  induction ls generalizing s with
  | nil =>
    cases hfold
    exact h
  | cons line ls ih =>
    rw [List.foldlM_cons] at hfold
    cases hline : parseLine s line with
    | error status =>
      rw [hline] at hfold
      cases hfold
    | ok next =>
      rw [hline] at hfold
      exact ih (derived_parseLine h hline) hfold

/-- The ways `Parse` ends, with what it has checked before. -/
inductive Parses (data : Bytes) (request : RtspRequest) : Except Status RtspRequest → Prop
  | empty : data.length = 0 → Parses data request (.error (.invalidArgument "empty data"))
  | tooLarge : kMaxRtspRequestDataLen < data.length →
      Parses data request (.error (.parseError "request too large"))
  | failed {status} : 0 < data.length → data.length ≤ kMaxRtspRequestDataLen →
      (lines data).foldlM parseLine { request := { transport := request.transport } } =
        .error status →
      Parses data request (.error status)
  | missing {s} : 0 < data.length → data.length ≤ kMaxRtspRequestDataLen →
      (lines data).foldlM parseLine { request := { transport := request.transport } } = .ok s →
      s.requestLineParsed = false →
      Parses data request (.error (.parseError "missing request line"))
  | parsed {s} : 0 < data.length → data.length ≤ kMaxRtspRequestDataLen →
      (lines data).foldlM parseLine { request := { transport := request.transport } } = .ok s →
      s.requestLineParsed = true → Parses data request (.ok s.request)

theorem parse_cases (data : Bytes) (request : RtspRequest) :
    Parses data request (parse data request) := by
  unfold parse
  split
  · exact .empty (by assumption)
  · rename_i hpos
    split
    · exact .tooLarge (by assumption)
    · rename_i hmax
      cases hfold : (lines data).foldlM parseLine
          { request := { transport := request.transport } } with
      | error status => exact .failed (by omega) (by omega) hfold
      | ok s =>
        show Parses data request (if s.requestLineParsed = true then .ok s.request else _)
        split
        · exact .parsed (by omega) (by omega) hfold (by assumption)
        · rename_i hno
          exact .missing (by omega) (by omega) hfold (Bool.eq_false_of_not_eq_true hno)

/-- Every accepted request has its derived fields from its headers. -/
theorem parse_derived {data : Bytes} {request request' : RtspRequest}
    (h : parse data request = .ok request') : Derived request.transport request' := by
  have hcases := parse_cases data request
  rw [h] at hcases
  cases hcases with
  | parsed _ _ hfold =>
    have hstart : Derived request.transport { transport := request.transport } :=
      ⟨by simp, by simp⟩
    exact derived_foldlM hstart hfold

end RtspForward.RtspParser
