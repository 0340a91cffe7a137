import RtspForward.Protocol.DerivedFields

/-!
# What the parser makes of each line

The loop of `Parse` takes a line as the request line, as a header line, as the end of the
headers or as a line of the body. The roles follow the first line that is empty but for a
carriage return, and the request is a function of the lines by their roles.
-/
namespace RtspForward.RtspParser

/-- The four branches of the loop of `Parse`. -/
inductive LineRole where
  | requestLine
  | header
  | endOfHeaders
  | body
  deriving DecidableEq, Repr

/-- The branch a line takes. -/
def Progress.role (s : Progress) (line : Bytes) : LineRole :=
  if (stripCr line).length = 0 ∧ s.inBody = false then .endOfHeaders
  else if s.inBody then .body
  else if s.requestLineParsed = false then .requestLine
  else .header

/-- The branches the lines take, up to one on which `Parse` returns an error. -/
def lineRoles : Progress → List Bytes → List LineRole
  | _, [] => []
  | s, line :: ls =>
    s.role line :: match parseLine s line with
      | .ok next => lineRoles next ls
      | .error _ => []

/-- A turn of the loop does what the role says. -/
theorem parseLine_eq (s : Progress) (line : Bytes) :
    parseLine s line = match s.role line with
      | .endOfHeaders => .ok { s with inBody := true }
      | .body =>
        .ok { s with request := { s.request with body := s.request.body ++ stripCr line ++ [10] } }
      | .requestLine => (parseRequestLine (stripCr line) s.request).map fun request =>
        { s with request := request, requestLineParsed := true }
      | .header => .ok { s with request := parseHeaderLine (stripCr line) s.request } := by
  unfold parseLine Progress.role
  simp only
  split
  · rfl
  · split
    · rfl
    · split
      · cases parseRequestLine (stripCr line) s.request <;> rfl
      · rfl

/-! ## The loop -/

/-- The lines up to the end of the headers. -/
def headLines (ls : List Bytes) : List Bytes := ls.takeWhile fun line => stripCr line ≠ []

/-- The lines behind the end of the headers. -/
def bodyLines (ls : List Bytes) : List Bytes := (ls.dropWhile fun line => stripCr line ≠ []).tail

/-- The header lines as they change the request. -/
def setHeaderLines (ls : List Bytes) (request : RtspRequest) : RtspRequest :=
  ls.foldl (fun request line => parseHeaderLine (stripCr line) request) request

/-- Lines of the body as they are appended to it. -/
def joinBody (ls : List Bytes) : Bytes := ls.flatMap fun line => stripCr line ++ [10]

theorem joinBody_eq_nil {ls : List Bytes} : joinBody ls = [] ↔ ls = [] := by
  constructor
  · intro h
    cases ls with
    | nil => rfl
    | cons l ls => simp [joinBody] at h
  · rintro rfl
    rfl

/-- The roles of the end of the headers and of what follows it. -/
def bodyRoles (ls : List Bytes) : List LineRole :=
  match ls.dropWhile fun line => stripCr line ≠ [] with
  | [] => []
  | _ :: body => .endOfHeaders :: List.replicate body.length .body

section Split

variable {line : Bytes} (ls : List Bytes)

theorem headLines_nil (h : stripCr line = []) : headLines (line :: ls) = [] := by
  simp [headLines, h]

theorem headLines_cons (h : stripCr line ≠ []) :
    headLines (line :: ls) = line :: headLines ls := by
  simp [headLines, h]

theorem bodyLines_nil (h : stripCr line = []) : bodyLines (line :: ls) = ls := by
  simp [bodyLines, h]

theorem bodyLines_cons (h : stripCr line ≠ []) : bodyLines (line :: ls) = bodyLines ls := by
  simp [bodyLines, h]

theorem bodyRoles_nil (h : stripCr line = []) :
    bodyRoles (line :: ls) = .endOfHeaders :: List.replicate ls.length .body := by
  simp [bodyRoles, h]

theorem bodyRoles_cons (h : stripCr line ≠ []) : bodyRoles (line :: ls) = bodyRoles ls := by
  simp [bodyRoles, h]

/-- The first empty line parts the header lines from the body. -/
theorem exists_split (h : ∃ line ∈ ls, stripCr line = []) :
    ∃ heads e body, ls = heads ++ e :: body ∧ (∀ line ∈ heads, stripCr line ≠ []) ∧
      stripCr e = [] := by
  have hsome : (ls.find? fun line => stripCr line = []).isSome := by
    rw [List.find?_isSome]
    obtain ⟨line, hline, hnil⟩ := h
    exact ⟨line, hline, by simp [hnil]⟩
  obtain ⟨e, he⟩ := Option.isSome_iff_exists.mp hsome
  obtain ⟨hnil, heads, body, hls, hheads⟩ := List.find?_eq_some_iff_append.mp he
  exact ⟨heads, e, body, hls, fun line hline => by simpa using hheads line hline,
    of_decide_eq_true hnil⟩

theorem lines_by_role {heads body : List Bytes} {e : Bytes}
    (hheads : ∀ line ∈ heads, stripCr line ≠ []) (he : stripCr e = []) :
    headLines (heads ++ e :: body) = heads ∧ bodyLines (heads ++ e :: body) = body ∧
      bodyRoles (heads ++ e :: body) = .endOfHeaders :: List.replicate body.length .body := by
  induction heads with
  | nil => exact ⟨headLines_nil body he, bodyLines_nil body he, bodyRoles_nil body he⟩
  | cons line heads ih =>
    have hline := hheads line (by simp)
    obtain ⟨hhead, hbody, hroles⟩ := ih fun l hl => hheads l (by simp [hl])
    rw [List.cons_append, headLines_cons _ hline, bodyLines_cons _ hline, bodyRoles_cons _ hline]
    exact ⟨by rw [hhead], hbody, hroles⟩

end Split

@[simp] theorem parseHeaderLine_body (line : Bytes) (request : RtspRequest) :
    (parseHeaderLine line request).body = request.body := by
  rcases parseHeaderLine_cases line request with heq | ⟨key, value, heq⟩
  · rw [heq]
  · rw [heq, setHeader]

section Loop

variable {s : Progress} {line : Bytes}

theorem role_endOfHeaders (hbody : s.inBody = false) (hline : stripCr line = []) :
    s.role line = .endOfHeaders := by
  simp [Progress.role, hbody, hline]

theorem role_body (hbody : s.inBody = true) : s.role line = .body := by
  simp [Progress.role, hbody]

theorem role_requestLine (hbody : s.inBody = false) (hparsed : s.requestLineParsed = false)
    (hline : stripCr line ≠ []) : s.role line = .requestLine := by
  simp [Progress.role, hbody, hparsed, hline]

theorem role_header (hbody : s.inBody = false) (hparsed : s.requestLineParsed = true)
    (hline : stripCr line ≠ []) : s.role line = .header := by
  simp [Progress.role, hbody, hparsed, hline]

/-- In the body every line is appended to it. -/
theorem foldlM_body (ls : List Bytes) : ∀ {s : Progress}, s.inBody = true →
    ls.foldlM parseLine s = .ok { s with
      request := { s.request with body := s.request.body ++ joinBody ls } } ∧
    lineRoles s ls = List.replicate ls.length .body := by
  induction ls with
  | nil =>
    intro s _
    exact ⟨by simp [joinBody]; rfl, rfl⟩
  | cons line ls ih =>
    intro s hbody
    have hturn := parseLine_eq s line
    rw [role_body hbody] at hturn
    simp only at hturn
    obtain ⟨hfold, hroles⟩ := ih (s := { s with
      request := { s.request with body := s.request.body ++ stripCr line ++ [10] } }) hbody
    constructor
    · rw [List.foldlM_cons, hturn]
      refine hfold.trans ?_
      simp [joinBody]
    · simp only [lineRoles, hturn, hroles, role_body hbody]
      rfl

/-- Behind the request line, the lines up to the first empty one are header lines, and those
behind it are lines of the body. -/
theorem foldlM_headers (ls : List Bytes) : ∀ {s : Progress}, s.inBody = false →
    s.requestLineParsed = true →
    (∃ inBody, ls.foldlM parseLine s = .ok { s with
      inBody := inBody
      request := { setHeaderLines (headLines ls) s.request with
        body := s.request.body ++ joinBody (bodyLines ls) } }) ∧
    lineRoles s ls = List.replicate (headLines ls).length .header ++ bodyRoles ls := by
  induction ls with
  | nil =>
    intro s hbody _
    refine ⟨⟨false, ?_⟩, rfl⟩
    simp [headLines, bodyLines, setHeaderLines, joinBody, ← hbody]
    rfl
  | cons line ls ih =>
    intro s hbody hparsed
    have hturn := parseLine_eq s line
    by_cases hline : stripCr line = []
    · rw [role_endOfHeaders hbody hline] at hturn
      simp only at hturn
      obtain ⟨hfold, hroles⟩ := foldlM_body ls (s := { s with inBody := true }) rfl
      rw [headLines_nil ls hline, bodyLines_nil ls hline, bodyRoles_nil ls hline]
      refine ⟨⟨true, ?_⟩, ?_⟩
      · rw [List.foldlM_cons, hturn]
        exact hfold
      · simp only [lineRoles, hturn, hroles, role_endOfHeaders hbody hline]
        rfl
    · rw [role_header hbody hparsed hline] at hturn
      simp only at hturn
      obtain ⟨⟨inBody, hfold⟩, hroles⟩ := ih (s := { s with
        request := parseHeaderLine (stripCr line) s.request }) hbody hparsed
      rw [headLines_cons ls hline, bodyLines_cons ls hline, bodyRoles_cons ls hline]
      refine ⟨⟨inBody, ?_⟩, ?_⟩
      · rw [List.foldlM_cons, hturn]
        refine hfold.trans ?_
        simp [setHeaderLines]
      · simp only [lineRoles, hturn, hroles, role_header hbody hparsed hline]
        rfl

end Loop

/-! ## The whole input -/

/-- The first line has a word in it. -/
def HasRequestLine (data : Bytes) : Prop :=
  ∃ line ∈ (lines data).head?, ∃ b ∈ line, isSpace b = false

/-- What `Parse` returns `OK` on. -/
structure Accepted (data : Bytes) : Prop where
  pos : 0 < data.length
  le_max : data.length ≤ kMaxRtspRequestDataLen
  requestLine : HasRequestLine data

instance (data : Bytes) : Decidable (HasRequestLine data) :=
  inferInstanceAs (Decidable (∃ line ∈ (lines data).head?, ∃ b ∈ line, isSpace b = false))

instance (data : Bytes) : Decidable (Accepted data) :=
  decidable_of_iff (0 < data.length ∧ data.length ≤ kMaxRtspRequestDataLen ∧ HasRequestLine data)
    ⟨fun h => ⟨h.1, h.2.1, h.2.2⟩, fun h => ⟨h.pos, h.le_max, h.requestLine⟩⟩

theorem extract_eq_nil (line : Bytes) : (extract line).1 = [] ↔ ∀ b ∈ line, isSpace b = true := by
  rw [← List.dropWhile_eq_nil_iff]
  simp only [extract]
  cases hrest : line.dropWhile isSpace with
  | nil => simp
  | cons b rest =>
    have hb : isSpace b = false := by
      have hne : line.dropWhile isSpace ≠ [] := by simp [hrest]
      simpa [hrest] using List.head_dropWhile_not isSpace hne
    simp [hb]

/-- The carriage return that is taken off a line is not part of a word. -/
theorem word_stripCr (line : Bytes) :
    (∃ b ∈ stripCr line, isSpace b = false) ↔ ∃ b ∈ line, isSpace b = false := by
  unfold stripCr
  split
  · rename_i hlast
    obtain ⟨front, rfl⟩ := List.getLast?_eq_some_iff.mp hlast
    have hcr : isSpace 13 = true := by decide
    rw [List.dropLast_concat]
    constructor
    · intro ⟨b, hb, hword⟩
      exact ⟨b, List.mem_append_left _ hb, hword⟩
    · intro ⟨b, hb, hword⟩
      rcases List.mem_append.mp hb with hb | hb
      · exact ⟨b, hb, hword⟩
      · rw [List.mem_singleton.mp hb, hcr] at hword
        cases hword
  · rfl

/-- The request after its request line. -/
def startOf (line : Bytes) (initial : TransportInfo) : RtspRequest where
  method := parseMethod (extract line).1
  url := (extract (extract line).2).1
  version := (extract (extract (extract line).2).2).1
  transport := initial

theorem parseRequestLine_of_word {line : Bytes} (h : ∃ b ∈ line, isSpace b = false)
    (initial : TransportInfo) :
    parseRequestLine line { transport := initial } = .ok (startOf line initial) := by
  have hword : ¬ (extract line).1 = [] := by
    rw [extract_eq_nil]
    obtain ⟨b, hb, hspace⟩ := h
    intro hall
    rw [hall b hb] at hspace
    cases hspace
  rw [parseRequestLine, if_neg hword]
  rfl

theorem word_of_parseRequestLine {line : Bytes} {request request' : RtspRequest}
    (h : parseRequestLine line request = .ok request') : ∃ b ∈ line, isSpace b = false := by
  simp only [parseRequestLine] at h
  split at h
  · cases h
  · rename_i hword
    rw [extract_eq_nil] at hword
    simpa using hword

/-- The request an accepted input is read as; `initial` is the transport the object had. -/
def readRequest (data : Bytes) (initial : TransportInfo) : RtspRequest :=
  match lines data with
  | [] => {}
  | line :: ls => { setHeaderLines (headLines ls) (startOf (stripCr line) initial) with
      body := joinBody (bodyLines ls) }

/-- The roles of the lines of an input. -/
def roles (data : Bytes) (request : RtspRequest) : List LineRole :=
  lineRoles { request := { transport := request.transport } } (lines data)

theorem ne_nil_of_word {line : Bytes} (h : ∃ b ∈ line, isSpace b = false) : line ≠ [] := by
  rintro rfl
  obtain ⟨b, hb, -⟩ := h
  cases hb

/-- The loop on an input whose first line is a request line. -/
theorem foldlM_lines {data line : Bytes} {ls : List Bytes} (hlines : lines data = line :: ls)
    (hword : ∃ b ∈ line, isSpace b = false) (request : RtspRequest) :
    (∃ inBody, (lines data).foldlM parseLine { request := { transport := request.transport } } =
      .ok { request := readRequest data request.transport,
            inBody := inBody, requestLineParsed := true }) ∧
    roles data request =
      .requestLine :: (List.replicate (headLines ls).length .header ++ bodyRoles ls) := by
  have hstrip := (word_stripCr line).mpr hword
  have hturn := parseLine_eq { request := { transport := request.transport } } line
  rw [role_requestLine rfl rfl (ne_nil_of_word hstrip)] at hturn
  simp only [parseRequestLine_of_word hstrip] at hturn
  obtain ⟨⟨inBody, hfold⟩, hroles⟩ := foldlM_headers ls (s :=
    { request := startOf (stripCr line) request.transport, requestLineParsed := true }) rfl rfl
  constructor
  · refine ⟨inBody, ?_⟩
    rw [hlines, List.foldlM_cons, hturn, readRequest, hlines]
    exact hfold
  · rw [roles, hlines, lineRoles, hturn, role_requestLine rfl rfl (ne_nil_of_word hstrip)]
    exact congrArg (LineRole.requestLine :: ·) hroles

theorem parse_of_accepted {data : Bytes} (h : Accepted data) (request : RtspRequest) :
    parse data request = .ok (readRequest data request.transport) := by
  obtain ⟨line, hline, hword⟩ := h.requestLine
  obtain ⟨ls, hlines⟩ := List.head?_eq_some_iff.mp hline
  obtain ⟨⟨inBody, hfold⟩, -⟩ := foldlM_lines hlines hword request
  have hpos := h.pos
  have hmax := h.le_max
  rw [parse, if_neg (by omega), if_neg (by omega), hfold]
  rfl

/-- Without a request line the loop ends in an error, or without having seen one. -/
theorem not_parsed_of_no_word {data : Bytes} {s s' : Progress} (hbody : s.inBody = false)
    (hparsed : s.requestLineParsed = false) (hword : ¬ HasRequestLine data)
    (hfold : (lines data).foldlM parseLine s = .ok s') : s'.requestLineParsed = false := by
  cases hlines : lines data with
  | nil =>
    rw [hlines] at hfold
    obtain rfl := Except.ok.inj hfold
    exact hparsed
  | cons line ls =>
    have hblank : ¬ ∃ b ∈ stripCr line, isSpace b = false := by
      rw [word_stripCr]
      intro h
      exact hword ⟨line, by simp [hlines], h⟩
    have hturn := parseLine_eq s line
    rw [hlines, List.foldlM_cons] at hfold
    by_cases hline : stripCr line = []
    · rw [role_endOfHeaders hbody hline] at hturn
      simp only at hturn
      rw [hturn] at hfold
      have hrest := (foldlM_body ls (s := { s with inBody := true }) rfl).1
      obtain rfl := Except.ok.inj (hrest.symm.trans hfold)
      exact hparsed
    · rw [role_requestLine hbody hparsed hline] at hturn
      cases hrequest : parseRequestLine (stripCr line) s.request with
      | error status =>
        simp only [hrequest] at hturn
        rw [hturn] at hfold
        cases hfold
      | ok request => exact absurd (word_of_parseRequestLine hrequest) hblank

theorem accepted_of_parse {data : Bytes} {request request' : RtspRequest}
    (h : parse data request = .ok request') : Accepted data := by
  have hcases := parse_cases data request
  rw [h] at hcases
  cases hcases with
  | parsed hpos hmax hfold hparsed =>
    refine ⟨hpos, hmax, ?_⟩
    by_contra hword
    have hno := not_parsed_of_no_word rfl rfl hword hfold
    rw [hparsed] at hno
    cases hno

/-- What `Parse` returns on an input. -/
theorem parse_eq_ok_iff {data : Bytes} {request request' : RtspRequest} :
    parse data request = .ok request' ↔
      Accepted data ∧ request' = readRequest data request.transport := by
  constructor
  · intro h
    have haccepted := accepted_of_parse h
    rw [parse_of_accepted haccepted, Except.ok.injEq] at h
    exact ⟨haccepted, h.symm⟩
  · rintro ⟨haccepted, rfl⟩
    exact parse_of_accepted haccepted request

theorem parseLine_error {s : Progress} {line : Bytes} {status : Status}
    (h : parseLine s line = .error status) : status = .parseError "missing method" := by
  have hturn := parseLine_eq s line
  rw [h] at hturn
  cases hrole : s.role line with
  | requestLine =>
    simp only [hrole, parseRequestLine] at hturn
    split at hturn
    · exact Except.error.inj hturn
    · cases hturn
  | endOfHeaders | body | header =>
    simp only [hrole] at hturn
    cases hturn

theorem foldlM_error {ls : List Bytes} {status : Status} :
    ∀ {s : Progress}, ls.foldlM parseLine s = .error status →
      status = .parseError "missing method" := by
  induction ls with
  | nil =>
    intro s h
    cases h
  | cons line ls ih =>
    intro s h
    rw [List.foldlM_cons] at h
    cases hline : parseLine s line with
    | error st =>
      rw [hline] at h
      obtain rfl := Except.error.inj h
      exact parseLine_error hline
    | ok next =>
      rw [hline] at h
      exact ih h

/-- Only the length of the input makes it too large. -/
theorem parse_tooLarge_iff {data : Bytes} {request : RtspRequest} :
    parse data request = .error (.parseError "request too large") ↔
      kMaxRtspRequestDataLen < data.length := by
  have hmax : kMaxRtspRequestDataLen = 4096 := rfl
  have hcases := parse_cases data request
  generalize parse data request = res at hcases
  cases hcases with
  | empty hzero => exact iff_of_false (by simp) (by omega)
  | tooLarge hlong => exact iff_of_true rfl hlong
  | failed _ hle hfold =>
    obtain rfl := foldlM_error hfold
    exact iff_of_false (by simp) (by omega)
  | missing _ hle => exact iff_of_false (by simp) (by omega)
  | parsed _ hle => exact iff_of_false (by simp) (by omega)

/-! ## What an earlier request leaves behind -/

/-- The name of the header a line sets. -/
def headerName (line : Bytes) : Option Bytes :=
  (Lib.Search.find (ascii ":") line).map fun colonPos => (trim (line.take colonPos)).map toLower

/-- One of the header lines is a `Transport` header. -/
def HasTransport (data : Bytes) : Prop :=
  ∃ line ∈ headLines (lines data).tail, headerName (stripCr line) = some (ascii "transport")

instance (data : Bytes) : Decidable (HasTransport data) :=
  inferInstanceAs (Decidable (∃ line ∈ headLines (lines data).tail, _ = _))

/-- A header line and the transport of the request it is read into. -/
theorem parseHeaderLine_transport (line : Bytes) (request : RtspRequest)
    (transport : TransportInfo) :
    parseHeaderLine line { request with transport := transport } =
      if headerName line = some (ascii "transport") then parseHeaderLine line request
      else { parseHeaderLine line request with transport := transport } := by
  cases hfind : Lib.Search.find (ascii ":") line with
  | none => simp [parseHeaderLine, headerName, hfind]
  | some colonPos =>
    rw [parseHeaderLine_eq hfind, parseHeaderLine_eq hfind]
    simp only [headerName, hfind, Option.map_some, Option.some.injEq, setHeader]
    by_cases hkey : (trim (line.take colonPos)).map toLower = ascii "transport"
    · rw [if_pos hkey, if_pos hkey, if_pos hkey]
    · rw [if_neg hkey, if_neg hkey]

/-- The header lines replace the transport the object had exactly when one of them sets it. -/
theorem setHeaderLines_transport (ls : List Bytes) (transport : TransportInfo) :
    ∀ request : RtspRequest, setHeaderLines ls { request with transport := transport } =
      if ∃ line ∈ ls, headerName (stripCr line) = some (ascii "transport") then
        setHeaderLines ls request
      else { setHeaderLines ls request with transport := transport } := by
  induction ls with
  | nil => simp [setHeaderLines]
  | cons line ls ih =>
    intro request
    have hone := parseHeaderLine_transport (stripCr line) request transport
    by_cases hline : headerName (stripCr line) = some (ascii "transport")
    · rw [if_pos hline] at hone
      rw [if_pos ⟨line, by simp, hline⟩, setHeaderLines, List.foldl_cons, hone]
      rfl
    · rw [if_neg hline] at hone
      rw [setHeaderLines, List.foldl_cons, hone]
      refine (ih _).trans ?_
      simp [hline, setHeaderLines]

theorem readRequest_transport {data : Bytes} (h : HasRequestLine data) (t u : TransportInfo) :
    readRequest data t = if HasTransport data then readRequest data u
      else { readRequest data u with transport := t } := by
  obtain ⟨line, hline, -⟩ := h
  obtain ⟨ls, hlines⟩ := List.head?_eq_some_iff.mp hline
  have hset := setHeaderLines_transport (headLines ls) t (startOf (stripCr line) u)
  have hiff : HasTransport data ↔
      ∃ line ∈ headLines ls, headerName (stripCr line) = some (ascii "transport") := by
    rw [HasTransport, hlines, List.tail_cons]
  have hstart : startOf (stripCr line) t =
      { startOf (stripCr line) u with transport := t } := rfl
  simp only [readRequest, hlines, hiff]
  rw [hstart, hset]
  split <;> rfl

/-- **The transport of an earlier request comes back** exactly when the parsed one has no
`Transport` header: two runs of `Parse` on the same input end with the same request whenever
both succeed if and only if the input is refused, or has such a header line, or the two
objects passed in had the same transport. -/
theorem prior_contents_forgotten_iff (data : Bytes) (p q : RtspRequest) :
    (∀ p' q', parse data p = .ok p' → parse data q = .ok q' → p' = q') ↔
      ¬ Accepted data ∨ HasTransport data ∨ p.transport = q.transport := by
  simp only [parse_eq_ok_iff]
  by_cases haccepted : Accepted data
  · have hread := readRequest_transport haccepted.requestLine p.transport q.transport
    constructor
    · intro h
      have hsame := h _ _ ⟨haccepted, rfl⟩ ⟨haccepted, rfl⟩
      by_cases htransport : HasTransport data
      · exact .inr (.inl htransport)
      · have hself := readRequest_transport haccepted.requestLine q.transport q.transport
        rw [if_neg htransport] at hread hself
        have hp : (readRequest data p.transport).transport = p.transport := by rw [hread]
        have hq : (readRequest data q.transport).transport = q.transport := by rw [hself]
        rw [← hp, ← hq, hsame]
        exact .inr (.inr rfl)
    · rintro hcond p' q' ⟨-, rfl⟩ ⟨-, rfl⟩
      rcases hcond with hrefused | htransport | hsame
      · exact absurd haccepted hrefused
      · rw [hread, if_pos htransport]
      · rw [hsame]
  · constructor
    · exact fun _ => .inl haccepted
    · exact fun _ p' q' hp => absurd hp.1 haccepted

/-- A request without a `Transport` header, read into the object an interleaved `SETUP` was
read into and into a fresh one. -/
theorem prior_transport_leaks :
    ∃ data p p' q', parse (ascii "SETUP * RTSP/1.0\r\nTransport: RTP/AVP/TCP\r\n\r\n") {} = .ok p ∧
      parse data p = .ok p' ∧ parse data {} = .ok q' ∧
      p'.transport.isTcp = true ∧ q'.transport.isTcp = false ∧ p' ≠ q' := by
  refine ⟨ascii "OPTIONS * RTSP/1.0\r\n\r\n", _, _, _, rfl, rfl, rfl, by decide, by decide, ?_⟩
  intro heq
  have htransport := congrArg (fun request => request.transport.isTcp) heq
  exact absurd htransport (by decide)

end RtspForward.RtspParser
