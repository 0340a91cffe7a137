import RtspForward.Lib.Search
import RtspForward.Util
import Mathlib.Tactic.Linarith

/-!
# The request parser

`protocol/rtsp_parser.cc`. Requests are byte lists. The library functions the source
calls (`isspace`, `tolower`, `strtol`, `std::string::find`, stream extraction) are
spelled out for the C locale; a byte above 127 is neither a space nor a letter there.
-/
namespace RtspForward

open Lib

inductive RtspMethod where
  | kUnknown
  | kOptions
  | kDescribe
  | kSetup
  | kPlay
  | kPause
  | kTeardown
  | kGetParameter
  | kSetParameter
  deriving DecidableEq, Repr

/-- `TransportInfo`, with the defaults of its constructor. -/
structure TransportInfo where
  isUdp : Bool := false
  isTcp : Bool := false
  clientRtpPort : Int := 0
  clientRtcpPort : Int := 0
  serverRtpPort : Int := 0
  serverRtcpPort : Int := 0
  interleavedRtp : Int := 0
  interleavedRtcp : Int := 0
  deriving DecidableEq, Repr

/-- `std::map<std::string, std::string>`, ordered by the unsigned bytes of the key. -/
abbrev Headers := Std.TreeMap Bytes Bytes

structure RtspRequest where
  method : RtspMethod := .kUnknown
  url : Bytes := []
  version : Bytes := []
  cseq : Int := 0
  headers : Headers := ∅
  body : Bytes := []
  transport : TransportInfo := {}

namespace RtspParser

def isSpace (b : UInt8) : Bool := b = 32 || (9 ≤ b && b ≤ 13)

def isDigit (b : UInt8) : Bool := 48 ≤ b && b ≤ 57

def toLower (b : UInt8) : UInt8 := if 65 ≤ b && b ≤ 90 then b + 32 else b

/-- `Trim`. -/
def trim (str : Bytes) : Bytes := ((str.dropWhile isSpace).reverse.dropWhile isSpace).reverse

/-- The C string at the start of some memory: everything before the first `NUL`. -/
def cString (memory : Bytes) : Bytes := memory.takeWhile (· ≠ 0)

/-- `static_cast<int>` of a `long`. -/
def toInt (v : Int) : Int := Int.bmod v (2 ^ 32)

/-- `long` values saturate in `strtol`. -/
def clampLong (v : Int) : Int := max (-(2 ^ 63)) (min v (2 ^ 63 - 1))

def digitsValue (digits : Bytes) : Nat :=
  digits.foldl (fun acc d => acc * 10 + (d.toNat - 48)) 0

/-- `strtol` in base 10 on a C string: the value and what `end_ptr` points at. Without a
digit nothing is converted and `end_ptr` is the start. -/
def strtol (s : Bytes) : Int × Bytes :=
  let t := s.dropWhile isSpace
  let negative := t.head? = some 45
  let u := if t.head? = some 45 ∨ t.head? = some 43 then t.tail else t
  let digits := u.takeWhile isDigit
  if digits = [] then (0, s)
  else
    let v : Int := digitsValue digits
    (clampLong (if negative then -v else v), u.dropWhile isDigit)

/-- One `first-second` pair of a `Transport` header, looked up by its label. Without a
second number it is the first plus one, which wraps at 32 bits. -/
def numberPair (label transportStr : Bytes) : Option (Int × Int) :=
  match Search.find label transportStr with
  | none => none
  | some pos =>
    let p := strtol (cString (transportStr.drop (pos + label.length)))
    let first := toInt p.1
    match p.2 with
    | 45 :: rest => some (first, toInt (strtol rest).1)
    | _ => some (first, Int.bmod (first + 1) (2 ^ 32))

/-- `ParseTransport`. -/
def parseTransport (transportStr : Bytes) : TransportInfo :=
  let info : TransportInfo :=
    if (Search.find (ascii "TCP") transportStr).isSome then { isTcp := true }
    else if (Search.find (ascii "RTP/AVP") transportStr).isSome ||
        (Search.find (ascii "UDP") transportStr).isSome then { isUdp := true }
    else { isUdp := true }
  let info := match numberPair (ascii "client_port=") transportStr with
    | some (rtp, rtcp) => { info with clientRtpPort := rtp, clientRtcpPort := rtcp }
    | none => info
  let info := match numberPair (ascii "server_port=") transportStr with
    | some (rtp, rtcp) => { info with serverRtpPort := rtp, serverRtcpPort := rtcp }
    | none => info
  match numberPair (ascii "interleaved=") transportStr with
    | some (rtp, rtcp) => { info with interleavedRtp := rtp, interleavedRtcp := rtcp }
    | none => info

/-- `ParseMethod`. -/
def parseMethod (methodStr : Bytes) : RtspMethod :=
  if methodStr = ascii "OPTIONS" then .kOptions
  else if methodStr = ascii "DESCRIBE" then .kDescribe
  else if methodStr = ascii "SETUP" then .kSetup
  else if methodStr = ascii "PLAY" then .kPlay
  else if methodStr = ascii "PAUSE" then .kPause
  else if methodStr = ascii "TEARDOWN" then .kTeardown
  else if methodStr = ascii "GET_PARAMETER" then .kGetParameter
  else if methodStr = ascii "SET_PARAMETER" then .kSetParameter
  else .kUnknown

/-- `stream >> word`: the next word and the rest of the stream; no word at its end. -/
def extract (stream : Bytes) : Bytes × Bytes :=
  let s := stream.dropWhile isSpace
  (s.takeWhile (!isSpace ·), s.dropWhile (!isSpace ·))

/-- `ParseRequestLine`. -/
def parseRequestLine (line : Bytes) (request : RtspRequest) : Except Status RtspRequest :=
  let method := extract line
  let url := extract method.2
  let version := extract url.2
  if method.1 = [] then .error (.parseError "missing method")
  else .ok { request with method := parseMethod method.1, url := url.1, version := version.1 }

/-- The value of a `CSeq` header: a number and nothing behind it, or 0. -/
def parseCSeq (value : Bytes) : Int :=
  let s := cString value
  let p := strtol s
  if p.2 ≠ s ∧ p.2 = [] then toInt p.1 else 0

/-- A header line; a line without a colon is skipped. -/
def parseHeaderLine (line : Bytes) (request : RtspRequest) : RtspRequest :=
  match Search.find (ascii ":") line with
  | none => request
  | some colonPos =>
    let key := (trim (line.take colonPos)).map toLower
    let value := trim (line.drop (colonPos + 1))
    let request :=
      if key = ascii "cseq" then { request with cseq := parseCSeq value }
      else if key = ascii "transport" then { request with transport := parseTransport value }
      else request
    { request with headers := request.headers.insert key value }

/-- The lines of the input that end in a line feed, without it; bytes behind the last
line feed are not looked at. -/
def lines : Bytes → List Bytes
  | [] => []
  | b :: rest =>
    if b = 10 then [] :: lines rest
    else match lines rest with
      | [] => []
      | line :: more => (b :: line) :: more

/-- A line without its carriage return. -/
def stripCr (line : Bytes) : Bytes := if line.getLast? = some 13 then line.dropLast else line

/-- The variables of the loop of `Parse`. -/
structure Progress where
  request : RtspRequest
  inBody : Bool := false
  requestLineParsed : Bool := false

/-- One turn of the loop of `Parse`. -/
def parseLine (s : Progress) (line : Bytes) : Except Status Progress :=
  let line := stripCr line
  if line.length = 0 ∧ s.inBody = false then .ok { s with inBody := true }
  else if s.inBody then
    .ok { s with request := { s.request with body := s.request.body ++ line ++ [10] } }
  else if s.requestLineParsed = false then do
    let request ← parseRequestLine line s.request
    .ok { s with request := request, requestLineParsed := true }
  else .ok { s with request := parseHeaderLine line s.request }

/-- `Parse` into an existing request object, whose `transport` alone survives from
earlier use. The result is the object after a successful parse. -/
def parse (data : Bytes) (request : RtspRequest) : Except Status RtspRequest :=
  if data.length = 0 then .error (.invalidArgument "empty data")
  else if data.length > kMaxRtspRequestDataLen then .error (.parseError "request too large")
  else do
    let s ← (lines data).foldlM parseLine { request := { transport := request.transport } }
    if s.requestLineParsed then .ok s.request else .error (.parseError "missing request line")

end RtspParser

end RtspForward
