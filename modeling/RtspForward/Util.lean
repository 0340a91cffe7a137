/-!
# Status values and constants

`util/status.h` and the part of `util/constants.h` that the modelled functions
read. Message texts are kept as the source has them.
-/
namespace RtspForward

/-- Bytes of a buffer, a message or a `std::string`. -/
abbrev Bytes := List UInt8

/-- The bytes of an ASCII text. -/
def ascii (s : String) : Bytes := s.toList.map fun c => UInt8.ofNat c.toNat

inductive StatusCode where
  | kOk
  | kError
  | kInvalidArgument
  | kNetworkError
  | kClosed
  | kBufferFull
  | kParseError
  | kNotImplemented
  | kTimeout
  | kLimitExceeded
  | kFailedPrecondition
  | kResourceExhausted
  deriving DecidableEq, Repr

structure Status where
  code : StatusCode := .kOk
  message : String := ""
  deriving DecidableEq, Repr

namespace Status

def isOk (s : Status) : Bool := s.code = .kOk

abbrev ok : Status := {}

abbrev error (message : String) : Status := ⟨.kError, message⟩

abbrev invalidArgument (message : String) : Status := ⟨.kInvalidArgument, message⟩

abbrev networkError (message : String) : Status := ⟨.kNetworkError, message⟩

abbrev closed (message : String) : Status := ⟨.kClosed, message⟩

abbrev bufferFull (message : String) : Status := ⟨.kBufferFull, message⟩

abbrev parseError (message : String) : Status := ⟨.kParseError, message⟩

abbrev failedPrecondition (message : String) : Status := ⟨.kFailedPrecondition, message⟩

abbrev resourceExhausted (message : String) : Status := ⟨.kResourceExhausted, message⟩

/-- Success is decided by the code alone. -/
@[simp] theorem isOk_mk (code : StatusCode) (message : String) :
    isOk ⟨code, message⟩ = decide (code = .kOk) := rfl

end Status

def kMaxRtspRequestDataLen : Nat := 4096

def kRtspVersion : Bytes := ascii "RTSP/1.0"

def kRtspOptionsMethods : Bytes :=
  ascii "OPTIONS, DESCRIBE, SETUP, PLAY, PAUSE, TEARDOWN, GET_PARAMETER, SET_PARAMETER"

def kRtspPlayRange : Bytes := ascii "npt=0.000-"

def kContentTypeSdp : Bytes := ascii "application/sdp"

def kContentTypeText : Bytes := ascii "text/plain"

/-- The interleaved frame marker, the character `$`. -/
def kRtpInterleavedMarker : UInt8 := 0x24

def kDefaultRtpChannel : Int := 0

def kDefaultRtcpChannel : Int := 1

def kMaxRtpPacketSize : Nat := 2048

def kMaxConsecutiveDrops : Int := 100

end RtspForward
