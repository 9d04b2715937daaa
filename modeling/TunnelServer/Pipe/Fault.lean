import TunnelServer.Datagram
import TunnelServer.Packet.Encoding

/-!
# Failed transfers

Why reading from or writing to a stream, a socket or a file failed.  Some causes are found by this
library, the others are reported by a device with a kind and a text of its own.
-/

namespace TunnelServer.Pipe

/-- The kinds of failures that devices report. -/
inductive FaultKind where
  | notFound | permissionDenied | connectionRefused | connectionReset | connectionAborted
  | hostUnreachable | networkUnreachable | networkDown | notConnected | addressInUse
  | addressNotAvailable | brokenPipe | alreadyExists | wouldBlock | notADirectory | isADirectory
  | directoryNotEmpty | readOnlyFilesystem | invalidInput | invalidData | timedOut | writeZero
  | storageFull | notSeekable | fileTooLarge | resourceBusy | deadlock | tooManyLinks | interrupted
  | unsupported | unexpectedEnd | outOfMemory | other
  deriving DecidableEq

/-- Why a transfer failed. -/
inductive Fault where
  /-- The stream ended before everything asked for was read. -/
  | endedEarly
  /-- The writer took nothing more. -/
  | nothingTaken
  /-- What was read is no frame. -/
  | badFrame (cause : FramingError)
  /-- What was to be written has no frame. -/
  | noFrame (cause : EncodeError)
  /-- The device failed. -/
  | device (kind : FaultKind) (text : String)
  deriving DecidableEq

namespace Fault

def kind : Fault → FaultKind
  | endedEarly => .unexpectedEnd
  | nothingTaken => .writeZero
  | badFrame _ => .invalidData
  | noFrame _ => .invalidInput
  | device kind _ => kind

def message : Fault → String
  | endedEarly => "failed to fill whole buffer"
  | nothingTaken => "failed to write whole buffer"
  | badFrame cause => cause.message
  | noFrame cause => cause.message
  | device _ text => text

/-- Whether the same operation may simply be tried again. -/
def isRetryable (fault : Fault) : Bool :=
  match fault.kind with
  | .interrupted | .wouldBlock | .timedOut => true
  | _ => false

end Fault

end TunnelServer.Pipe
