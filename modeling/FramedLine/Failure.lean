/-!
What can go wrong outside the line itself, and how it is told to the user.
-/

namespace FramedLine

/-- The reasons for which a byte stream of the host refuses an operation. -/
inductive StreamFailure where
  | notFound
  | permissionDenied
  | connectionReset
  | connectionAborted
  | notConnected
  | brokenPipe
  | wouldBlock
  | invalidInput
  | invalidData
  | timedOut
  | writeZero
  | interrupted
  | unexpectedEnd
  | other
  /-- Any other reason that the host may give, known by its text alone. -/
  | unlisted (text : String)
  deriving DecidableEq, Repr

def StreamFailure.message : StreamFailure → String
  | .notFound => "entity not found"
  | .permissionDenied => "permission denied"
  | .connectionReset => "connection reset"
  | .connectionAborted => "connection aborted"
  | .notConnected => "not connected"
  | .brokenPipe => "broken pipe"
  | .wouldBlock => "operation would block"
  | .invalidInput => "invalid input parameter"
  | .invalidData => "invalid data"
  | .timedOut => "timed out"
  | .writeZero => "write zero"
  | .interrupted => "operation interrupted"
  | .unexpectedEnd => "unexpected end of file"
  | .other => "other error"
  | .unlisted text => text

/-- The failures of the library's own operations. -/
inductive Failure where
  /-- The two ends of a ring were already handed out. -/
  | alreadySplit
  /-- The destination cannot hold the whole packet. -/
  | destinationTooShort
  /-- The packet is longer than what it was to be put into. -/
  | packetTooLong
  | stream (reason : StreamFailure)
  deriving DecidableEq, Repr

def Failure.message : Failure → String
  | .alreadySplit => "buffer already split"
  | .destinationTooShort => "destination shorter than packet"
  | .packetTooLong => "packet does not fit"
  | .stream reason => "transport i/o: " ++ reason.message

end FramedLine
