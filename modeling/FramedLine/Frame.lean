import FramedLine.Failure
import FramedLine.Stuffing

/-!
A whole frame in one buffer: a delimiter, the stuffed payload, its stuffed checksum and a delimiter.
`encodeInto` is for a host that writes frames at once and needs no packet ring.
-/

namespace FramedLine.Frame

/-- An output buffer that is filled from the front. -/
structure Sink where
  /-- What was written, the newest byte first. -/
  written : Bytes := []
  /-- What the rest of the buffer holds. -/
  room : Bytes
  deriving DecidableEq, Repr

/-- The whole buffer. -/
def Sink.contents (sink : Sink) : Bytes :=
  sink.written.reverse ++ sink.room

/-- The state of a sink after an attempt to write. A failure keeps what was written before it. -/
abbrev Attempt := Except Failure Unit × Sink

/-- Goes on writing unless the sink was full. -/
def Attempt.andThen (attempt : Attempt) (next : Sink → Attempt) : Attempt :=
  match attempt with
  | (.ok (), sink) => next sink
  | (.error failure, sink) => (.error failure, sink)

def put (byte : UInt8) (sink : Sink) : Attempt :=
  match sink.room with
  | [] => (.error .packetTooLong, sink)
  | _ :: room => (.ok (), ⟨byte :: sink.written, room⟩)

def putAll : Bytes → Sink → Attempt
  | [], sink => (.ok (), sink)
  | byte :: rest, sink => Attempt.andThen (put byte sink) (putAll rest)

def putStuffed : Bytes → Sink → Attempt
  | [], sink => (.ok (), sink)
  | byte :: rest, sink =>
    Attempt.andThen (putAll (Stuffing.stuff byte).bytes sink) (putStuffed rest)

def putFrame (payload : Bytes) (sink : Sink) : Attempt :=
  let sealed := payload ++ Checksum.trailer (Checksum.ofBytes payload)
  Attempt.andThen (put Stuffing.start sink) fun sink =>
    Attempt.andThen (putStuffed sealed sink) (put Stuffing.start)

/-- Writes the frame of `payload` to the front of `buffer`. The answer is the length of the frame, or a
failure when the buffer is too short, and the buffer with as much of the frame as it can hold. -/
def encodeInto (payload buffer : Bytes) : Except Failure Nat × Bytes :=
  match putFrame payload { room := buffer } with
  | (.ok (), sink) => (.ok sink.written.length, sink.contents)
  | (.error failure, sink) => (.error failure, sink.contents)

@[simp] theorem andThen_ok (sink : Sink) (next : Sink → Attempt) :
    Attempt.andThen (.ok (), sink) next = next sink := rfl

@[simp] theorem andThen_error (failure : Failure) (sink : Sink) (next : Sink → Attempt) :
    Attempt.andThen (.error failure, sink) next = (.error failure, sink) := rfl

end FramedLine.Frame
