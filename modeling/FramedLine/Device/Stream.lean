import FramedLine.Failure
import FramedLine.Device

/-!
A device over a pair of byte streams of the host, such as a pipe or a terminal. What the streams are
going to answer is given beforehand, one outcome for each call.
-/

namespace FramedLine

/-- How a stream answers one attempt to read a byte. -/
inductive ReadOutcome where
  | data (byte : UInt8)
  | atEnd
  | failed (reason : StreamFailure)
  deriving DecidableEq, Repr

/-- How a stream answers one attempt to write a byte. -/
inductive WriteOutcome where
  | accepted
  /-- The byte was not taken, and no reason was given. -/
  | nothing
  | failed (reason : StreamFailure)
  deriving DecidableEq, Repr

/-- Where no outcome is left, the reader is at its end and the writer accepts everything. -/
structure StreamDevice where
  reads : List ReadOutcome := []
  writes : List WriteOutcome := []
  flushFailure : Option StreamFailure := none
  output : Bytes := []
  flushes : Nat := 0
  deriving DecidableEq, Repr

namespace StreamDevice

/-- The reasons that only mean that nothing is waiting yet. -/
def isTransient : StreamFailure → Bool
  | .wouldBlock | .interrupted => true
  | _ => false

/-- The end of the stream may be followed by more data, so it is not a failure. -/
def readByte (device : StreamDevice) :
    Except StreamFailure (Option (UInt8 × Status)) × StreamDevice :=
  match device.reads with
  | [] => (.ok none, device)
  | outcome :: reads =>
    let device := { device with reads }
    match outcome with
    | .data byte => (.ok (some (byte, Status.ok)), device)
    | .atEnd => (.ok none, device)
    | .failed reason => (if isTransient reason then .ok none else .error reason, device)

/-- Attempts to write until the byte is accepted or refused; an interruption is neither. The answer
comes with the outcomes that are left. -/
def attempt : List WriteOutcome → Except StreamFailure Unit × List WriteOutcome
  | [] => (.ok (), [])
  | .accepted :: rest => (.ok (), rest)
  | .nothing :: rest => (.error .writeZero, rest)
  | .failed reason :: rest =>
    if reason = .interrupted then attempt rest else (.error reason, rest)

def writeByte (device : StreamDevice) (byte : UInt8) : Except StreamFailure Unit × StreamDevice :=
  match attempt device.writes with
  | (.ok (), writes) => (.ok (), { device with writes, output := device.output ++ [byte] })
  | (.error reason, writes) => (.error reason, { device with writes })

def flush (device : StreamDevice) : Except StreamFailure Unit × StreamDevice :=
  let after := { device with flushes := device.flushes + 1 }
  match device.flushFailure with
  | none => (.ok (), after)
  | some reason => (.error reason, after)

theorem reads_lt {device after : StreamDevice} {received : UInt8 × Status}
    (read : device.readByte = (.ok (some received), after)) :
    after.reads.length < device.reads.length := by
  unfold readByte at read
  split at read
  next => cases read
  next outcome rest found =>
    split at read
    next =>
      cases read
      simp [found]
    next => cases read
    next => split at read <;> cases read

instance : SerialDevice StreamDevice StreamFailure where
  readByte := readByte
  writeByte := writeByte
  flush := flush
  waiting device := device.reads.length
  waiting_lt := reads_lt

end StreamDevice

end FramedLine
