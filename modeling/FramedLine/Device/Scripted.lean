import FramedLine.Device

/-!
A device without a line behind it: it has received a given list of bytes, keeps what is sent, and fails
or refuses to go on after a given number of operations.
-/

namespace FramedLine

/-- The operation that failed. -/
inductive ScriptedFailure where
  | read
  | write
  | flush
  deriving DecidableEq, Repr

def ScriptedFailure.message : ScriptedFailure → String
  | .read => "read"
  | .write => "write"
  | .flush => "flush"

/-- How many more times an operation goes well; without a number it always does. -/
abbrev Budget := Option Nat

/-- What is left after one more operation, if it goes well. -/
def Budget.spend : Budget → Option Budget
  | none => some none
  | some 0 => none
  | some (left + 1) => some (some left)

structure ScriptedDevice where
  incoming : List (UInt8 × Status) := []
  reads : Budget := none
  writes : Budget := none
  ready : Budget := none
  flushFails : Bool := false
  output : Bytes := []
  flushes : Nat := 0

namespace ScriptedDevice

/-- A read that fails takes nothing; one that finds nothing waiting counts as a read. -/
def readByte (device : ScriptedDevice) :
    Except ScriptedFailure (Option (UInt8 × Status)) × ScriptedDevice :=
  match Budget.spend device.reads with
  | none => (.error .read, device)
  | some reads =>
    match device.incoming with
    | [] => (.ok none, { device with reads })
    | received :: rest => (.ok (some received), { device with reads, incoming := rest })

def writeReady (device : ScriptedDevice) : Bool × ScriptedDevice :=
  match Budget.spend device.ready with
  | none => (false, device)
  | some ready => (true, { device with ready })

def writeByte (device : ScriptedDevice) (byte : UInt8) : Except ScriptedFailure Unit × ScriptedDevice :=
  match Budget.spend device.writes with
  | none => (.error .write, device)
  | some writes => (.ok (), { device with writes, output := device.output ++ [byte] })

/-- A flush counts whether it fails or not. -/
def flush (device : ScriptedDevice) : Except ScriptedFailure Unit × ScriptedDevice :=
  (if device.flushFails then .error .flush else .ok (), { device with flushes := device.flushes + 1 })

theorem incoming_lt {device after : ScriptedDevice} {received : UInt8 × Status}
    (read : device.readByte = (.ok (some received), after)) :
    after.incoming.length < device.incoming.length := by
  unfold readByte at read
  split at read
  · cases read
  · split at read
    next => cases read
    next rest found =>
      cases read
      simp [found]

instance : SerialDevice ScriptedDevice ScriptedFailure where
  readByte := readByte
  writeReady := writeReady
  writeByte := writeByte
  flush := flush
  waiting device := device.incoming.length
  waiting_lt := incoming_lt

end ScriptedDevice

/-- A scripted device that is always ready and keeps nothing back. -/
structure PlainDevice where
  script : ScriptedDevice

namespace PlainDevice

def readByte (device : PlainDevice) :
    Except ScriptedFailure (Option (UInt8 × Status)) × PlainDevice :=
  let (result, script) := device.script.readByte
  (result, ⟨script⟩)

def writeByte (device : PlainDevice) (byte : UInt8) : Except ScriptedFailure Unit × PlainDevice :=
  let (result, script) := device.script.writeByte byte
  (result, ⟨script⟩)

theorem incoming_lt {device after : PlainDevice} {received : UInt8 × Status}
    (read : device.readByte = (.ok (some received), after)) :
    after.script.incoming.length < device.script.incoming.length := by
  obtain ⟨result, moved⟩ := Prod.mk.inj read
  subst moved
  exact ScriptedDevice.incoming_lt (Prod.ext result rfl)

instance : SerialDevice PlainDevice ScriptedFailure where
  readByte := readByte
  writeByte := writeByte
  waiting device := device.script.incoming.length
  waiting_lt := incoming_lt

end PlainDevice

end FramedLine
