import FramedLine.Checksum
import FramedLine.Status

/-!
A serial device, a byte at a time, as the link sees it. Every operation may fail and changes the device.
-/

namespace FramedLine

/-- A device holds finitely many received bytes: each one that is read leaves fewer waiting. -/
class SerialDevice (device : Type) (failure : outParam Type) where
  /-- The next received byte and the condition of the line, if a byte is waiting. -/
  readByte : device → Except failure (Option (UInt8 × Status)) × device
  /-- Whether the device can take a byte now. -/
  writeReady : device → Bool × device := fun state => (true, state)
  writeByte : device → UInt8 → Except failure Unit × device
  /-- Pushes out what the device keeps back. -/
  flush : device → Except failure Unit × device := fun state => (.ok (), state)
  /-- A bound on the bytes that can still be read. -/
  waiting : device → Nat
  waiting_lt : ∀ {state after : device} {received : UInt8 × Status},
    readByte state = (.ok (some received), after) → waiting after < waiting state

end FramedLine
