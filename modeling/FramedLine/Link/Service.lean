import FramedLine.Link.Basic
import FramedLine.Device

/-!
Moving bytes between a link and a serial device: everything that the device has received goes to the link,
then the device is given bytes for as long as the link has any and the device is ready.
-/

namespace FramedLine.Link

variable {geometry : Geometry} {device failure : Type} [SerialDevice device failure]

/-- Takes received bytes from the device until none is waiting or a read fails. -/
def receiveFrom (link : Link geometry) (state : device) :
    Except failure Unit × Link geometry × device :=
  match _ : SerialDevice.readByte state with
  | (.error reason, after) => (.error reason, link, after)
  | (.ok none, after) => (.ok (), link, after)
  | (.ok (some (byte, status)), after) => receiveFrom (link.receiveByte byte status) after
termination_by SerialDevice.waiting state
decreasing_by exact SerialDevice.waiting_lt (by assumption)

/-- The most bytes that a ring full of packets can become on the line: each byte may be stuffed, and
each packet has its delimiter beside the one that opens the first. -/
def lineBound (geometry : Geometry) : Nat :=
  2 * geometry.bytes.slots + geometry.marks.slots + 1

/-- Gives the device at most `limit` bytes. The answer tells whether a byte was written. -/
def sendUpTo (link : Link geometry) (state : device) (wrote : Bool) :
    Nat → Except failure Bool × Link geometry × device
  | 0 => (.ok wrote, link, state)
  | limit + 1 =>
    if !link.outbound.armed then
      (.ok wrote, link, state)
    else
      match SerialDevice.writeReady state with
      | (false, state) => (.ok wrote, link, state)
      | (true, state) =>
        match link.nextByte with
        | (none, link) => (.ok wrote, link, state)
        | (some byte, link) =>
          match SerialDevice.writeByte state byte with
          | (.error reason, state) => (.error reason, link, state)
          | (.ok (), state) => sendUpTo link state true limit

/-- Gives the device bytes while the notification is armed and the device is ready. -/
def sendTo (link : Link geometry) (state : device) : Except failure Bool × Link geometry × device :=
  link.sendUpTo state false (lineBound geometry)

/-- Receives everything, sends what the device takes, and flushes the device if a byte was written. The
first failure of the device ends the service. -/
def service (link : Link geometry) (state : device) : Except failure Unit × Link geometry × device :=
  match link.receiveFrom state with
  | (.error reason, link, state) => (.error reason, link, state)
  | (.ok (), link, state) =>
    match link.sendTo state with
    | (.error reason, link, state) => (.error reason, link, state)
    | (.ok false, link, state) => (.ok (), link, state)
    | (.ok true, link, state) =>
      let (result, state) := SerialDevice.flush state
      (result, link, state)

end FramedLine.Link
