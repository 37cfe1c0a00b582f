import FramedLine.Link.Basic

/-!
A wire from one link to another, which may damage what it carries: it flips bits, loses bytes and
reports line errors, each at given places of a stretch.
-/

namespace FramedLine

/-- What a wire does to the bytes of a stretch, told by their places in it. -/
structure Damage where
  flips : List (Nat × UInt8) := []
  losses : List Nat := []
  conditions : List (Nat × Status) := []

/-- What arrives in the place of a byte, if anything does. -/
def Damage.carry (damage : Damage) (place : Nat) (byte : UInt8) : Option (UInt8 × Status) :=
  if damage.losses.contains place then
    none
  else
    some (byte ^^^ (damage.flips.lookup place).getD 0, (damage.conditions.lookup place).getD .ok)

namespace Link

variable {geometry : Geometry}

/-- Delivers a stretch that begins at a given place. -/
def deliver (link : Link geometry) (damage : Damage) (place : Nat) : Bytes → Link geometry
  | [] => link
  | byte :: rest =>
    let after :=
      match damage.carry place byte with
      | none => link
      | some (arrived, status) => link.receiveByte arrived status
    after.deliver damage (place + 1) rest

/-- Sends up to `limit` bytes from one link to another. The stretch is told as it was sent. -/
def pump (sender receiver : Link geometry) (damage : Damage) (limit : Nat) :
    Outbound.Stretch × Link geometry × Link geometry :=
  let (stretch, outbound) := sender.outbound.takeLine limit
  (stretch, { sender with outbound }, receiver.deliver damage 0 stretch.bytes)

end Link

end FramedLine
