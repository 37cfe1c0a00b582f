import FramedLine.Status

/-!
The settings of a link: the speed and parity of the line, and the line errors that spoil a packet.
-/

namespace FramedLine

/-- The speeds that the line supports. -/
inductive Baud where
  | baud9600
  | baud19200
  | baud38400
  | baud57600
  | baud115200
  deriving DecidableEq, Repr

def Baud.bitsPerSecond : Baud → Nat
  | .baud9600 => 9600
  | .baud19200 => 19200
  | .baud38400 => 38400
  | .baud57600 => 57600
  | .baud115200 => 115200

/-- Whether a parity bit follows the data bits. -/
inductive Parity where
  | none
  | even
  deriving DecidableEq, Repr

/-- Both directions of a line share its speed and parity. -/
structure Config where
  baud : Baud := .baud38400
  parity : Parity := .even
  /-- The errors that drop the packet in progress; bytes with any other error are taken as they are.
  A break is left out by default, because some adapters send one when they open the line. -/
  dropOn : Status := .framing ||| .overrun ||| .parity
  deriving DecidableEq, Repr

instance : Inhabited Config := ⟨{}⟩

end FramedLine
