/-!
The condition of the line that comes with every received byte: a set of four possible errors.
-/

namespace FramedLine

/-- A set of line errors, one bit each. -/
structure Status where
  bits : BitVec 4
  deriving DecidableEq, Repr

namespace Status

def ok : Status := ⟨0⟩

/-- The stop bit was missing. -/
def framing : Status := ⟨1⟩

/-- A byte was lost because the one before it had not been taken. -/
def overrun : Status := ⟨2⟩

def parity : Status := ⟨4⟩

/-- The line was held low for longer than a byte. -/
def lineBreak : Status := ⟨8⟩

instance : Inhabited Status := ⟨ok⟩

/-- Reads a status from the low four bits of a byte; the others carry no meaning. -/
def ofByte (byte : UInt8) : Status :=
  ⟨byte.toBitVec.setWidth 4⟩

def toByte (status : Status) : UInt8 :=
  ⟨status.bits.setWidth 8⟩

def union (left right : Status) : Status :=
  ⟨left.bits ||| right.bits⟩

instance : OrOp Status := ⟨union⟩

def intersects (left right : Status) : Bool :=
  left.bits &&& right.bits != 0

def isOk (status : Status) : Bool :=
  status == ok

end Status

end FramedLine
