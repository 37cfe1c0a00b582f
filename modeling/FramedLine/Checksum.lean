/-!
The 16-bit checksum of a packet: the remainder of a division by the reflected polynomial `0x8408`,
with every bit of the register set at the start and nothing added at the end.

`step` folds one byte into the register with a few shifts; `ofBytes` divides a whole buffer bit by bit.
A packet is followed by its checksum in the byte order that makes the register of the two together zero.
-/

namespace FramedLine

/-- A string of bytes, in the order of the line. -/
abbrev Bytes := List UInt8

namespace Checksum

def initial : UInt16 := 0xFFFF

/-- The number of bytes that a checksum takes on the line. -/
def width : Nat := 2

/-- Folds one byte into the register, half a byte at a time. -/
def step (register : UInt16) (byte : UInt8) : UInt16 :=
  let low := byte ^^^ register.toUInt8
  let data := low ^^^ (low <<< 4)
  ((data.toUInt16 <<< 8) ||| (register >>> 8)) ^^^ (data >>> 4).toUInt16 ^^^
    (data.toUInt16 <<< 3)

def fold (register : UInt16) (data : Bytes) : UInt16 :=
  data.foldl step register

/-- The register after each byte. -/
def registers (register : UInt16) : Bytes → List UInt16
  | [] => []
  | byte :: rest => step register byte :: registers (step register byte) rest

/-- The polynomial x^16 + x^12 + x^5 + 1 with its lowest power in the highest bit. -/
def polynomial : UInt16 := 0x8408

/-- One step of the long division: the bit that leaves the register decides on a subtraction. -/
def divideBit (register : UInt16) : UInt16 :=
  if register &&& 1 = 1 then (register >>> 1) ^^^ polynomial else register >>> 1

def divideBits : Nat → UInt16 → UInt16
  | 0, register => register
  | bits + 1, register => divideBits bits (divideBit register)

def divideByte (register : UInt16) (byte : UInt8) : UInt16 :=
  divideBits 8 (register ^^^ byte.toUInt16)

/-- The checksum of a whole buffer, by long division. -/
def ofBytes (data : Bytes) : UInt16 :=
  data.foldl divideByte initial

/-- The checksum as it follows a packet: the low byte first. -/
def trailer (checksum : UInt16) : Bytes :=
  [checksum.toUInt8, (checksum >>> 8).toUInt8]

@[simp] theorem length_trailer (checksum : UInt16) : (trailer checksum).length = width := rfl

@[simp] theorem fold_nil (register : UInt16) : fold register [] = register := rfl

@[simp] theorem fold_cons (register : UInt16) (byte : UInt8) (rest : Bytes) :
    fold register (byte :: rest) = fold (step register byte) rest := rfl

theorem fold_append (register : UInt16) (first second : Bytes) :
    fold register (first ++ second) = fold (fold register first) second :=
  List.foldl_append

end Checksum

end FramedLine
