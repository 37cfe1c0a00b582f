import FramedLine.Checksum

/-!
Byte stuffing. Three bytes have a meaning of their own on the line; a data byte that equals one of
them goes out as a marker and a masked byte, so that a frame delimiter is never part of the data.
-/

namespace FramedLine.Stuffing

/-- Ends one packet and starts the next. -/
def start : UInt8 := 0x7E

/-- Aborts the packet in progress. -/
def reset : UInt8 := 0x7F

/-- Announces that the following byte is masked. -/
def escape : UInt8 := 0x7D

/-- What a masked byte is xored with. -/
def escapeMask : UInt8 := 0x20

def needsEscape (byte : UInt8) : Bool :=
  byte == start || byte == reset || byte == escape

/-- The line form of one data byte, in a cell of two bytes of which the first `used` count. -/
structure Cell where
  first : UInt8
  second : UInt8
  used : Nat
  deriving DecidableEq, Repr

def Cell.bytes (cell : Cell) : Bytes :=
  [cell.first, cell.second].take cell.used

def stuff (byte : UInt8) : Cell :=
  if needsEscape byte then ⟨escape, byte ^^^ escapeMask, 2⟩ else ⟨byte, 0, 1⟩

theorem bytes_stuff (byte : UInt8) :
    (stuff byte).bytes = if needsEscape byte then [escape, byte ^^^ escapeMask] else [byte] := by
  unfold stuff
  split <;> rfl

/-- What one line byte means. -/
inductive Token where
  /-- A frame delimiter. -/
  | start
  /-- An abort. -/
  | reset
  /-- A marker; the byte that it announces is still to come. -/
  | pending
  /-- A data byte. -/
  | data (byte : UInt8)
  deriving DecidableEq, Repr

/-- The state of the decoder: whether the next byte is masked. -/
structure Decoder where
  escaped : Bool := false
  deriving DecidableEq, Repr

instance : Inhabited Decoder := ⟨{}⟩

/-- A delimiter and an abort are recognised even after a marker, which they cancel. -/
def Decoder.feed (decoder : Decoder) (byte : UInt8) : Token × Decoder :=
  if byte = Stuffing.start then (.start, ⟨false⟩)
  else if byte = Stuffing.reset then (.reset, ⟨false⟩)
  else if byte = Stuffing.escape then (.pending, ⟨true⟩)
  else if decoder.escaped then (.data (byte ^^^ escapeMask), ⟨false⟩)
  else (.data byte, decoder)

def Decoder.clear (_ : Decoder) : Decoder := ⟨false⟩

/-- What each byte of a string means, with the state of the decoder after it. -/
def Decoder.feedAll (decoder : Decoder) : Bytes → List (Token × Decoder) × Decoder
  | [] => ([], decoder)
  | byte :: rest =>
    let (token, after) := decoder.feed byte
    let (tokens, final) := after.feedAll rest
    ((token, after) :: tokens, final)

end FramedLine.Stuffing
