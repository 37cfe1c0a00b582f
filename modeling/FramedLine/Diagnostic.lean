import FramedLine.Checksum

/-!
Diagnostic reports: packets of fixed length that tell where in a program something went wrong. A report
carries an error number, a line and the start of a file name, which has no room for its directories.
-/

namespace FramedLine

structure Diagnostic where
  number : UInt8
  line : UInt16
  /-- The start of the file name, filled up with zeros. -/
  file : Vector UInt8 6
  deriving DecidableEq

namespace Diagnostic

/-- The first byte of every report, the letter `c`. -/
def kind : UInt8 := 0x63

def fileWidth : Nat := 6

/-- The length of every report. -/
def size : Nat := 10

def isSeparator (letter : Char) : Bool :=
  letter == '/' || letter == '\\'

/-- What follows the last separator of a path. -/
def lastComponent (path : List Char) : List Char :=
  (path.reverse.takeWhile fun letter => !isSeparator letter).reverse

def encodeText (letters : List Char) : Bytes :=
  letters.flatMap String.utf8EncodeChar

/-- The start of a name, cut after six bytes or filled up with zeros. -/
def field (name : Bytes) : Vector UInt8 6 :=
  Vector.ofFn fun index => name.getD index 0

/-- The report of an error at a line of a file. -/
def ofSource (number : UInt8) (line : UInt16) (path : String) : Diagnostic where
  number := number
  line := line
  file := field (encodeText (lastComponent path.toList))

def toBytes (report : Diagnostic) : Bytes :=
  [kind, report.number, (report.line >>> 8).toUInt8, report.line.toUInt8] ++ report.file.toList

/-- Reads a report out of a payload of the right length and kind. -/
def ofBytes? (payload : Bytes) : Option Diagnostic :=
  match payload with
  | first :: number :: high :: low :: name =>
    if fits : first = kind ∧ name.length = 6 then
      some ⟨number, (high.toUInt16 <<< 8) ||| low.toUInt16, ⟨name.toArray, fits.2⟩⟩
    else
      none
  | _ => none

/-- The file name without the zeros that fill it up. -/
def fileName (report : Diagnostic) : Bytes :=
  report.file.toList.takeWhile (· != 0)

@[simp] theorem length_toBytes (report : Diagnostic) : report.toBytes.length = size := by
  simp [toBytes, size]

end Diagnostic

end FramedLine
