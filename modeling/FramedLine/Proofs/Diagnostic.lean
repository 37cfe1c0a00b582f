import FramedLine.Diagnostic
import FramedLine.Proofs.Checksum
import Mathlib.Data.List.GetD
import Mathlib.Data.List.TakeWhile

/-!
What a report keeps of an error and where it happened, and that nothing of it is lost in a packet: the bytes
of a report are read back as the report, and what is read as a report has exactly its bytes.
-/

namespace FramedLine.Diagnostic

section Words

variable (high low : UInt8)

/-- Two bytes in their places have no bit in common. -/
theorem joined_eq_xor :
    high.toUInt16 <<< 8 ||| low.toUInt16 = high.toUInt16 <<< 8 ^^^ low.toUInt16 := by
  apply UInt16.toBitVec_inj.mp
  ext index inside
  simp only [UInt16.toBitVec_or, UInt16.toBitVec_xor, UInt16.toBitVec_shiftLeft, UInt8.toBitVec_toUInt16]
  by_cases lower : index < 8
  · simp [lower]
  · simp [lower, BitVec.getLsbD_of_ge low.toBitVec index (Nat.not_lt.mp lower)]

/-- A line number is its high byte and its low byte. -/
theorem high_or_low (word : UInt16) :
    (word >>> 8).toUInt8.toUInt16 <<< 8 ||| word.toUInt8.toUInt16 = word := by
  rw [joined_eq_xor, Checksum.high_xor_low]

theorem high_joined : ((high.toUInt16 <<< 8 ||| low.toUInt16) >>> 8).toUInt8 = high := by
  apply UInt8.toBitVec_inj.mp
  ext index inside
  have upper : ¬8 + index < 8 := by omega
  simp [upper, BitVec.getLsbD_eq_getElem inside, show 8 + index < 16 by omega]

theorem low_joined : (high.toUInt16 <<< 8 ||| low.toUInt16).toUInt8 = low := by
  apply UInt8.toBitVec_inj.mp
  ext index inside
  simp

end Words

section Packets

variable {report : Diagnostic} {payload : Bytes}

theorem ofBytes?_toBytes (report : Diagnostic) : ofBytes? report.toBytes = some report := by
  have fits : kind = kind ∧ report.file.toList.length = 6 := ⟨rfl, report.file.length_toList⟩
  change (if fits : kind = kind ∧ report.file.toList.length = 6 then _ else _) = _
  rw [dif_pos fits]
  simp only [high_or_low]
  rfl

theorem toBytes_of_ofBytes? (found : ofBytes? payload = some report) : report.toBytes = payload := by
  unfold ofBytes? at found
  split at found
  next first number high low name =>
    split at found
    next fits =>
      obtain rfl := Option.some.inj found
      simp only [toBytes, high_joined, low_joined, fits.1]
      rfl
    next => cases found
  next => cases found

/-- Being a report is a matter of length and kind alone. -/
theorem isSome_ofBytes?_iff :
    (ofBytes? payload).isSome ↔ payload.length = size ∧ payload.head? = some kind := by
  constructor
  · intro found
    obtain ⟨report, read⟩ := Option.isSome_iff_exists.mp found
    rw [← toBytes_of_ofBytes? read]
    exact ⟨report.length_toBytes, rfl⟩
  · rintro ⟨length, head⟩
    match payload, length with
    | first :: number :: high :: low :: name, length =>
      have fits : first = kind ∧ name.length = 6 :=
        ⟨Option.some.inj head, Nat.add_right_cancel (show name.length + 4 = 6 + 4 from length)⟩
      simp only [ofBytes?, dif_pos fits, Option.isSome_some]

end Packets

section Names

/-- A path is its directories, which end in a separator if there are any, and a name without one. -/
structure Parts (path directories name : String) : Prop where
  whole : path = directories ++ name
  plain : ∀ letter ∈ name.toList, letter ≠ '/' ∧ letter ≠ '\\'
  ends : ∀ letter ∈ directories.toList.getLast?, letter = '/' ∨ letter = '\\'

/-- The longest start of a string that has no zero in it. -/
structure UntilZero (bytes start : Bytes) : Prop where
  begins : start <+: bytes
  clean : 0 ∉ start
  longest : ∀ other, other <+: bytes → 0 ∉ other → other <+: start

/-- What the file name of a report has to do with the path that it comes from. -/
structure Describes (report : Diagnostic) (number : UInt8) (line : UInt16) (path : String) : Prop where
  number : report.number = number
  line : report.line = line
  parts : ∃ directories name, Parts path directories name
  name : ∀ directories name, Parts path directories name →
    UntilZero (name.toUTF8.data.toList.take fileWidth) report.fileName

variable {path directories name : String}

theorem isSeparator_iff {letter : Char} :
    isSeparator letter = true ↔ letter = '/' ∨ letter = '\\' := by
  simp [isSeparator]

/-- What comes before the last component of a path. -/
def parents (path : List Char) : List Char :=
  (path.reverse.dropWhile fun letter => !isSeparator letter).reverse

theorem parents_append_lastComponent (path : List Char) : parents path ++ lastComponent path = path := by
  rw [parents, lastComponent, ← List.reverse_append, List.takeWhile_append_dropWhile,
    List.reverse_reverse]

theorem exists_parts (path : String) : ∃ directories name, Parts path directories name := by
  refine ⟨String.ofList (parents path.toList), String.ofList (lastComponent path.toList), ?_⟩
  constructor
  case whole =>
    rw [← String.ofList_append, parents_append_lastComponent, String.ofList_toList]
  case plain =>
    intro letter found
    rw [String.toList_ofList, lastComponent, List.mem_reverse] at found
    have plain := List.mem_takeWhile_imp found
    rw [Bool.not_eq_true', Bool.eq_false_iff] at plain
    exact not_or.mp fun separator => plain (isSeparator_iff.mpr separator)
  case ends =>
    intro letter found
    rw [String.toList_ofList, parents, List.getLast?_reverse] at found
    have first := List.head?_dropWhile_not (fun letter => !isSeparator letter) path.toList.reverse
    rw [Option.mem_def.mp found] at first
    exact isSeparator_iff.mp (by simpa using first)

/-- The last component of a path is its name. -/
theorem Parts.lastComponent_eq (parts : Parts path directories name) :
    lastComponent path.toList = name.toList := by
  have plain : ∀ letter ∈ name.toList.reverse, (!isSeparator letter) = true := by
    intro letter found
    have plain := parts.plain letter (List.mem_reverse.mp found)
    rw [Bool.not_eq_true', Bool.eq_false_iff]
    exact fun separator => not_or.mpr plain (isSeparator_iff.mp separator)
  have stops : directories.toList.reverse.takeWhile (fun letter => !isSeparator letter) = [] := by
    cases found : directories.toList.reverse with
    | nil => rfl
    | cons letter more =>
      have last : letter ∈ directories.toList.getLast? := by
        rw [← List.head?_reverse, found]
        rfl
      have separator := isSeparator_iff.mpr (parts.ends letter last)
      exact List.takeWhile_cons_of_neg (by simp [separator])
  rw [lastComponent, parts.whole, String.toList_append, List.reverse_append,
    List.takeWhile_append_of_pos plain, stops, List.append_nil, List.reverse_reverse]

/-- The bytes of a text are those of its letters. -/
theorem encodeText_toList (text : String) : encodeText text.toList = text.toUTF8.data.toList := by
  have bytes : text.toUTF8 = text.toList.utf8Encode := String.utf8Encode_toList.symm
  rw [bytes, List.utf8Encode, List.data_toByteArray]
  rfl

theorem toList_field (bytes : Bytes) :
    (field bytes).toList =
      bytes.take fileWidth ++ List.replicate (fileWidth - bytes.length) 0 := by
  apply List.ext_getElem
  · rw [Vector.length_toList, List.length_append, List.length_take, List.length_replicate, fileWidth]
    omega
  · intro index inside _
    rw [Vector.getElem_toList, List.getElem_append]
    simp only [field, Vector.getElem_ofFn]
    split
    next taken =>
      rw [List.getElem_take, List.getD_eq_getElem]
    next filled =>
      rw [List.getElem_replicate, List.getD_eq_default]
      rw [Vector.length_toList] at inside
      rw [List.length_take, fileWidth] at filled
      omega

/-- Up to the first zero a string has no zero, and no start of it without one goes further. -/
theorem untilZero_takeWhile (bytes : Bytes) : UntilZero bytes (bytes.takeWhile (· != 0)) where
  begins := List.takeWhile_prefix _
  clean found := by simpa using List.mem_takeWhile_imp found
  longest other begins clean := by
    obtain ⟨rest, rfl⟩ := begins
    have filled : ∀ byte ∈ other, (byte != 0) = true :=
      fun byte found => bne_iff_ne.mpr (ne_of_mem_of_not_mem found clean)
    rw [List.takeWhile_append_of_pos filled]
    exact List.prefix_append _ _

/-- The zeros that fill up a file name are no part of it. -/
theorem fileName_field {report : Diagnostic} {bytes : Bytes} (file : report.file = field bytes) :
    report.fileName = (bytes.take fileWidth).takeWhile (· != 0) := by
  rw [fileName, file, toList_field, List.takeWhile_append, List.takeWhile_replicate]
  split
  next whole =>
    rw [if_neg (by decide), List.append_nil]
    exact ((List.takeWhile_prefix _).eq_of_length whole).symm
  next => rfl

theorem describes_ofSource (number : UInt8) (line : UInt16) (path : String) :
    (ofSource number line path).Describes number line path where
  number := rfl
  line := rfl
  parts := exists_parts path
  name directories name parts := by
    rw [fileName_field rfl, parts.lastComponent_eq, encodeText_toList]
    exact untilZero_takeWhile _

/-- The letter that does not fit any more is cut in the middle. -/
example : (ofSource 1 9 "C:\\src/übermaß.c").fileName = [0xC3, 0xBC, 0x62, 0x65, 0x72, 0x6D] := by
  decide +kernel

end Names

end FramedLine.Diagnostic
