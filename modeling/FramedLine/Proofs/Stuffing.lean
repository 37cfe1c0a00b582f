import FramedLine.Stuffing
import FramedLine.Proofs.Checksum

/-!
Stuffing of whole strings, and what a receiver makes of a stretch of line bytes. A stuffed string holds
no delimiter and no abort, and is decoded to what it was before.
-/

namespace FramedLine.Stuffing

/-- The line form of a string of bytes. -/
def stuffAll (data : Bytes) : Bytes :=
  data.flatMap fun byte => (stuff byte).bytes

/-- What a byte stands for, which depends on whether a marker came before it. -/
def unmask (escaped : Bool) (byte : UInt8) : UInt8 :=
  if escaped then byte ^^^ escapeMask else byte

/-- The data in a stretch of line bytes: markers are taken out, and the byte after them is unmasked. A
marker at the end stands for nothing. -/
def decode : Bool → Bytes → Bytes
  | _, [] => []
  | escaped, byte :: rest =>
    if byte = escape then decode true rest else unmask escaped byte :: decode false rest

/-- Whether a stretch ends in a marker. -/
def dangling : Bool → Bytes → Bool
  | escaped, [] => escaped
  | _, byte :: rest => dangling (byte == escape) rest

section Decoding

variable (escaped : Bool)

theorem dangling_append (first second : Bytes) :
    dangling escaped (first ++ second) = dangling (dangling escaped first) second := by
  induction first generalizing escaped with
  | nil => rfl
  | cons byte rest inductionHypothesis => exact inductionHypothesis _

theorem decode_append (first second : Bytes) :
    decode escaped (first ++ second) = decode escaped first ++ decode (dangling escaped first) second := by
  induction first generalizing escaped with
  | nil => rfl
  | cons byte rest inductionHypothesis =>
    by_cases marker : byte = escape
    · simp [decode, dangling, marker, inductionHypothesis]
    · have plain : (byte == escape) = false := beq_false_of_ne marker
      simp [decode, dangling, marker, plain, inductionHypothesis]

@[simp] theorem decode_escape : decode escaped [escape] = [] := rfl

theorem decode_data {byte : UInt8} (data : byte ≠ escape) :
    decode escaped [byte] = [unmask escaped byte] := by
  simp [decode, data]

theorem dangling_data {byte : UInt8} (data : byte ≠ escape) : dangling escaped [byte] = false := by
  simp [dangling, data]

/-- The decoder takes one byte as the whole stretch is decoded. -/
theorem Decoder.feed_data {byte : UInt8} (notStart : byte ≠ start) (notReset : byte ≠ reset)
    (notEscape : byte ≠ escape) :
    Decoder.feed ⟨escaped⟩ byte = (.data (unmask escaped byte), ⟨false⟩) := by
  cases escaped <;> simp [feed, unmask, notStart, notReset, notEscape]

@[simp] theorem Decoder.feed_escape : Decoder.feed ⟨escaped⟩ escape = (.pending, ⟨true⟩) := rfl

@[simp] theorem Decoder.feed_start : Decoder.feed ⟨escaped⟩ start = (.start, ⟨false⟩) := rfl

@[simp] theorem Decoder.feed_reset : Decoder.feed ⟨escaped⟩ reset = (.reset, ⟨false⟩) := rfl

end Decoding

section Encoding

@[simp] theorem stuffAll_nil : stuffAll [] = [] := rfl

@[simp] theorem stuffAll_cons (byte : UInt8) (rest : Bytes) :
    stuffAll (byte :: rest) = (stuff byte).bytes ++ stuffAll rest := rfl

/-- A masked byte goes out as it is. -/
theorem needsEscape_mask (byte : UInt8) :
    needsEscape byte → needsEscape (byte ^^^ escapeMask) = false := by
  revert byte
  exact Checksum.forall_byte (by decide +kernel)

@[simp] theorem unmask_mask (byte : UInt8) : unmask true (byte ^^^ escapeMask) = byte := by
  rw [unmask, if_pos rfl, UInt8.xor_assoc, UInt8.xor_self, UInt8.xor_zero]

theorem stuff_of_plain {byte : UInt8} (plain : needsEscape byte = false) :
    (stuff byte).bytes = [byte] := by
  rw [bytes_stuff, plain]
  rfl

theorem stuff_of_special {byte : UInt8} (special : needsEscape byte = true) :
    (stuff byte).bytes = [escape, byte ^^^ escapeMask] := by
  rw [bytes_stuff, special]
  rfl

theorem ne_of_plain {byte : UInt8} (plain : needsEscape byte = false) :
    byte ≠ start ∧ byte ≠ reset ∧ byte ≠ escape := by
  simpa [needsEscape, and_assoc] using plain

/-- A stuffed string holds no delimiter and no abort. -/
theorem plain_stuffAll (data : Bytes) : ∀ byte ∈ stuffAll data, byte ≠ start ∧ byte ≠ reset := by
  induction data with
  | nil =>
    intro byte found
    cases found
  | cons first rest inductionHypothesis =>
    intro byte found
    rw [stuffAll_cons] at found
    rcases List.mem_append.mp found with here | later
    · cases special : needsEscape first with
      | false =>
        rw [stuff_of_plain special, List.mem_singleton] at here
        rw [here]
        exact ⟨(ne_of_plain special).1, (ne_of_plain special).2.1⟩
      | true =>
        have masked := ne_of_plain (needsEscape_mask first special)
        rw [stuff_of_special special, List.mem_cons, List.mem_singleton] at here
        rcases here with marker | value
        · rw [marker]
          decide
        · rw [value]
          exact ⟨masked.1, masked.2.1⟩
    · exact inductionHypothesis byte later

/-- A stuffed byte is decoded to itself, and leaves no marker behind. -/
theorem decode_stuff (byte : UInt8) (rest : Bytes) :
    decode false ((stuff byte).bytes ++ rest) = byte :: decode false rest := by
  cases special : needsEscape byte with
  | false => simp [stuff_of_plain special, decode, unmask, (ne_of_plain special).2.2]
  | true =>
    have masked := (ne_of_plain (needsEscape_mask byte special)).2.2
    simp [stuff_of_special special, decode, masked]

/-- A stuffed string is decoded to itself. -/
theorem decode_stuffAll (data : Bytes) : decode false (stuffAll data) = data := by
  induction data with
  | nil => rfl
  | cons byte rest inductionHypothesis => rw [stuffAll_cons, decode_stuff, inductionHypothesis]

theorem stuffAll_injective : Function.Injective stuffAll :=
  Function.LeftInverse.injective decode_stuffAll

/-- Each byte with a meaning of its own takes a marker. -/
theorem length_stuffAll (data : Bytes) :
    (stuffAll data).length = data.length + data.countP needsEscape := by
  induction data with
  | nil => rfl
  | cons byte rest inductionHypothesis =>
    rw [stuffAll_cons, List.length_append, List.length_cons, inductionHypothesis]
    cases special : needsEscape byte with
    | false =>
      rw [stuff_of_plain special, List.countP_cons_of_neg (Bool.not_eq_true _ ▸ special),
        List.length_singleton]
      omega
    | true =>
      rw [stuff_of_special special, List.countP_cons_of_pos special, List.length_cons,
        List.length_singleton]
      omega

end Encoding

end FramedLine.Stuffing
