import FramedLine.Frame
import FramedLine.Proofs.Stuffing

/-!
The frame of a payload, and what the encoder makes of a buffer that is long enough or too short for it.
-/

namespace FramedLine.Frame

/-- A frame without the delimiter that opens it. -/
def body (payload : Bytes) : Bytes :=
  Stuffing.stuffAll (Checksum.sealed payload) ++ [Stuffing.start]

/-- The frame of a payload. -/
def whole (payload : Bytes) : Bytes :=
  Stuffing.start :: body payload

theorem putAll_singleton (byte : UInt8) : putAll [byte] = put byte := by
  funext sink
  rw [putAll]
  unfold put
  split <;> rfl

theorem putAll_append (first second : Bytes) (sink : Sink) :
    putAll (first ++ second) sink = Attempt.andThen (putAll first sink) (putAll second) := by
  induction first generalizing sink with
  | nil => rfl
  | cons byte rest inductionHypothesis =>
    rw [List.cons_append, putAll, putAll]
    rcases put byte sink with ⟨_ | _, after⟩
    · rfl
    · exact inductionHypothesis after

theorem putStuffed_eq (data : Bytes) : putStuffed data = putAll (Stuffing.stuffAll data) := by
  induction data with
  | nil => rfl
  | cons byte rest inductionHypothesis =>
    funext sink
    rw [putStuffed, Stuffing.stuffAll_cons, putAll_append, inductionHypothesis]

/-- The encoder writes one string, the frame. -/
theorem putFrame_eq (payload : Bytes) : putFrame payload = putAll (whole payload) := by
  funext sink
  have opening : whole payload = [Stuffing.start] ++ body payload := rfl
  rw [opening, putAll_append, putAll_singleton, body]
  simp only [putFrame, putStuffed_eq, Checksum.sealed]
  congr 1
  funext sink
  rw [putAll_append, putAll_singleton]

/-- A string goes to the buffer as far as there is room. -/
theorem putAll_eq (data written room : Bytes) :
    putAll data ⟨written, room⟩ =
      (if data.length ≤ room.length then .ok () else .error .packetTooLong,
        ⟨(data.take room.length).reverse ++ written, room.drop data.length⟩) := by
  induction data generalizing written room with
  | nil => simp [putAll]
  | cons byte rest inductionHypothesis =>
    cases room with
    | nil => simp [putAll, put]
    | cons old room => simp [putAll, put, inductionHypothesis]

/-- The encoder answers the length of the frame if it fits, and leaves the buffer behind it alone. -/
theorem encodeInto_eq (payload buffer : Bytes) :
    encodeInto payload buffer =
      (if (whole payload).length ≤ buffer.length then .ok (whole payload).length
        else .error .packetTooLong,
        (whole payload).take buffer.length ++ buffer.drop (whole payload).length) := by
  unfold encodeInto
  rw [putFrame_eq, putAll_eq]
  by_cases fits : (whole payload).length ≤ buffer.length
  · simp [fits, Sink.contents]
  · simp [fits, Sink.contents]

/-- Stuffing at most doubles a string. -/
theorem length_stuffAll_le (data : Bytes) : (Stuffing.stuffAll data).length ≤ 2 * data.length := by
  have markers := data.countP_le_length (p := Stuffing.needsEscape)
  rw [Stuffing.length_stuffAll]
  omega

/-- What the encoder puts to a buffer in which every byte of the payload may be stuffed. -/
def encoding (payload : Bytes) : Bytes :=
  let room := 2 * (payload.length + Checksum.width) + 2
  match encodeInto payload (List.replicate room 0) with
  | (.ok length, contents) => contents.take length
  | (.error _, _) => []

theorem encoding_eq (payload : Bytes) : encoding payload = whole payload := by
  have stuffed := length_stuffAll_le (Checksum.sealed payload)
  have fits : (whole payload).length ≤ 2 * (payload.length + Checksum.width) + 2 := by
    rw [Checksum.length_sealed] at stuffed
    simp only [whole, body, List.length_cons, List.length_append, List.length_nil]
    omega
  simp only [encoding, encodeInto_eq, List.length_replicate, if_pos fits]
  rw [List.take_of_length_le fits, List.take_left]

/-- A frame takes its payload, its checksum, two delimiters, and a marker for each byte with a meaning of
its own. -/
theorem length_whole (payload : Bytes) :
    (whole payload).length =
      payload.length + 4 + (Checksum.sealed payload).countP Stuffing.needsEscape := by
  have width : Checksum.width = 2 := rfl
  rw [whole, body, List.length_cons, List.length_append, List.length_singleton,
    Stuffing.length_stuffAll, Checksum.length_sealed, width]
  omega

/-- No frame is the beginning of another one. -/
theorem whole_prefix_iff (first second : Bytes) : whole first <+: whole second ↔ first = second := by
  constructor
  · intro begins
    rw [whole, whole, List.cons_prefix_cons] at begins
    rcases List.prefix_concat_iff.mp begins.2 with same | inside
    · exact Checksum.sealed_injective (Stuffing.stuffAll_injective (List.append_cancel_right same))
    · -- The delimiter that closes the first frame would lie in the stuffed part of the second one.
      have found : Stuffing.start ∈ Stuffing.stuffAll (Checksum.sealed second) :=
        inside.subset List.mem_concat_self
      exact absurd rfl (Stuffing.plain_stuffAll _ _ found).1
  · rintro rfl
    exact List.prefix_rfl

/-- What the encoder makes of a buffer: the front of it becomes the front of the frame, as far as there is
room, and the rest stays. -/
structure Fills (payload buffer : Bytes) : Prop where
  answer : (encodeInto payload buffer).1 =
    if (whole payload).length ≤ buffer.length then .ok (whole payload).length
    else .error .packetTooLong
  front : (encodeInto payload buffer).2.take (min buffer.length (whole payload).length) =
    (whole payload).take (min buffer.length (whole payload).length)
  rest : (encodeInto payload buffer).2.drop (min buffer.length (whole payload).length) =
    buffer.drop (min buffer.length (whole payload).length)

theorem fills (payload buffer : Bytes) : Fills payload buffer := by
  have written : ((whole payload).take buffer.length).length =
      min buffer.length (whole payload).length := List.length_take
  have behind : buffer.drop (whole payload).length =
      buffer.drop (min buffer.length (whole payload).length) := by
    rw [List.drop_eq_drop_iff, Nat.min_comm buffer.length, Nat.min_assoc, Nat.min_self]
  constructor
  · rw [encodeInto_eq]
  · rw [encodeInto_eq, ← written, List.take_left, written, ← List.take_eq_take_min]
  · rw [encodeInto_eq, ← written, List.drop_left, written, behind]

/-- How a frame is made up. -/
structure Shape (payload : Bytes) : Prop where
  form : whole payload = [Stuffing.start] ++
    (payload ++ Checksum.trailer (Checksum.ofBytes payload)).flatMap
      (fun byte => (Stuffing.stuff byte).bytes) ++ [Stuffing.start]
  length : (whole payload).length = payload.length + 4 +
    (payload ++ Checksum.trailer (Checksum.ofBytes payload)).countP Stuffing.needsEscape
  delimiters : ∃ inside, whole payload = [Stuffing.start] ++ inside ++ [Stuffing.start] ∧
    Stuffing.start ∉ inside
  reset : Stuffing.reset ∉ whole payload

theorem shape (payload : Bytes) : Shape payload where
  form := rfl
  length := length_whole payload
  delimiters := ⟨Stuffing.stuffAll (Checksum.sealed payload), rfl,
    fun found => (Stuffing.plain_stuffAll _ _ found).1 rfl⟩
  reset := by
    intro found
    rcases List.mem_cons.mp found with opening | later
    · exact absurd opening (by decide)
    · rcases List.mem_append.mp later with inside | closing
      · exact (Stuffing.plain_stuffAll _ _ inside).2 rfl
      · exact absurd (List.mem_singleton.mp closing) (by decide)

/-- There is one frame for each payload, which tells where it ends and what it holds, and the encoder writes
as much of it as the buffer takes. -/
theorem encoder_canonical :
    (∀ payload buffer, Fills payload buffer) ∧ (∀ payload, Shape payload) ∧
      ∀ first second, whole first <+: whole second ↔ first = second :=
  ⟨fills, shape, whole_prefix_iff⟩

end FramedLine.Frame
