import FramedLine.Proofs.PacketRing.Reading

/-!
The contents of a packet ring, read off its memory: packet after packet, from its mark to the next one.
-/

namespace FramedLine.PacketRing

variable {geometry : Geometry}

/-- The bytes from one mark to the next. -/
def span (ring : PacketRing geometry) (slot : Nat) : Bytes :=
  let first := (ring.markAt slot).toNat
  let stop := (ring.markAt (slot + 1)).toNat
  ring.bytesAt first ((stop + (geometry.bytes.slots - first)) % geometry.bytes.slots)

/-- What is left to read of each committed packet, the oldest first. -/
def contents (ring : PacketRing geometry) : List Bytes :=
  (List.range (ring.answer Reader.packetCount)).map fun count => ring.span (ring.tail.toNat + count)

theorem markAt_mod (ring : PacketRing geometry) (slot count : Nat) :
    ring.markAt (slot % geometry.marks.slots + count) = ring.markAt (slot + count) := by
  simp only [markAt, Nat.mod_add_mod]

theorem bytesAt_mod (ring : PacketRing geometry) (position count : Nat) :
    ring.bytesAt (position % geometry.bytes.slots) count = ring.bytesAt position count := by
  have byteAt_mod : ∀ steps, ring.byteAt (position % geometry.bytes.slots + steps) =
      ring.byteAt (position + steps) := by
    intro steps
    simp only [byteAt, Nat.mod_add_mod]
  induction count with
  | zero => rfl
  | succ count inductionHypothesis =>
    rw [bytesAt_add, bytesAt_add, inductionHypothesis]
    simp only [bytesAt, byteAt_mod]

theorem span_setTail (ring : PacketRing geometry) (slot other : Nat) :
    (ring.setTail slot).span other = ring.span other := by
  simp only [span, bytesAt_setTail]
  rfl

section Layout

variable {ring : PacketRing geometry} {unread : List Bytes} {tentative : Bytes} {slot start : Nat}

/-- The spans of a layout are its pieces. -/
theorem Layout.span_eq (layout : Layout ring unread tentative slot start) {count : Nat}
    (inside : count < unread.length) : ring.span (slot + count) = unread[count] := by
  induction count generalizing ring unread slot start with
  | zero =>
    cases unread with
    | nil => cases inside
    | cons piece rest =>
      have room := layout.room
      have stop := layout.mark 1 (Nat.succ_le_of_lt inside)
      rw [List.flatten_cons, List.length_append] at room
      simp only [List.take_succ_cons, List.take_zero, List.flatten_cons, List.flatten_nil,
        List.append_nil] at stop
      simp only [span, Nat.add_zero, layout.cursor, stop, RingSize.toNat_index]
      rw [mod_distance (Nat.le_add_right _ _) (by omega), Nat.add_sub_cancel_left, bytesAt_mod,
        layout.bytesAt_front (Nat.le_refl _), List.take_length]
      rfl
  | succ count inductionHypothesis =>
    cases unread with
    | nil => cases inside
    | cons piece rest =>
      have behind := inductionHypothesis layout.release (Nat.lt_of_succ_lt_succ inside)
      rw [Nat.add_assoc, Nat.add_comm 1, span_setTail] at behind
      exact behind

end Layout

theorem Represents.contents_eq {ring : PacketRing geometry} {queue : PacketQueue}
    (represents : Represents ring queue) : ring.contents = queue.unread := by
  obtain ⟨slot, start, layout⟩ := represents.layout
  have counted : ring.answer Reader.packetCount = queue.unread.length := by
    rw [observes_packetCount.answer_eq represents, queue.length_unread]
  have tail : ring.tail.toNat = slot % geometry.marks.slots := by
    have same := congrArg UInt64.toNat layout.tail
    simpa using same
  have spanned : ∀ count, ring.span (ring.tail.toNat + count) = ring.span (slot + count) := by
    intro count
    rw [tail]
    simp only [span, markAt_mod, Nat.add_assoc]
  apply List.ext_getElem
  · simp only [contents, counted, List.length_map, List.length_range]
  · intro count _ inside
    simp only [contents, List.getElem_map, List.getElem_range, spanned]
    exact layout.span_eq inside

end FramedLine.PacketRing
