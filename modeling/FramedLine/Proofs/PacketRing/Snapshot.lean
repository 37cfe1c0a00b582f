import FramedLine.Proofs.PacketRing.Ownership

/-!
What a look at a packet ring tells, and what it does not: the committed part begins at the tail, which no
operation of the writing end moves, and the packet in progress lies behind it.
-/

namespace FramedLine.PacketRing

variable {geometry : Geometry}

/-- The packet in progress, read off the memory. -/
def tentative (ring : PacketRing geometry) : Bytes :=
  ring.span ring.head.toNat

/-- The packet in progress lies between the mark of the head and the mark behind it. -/
theorem Layout.tentative_eq {ring : PacketRing geometry} {unread : List Bytes} {tentative : Bytes}
    {slot start : Nat} (layout : Layout ring unread tentative slot start) :
    ring.tentative = tentative := by
  have room := layout.room
  have bytes := layout.bytes
  have first : ring.markAt ((slot + unread.length) % geometry.marks.slots) =
      ring.markAt (slot + unread.length) := ring.markAt_mod _ 0
  have length : ((start + (unread.flatten.length + tentative.length)) % geometry.bytes.slots +
      (geometry.bytes.slots - (start + unread.flatten.length) % geometry.bytes.slots)) %
        geometry.bytes.slots = tentative.length := by
    rw [mod_distance (by omega) (by omega)]
    omega
  rw [bytesAt_add] at bytes
  simp only [PacketRing.tentative, span, layout.toNat_head, first, layout.begin, markAt_mod, layout.stop,
    RingSize.toNat_index, length, bytesAt_mod]
  exact (List.append_inj bytes (length_bytesAt _ _ _)).2

section Represents

variable {before after : PacketRing geometry} {queue : PacketQueue}

theorem Represents.tentative_eq (represents : Represents before queue) :
    before.tentative = queue.tentative := by
  obtain ⟨slot, start, layout⟩ := represents.layout
  exact layout.tentative_eq

/-- The writing end does not move the tail. -/
theorem Represents.tail_after (represents : Represents before queue) (operation : Writing) :
    (before.after operation.program).tail = before.tail := by
  obtain ⟨slot, start, layout⟩ := represents.layout
  exact (layout.obeys_writing operation).value_after .tail id

/-- The writing end keeps a ring in order and its tail in place. -/
theorem tail_keeps (tail : UInt8) (ring : PacketRing geometry) (operation : Writing)
    (holds : (∃ queue, Represents ring queue) ∧ ring.tail = tail) :
    (∃ queue, Represents (ring.after operation.program) queue) ∧
      (ring.after operation.program).tail = tail := by
  obtain ⟨⟨queue, represents⟩, same⟩ := holds
  exact ⟨⟨_, (refines_write operation).after_represents represents⟩,
    (represents.tail_after operation).trans same⟩

/-- A look at a ring tells its committed part only, which begins at the tail. -/
theorem Represents.snapshot_eq {tentative : Bytes} (represents : Represents before queue)
    (represented : Represents after { queue with tentative }) (tail : after.tail = before.tail) :
    after.answer snapshot = before.answer snapshot := by
  obtain ⟨slot, start, layout⟩ := represents.layout
  obtain ⟨other, position, later⟩ := represented.layout
  have same : PacketQueue.unread { queue with tentative } = queue.unread := rfl
  rw [same] at later
  have head : after.head = before.head := by
    apply UInt8.toNat.inj
    rw [later.toNat_head, layout.toNat_head, ← Nat.mod_add_mod, ← later.toNat_tail, tail,
      layout.toNat_tail, Nat.mod_add_mod]
  simp only [answer, run, later.execute_snapshot, layout.execute_snapshot, head, tail]

end Represents

end FramedLine.PacketRing
