import FramedLine.PacketRing.Writer
import FramedLine.Proofs.PacketRing.Refinement

/-!
The writing end of a packet ring does to the queue what its operations say. Each operation is first
executed on a layout, which tells the memory that it leaves and every access that it makes.
-/

namespace FramedLine.PacketRing

open Program Writer

variable {geometry : Geometry}

namespace Layout

variable {ring : PacketRing geometry} {unread : List Bytes} {tentative : Bytes} {slot start : Nat}
  (layout : Layout ring unread tentative slot start)
include layout

@[simp] theorem execute_openSlot :
    openSlot.execute ring =
      .ok ⟨geometry.marks.index (slot + unread.length + 1), ring, [.load .head]⟩ := by
  simp [openSlot, execute_bind, layout.head, RingSize.next_index, Except.map, Outcome.precededBy]

/-- The distance between the reader and the end of the packet in progress. -/
theorem space_eq : Circular.space
    (geometry.bytes.index (start + (unread.flatten.length + tentative.length)))
    (geometry.bytes.index start) geometry.bytes.word =
      .ok (.ofNat (geometry.bytes.slots - 1 - (unread.flatten.length + tentative.length))) := by
  have room := layout.room
  rw [RingSize.space_index (by omega) (by omega), Nat.add_sub_cancel_left]

/-- Data that fits is clipped at the end of the array only. -/
theorem spaceToEnd_eq : ∃ toEnd,
    Circular.spaceToEnd (geometry.bytes.index (start + (unread.flatten.length + tentative.length)))
      (geometry.bytes.index start) geometry.bytes.word = .ok toEnd ∧
    ∀ length, unread.flatten.length + tentative.length + length < geometry.bytes.slots →
      min length toEnd.toNat = min length (geometry.bytes.slots -
        (start + (unread.flatten.length + tentative.length)) % geometry.bytes.slots) := by
  have room := layout.room
  refine ⟨_, RingSize.spaceToEnd_index (by omega) (by omega), ?_⟩
  intro length fits
  rw [geometry.bytes.toNat_ofNat (by omega)]
  omega

theorem execute_tentativeLength :
    tentativeLength.execute ring = .ok ⟨tentative.length, ring,
      [.load .head, .load (.mark ((slot + unread.length + 1) % geometry.marks.slots)),
        .load (.mark ((slot + unread.length) % geometry.marks.slots))]⟩ := by
  have room := layout.room
  have length : Circular.count
      (geometry.bytes.index (start + (unread.flatten.length + tentative.length)))
      (geometry.bytes.index (start + unread.flatten.length)) geometry.bytes.word =
        .ok (.ofNat tentative.length) := by
    rw [RingSize.count_index (by omega) (by omega)]
    congr 2
    omega
  simp [tentativeLength, execute_bind, layout.head, RingSize.next_index, layout.stop, layout.begin,
    length, geometry.bytes.toNat_ofNat (show tentative.length ≤ geometry.bytes.slots by omega),
    Except.map, Outcome.precededBy, -List.length_flatten]

theorem execute_freeBytes :
    freeBytes.execute ring =
      .ok ⟨geometry.bytes.slots - 1 - (unread.flatten.length + tentative.length), ring,
        [.load .head, .load (.mark ((slot + unread.length + 1) % geometry.marks.slots)), .load .tail,
          .load (.mark (slot % geometry.marks.slots))]⟩ := by
  simp [freeBytes, execute_bind, layout.execute_openSlot, layout.stop, layout.tail, layout.cursor,
    layout.space_eq, geometry.bytes.toNat_ofNat (show geometry.bytes.slots - 1 -
      (unread.flatten.length + tentative.length) ≤ geometry.bytes.slots by omega),
    Except.map, Outcome.precededBy, -List.length_flatten]

/-- The mark two slots past the newest packet is the oldest one only when all are in use. -/
theorem execute_canCommit :
    canCommit.execute ring = .ok ⟨decide (unread.length < geometry.marks.slots - 2), ring,
      [.load .head, .load .tail]⟩ := by
  have slots := layout.slots
  have answer : (geometry.marks.index (slot + unread.length + 1 + 1) !=
      geometry.marks.index slot) = decide (unread.length < geometry.marks.slots - 2) := by
    by_cases free : unread.length < geometry.marks.slots - 2
    · have apart : geometry.marks.index slot ≠ geometry.marks.index (slot + unread.length + 1 + 1) :=
        geometry.marks.index_ne (by omega) (by omega)
      simp [free, apart.symm]
    · have turn : slot + unread.length + 1 + 1 = slot + geometry.marks.slots := by omega
      simp [free, turn]
  simp [canCommit, execute_bind, layout.execute_openSlot, RingSize.next_index, layout.tail, answer,
    Except.map, Outcome.precededBy, -List.length_flatten]

/-- The end of the packet in progress can move as long as it does not reach the reader. -/
theorem execute_push (byte : UInt8) :
    (push byte).execute ring =
      if unread.flatten.length + tentative.length + 1 < geometry.bytes.slots then
        .ok ⟨true, (ring.setBytes (start + (unread.flatten.length + tentative.length)) [byte]).setMark
            (slot + unread.length + 1)
            (start + (unread.flatten.length + tentative.length) + 1),
          [.load .head, .load (.mark ((slot + unread.length + 1) % geometry.marks.slots)), .load .tail,
            .load (.mark (slot % geometry.marks.slots)),
            .store (.byte ((start + (unread.flatten.length + tentative.length)) %
              geometry.bytes.slots)),
            .store (.mark ((slot + unread.length + 1) % geometry.marks.slots))]⟩
      else
        .ok ⟨false, ring,
          [.load .head, .load (.mark ((slot + unread.length + 1) % geometry.marks.slots)), .load .tail,
            .load (.mark (slot % geometry.marks.slots))]⟩ := by
  have room := layout.room
  split
  next fits =>
    have apart : geometry.bytes.index (start + (unread.flatten.length + tentative.length) + 1) ≠
        geometry.bytes.index start :=
      (geometry.bytes.index_ne (by omega) (by omega)).symm
    simp [push, execute_bind, layout.execute_openSlot, layout.stop, RingSize.next_index, layout.tail,
      layout.cursor, apart, setBytes, Except.map, Outcome.precededBy,
      -List.length_flatten]
  next full =>
    have turn : start + (unread.flatten.length + tentative.length) + 1 =
        start + geometry.bytes.slots := by omega
    simp [push, execute_bind, layout.execute_openSlot, layout.stop, RingSize.next_index, layout.tail,
      layout.cursor, turn, Except.map, Outcome.precededBy, -List.length_flatten]

theorem execute_pushAll (data : Bytes) :
    (pushAll data).execute ring =
      if unread.flatten.length + tentative.length + data.length < geometry.bytes.slots then
        .ok ⟨true, (ring.setBytes (start + (unread.flatten.length + tentative.length)) data).setMark
            (slot + unread.length + 1)
            (start + (unread.flatten.length + tentative.length) + data.length),
          [.load .head, .load (.mark ((slot + unread.length + 1) % geometry.marks.slots)), .load .tail,
            .load (.mark (slot % geometry.marks.slots))] ++
          accessesAt geometry .store (start + (unread.flatten.length + tentative.length))
            data.length ++
          [.store (.mark ((slot + unread.length + 1) % geometry.marks.slots))]⟩
      else
        .ok ⟨false, ring,
          [.load .head, .load (.mark ((slot + unread.length + 1) % geometry.marks.slots)), .load .tail,
            .load (.mark (slot % geometry.marks.slots))]⟩ := by
  have room := layout.room
  have free := geometry.bytes.toNat_ofNat (show geometry.bytes.slots - 1 -
    (unread.flatten.length + tentative.length) ≤ geometry.bytes.slots by omega)
  split
  next fits =>
    have enough : ¬ geometry.bytes.slots - 1 - (unread.flatten.length + tentative.length) <
        data.length := by omega
    obtain ⟨toEnd, computed, clipped⟩ := layout.spaceToEnd_eq
    simp [pushAll, execute_bind, layout.execute_openSlot, layout.stop, layout.tail, layout.cursor,
      layout.space_eq, free, enough, computed, clipped _ fits,
      execute_storeWrapping _ (show data.length ≤ geometry.bytes.slots by omega),
      RingSize.advance_index _ _ (show data.length ≤ geometry.bytes.slots by omega),
      Except.map, Outcome.precededBy, -List.length_flatten]
  next full =>
    have short : geometry.bytes.slots - 1 - (unread.flatten.length + tentative.length) <
        data.length := by omega
    simp [pushAll, execute_bind, layout.execute_openSlot, layout.stop, layout.tail, layout.cursor,
      layout.space_eq, free, short, Except.map, Outcome.precededBy, -List.length_flatten]

theorem execute_trim (length : Nat) :
    (trim length).execute ring =
      if length ≤ tentative.length then
        .ok ⟨true, ring.setMark (slot + unread.length + 1)
            (start + (unread.flatten.length + tentative.length) - length),
          [.load .head, .load (.mark ((slot + unread.length + 1) % geometry.marks.slots)),
            .load (.mark ((slot + unread.length) % geometry.marks.slots)), .load .head,
            .load (.mark ((slot + unread.length + 1) % geometry.marks.slots)),
            .store (.mark ((slot + unread.length + 1) % geometry.marks.slots))]⟩
      else
        .ok ⟨false, ring,
          [.load .head, .load (.mark ((slot + unread.length + 1) % geometry.marks.slots)),
            .load (.mark ((slot + unread.length) % geometry.marks.slots))]⟩ := by
  have room := layout.room
  split
  next enough =>
    have within : length ≤ geometry.bytes.slots := by omega
    have behind : length ≤ start + (unread.flatten.length + tentative.length) := by omega
    simp [trim, execute_bind, layout.execute_tentativeLength, layout.execute_openSlot, layout.stop,
      Nat.not_lt.mpr enough, geometry.bytes.sub_word within,
      geometry.bytes.advance_index_back _ within behind, Except.map, Outcome.precededBy,
      -List.length_flatten]
  next fewer =>
    simp [trim, execute_bind, layout.execute_tentativeLength, Nat.lt_of_not_le fewer, Except.map,
      Outcome.precededBy, -List.length_flatten]

theorem execute_discard :
    Writer.discard.execute ring =
      .ok ⟨(), ring.setMark (slot + unread.length + 1) (start + unread.flatten.length),
        [.load .head, .load (.mark ((slot + unread.length) % geometry.marks.slots)),
          .store (.mark ((slot + unread.length + 1) % geometry.marks.slots))]⟩ := by
  simp [Writer.discard, execute_bind, layout.head, RingSize.next_index, layout.begin, Except.map,
    Outcome.precededBy, -List.length_flatten]

theorem execute_commit :
    (Writer.commit).execute ring =
      if unread.length < geometry.marks.slots - 2 then
        .ok ⟨true, (ring.setMark (slot + unread.length + 2)
            (start + (unread.flatten.length + tentative.length))).setHead (slot + unread.length + 1),
          [.load .head, .load .tail, .load .head,
            .load (.mark ((slot + unread.length + 1) % geometry.marks.slots)),
            .store (.mark ((slot + unread.length + 2) % geometry.marks.slots)), .store .head]⟩
      else
        .ok ⟨false, ring.setMark (slot + unread.length + 1) (start + unread.flatten.length),
          [.load .head, .load .tail, .load .head,
            .load (.mark ((slot + unread.length) % geometry.marks.slots)),
            .store (.mark ((slot + unread.length + 1) % geometry.marks.slots))]⟩ := by
  split
  next free =>
    simp [Writer.commit, execute_bind, layout.execute_canCommit, free, layout.execute_openSlot,
      layout.stop, RingSize.next_index, Except.map, Outcome.precededBy, -List.length_flatten]
  next full =>
    simp [Writer.commit, execute_bind, layout.execute_canCommit, full, layout.execute_discard,
      Except.map, Outcome.precededBy, -List.length_flatten]

end Layout

section Refinement

variable (geometry)

theorem observes_tentativeLength :
    Observes geometry tentativeLength fun queue => queue.tentative.length := by
  intro ring queue represents
  obtain ⟨slot, start, layout⟩ := represents.layout
  exact ⟨ring, _, layout.execute_tentativeLength, represents⟩

theorem observes_freeBytes : Observes geometry freeBytes (PacketQueue.freeBytes geometry) := by
  intro ring queue represents
  obtain ⟨slot, start, layout⟩ := represents.layout
  have ran := layout.execute_freeBytes
  rw [← Nat.sub_sub] at ran
  exact ⟨ring, _, ran, represents⟩

theorem observes_canCommit : Observes geometry canCommit (PacketQueue.canCommit geometry) := by
  intro ring queue represents
  obtain ⟨slot, start, layout⟩ := represents.layout
  have ran := layout.execute_canCommit
  rw [queue.length_unread] at ran
  exact ⟨ring, _, ran, represents⟩

variable {geometry}

/-- A change of the packet in progress leaves the reader's part alone. -/
theorem Represents.write {ring after : PacketRing geometry} {queue : PacketQueue}
    {tentative : Bytes} {slot start : Nat} (represents : Represents ring queue)
    (layout : Layout after queue.unread tentative slot start)
    (kept : after.consumed = ring.consumed) : Represents after { queue with tentative } where
  layout := ⟨slot, start, layout⟩
  consumed := kept.trans represents.consumed
  within := represents.within

theorem refines_pushAll (data : Bytes) :
    Refines geometry (pushAll data) (PacketQueue.pushAll geometry data) := by
  intro ring queue represents
  obtain ⟨slot, start, layout⟩ := represents.layout
  have room := layout.room
  have ran := layout.execute_pushAll data
  by_cases fits : data.length ≤ queue.freeBytes geometry
  · have accepted : queue.pushAll geometry data =
        (true, { queue with tentative := queue.tentative ++ data }) := if_pos fits
    rw [PacketQueue.freeBytes] at fits
    have below : queue.unread.flatten.length + queue.tentative.length + data.length <
        geometry.bytes.slots := by omega
    rw [if_pos below] at ran
    rw [accepted]
    exact ⟨_, _, ran, represents.write (layout.extend data below) (by simp [setMark])⟩
  · have refused : queue.pushAll geometry data = (false, queue) := if_neg fits
    rw [PacketQueue.freeBytes] at fits
    rw [if_neg (by omega)] at ran
    rw [refused]
    exact ⟨ring, _, ran, represents⟩

/-- Pushing one byte is pushing a string of one byte. -/
theorem refines_push (byte : UInt8) :
    Refines geometry (push byte) (PacketQueue.push geometry byte) := by
  intro ring queue represents
  obtain ⟨slot, start, layout⟩ := represents.layout
  obtain ⟨after, accesses, ran, represented⟩ := refines_pushAll [byte] _ _ represents
  have single := layout.execute_push byte
  rw [layout.execute_pushAll [byte], List.length_singleton] at ran
  refine ⟨after, accesses, ?_, represented⟩
  rw [single]
  exact ran

theorem refines_trim (length : Nat) :
    Refines geometry (trim length) (PacketQueue.trim length) := by
  intro ring queue represents
  obtain ⟨slot, start, layout⟩ := represents.layout
  have ran := layout.execute_trim length
  by_cases enough : length ≤ queue.tentative.length
  · have accepted : queue.trim length = (true, { queue with
        tentative := queue.tentative.take (queue.tentative.length - length) }) := if_pos enough
    rw [if_pos enough] at ran
    rw [accepted]
    exact ⟨_, _, ran, represents.write (layout.shortenBy enough) rfl⟩
  · have refused : queue.trim length = (false, queue) := if_neg enough
    rw [if_neg enough] at ran
    rw [refused]
    exact ⟨ring, _, ran, represents⟩

theorem refines_discard :
    Refines geometry Writer.discard fun queue => ((), queue.discard) := by
  intro ring queue represents
  obtain ⟨slot, start, layout⟩ := represents.layout
  exact ⟨_, _, layout.execute_discard, represents.write layout.clear rfl⟩

theorem refines_commit : Refines geometry Writer.commit (PacketQueue.commit geometry) := by
  intro ring queue represents
  obtain ⟨slot, start, layout⟩ := represents.layout
  have ran := layout.execute_commit
  by_cases free : queue.packets.length < geometry.marks.slots - 2
  · have accepted : queue.commit geometry = (true, { queue with
        packets := queue.packets ++ [queue.tentative], tentative := [] }) :=
      if_pos (decide_eq_true free)
    rw [← queue.length_unread] at free
    rw [if_pos free] at ran
    rw [accepted]
    have longer := layout.commit (by omega)
    rw [← queue.unread_append represents.within _ []] at longer
    exact ⟨_, _, ran, ⟨⟨slot, start, longer⟩, represents.consumed,
      queue.withinOldest_append represents.within _ []⟩⟩
  · have refused : queue.commit geometry = (false, queue.discard) :=
      if_neg (by simpa [PacketQueue.canCommit] using free)
    rw [← queue.length_unread] at free
    rw [if_neg free] at ran
    rw [refused]
    exact ⟨_, _, ran, represents.write layout.clear rfl⟩

end Refinement

end FramedLine.PacketRing
