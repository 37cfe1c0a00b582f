import FramedLine.PacketRing.Reader
import FramedLine.Proofs.PacketRing.Refinement

/-!
The reading end of a packet ring does to the queue what its operations say. As for the writing end, each
operation is first executed on a layout.
-/

namespace FramedLine.PacketRing

open Program Reader

variable {geometry : Geometry}

namespace Layout

variable {ring : PacketRing geometry} {unread rest : List Bytes} {piece tentative : Bytes}
  {slot start : Nat}

/-- The reader's own count is not part of the layout. -/
theorem setConsumed (layout : Layout ring unread tentative slot start) (count : Nat) :
    Layout (ring.setConsumed count) unread tentative slot start where
  slots := layout.slots
  room := layout.room
  tail := layout.tail
  head := layout.head
  mark := layout.mark
  stop := layout.stop
  bytes := by
    rw [bytesAt_setConsumed]
    exact layout.bytes

theorem bytesAt_front (layout : Layout ring (piece :: rest) tentative slot start) {count : Nat}
    (within : count ≤ piece.length) : ring.bytesAt start count = piece.take count := by
  have bytes := layout.bytes
  obtain ⟨more, whole⟩ := Nat.exists_eq_add_of_le within
  have total : (piece :: rest).flatten.length + tentative.length =
      count + (more + rest.flatten.length + tentative.length) := by
    rw [List.flatten_cons, List.length_append]
    omega
  have parts : (piece :: rest).flatten ++ tentative =
      piece.take count ++ (piece.drop count ++ (rest.flatten ++ tentative)) := by
    simp [← List.append_assoc]
  rw [total, bytesAt_add, parts] at bytes
  exact (List.append_inj bytes (by simp [within])).1

theorem execute_packetCount (layout : Layout ring unread tentative slot start) :
    packetCount.execute ring = .ok ⟨unread.length, ring, [.load .head, .load .tail]⟩ := by
  have slots := layout.slots
  have count : Circular.count (geometry.marks.index (slot + unread.length))
      (geometry.marks.index slot) geometry.marks.word = .ok (.ofNat unread.length) := by
    rw [RingSize.count_index (by omega) (by omega), Nat.add_sub_cancel_left]
  simp [packetCount, execute_bind, layout.head, layout.tail, count,
    geometry.marks.toNat_ofNat (show unread.length ≤ geometry.marks.slots by omega), Except.map,
    Outcome.precededBy]

theorem execute_hasPacket (layout : Layout ring unread tentative slot start) :
    hasPacket.execute ring = .ok ⟨!unread.isEmpty, ring, [.load .tail, .load .head]⟩ := by
  have slots := layout.slots
  have answer : (geometry.marks.index slot != geometry.marks.index (slot + unread.length)) =
      !unread.isEmpty := by
    cases unread with
    | nil => simp
    | cons piece rest =>
      rw [List.length_cons] at slots ⊢
      have apart : geometry.marks.index slot ≠ geometry.marks.index (slot + (rest.length + 1)) :=
        geometry.marks.index_ne (by omega) (by omega)
      simp [apart]
  simp [hasPacket, execute_bind, layout.tail, layout.head, answer, Except.map, Outcome.precededBy]

/-- Both ends see the committed part in the same way. -/
theorem execute_snapshot (layout : Layout ring unread tentative slot start) :
    snapshot.execute ring =
      .ok ⟨⟨ring.head, ring.tail, .ofNat unread.length, .ofNat unread.flatten.length⟩, ring,
        [.load .head, .load .tail, .load (.mark ((slot + unread.length) % geometry.marks.slots)),
          .load (.mark (slot % geometry.marks.slots))]⟩ := by
  have slots := layout.slots
  have room := layout.room
  have packets : Circular.count (geometry.marks.index (slot + unread.length))
      (geometry.marks.index slot) geometry.marks.word = .ok (.ofNat unread.length) := by
    rw [RingSize.count_index (by omega) (by omega), Nat.add_sub_cancel_left]
  have bytes : Circular.count (geometry.bytes.index (start + unread.flatten.length))
      (geometry.bytes.index start) geometry.bytes.word = .ok (.ofNat unread.flatten.length) := by
    rw [RingSize.count_index (by omega) (by omega), Nat.add_sub_cancel_left]
  have head : (geometry.marks.index (slot + unread.length)).toUInt8 = ring.head := by
    rw [← layout.head, UInt8.toUInt8_toUInt64]
  have tail : (geometry.marks.index slot).toUInt8 = ring.tail := by
    rw [← layout.tail, UInt8.toUInt8_toUInt64]
  simp [snapshot, execute_bind, layout.head, layout.tail, packets, bytes, head, tail, layout.begin,
    layout.cursor, Except.map, Outcome.precededBy, -List.length_flatten]

theorem execute_front_none (layout : Layout ring [] tentative slot start) :
    front.execute ring = .ok ⟨none, ring, [.load .tail, .load .head]⟩ := by
  have head := layout.head
  rw [List.length_nil, Nat.add_zero, ← layout.tail] at head
  simp [front, execute_bind, head, Except.map, Outcome.precededBy]

/-- A program that looks at the oldest packet first ends there when there is none. -/
theorem execute_without {α : Type} {next : Option (UInt64 × UInt64) → Program geometry α} {answer : α}
    (layout : Layout ring [] tentative slot start) (idle : next none = pure answer) :
    (front >>= next).execute ring = .ok ⟨answer, ring, [.load .tail, .load .head]⟩ := by
  simp [execute_bind, layout.execute_front_none, idle, Except.map, Outcome.precededBy]

section Empty

variable (layout : Layout ring [] tentative slot start)
include layout

theorem execute_packetLength_none :
    packetLength.execute ring = .ok ⟨0, ring, [.load .tail, .load .head]⟩ :=
  layout.execute_without rfl

theorem execute_remaining_none :
    remaining.execute ring = .ok ⟨0, ring, [.load .tail, .load .head]⟩ :=
  layout.execute_without rfl

theorem execute_unreadByte?_none :
    unreadByte?.execute ring = .ok ⟨none, ring, [.load .tail, .load .head]⟩ :=
  layout.execute_without rfl

theorem execute_takeByte_none :
    takeByte.execute ring = .ok ⟨0, ring, [.load .tail, .load .head]⟩ :=
  layout.execute_without rfl

theorem execute_takeBytes_none (limit : Nat) :
    (takeBytes limit).execute ring = .ok ⟨(0, []), ring, [.load .tail, .load .head]⟩ :=
  layout.execute_without rfl

theorem execute_overwriteUnread_none (value : UInt8) :
    (overwriteUnread value).execute ring = .ok ⟨(), ring, [.load .tail, .load .head]⟩ :=
  layout.execute_without rfl

end Empty

theorem execute_front_some (layout : Layout ring (piece :: rest) tentative slot start) :
    front.execute ring =
      .ok ⟨some (geometry.bytes.index start, geometry.bytes.index (start + piece.length)), ring,
        [.load .tail, .load .head, .load (.mark (slot % geometry.marks.slots)),
          .load (.mark ((slot + 1) % geometry.marks.slots))]⟩ := by
  have slots := layout.slots
  have head := layout.head
  rw [List.length_cons] at slots head
  have apart : geometry.marks.index slot ≠ geometry.marks.index (slot + (rest.length + 1)) :=
    geometry.marks.index_ne (by omega) (by omega)
  have stop := layout.mark 1 (by simp)
  simp only [List.take_succ_cons, List.take_zero, List.flatten_cons, List.flatten_nil,
    List.append_nil] at stop
  simp [front, execute_bind, layout.tail, head, apart, layout.cursor, RingSize.next_index, stop,
    Except.map, Outcome.precededBy]

section Front

variable (layout : Layout ring (piece :: rest) tentative slot start)
include layout

/-- The distance between the reader and the end of the oldest packet. -/
theorem unread_eq : Circular.count (geometry.bytes.index (start + piece.length))
    (geometry.bytes.index start) geometry.bytes.word = .ok (.ofNat piece.length) := by
  have room := layout.room
  rw [List.flatten_cons, List.length_append] at room
  rw [RingSize.count_index (by omega) (by omega), Nat.add_sub_cancel_left]

theorem toNat_unread : (UInt64.ofNat piece.length).toNat = piece.length := by
  have room := layout.room
  rw [List.flatten_cons, List.length_append] at room
  exact geometry.bytes.toNat_ofNat (by omega)

theorem execute_packetLength :
    packetLength.execute ring = .ok ⟨ring.consumed + piece.length, ring,
      [.load .tail, .load .head, .load (.mark (slot % geometry.marks.slots)),
        .load (.mark ((slot + 1) % geometry.marks.slots))]⟩ := by
  simp [packetLength, execute_bind, layout.execute_front_some, layout.unread_eq, layout.toNat_unread,
    Except.map, Outcome.precededBy]

theorem execute_remaining :
    remaining.execute ring = .ok ⟨piece.length, ring,
      [.load .tail, .load .head, .load (.mark (slot % geometry.marks.slots)),
        .load (.mark ((slot + 1) % geometry.marks.slots))]⟩ := by
  simp [remaining, execute_bind, layout.execute_front_some, layout.unread_eq, layout.toNat_unread,
    Except.map, Outcome.precededBy]

/-- The reader takes a block from where it is, as far as the packet goes. -/
theorem execute_takeBytes (limit : Nat) :
    (takeBytes limit).execute ring =
      .ok ⟨(ring.consumed + piece.length, piece.take limit),
        (ring.setMark slot (start + min limit piece.length)).setConsumed
          (ring.consumed + min limit piece.length),
        [.load .tail, .load .head, .load (.mark (slot % geometry.marks.slots)),
          .load (.mark ((slot + 1) % geometry.marks.slots))] ++
        accessesAt geometry .load start (min limit piece.length) ++
        [.load .tail, .store (.mark (slot % geometry.marks.slots))]⟩ := by
  have room := layout.room
  rw [List.flatten_cons, List.length_append] at room
  have toEnd := geometry.bytes.toNat_ofNat
    (show min piece.length (geometry.bytes.slots - start % geometry.bytes.slots) ≤ _ by omega)
  have counted := RingSize.countToEnd_index (show start ≤ start + piece.length by omega)
    (show start + piece.length < start + geometry.bytes.slots by omega)
  rw [Nat.add_sub_cancel_left] at counted
  have clipped : min (min limit piece.length)
      (min piece.length (geometry.bytes.slots - start % geometry.bytes.slots)) =
        min (min limit piece.length) (geometry.bytes.slots - start % geometry.bytes.slots) := by
    omega
  have data := layout.bytesAt_front (Nat.min_le_right limit piece.length)
  have short : min limit piece.length ≤ geometry.bytes.slots := by omega
  rw [List.take_eq_take_min]
  simp only [takeBytes, execute_bind, layout.execute_front_some, layout.unread_eq,
    layout.toNat_unread, execute_compute_ok, counted, toEnd, clipped, RingSize.toNat_index,
    execute_loadWrapping _ short, data, execute_loadConsumed, execute_loadTail, layout.tail,
    RingSize.advance_index _ _ short]
  simp [Except.map, Outcome.precededBy]

end Front

theorem execute_takeByte_end (layout : Layout ring ([] :: rest) tentative slot start) :
    takeByte.execute ring = .ok ⟨0, ring,
      [.load .tail, .load .head, .load (.mark (slot % geometry.marks.slots)),
        .load (.mark ((slot + 1) % geometry.marks.slots))]⟩ := by
  simp [takeByte, execute_bind, layout.execute_front_some, Except.map, Outcome.precededBy]

theorem execute_unreadByte?_end (layout : Layout ring ([] :: rest) tentative slot start) :
    unreadByte?.execute ring = .ok ⟨none, ring,
      [.load .tail, .load .head, .load (.mark (slot % geometry.marks.slots)),
        .load (.mark ((slot + 1) % geometry.marks.slots))]⟩ := by
  simp [unreadByte?, execute_bind, layout.execute_front_some, Except.map, Outcome.precededBy]

theorem execute_overwriteUnread_end (layout : Layout ring ([] :: rest) tentative slot start)
    (value : UInt8) :
    (overwriteUnread value).execute ring = .ok ⟨(), ring,
      [.load .tail, .load .head, .load (.mark (slot % geometry.marks.slots)),
        .load (.mark ((slot + 1) % geometry.marks.slots))]⟩ := by
  simp [overwriteUnread, execute_bind, layout.execute_front_some, Except.map, Outcome.precededBy]

section Next

variable {byte : UInt8} (layout : Layout ring ((byte :: piece) :: rest) tentative slot start)
include layout

/-- A packet with a byte left ends elsewhere than where the reader is. -/
theorem cursor_ne :
    geometry.bytes.index start ≠ geometry.bytes.index (start + (byte :: piece).length) := by
  have room := layout.room
  rw [List.flatten_cons, List.length_append, List.length_cons] at room
  exact geometry.bytes.index_ne (by rw [List.length_cons]; omega) (by rw [List.length_cons]; omega)

theorem byteAt_front : ring.byteAt start = byte := by
  have first := layout.bytesAt_front (Nat.succ_le_succ (Nat.zero_le piece.length))
  simpa [bytesAt] using first

theorem execute_takeByte :
    takeByte.execute ring =
      .ok ⟨byte, (ring.setMark slot (start + 1)).setConsumed (ring.consumed + 1),
        [.load .tail, .load .head, .load (.mark (slot % geometry.marks.slots)),
          .load (.mark ((slot + 1) % geometry.marks.slots)),
          .load (.byte (start % geometry.bytes.slots)), .load .tail,
          .store (.mark (slot % geometry.marks.slots))]⟩ := by
  simp [takeByte, execute_bind, layout.execute_front_some, layout.cursor_ne, layout.byteAt_front,
    layout.tail, RingSize.next_index, Except.map, Outcome.precededBy, -List.length_cons]
  rfl

theorem execute_unreadByte? :
    unreadByte?.execute ring = .ok ⟨some byte, ring,
      [.load .tail, .load .head, .load (.mark (slot % geometry.marks.slots)),
        .load (.mark ((slot + 1) % geometry.marks.slots)),
        .load (.byte (start % geometry.bytes.slots))]⟩ := by
  simp [unreadByte?, execute_bind, layout.execute_front_some, layout.cursor_ne, layout.byteAt_front,
    Except.map, Outcome.precededBy, -List.length_cons]

theorem execute_overwriteUnread (value : UInt8) :
    (overwriteUnread value).execute ring = .ok ⟨(), ring.setByte start value,
      [.load .tail, .load .head, .load (.mark (slot % geometry.marks.slots)),
        .load (.mark ((slot + 1) % geometry.marks.slots)),
        .store (.byte (start % geometry.bytes.slots))]⟩ := by
  simp [overwriteUnread, execute_bind, layout.execute_front_some, layout.cursor_ne, Except.map,
    Outcome.precededBy, -List.length_cons]

end Next

theorem execute_release (layout : Layout ring (piece :: rest) tentative slot start) :
    (Reader.release).execute ring =
      .ok ⟨(), (ring.setConsumed 0).setTail (slot + 1), [.load .tail, .load .head, .store .tail]⟩ := by
  have slots := layout.slots
  have head := layout.head
  rw [List.length_cons] at slots head
  have apart : geometry.marks.index slot ≠ geometry.marks.index (slot + (rest.length + 1)) :=
    geometry.marks.index_ne (by omega) (by omega)
  simp [Reader.release, execute_bind, layout.tail, head, apart, RingSize.next_index, Except.map,
    Outcome.precededBy]

/-- Without a packet there is nothing to take and nothing to release. -/
theorem execute_release_none (layout : Layout ring [] tentative slot start) :
    (Reader.release).execute ring = .ok ⟨(), ring, [.load .tail, .load .head]⟩ := by
  have head := layout.head
  rw [List.length_nil, Nat.add_zero, ← layout.tail] at head
  simp [Reader.release, execute_bind, head, Except.map, Outcome.precededBy]

end Layout

/-- The reader finds no packet, or a packet of which it may have read a part. -/
theorem Represents.front_cases {ring : PacketRing geometry} {queue : PacketQueue}
    (represents : Represents ring queue) :
    (queue.packets = [] ∧ ∃ slot start, Layout ring [] queue.tentative slot start) ∨
      ∃ oldest rest, queue.packets = oldest :: rest ∧ ∃ slot start,
        Layout ring (oldest.drop queue.offset :: rest) queue.tentative slot start := by
  obtain ⟨slot, start, layout⟩ := represents.layout
  cases found : queue.packets with
  | nil =>
    rw [PacketQueue.unread, found] at layout
    exact .inl ⟨rfl, slot, start, layout⟩
  | cons oldest rest =>
    rw [PacketQueue.unread, found] at layout
    exact .inr ⟨oldest, rest, rfl, slot, start, layout⟩

section Refinement

theorem observes_packetCount :
    Observes geometry packetCount fun queue => queue.packets.length := by
  intro ring queue represents
  obtain ⟨slot, start, layout⟩ := represents.layout
  have ran := layout.execute_packetCount
  rw [queue.length_unread] at ran
  exact ⟨ring, _, ran, represents⟩

theorem observes_hasPacket :
    Observes geometry hasPacket fun queue => !queue.packets.isEmpty := by
  intro ring queue represents
  obtain ⟨slot, start, layout⟩ := represents.layout
  refine .intro layout.execute_hasPacket ?_ represents
  have length := queue.length_unread
  cases found : queue.packets <;> cases unread : queue.unread <;> simp_all

theorem observes_packetLength :
    Observes geometry packetLength fun queue => queue.oldest.length := by
  intro ring queue represents
  rcases represents.front_cases with ⟨found, _, _, layout⟩ | ⟨oldest, rest, found, _, _, layout⟩
  · refine .intro layout.execute_packetLength_none ?_ represents
    simp only [queue.oldest_of_nil found, List.length_nil]
  · have within := represents.within
    rw [PacketQueue.WithinOldest, queue.oldest_of_cons found] at within
    have ran := layout.execute_packetLength
    rw [represents.consumed, List.length_drop, Nat.add_sub_cancel' within] at ran
    exact .intro ran (by simp only [queue.oldest_of_cons found]) represents

theorem observes_remaining : Observes geometry remaining fun queue => queue.front.length := by
  intro ring queue represents
  rcases represents.front_cases with ⟨found, _, _, layout⟩ | ⟨oldest, rest, found, _, _, layout⟩
  · refine .intro layout.execute_remaining_none ?_ represents
    simp only [queue.front_of_nil found, List.length_nil]
  · exact .intro layout.execute_remaining (by simp only [queue.front_of_cons found]) represents

theorem observes_unreadByte? : Observes geometry unreadByte? fun queue => queue.front.head? := by
  intro ring queue represents
  rcases represents.front_cases with ⟨found, _, _, layout⟩ | ⟨oldest, rest, found, _, _, layout⟩
  · refine .intro layout.execute_unreadByte?_none ?_ represents
    simp only [queue.front_of_nil found, List.head?_nil]
  · rw [← queue.front_of_cons found] at layout
    cases left : queue.front with
    | nil =>
      rw [left] at layout
      exact .intro layout.execute_unreadByte?_end (by simp only [left, List.head?_nil]) represents
    | cons byte piece =>
      rw [left] at layout
      exact .intro layout.execute_unreadByte? (by simp only [left, List.head?_cons]) represents

/-- The packets and bytes of a snapshot are those that are committed and not read yet. -/
theorem observes_snapshot :
    Observes geometry (do
      let view ← snapshot
      return (view.packets.toNat, view.bytes.toNat)) fun queue =>
        (queue.packets.length, queue.unread.flatten.length) := by
  intro ring queue represents
  obtain ⟨slot, start, layout⟩ := represents.layout
  have packets : (UInt8.ofNat queue.unread.length).toNat = queue.packets.length := by
    have slots := layout.slots
    have bound := geometry.marks.slots_le
    rw [queue.length_unread] at slots ⊢
    exact UInt8.toNat_ofNat_of_lt' (show _ < 256 by omega)
  have bytes : (UInt8.ofNat queue.unread.flatten.length).toNat = queue.unread.flatten.length := by
    have room := layout.room
    have bound := geometry.bytes.slots_le
    exact UInt8.toNat_ofNat_of_lt' (show _ < 256 by omega)
  have ran : (do
      let view ← snapshot
      return (view.packets.toNat, view.bytes.toNat) : Program geometry (Nat × Nat)).execute ring =
        .ok ⟨(queue.packets.length, queue.unread.flatten.length), ring,
          [.load .head, .load .tail,
            .load (.mark ((slot + queue.unread.length) % geometry.marks.slots)),
            .load (.mark (slot % geometry.marks.slots))]⟩ := by
    simp only [execute_bind, layout.execute_snapshot, packets, bytes, execute_pure, Except.map,
      Outcome.precededBy, List.append_nil]
  exact .intro ran rfl represents

/-- A change of the oldest packet in place leaves the writer's part alone. -/
theorem Represents.read {after : PacketRing geometry} (queue : PacketQueue) {packet : Bytes}
    {rest : List Bytes} {offset slot start : Nat}
    (layout : Layout after (packet.drop offset :: rest) queue.tentative slot start)
    (consumed : after.consumed = offset) (within : offset ≤ packet.length) :
    Represents after { queue with packets := packet :: rest, offset } where
  layout := ⟨slot, start, layout⟩
  consumed := consumed
  within := within

theorem refines_takeBytes (limit : Nat) :
    Refines geometry (takeBytes limit) fun queue =>
      ((queue.oldest.length, queue.front.take limit),
        { queue with offset := queue.offset + (queue.front.take limit).length }) := by
  intro ring queue represents
  rcases represents.front_cases with ⟨found, _, _, layout⟩ | ⟨oldest, rest, found, _, _, layout⟩
  · refine .intro (layout.execute_takeBytes_none limit) ?_ represents
    simp only [queue.oldest_of_nil found, queue.front_of_nil found, List.take_nil, List.length_nil,
      Nat.add_zero]
  · have within := represents.within
    rw [PacketQueue.WithinOldest, queue.oldest_of_cons found] at within
    have ran := layout.execute_takeBytes limit
    have taken := layout.take (Nat.min_le_right limit _)
    rw [represents.consumed, List.length_drop] at ran
    rw [List.length_drop, List.drop_drop] at taken
    rw [Nat.add_sub_cancel' within] at ran
    refine .intro ran ?_ (.read queue (taken.setConsumed _) rfl (by omega))
    simp only [queue.oldest_of_cons found, queue.front_of_cons found, List.length_take,
      List.length_drop, ← found]

/-- A copy is a block of bytes at the front of the destination. -/
theorem refines_copyInto (destination : Bytes) :
    Refines geometry (copyInto destination) (PacketQueue.copyInto destination) :=
  (refines_takeBytes destination.length).bind fun answer =>
    .pure (answer.1, answer.2 ++ destination.drop answer.2.length)

theorem refines_takeByte : Refines geometry takeByte PacketQueue.takeByte := by
  intro ring queue represents
  rcases represents.front_cases with ⟨found, _, _, layout⟩ | ⟨oldest, rest, found, _, _, layout⟩
  · refine .intro layout.execute_takeByte_none ?_ represents
    rw [PacketQueue.takeByte, queue.front_of_nil found]
  · cases left : oldest.drop queue.offset with
    | nil =>
      rw [left] at layout
      have front := queue.front_of_cons found
      rw [left] at front
      exact .intro layout.execute_takeByte_end (by rw [PacketQueue.takeByte, front]) represents
    | cons byte piece =>
      rw [left] at layout
      have front := queue.front_of_cons found
      rw [left] at front
      have taken := layout.take (Nat.succ_le_succ (Nat.zero_le piece.length))
      rw [← left, List.drop_drop] at taken
      have more := congrArg List.length left
      rw [List.length_drop, List.length_cons] at more
      refine .intro layout.execute_takeByte ?_ (.read queue (taken.setConsumed _) ?_ (by omega))
      · rw [PacketQueue.takeByte, front, ← found]
      · rw [represents.consumed]
        rfl

theorem refines_release : Refines geometry Reader.release fun queue => ((), queue.release) := by
  intro ring queue represents
  rcases represents.front_cases with ⟨found, _, _, layout⟩ | ⟨oldest, rest, found, _, _, layout⟩
  · have within := represents.within
    rw [PacketQueue.WithinOldest, queue.oldest_of_nil found] at within
    refine .intro layout.execute_release_none ?_ represents
    simp only [PacketQueue.release, found, List.tail_nil, ← Nat.le_zero.mp within]
    rw [← found]
  · have released := (layout.setConsumed 0).release
    have following : queue.release.unread = rest := by
      rw [queue.unread_release, found, List.tail_cons]
    rw [← following] at released
    exact .intro layout.execute_release rfl ⟨⟨_, _, released⟩, rfl, Nat.zero_le _⟩

/-- A byte in the place of the next one is the next one, and the bytes around it stay. -/
theorem refines_overwriteUnread (byte : UInt8) :
    Refines geometry (overwriteUnread byte) fun queue => ((), queue.overwriteUnread byte) := by
  intro ring queue represents
  rcases represents.front_cases with ⟨found, _, _, layout⟩ | ⟨oldest, rest, found, _, _, layout⟩
  · refine .intro (layout.execute_overwriteUnread_none byte) ?_ represents
    simp only [PacketQueue.overwriteUnread, found]
  · have within := represents.within
    rw [PacketQueue.WithinOldest, queue.oldest_of_cons found] at within
    cases left : oldest.drop queue.offset with
    | nil =>
      rw [left] at layout
      have beyond := List.drop_eq_nil_iff.mp left
      refine .intro (layout.execute_overwriteUnread_end byte) ?_ represents
      simp only [PacketQueue.overwriteUnread, found, List.set_eq_of_length_le beyond]
      rw [← found]
    | cons first piece =>
      rw [left] at layout
      have overwritten := layout.overwrite byte
      have changed : byte :: piece = (oldest.set queue.offset byte).drop queue.offset := by
        rw [List.drop_set, if_neg (Nat.lt_irrefl _), left, Nat.sub_self, List.set_cons_zero]
      rw [changed] at overwritten
      refine .intro (layout.execute_overwriteUnread byte) ?_
        (.read queue overwritten represents.consumed (by rw [List.length_set]; exact within))
      simp only [PacketQueue.overwriteUnread, found]

end Refinement

end FramedLine.PacketRing
