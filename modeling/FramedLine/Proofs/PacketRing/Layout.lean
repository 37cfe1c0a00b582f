import FramedLine.Proofs.PacketRing.Execution

/-!
How the memory of a packet ring holds a queue. The unread bytes of the packets and of the packet in
progress follow each other from the position `start` on, and their boundaries are the marks from the
position `slot` on. Each change that an end makes to its own locations keeps such a layout.
-/

namespace FramedLine.PacketRing

variable {geometry : Geometry}

structure Layout (ring : PacketRing geometry) (unread : List Bytes) (tentative : Bytes)
    (slot start : Nat) : Prop where
  slots : unread.length + 2 ≤ geometry.marks.slots
  room : unread.flatten.length + tentative.length < geometry.bytes.slots
  tail : ring.tail.toUInt64 = geometry.marks.index slot
  head : ring.head.toUInt64 = geometry.marks.index (slot + unread.length)
  /-- Each packet begins where the ones before it end. -/
  mark : ∀ count ≤ unread.length, ring.markAt (slot + count) =
    geometry.bytes.index (start + (unread.take count).flatten.length)
  stop : ring.markAt (slot + unread.length + 1) =
    geometry.bytes.index (start + (unread.flatten.length + tentative.length))
  bytes : ring.bytesAt start (unread.flatten.length + tentative.length) =
    unread.flatten ++ tentative

namespace Layout

variable {ring : PacketRing geometry} {unread : List Bytes} {tentative : Bytes} {slot start : Nat}

/-- A ring in which nothing was ever written holds no packet. -/
theorem fresh (taken : Bool) :
    Layout { PacketRing.fresh geometry with taken } [] [] 0 0 where
  slots := geometry.marks.two_le_slots
  room := geometry.bytes.slots_pos
  tail := by simp [PacketRing.fresh, RingSize.index]
  head := by simp [PacketRing.fresh, RingSize.index]
  mark count within := by
    have none : count = 0 := Nat.le_zero.mp within
    simp [none, markAt, PacketRing.fresh, RingSize.index]
  stop := by simp [markAt, PacketRing.fresh, RingSize.index]
  bytes := rfl

section Marks

variable (layout : Layout ring unread tentative slot start)
include layout

/-- The mark of the oldest packet is where the reader is. -/
theorem cursor : ring.markAt slot = geometry.bytes.index start := by
  simpa using layout.mark 0 (Nat.zero_le _)

/-- The packet in progress begins where the newest packet ends. -/
theorem begin : ring.markAt (slot + unread.length) =
    geometry.bytes.index (start + unread.flatten.length) := by
  simpa using layout.mark unread.length (Nat.le_refl _)

end Marks

/-- A mark of a slot that is not in use can move. -/
theorem markAt_setMark (ring : PacketRing geometry) (slot : Nat) {changed other position : Nat}
    (different : changed ≠ other)
    (changedNear : slot ≤ changed ∧ changed < slot + geometry.marks.slots)
    (otherNear : slot ≤ other ∧ other < slot + geometry.marks.slots) :
    (ring.setMark changed position).markAt other = ring.markAt other := by
  apply ring.markAt_setMark_of_ne
  rcases Nat.lt_or_gt_of_ne different with before | after
  · exact mod_ne before (by omega)
  · exact (mod_ne after (by omega)).symm

/-- The writer adds bytes to the packet in progress. -/
theorem extend (layout : Layout ring unread tentative slot start) (data : Bytes)
    (fits : unread.flatten.length + tentative.length + data.length < geometry.bytes.slots) :
    Layout ((ring.setBytes (start + (unread.flatten.length + tentative.length)) data).setMark
        (slot + unread.length + 1)
        (start + (unread.flatten.length + tentative.length) + data.length))
      unread (tentative ++ data) slot start where
  slots := layout.slots
  room := by
    rw [List.length_append]
    omega
  tail := by simpa [setMark] using layout.tail
  head := by simpa [setMark] using layout.head
  mark count within := by
    have slots := layout.slots
    rw [markAt_setMark _ slot (by omega) (by omega) (by omega),
      markAt_setBytes]
    exact layout.mark count within
  stop := by
    rw [markAt_setMark_self, List.length_append, ← Nat.add_assoc unread.flatten.length,
      Nat.add_assoc start]
  bytes := by
    have whole : unread.flatten.length + (tentative ++ data).length =
        unread.flatten.length + tentative.length + data.length := by
      rw [List.length_append, Nat.add_assoc]
    rw [whole, bytesAt_setMark, bytesAt_add,
      bytesAt_setBytes_outside _ _ _ (Nat.le_refl _) (by omega), layout.bytes,
      bytesAt_setBytes_self _ _ _ (by omega), List.append_assoc]

/-- The writer takes bytes back. -/
theorem shorten {rest : Bytes} (layout : Layout ring unread (tentative ++ rest) slot start) :
    Layout (ring.setMark (slot + unread.length + 1)
        (start + (unread.flatten.length + tentative.length)))
      unread tentative slot start where
  slots := layout.slots
  room := by
    have room := layout.room
    rw [List.length_append] at room
    omega
  tail := layout.tail
  head := layout.head
  mark count within := by
    have slots := layout.slots
    rw [markAt_setMark _ slot (by omega) (by omega) (by omega)]
    exact layout.mark count within
  stop := ring.markAt_setMark_self _ _
  bytes := by
    have bytes := layout.bytes
    rw [List.length_append, ← Nat.add_assoc, bytesAt_add, ← List.append_assoc] at bytes
    rw [bytesAt_setMark]
    exact (List.append_inj bytes (by simp)).1

/-- The writer takes the last bytes of the packet in progress back. -/
theorem shortenBy (layout : Layout ring unread tentative slot start) {length : Nat}
    (enough : length ≤ tentative.length) :
    Layout (ring.setMark (slot + unread.length + 1)
        (start + (unread.flatten.length + tentative.length) - length))
      unread (tentative.take (tentative.length - length)) slot start := by
  have kept : (tentative.take (tentative.length - length)).length = tentative.length - length :=
    List.length_take_of_le (Nat.sub_le _ _)
  rw [← List.take_append_drop (tentative.length - length) tentative] at layout
  have shorter := layout.shorten
  rw [kept, ← Nat.add_sub_assoc enough, ← Nat.add_sub_assoc (by omega)] at shorter
  exact shorter

/-- The writer drops the packet in progress. -/
theorem clear (layout : Layout ring unread tentative slot start) :
    Layout (ring.setMark (slot + unread.length + 1) (start + unread.flatten.length))
      unread [] slot start := by
  have emptied : Layout _ unread [] slot start := layout.shorten
  rw [List.length_nil, Nat.add_zero] at emptied
  exact emptied

/-- The writer hands the packet in progress to the reader. -/
theorem commit (layout : Layout ring unread tentative slot start)
    (free : unread.length + 3 ≤ geometry.marks.slots) :
    Layout ((ring.setMark (slot + unread.length + 2)
        (start + (unread.flatten.length + tentative.length))).setHead (slot + unread.length + 1))
      (unread ++ [tentative]) [] slot start where
  slots := by
    rw [List.length_append, List.length_singleton]
    omega
  room := by simpa using layout.room
  tail := layout.tail
  head := by simp [setHead, Nat.add_assoc]
  mark count within := by
    rw [List.length_append, List.length_singleton] at within
    change (ring.setMark _ _).markAt _ = _
    rw [markAt_setMark _ slot (by omega) (by omega) (by omega)]
    by_cases last : count = unread.length + 1
    · rw [last, ← Nat.add_assoc, layout.stop, List.take_of_length_le (by simp)]
      simp
    · rw [layout.mark count (by omega), List.take_append_of_le_length (by omega)]
  stop := by
    rw [List.length_append, List.length_singleton]
    change (ring.setMark _ _).markAt _ = _
    simp [Nat.add_assoc]
  bytes := by simpa using layout.bytes

/-- The reader takes bytes of the oldest packet. -/
theorem take {piece : Bytes} {rest : List Bytes} {count : Nat}
    (layout : Layout ring (piece :: rest) tentative slot start) (within : count ≤ piece.length) :
    Layout (ring.setMark slot (start + count)) (piece.drop count :: rest) tentative slot
      (start + count) where
  slots := layout.slots
  room := by
    have room := layout.room
    simp only [List.flatten_cons, List.length_append, List.length_drop] at room ⊢
    omega
  tail := layout.tail
  head := layout.head
  mark later inside := by
    have slots := layout.slots
    simp only [List.length_cons] at inside slots
    cases later with
    | zero => simp
    | succ later =>
      have mark := layout.mark (later + 1) (by simpa using inside)
      rw [markAt_setMark _ slot (by omega) (by omega) (by omega),
        mark]
      simp only [List.take_succ_cons, List.flatten_cons, List.length_append, List.length_drop]
      congr 1
      omega
  stop := by
    have slots := layout.slots
    have stop := layout.stop
    simp only [List.length_cons, List.flatten_cons, List.length_append, List.length_drop]
      at slots stop ⊢
    rw [markAt_setMark _ slot (by omega) (by omega) (by omega), stop]
    congr 1
    omega
  bytes := by
    have bytes := layout.bytes
    have whole : (piece :: rest).flatten.length + tentative.length =
        count + ((piece.drop count :: rest).flatten.length + tentative.length) := by
      simp only [List.flatten_cons, List.length_append, List.length_drop]
      omega
    have parts : (piece :: rest).flatten ++ tentative =
        piece.take count ++ ((piece.drop count :: rest).flatten ++ tentative) := by
      simp [← List.append_assoc]
    rw [whole, bytesAt_add, parts] at bytes
    rw [bytesAt_setMark]
    exact (List.append_inj bytes (by simp [within])).2

/-- The reader releases the oldest packet. -/
theorem release {piece : Bytes} {rest : List Bytes}
    (layout : Layout ring (piece :: rest) tentative slot start) :
    Layout (ring.setTail (slot + 1)) rest tentative (slot + 1) (start + piece.length) where
  slots := by
    have slots := layout.slots
    rw [List.length_cons] at slots
    omega
  room := by
    have room := layout.room
    rw [List.flatten_cons, List.length_append] at room
    omega
  tail := by simp [setTail]
  head := by
    have head := layout.head
    rw [List.length_cons, Nat.add_comm rest.length, ← Nat.add_assoc] at head
    exact head
  mark count within := by
    have mark := layout.mark (count + 1) (by rw [List.length_cons]; omega)
    rw [List.take_succ_cons, List.flatten_cons, List.length_append, Nat.add_comm count,
      ← Nat.add_assoc, ← Nat.add_assoc] at mark
    exact mark
  stop := by
    have stop := layout.stop
    rw [List.length_cons, Nat.add_comm rest.length, ← Nat.add_assoc, List.flatten_cons,
      List.length_append, Nat.add_assoc piece.length, ← Nat.add_assoc start] at stop
    exact stop
  bytes := by
    have bytes := layout.bytes
    rw [List.flatten_cons, List.length_append, Nat.add_assoc, bytesAt_add, List.append_assoc] at bytes
    rw [bytesAt_setTail]
    exact (List.append_inj bytes (by simp)).2

/-- The reader puts another byte in the place of the next one. -/
theorem overwrite {byte : UInt8} {piece : Bytes} {rest : List Bytes}
    (layout : Layout ring ((byte :: piece) :: rest) tentative slot start) (value : UInt8) :
    Layout (ring.setByte start value) ((value :: piece) :: rest) tentative slot start where
  slots := layout.slots
  room := layout.room
  tail := layout.tail
  head := layout.head
  mark count within := by
    have mark := layout.mark count within
    change ring.markAt _ = _
    rw [mark]
    cases count with
    | zero => rfl
    | succ count => rfl
  stop := layout.stop
  bytes := by
    have room := layout.room
    have bytes := layout.bytes
    simp only [List.flatten_cons, List.cons_append, List.length_cons, List.length_append,
      Nat.succ_add] at room bytes ⊢
    rw [bytesAt, List.cons.injEq] at bytes
    rw [bytesAt, byteAt_setByte_self, bytesAt_setByte_before _ _ _ (Nat.lt_succ_self _) (by omega),
      bytes.2]

end Layout

end FramedLine.PacketRing
