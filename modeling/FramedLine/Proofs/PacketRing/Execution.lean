import FramedLine.PacketRing.Program
import FramedLine.Proofs.Circular.Position

/-!
The effect of single accesses on a packet ring whose slots and offsets are told by positions. Every
access at a position lies inside its array, so that a program over positions never ends in a fault.
-/

namespace FramedLine.PacketRing

variable {geometry : Geometry} {α β : Type}

/-- The mark at the slot on which a position falls. -/
def markAt (ring : PacketRing geometry) (slot : Nat) : UInt64 :=
  ring.marks[slot % geometry.marks.slots].toUInt64

/-- The byte at the offset on which a position falls. -/
def byteAt (ring : PacketRing geometry) (position : Nat) : UInt8 :=
  ring.bytes[position % geometry.bytes.slots]

/-- The bytes at successive positions. -/
def bytesAt (ring : PacketRing geometry) (position : Nat) : Nat → Bytes
  | 0 => []
  | count + 1 => ring.byteAt position :: ring.bytesAt (position + 1) count

/-- Puts the mark at `slot` to the offset on which `position` falls. -/
def setMark (ring : PacketRing geometry) (slot position : Nat) : PacketRing geometry :=
  { ring with
    marks := ring.marks.set (slot % geometry.marks.slots) (geometry.bytes.index position).toUInt8
      (geometry.marks.mod_lt slot) }

def setByte (ring : PacketRing geometry) (position : Nat) (value : UInt8) : PacketRing geometry :=
  { ring with
    bytes := ring.bytes.set (position % geometry.bytes.slots) value (geometry.bytes.mod_lt position) }

/-- Puts bytes at successive positions. -/
def setBytes (ring : PacketRing geometry) (position : Nat) : Bytes → PacketRing geometry
  | [] => ring
  | byte :: rest => (ring.setByte position byte).setBytes (position + 1) rest

def setHead (ring : PacketRing geometry) (slot : Nat) : PacketRing geometry :=
  { ring with head := (geometry.marks.index slot).toUInt8 }

def setTail (ring : PacketRing geometry) (slot : Nat) : PacketRing geometry :=
  { ring with tail := (geometry.marks.index slot).toUInt8 }

def setConsumed (ring : PacketRing geometry) (count : Nat) : PacketRing geometry :=
  { ring with consumed := count }

section Frame

variable (ring : PacketRing geometry) (slot position : Nat) (value : UInt8)

@[simp] theorem markAt_setMark_self :
    (ring.setMark slot position).markAt slot = geometry.bytes.index position := by
  simp [markAt, setMark]

theorem markAt_setMark_of_ne {other : Nat}
    (apart : slot % geometry.marks.slots ≠ other % geometry.marks.slots) :
    (ring.setMark slot position).markAt other = ring.markAt other := by
  simp [markAt, setMark, apart]

@[simp] theorem byteAt_setByte_self : (ring.setByte position value).byteAt position = value := by
  simp [byteAt, setByte]

theorem byteAt_setByte_of_ne {other : Nat}
    (apart : position % geometry.bytes.slots ≠ other % geometry.bytes.slots) :
    (ring.setByte position value).byteAt other = ring.byteAt other := by
  simp [byteAt, setByte, apart]

theorem bytesAt_add (first second : Nat) :
    ring.bytesAt position (first + second) =
      ring.bytesAt position first ++ ring.bytesAt (position + first) second := by
  induction first generalizing position with
  | zero => simp [bytesAt]
  | succ first inductionHypothesis =>
    rw [Nat.succ_add, bytesAt, bytesAt, inductionHypothesis, List.cons_append, Nat.add_right_comm,
      Nat.add_assoc position]

@[simp] theorem length_bytesAt (count : Nat) : (ring.bytesAt position count).length = count := by
  induction count generalizing position with
  | zero => rfl
  | succ count inductionHypothesis => rw [bytesAt, List.length_cons, inductionHypothesis]

/-- A byte put outside of a stretch leaves the stretch alone. -/
theorem bytesAt_setByte_outside {start count : Nat} (after : start + count ≤ position)
    (near : position < start + geometry.bytes.slots) :
    (ring.setByte position value).bytesAt start count = ring.bytesAt start count := by
  induction count generalizing start with
  | zero => rfl
  | succ count inductionHypothesis =>
    have apart := mod_ne (show start < position by omega) near
    rw [bytesAt, bytesAt, byteAt_setByte_of_ne _ _ _ apart.symm,
      inductionHypothesis (by omega) (by omega)]

/-- A byte put before a stretch leaves the stretch alone. -/
theorem bytesAt_setByte_before {start count : Nat} (before : position < start)
    (near : start + count ≤ position + geometry.bytes.slots) :
    (ring.setByte position value).bytesAt start count = ring.bytesAt start count := by
  have turn : ring.setByte position value = ring.setByte (position + geometry.bytes.slots) value := by
    simp [setByte]
  rw [turn, bytesAt_setByte_outside _ _ _ near (by omega)]

/-- Bytes put outside of a stretch leave the stretch alone. -/
theorem bytesAt_setBytes_outside (data : Bytes) {start count : Nat} (after : start + count ≤ position)
    (near : position + data.length ≤ start + geometry.bytes.slots) :
    (ring.setBytes position data).bytesAt start count = ring.bytesAt start count := by
  induction data generalizing ring position with
  | nil => rfl
  | cons byte rest inductionHypothesis =>
    rw [List.length_cons] at near
    rw [setBytes, inductionHypothesis _ _ (by omega) (by omega),
      bytesAt_setByte_outside _ _ _ after (by omega)]

/-- Bytes put at successive positions, at most one turn of them, can all be read back. -/
theorem bytesAt_setBytes_self (data : Bytes) (short : data.length ≤ geometry.bytes.slots) :
    (ring.setBytes position data).bytesAt position data.length = data := by
  induction data generalizing ring position with
  | nil => rfl
  | cons byte rest inductionHypothesis =>
    rw [List.length_cons] at short
    have first : ((ring.setByte position byte).setBytes (position + 1) rest).bytesAt position 1 =
        [byte] := by
      rw [bytesAt_setBytes_outside _ _ _ (Nat.le_refl _) (by omega)]
      simp [bytesAt]
    rw [List.length_cons, Nat.add_comm, bytesAt_add, setBytes, first,
      inductionHypothesis _ _ (by omega), List.singleton_append]

/-- Only the offset counts on which a position falls. -/
theorem bytesAt_congr {other : Nat}
    (same : position % geometry.bytes.slots = other % geometry.bytes.slots) (count : Nat) :
    ring.bytesAt position count = ring.bytesAt other count := by
  induction count generalizing position other with
  | zero => rfl
  | succ count inductionHypothesis =>
    have next : (position + 1) % geometry.bytes.slots = (other + 1) % geometry.bytes.slots := by
      rw [← Nat.mod_add_mod, same, Nat.mod_add_mod]
    rw [bytesAt, bytesAt, inductionHypothesis _ next]
    simp only [byteAt, same]

theorem setBytes_congr {other : Nat}
    (same : position % geometry.bytes.slots = other % geometry.bytes.slots) (data : Bytes) :
    ring.setBytes position data = ring.setBytes other data := by
  induction data generalizing ring position other with
  | nil => rfl
  | cons byte rest inductionHypothesis =>
    have next : (position + 1) % geometry.bytes.slots = (other + 1) % geometry.bytes.slots := by
      rw [← Nat.mod_add_mod, same, Nat.mod_add_mod]
    rw [setBytes, setBytes, inductionHypothesis _ _ next]
    simp only [setByte, same]

theorem setBytes_append (first second : Bytes) :
    ring.setBytes position (first ++ second) =
      (ring.setBytes position first).setBytes (position + first.length) second := by
  induction first generalizing ring position with
  | nil => rfl
  | cons byte rest inductionHypothesis =>
    rw [List.cons_append, setBytes, setBytes, inductionHypothesis, List.length_cons, Nat.add_assoc,
      Nat.add_comm 1]

/-- Bytes are the same on rings with the same array of them. -/
theorem bytesAt_of_bytes_eq {other : PacketRing geometry} (same : ring.bytes = other.bytes)
    (count : Nat) : ring.bytesAt position count = other.bytesAt position count := by
  induction count generalizing position with
  | zero => rfl
  | succ count inductionHypothesis =>
    rw [bytesAt, bytesAt, inductionHypothesis]
    simp only [byteAt, same]

@[simp] theorem bytesAt_setMark (start count : Nat) :
    (ring.setMark slot position).bytesAt start count = ring.bytesAt start count := by
  apply bytesAt_of_bytes_eq
  rfl

@[simp] theorem bytesAt_setHead (start count : Nat) :
    (ring.setHead slot).bytesAt start count = ring.bytesAt start count := by
  apply bytesAt_of_bytes_eq
  rfl

@[simp] theorem bytesAt_setTail (start count : Nat) :
    (ring.setTail slot).bytesAt start count = ring.bytesAt start count := by
  apply bytesAt_of_bytes_eq
  rfl

@[simp] theorem bytesAt_setConsumed (consumed start count : Nat) :
    (ring.setConsumed consumed).bytesAt start count = ring.bytesAt start count := by
  apply bytesAt_of_bytes_eq
  rfl

/-- Bytes are all that a store of bytes changes. -/
theorem setBytes_eq (data : Bytes) :
    ring.setBytes position data = { ring with bytes := (ring.setBytes position data).bytes } := by
  induction data generalizing ring position with
  | nil => rfl
  | cons byte rest inductionHypothesis =>
    rw [setBytes, inductionHypothesis]
    rfl

@[simp] theorem markAt_setBytes (data : Bytes) (other : Nat) :
    (ring.setBytes position data).markAt other = ring.markAt other := by
  rw [setBytes_eq]
  rfl

@[simp] theorem head_setBytes (data : Bytes) : (ring.setBytes position data).head = ring.head := by
  rw [setBytes_eq]

@[simp] theorem tail_setBytes (data : Bytes) : (ring.setBytes position data).tail = ring.tail := by
  rw [setBytes_eq]

@[simp] theorem consumed_setBytes (data : Bytes) :
    (ring.setBytes position data).consumed = ring.consumed := by
  rw [setBytes_eq]

end Frame

namespace Program

variable (ring : PacketRing geometry)

/-- A program may give its answer in another form. -/
theorem execute_map {program : Program geometry α} {answer : α} {after : PacketRing geometry}
    {accesses : List Access} (ran : program.execute ring = .ok ⟨answer, after, accesses⟩)
    (form : α → β) : (do return form (← program) : Program geometry β).execute ring =
      .ok ⟨form answer, after, accesses⟩ := by
  simp [execute_bind, ran, Except.map, Outcome.precededBy]

@[simp] theorem execute_compute_ok (answer : α) :
    (compute (.ok answer) : Program geometry α).execute ring = .ok ⟨answer, ring, []⟩ := rfl

@[simp] theorem execute_loadHead :
    loadHead.execute ring = .ok ⟨ring.head.toUInt64, ring, [.load .head]⟩ := rfl

@[simp] theorem execute_loadTail :
    loadTail.execute ring = .ok ⟨ring.tail.toUInt64, ring, [.load .tail]⟩ := rfl

@[simp] theorem execute_loadConsumed :
    loadConsumed.execute ring = .ok ⟨ring.consumed, ring, []⟩ := rfl

@[simp] theorem execute_storeConsumed (count : Nat) :
    (storeConsumed count).execute ring = .ok ⟨(), ring.setConsumed count, []⟩ := rfl

@[simp] theorem execute_narrow_index (size : RingSize) (position : Nat) :
    (narrow (size.index position)).execute ring = .ok ⟨(size.index position).toUInt8, ring, []⟩ :=
  if_pos (size.index_lt position)

@[simp] theorem execute_loadMark (slot : Nat) :
    (loadMark (geometry.marks.index slot)).execute ring =
      .ok ⟨ring.markAt slot, ring, [.load (.mark (slot % geometry.marks.slots))]⟩ := by
  simp [loadMark, markAt, geometry.marks.mod_lt slot]

@[simp] theorem execute_storeMark (slot position : Nat) :
    (storeMark (geometry.marks.index slot) (geometry.bytes.index position)).execute ring =
      .ok ⟨(), ring.setMark slot position, [.store (.mark (slot % geometry.marks.slots))]⟩ := by
  simp [storeMark, execute_bind, setMark, geometry.marks.mod_lt slot, Except.map, Outcome.precededBy]

@[simp] theorem execute_storeHead (slot : Nat) :
    (storeHead (geometry.marks.index slot)).execute ring =
      .ok ⟨(), ring.setHead slot, [.store .head]⟩ := by
  simp [storeHead, execute_bind, setHead, Except.map, Outcome.precededBy]

@[simp] theorem execute_storeTail (slot : Nat) :
    (storeTail (geometry.marks.index slot)).execute ring =
      .ok ⟨(), ring.setTail slot, [.store .tail]⟩ := by
  simp [storeTail, execute_bind, setTail, Except.map, Outcome.precededBy]

@[simp] theorem execute_loadByte (position : Nat) :
    (loadByte (position % geometry.bytes.slots)).execute ring =
      .ok ⟨ring.byteAt position, ring, [.load (.byte (position % geometry.bytes.slots))]⟩ := by
  simp [loadByte, byteAt, geometry.bytes.mod_lt position]

@[simp] theorem execute_storeByte (position : Nat) (value : UInt8) :
    (storeByte (position % geometry.bytes.slots) value).execute ring =
      .ok ⟨(), ring.setByte position value, [.store (.byte (position % geometry.bytes.slots))]⟩ := by
  simp [storeByte, setByte, geometry.bytes.mod_lt position]

/-- Where an operation accesses bytes at successive positions. -/
def accessesAt (geometry : Geometry) (access : Location → Access) (position : Nat) :
    Nat → List Access
  | 0 => []
  | count + 1 =>
    access (.byte (position % geometry.bytes.slots)) ::
      accessesAt geometry access (position + 1) count

theorem accessesAt_add (access : Location → Access) (position first second : Nat) :
    accessesAt geometry access position (first + second) =
      accessesAt geometry access position first ++
        accessesAt geometry access (position + first) second := by
  induction first generalizing position with
  | zero => simp [accessesAt]
  | succ first inductionHypothesis =>
    rw [Nat.succ_add, accessesAt, accessesAt, inductionHypothesis, List.cons_append,
      Nat.add_right_comm, Nat.add_assoc position]

theorem accessesAt_congr (access : Location → Access) {position other : Nat}
    (same : position % geometry.bytes.slots = other % geometry.bytes.slots) (count : Nat) :
    accessesAt geometry access position count = accessesAt geometry access other count := by
  induction count generalizing position other with
  | zero => rfl
  | succ count inductionHypothesis =>
    have next : (position + 1) % geometry.bytes.slots = (other + 1) % geometry.bytes.slots := by
      rw [← Nat.mod_add_mod, same, Nat.mod_add_mod]
    rw [accessesAt, accessesAt, same, inductionHypothesis next]

/-- A block before the end of the array is loaded byte by byte. -/
theorem execute_loadBlock {offset count : Nat} (inside : offset + count ≤ geometry.bytes.slots) :
    (loadBlock offset count).execute ring =
      .ok ⟨ring.bytesAt offset count, ring, accessesAt geometry .load offset count⟩ := by
  induction count generalizing offset with
  | zero => rfl
  | succ count inductionHypothesis =>
    have below : offset % geometry.bytes.slots = offset := Nat.mod_eq_of_lt (by omega)
    have first := execute_loadByte ring offset
    rw [below] at first
    simp [loadBlock, execute_bind, first, inductionHypothesis (show offset + 1 + count ≤ _ by omega),
      bytesAt, accessesAt, below, Except.map, Outcome.precededBy]

/-- A block before the end of the array is stored byte by byte. -/
theorem execute_storeBlock {offset : Nat} {data : Bytes}
    (inside : offset + data.length ≤ geometry.bytes.slots) :
    (storeBlock offset data).execute ring =
      .ok ⟨(), ring.setBytes offset data, accessesAt geometry .store offset data.length⟩ := by
  induction data generalizing ring offset with
  | nil => rfl
  | cons byte rest inductionHypothesis =>
    rw [List.length_cons] at inside
    have below : offset % geometry.bytes.slots = offset := Nat.mod_eq_of_lt (by omega)
    have first := execute_storeByte ring offset byte
    rw [below] at first
    simp [storeBlock, execute_bind, first,
      inductionHypothesis _ (show offset + 1 + rest.length ≤ _ by omega), setBytes, accessesAt, below,
      Except.map, Outcome.precededBy]

/-- A block of at most one turn is loaded in two pieces as if the array had no end. -/
theorem execute_loadWrapping {position count : Nat} (short : count ≤ geometry.bytes.slots) :
    (loadWrapping (position % geometry.bytes.slots)
        (min count (geometry.bytes.slots - position % geometry.bytes.slots)) count).execute ring =
      .ok ⟨ring.bytesAt position count, ring, accessesAt geometry .load position count⟩ := by
  have below := geometry.bytes.mod_lt position
  have same : position % geometry.bytes.slots % geometry.bytes.slots =
    position % geometry.bytes.slots := Nat.mod_mod _ _
  have turn := geometry.bytes.end_of_turn position
  generalize toEnd : geometry.bytes.slots - position % geometry.bytes.slots = length at turn ⊢
  by_cases longer : length < count
  · obtain ⟨rest, whole⟩ := Nat.exists_eq_add_of_le (Nat.le_of_lt longer)
    have first : (loadBlock (position % geometry.bytes.slots) length).execute ring = .ok _ :=
      execute_loadBlock ring (by omega)
    have second : (loadBlock 0 rest).execute ring = .ok _ := execute_loadBlock ring (by omega)
    rw [Nat.min_eq_right (Nat.le_of_lt longer)]
    simp only [loadWrapping, execute_bind, first, show count - length = rest by omega, second]
    rw [whole, bytesAt_add, accessesAt_add, ring.bytesAt_congr _ same, accessesAt_congr _ same,
      ring.bytesAt_congr _ turn, accessesAt_congr _ turn]
    simp [Except.map, Outcome.precededBy]
  · have first : (loadBlock (position % geometry.bytes.slots) count).execute ring = .ok _ :=
      execute_loadBlock ring (by omega)
    rw [Nat.min_eq_left (Nat.le_of_not_lt longer)]
    simp only [loadWrapping, execute_bind, first, Nat.sub_self, loadBlock]
    rw [ring.bytesAt_congr _ same, accessesAt_congr _ same]
    simp [Except.map, Outcome.precededBy]

/-- A block of at most one turn is stored in two pieces as if the array had no end. -/
theorem execute_storeWrapping {position : Nat} {data : Bytes}
    (short : data.length ≤ geometry.bytes.slots) :
    (storeWrapping (position % geometry.bytes.slots)
        (min data.length (geometry.bytes.slots - position % geometry.bytes.slots)) data).execute ring =
      .ok ⟨(), ring.setBytes position data, accessesAt geometry .store position data.length⟩ := by
  have below := geometry.bytes.mod_lt position
  have same : position % geometry.bytes.slots % geometry.bytes.slots =
    position % geometry.bytes.slots := Nat.mod_mod _ _
  have turn := geometry.bytes.end_of_turn position
  generalize toEnd : geometry.bytes.slots - position % geometry.bytes.slots = length at turn ⊢
  by_cases longer : length < data.length
  · obtain ⟨front, back, rfl, sized⟩ : ∃ front back, data = front ++ back ∧ front.length = length :=
      ⟨data.take length, data.drop length, (List.take_append_drop length data).symm,
        List.length_take_of_le (Nat.le_of_lt longer)⟩
    rw [List.length_append] at short longer
    have first : (storeBlock (position % geometry.bytes.slots) front).execute ring = .ok _ :=
      execute_storeBlock ring (by omega)
    have second : (storeBlock 0 back).execute
        (ring.setBytes (position % geometry.bytes.slots) front) = .ok _ :=
      execute_storeBlock _ (by omega)
    rw [List.length_append, Nat.min_eq_right (Nat.le_of_lt longer), ← sized]
    simp only [storeWrapping, execute_bind, List.take_left, List.drop_left, first, second]
    rw [ring.setBytes_congr _ same, accessesAt_congr _ same, setBytes_congr _ _ turn,
      accessesAt_congr _ turn, setBytes_append, accessesAt_add, sized]
    simp [Except.map, Outcome.precededBy]
  · have first : (storeBlock (position % geometry.bytes.slots) data).execute ring = .ok _ :=
      execute_storeBlock ring (by omega)
    rw [Nat.min_eq_left (Nat.le_of_not_lt longer)]
    simp only [storeWrapping, execute_bind, List.take_length, first, List.drop_length, storeBlock]
    rw [ring.setBytes_congr _ same, accessesAt_congr _ same]
    simp [Except.map, Outcome.precededBy]

end Program

/-- The form of an answer makes no difference to the ring. -/
theorem after_map [Inhabited α] [Inhabited β] (ring : PacketRing geometry)
    (program : Program geometry α) (form : α → β) :
    ring.after (do return form (← program)) = ring.after program := by
  simp only [after, run, Program.execute_bind]
  cases program.execute ring <;> rfl

end FramedLine.PacketRing
