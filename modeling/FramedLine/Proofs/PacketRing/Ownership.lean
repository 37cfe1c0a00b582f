import FramedLine.Proofs.PacketRing.Contents
import FramedLine.Proofs.PacketRing.Exchange

/-!
Who owns what in a packet ring. The two ends run side by side over one memory, so an end stores only to
locations that are its own, and no location is owned by both. The bytes of a ring are not even loaded by
the end that does not own them; the indexes and the marks are loaded by either end.
-/

namespace FramedLine.PacketRing

open Program

variable {geometry : Geometry} {α β : Type}

inductive Side where
  | writer
  | reader
  deriving DecidableEq, Repr

def Side.other : Side → Side
  | .writer => .reader
  | .reader => .writer

/-- Whether the memory has a location. -/
def Location.Inside (geometry : Geometry) : Location → Prop
  | .head => True
  | .tail => True
  | .mark slot => slot < geometry.marks.slots
  | .byte offset => offset < geometry.bytes.slots

/-- What a location holds. -/
def value (ring : PacketRing geometry) : Location → UInt8
  | .head => ring.head
  | .tail => ring.tail
  | .mark slot => ring.marks[slot]?.getD 0
  | .byte offset => ring.bytes[offset]?.getD 0

/-- The offsets of the committed bytes that were not read yet: from the mark of the tail up to the mark
of the head, on the circle. -/
def unreadOffsets (ring : PacketRing geometry) : List Nat :=
  let first := (ring.markAt ring.tail.toNat).toNat
  let stop := (ring.markAt ring.head.toNat).toNat
  let length := (stop + (geometry.bytes.slots - first)) % geometry.bytes.slots
  (List.range length).map fun distance => (first + distance) % geometry.bytes.slots

/-- The writer owns the head, the mark of the slot after it, the mark of the slot after that one unless it
is the tail, and every byte that is not unread. The reader owns the tail, the mark of its slot while a
packet is there, and the unread bytes. -/
def Owns (ring : PacketRing geometry) : Side → Location → Prop
  | .writer, .head => True
  | .writer, .tail => False
  | .writer, .mark slot =>
    slot ≠ ring.tail.toNat ∧
      (slot = (ring.head.toNat + 1) % geometry.marks.slots ∨
        slot = (ring.head.toNat + 2) % geometry.marks.slots)
  | .writer, .byte offset => offset ∉ ring.unreadOffsets
  | .reader, .head => False
  | .reader, .tail => True
  | .reader, .mark slot => slot = ring.tail.toNat ∧ ring.tail ≠ ring.head
  | .reader, .byte offset => offset ∈ ring.unreadOffsets

/-- What an end may do: it stores to what it owns and the other end does not, and loads the bytes that it
owns and any index or mark. A reader without a packet stores nothing. -/
def Permits (ring : PacketRing geometry) (side : Side) : Access → Prop
  | .store location =>
    location.Inside geometry ∧ ring.Owns side location ∧ ¬ring.Owns side.other location ∧
      (side = .reader → ring.tail ≠ ring.head)
  | .load (.byte offset) => Location.Inside geometry (.byte offset) ∧ ring.Owns side (.byte offset)
  | .load location => location.Inside geometry

/-- One ring is the other one except where accesses store. -/
def ChangedAt (accesses : List Access) (before after : PacketRing geometry) : Prop :=
  ∀ location, .store location ∉ accesses → after.value location = before.value location

/-- A program that keeps to the part of an end: it ends without a fault, makes accesses that the end may
make, and changes nothing but what it stores to. -/
def Obeys (ring : PacketRing geometry) (side : Side) (program : Program geometry α) : Prop :=
  ∃ outcome, program.execute ring = .ok outcome ∧
    (∀ access ∈ outcome.accesses, ring.Permits side access) ∧
    ChangedAt outcome.accesses ring outcome.ring

/-- The end whose operation it is. -/
def Operation.side : Operation → Side
  | .write _ => .writer
  | .read _ => .reader

/-- Whatever an end does next, it keeps to its part and leaves the other end what that end owns. The
writer always has a slot for the end of the packet in progress, which is not the reader's. -/
structure Disciplined (ring : PacketRing geometry) : Prop where
  next_ne_tail : (ring.head.toNat + 1) % geometry.marks.slots ≠ ring.tail.toNat
  operation (operation : Operation) : ring.Obeys operation.side operation.program
  keeps (operation : Operation) (location : Location) : ring.Owns operation.side.other location →
    (ring.after operation.program).Owns operation.side.other location
  tentativeLength : ring.Obeys .writer Writer.tentativeLength
  freeBytes : ring.Obeys .writer Writer.freeBytes
  canCommit : ring.Obeys .writer Writer.canCommit
  packetCount : ring.Obeys .reader Reader.packetCount
  hasPacket : ring.Obeys .reader Reader.hasPacket
  packetLength : ring.Obeys .reader Reader.packetLength
  remaining : ring.Obeys .reader Reader.remaining
  unreadByte? : ring.Obeys .reader Reader.unreadByte?
  snapshot (side : Side) : ring.Obeys side snapshot

/-- No location is owned by both ends. -/
theorem Owns.apart {ring : PacketRing geometry} {side : Side} {location : Location}
    (owned : ring.Owns side location) : ¬ring.Owns side.other location := by
  intro shared
  cases side <;> cases location
  case writer.head => exact shared
  case writer.tail => exact owned
  case writer.mark slot => exact owned.1 shared.1
  case writer.byte offset => exact owned shared
  case reader.head => exact owned
  case reader.tail => exact shared
  case reader.mark slot => exact shared.1 owned.1
  case reader.byte offset => exact shared owned

section Permission

variable {ring : PacketRing geometry} {side : Side}

theorem Permits.write {location : Location} (inside : location.Inside geometry)
    (owned : ring.Owns .writer location) : ring.Permits .writer (.store location) :=
  ⟨inside, owned, owned.apart, nofun⟩

theorem Permits.read {location : Location} (inside : location.Inside geometry)
    (owned : ring.Owns .reader location) (present : ring.tail ≠ ring.head) :
    ring.Permits .reader (.store location) :=
  ⟨inside, owned, owned.apart, fun _ => present⟩

@[simp] theorem permits_load_head : ring.Permits side (.load .head) := trivial

@[simp] theorem permits_load_tail : ring.Permits side (.load .tail) := trivial

@[simp] theorem permits_load_mark (slot : Nat) :
    ring.Permits side (.load (.mark (slot % geometry.marks.slots))) :=
  geometry.marks.mod_lt slot

/-- A block is accessed byte by byte. -/
theorem mem_accessesAt {form : Location → Access} {access : Access} {position count : Nat} :
    access ∈ accessesAt geometry form position count ↔
      ∃ distance < count, access = form (.byte ((position + distance) % geometry.bytes.slots)) := by
  induction count generalizing position with
  | zero => simp [accessesAt]
  | succ count inductionHypothesis =>
    rw [accessesAt, List.mem_cons, inductionHypothesis]
    constructor
    · rintro (first | ⟨distance, near, later⟩)
      · exact ⟨0, Nat.succ_pos _, first⟩
      · exact ⟨distance + 1, Nat.succ_lt_succ near, by rw [later, Nat.add_assoc, Nat.add_comm 1]⟩
    · rintro ⟨distance, near, found⟩
      cases distance with
      | zero => exact .inl found
      | succ distance =>
        exact .inr ⟨distance, Nat.lt_of_succ_lt_succ near, by rw [found, Nat.add_assoc, Nat.add_comm 1]⟩

end Permission

namespace ChangedAt

variable {accesses : List Access} {before after : PacketRing geometry}

theorem refl (accesses : List Access) (ring : PacketRing geometry) : ChangedAt accesses ring ring :=
  fun _ _ => rfl

theorem setConsumed (changed : ChangedAt accesses before after) (count : Nat) :
    ChangedAt accesses before (after.setConsumed count) := by
  intro location unlisted
  rw [← changed location unlisted]
  cases location <;> rfl

theorem setHead (changed : ChangedAt accesses before after) (listed : .store .head ∈ accesses)
    (slot : Nat) : ChangedAt accesses before (after.setHead slot) := by
  intro location unlisted
  rw [← changed location unlisted]
  cases location with
  | head => exact absurd listed unlisted
  | tail => rfl
  | mark slot => rfl
  | byte offset => rfl

theorem setTail (changed : ChangedAt accesses before after) (listed : .store .tail ∈ accesses)
    (slot : Nat) : ChangedAt accesses before (after.setTail slot) := by
  intro location unlisted
  rw [← changed location unlisted]
  cases location with
  | head => rfl
  | tail => exact absurd listed unlisted
  | mark slot => rfl
  | byte offset => rfl

theorem setMark {slot : Nat} (changed : ChangedAt accesses before after)
    (listed : .store (.mark (slot % geometry.marks.slots)) ∈ accesses) (position : Nat) :
    ChangedAt accesses before (after.setMark slot position) := by
  intro location unlisted
  rw [← changed location unlisted]
  cases location with
  | head => rfl
  | tail => rfl
  | mark other =>
    have apart : slot % geometry.marks.slots ≠ other := by
      rintro rfl
      exact unlisted listed
    simp [value, PacketRing.setMark, apart]
  | byte offset => rfl

theorem setByte {position : Nat} (changed : ChangedAt accesses before after)
    (listed : .store (.byte (position % geometry.bytes.slots)) ∈ accesses) (byte : UInt8) :
    ChangedAt accesses before (after.setByte position byte) := by
  intro location unlisted
  rw [← changed location unlisted]
  cases location with
  | head => rfl
  | tail => rfl
  | mark slot => rfl
  | byte other =>
    have apart : position % geometry.bytes.slots ≠ other := by
      rintro rfl
      exact unlisted listed
    simp [value, PacketRing.setByte, apart]

theorem setBytes {position : Nat} {data : Bytes} (changed : ChangedAt accesses before after)
    (listed : ∀ access ∈ accessesAt geometry .store position data.length, access ∈ accesses) :
    ChangedAt accesses before (after.setBytes position data) := by
  induction data generalizing after position with
  | nil => exact changed
  | cons byte rest inductionHypothesis =>
    have first := listed _ (List.mem_cons_self ..)
    exact inductionHypothesis (changed.setByte first byte) fun access found =>
      listed access (List.mem_cons_of_mem _ found)

end ChangedAt

namespace Obeys

variable {ring : PacketRing geometry} {side : Side} {program : Program geometry α}

theorem intro {outcome : Outcome geometry α} (ran : program.execute ring = .ok outcome)
    (permitted : ∀ access ∈ outcome.accesses, ring.Permits side access)
    (changed : ChangedAt outcome.accesses ring outcome.ring) : ring.Obeys side program :=
  ⟨outcome, ran, permitted, changed⟩

/-- What the end does not own is the same afterwards. -/
theorem value_after [Inhabited α] (obeys : ring.Obeys side program) (location : Location)
    (foreign : ¬ring.Owns side location) :
    (ring.after program).value location = ring.value location := by
  obtain ⟨outcome, ran, permitted, changed⟩ := obeys
  rw [PacketRing.after, run, ran]
  exact changed location fun listed => foreign (permitted _ listed).2.1

/-- A program may give its answer in another form. -/
theorem map (obeys : ring.Obeys side program) (form : α → β) :
    ring.Obeys side (do return form (← program)) := by
  obtain ⟨outcome, ran, permitted, changed⟩ := obeys
  exact .intro (execute_map ring ran form) permitted changed

end Obeys

namespace Layout

variable {ring : PacketRing geometry} {unread : List Bytes} {tentative : Bytes} {slot start : Nat}
  (layout : Layout ring unread tentative slot start)
include layout

theorem toNat_tail : ring.tail.toNat = slot % geometry.marks.slots := by
  have same := congrArg UInt64.toNat layout.tail
  simpa using same

theorem toNat_head : ring.head.toNat = (slot + unread.length) % geometry.marks.slots := by
  have same := congrArg UInt64.toNat layout.head
  simpa using same

theorem mem_unreadOffsets {offset : Nat} : offset ∈ ring.unreadOffsets ↔
    ∃ distance < unread.flatten.length, (start + distance) % geometry.bytes.slots = offset := by
  have room := layout.room
  have first : (ring.markAt ring.tail.toNat).toNat = start % geometry.bytes.slots := by
    rw [layout.toNat_tail, ← Nat.add_zero (slot % _), markAt_mod, Nat.add_zero, layout.cursor,
      RingSize.toNat_index]
  have stop : (ring.markAt ring.head.toNat).toNat =
      (start + unread.flatten.length) % geometry.bytes.slots := by
    rw [layout.toNat_head, ← Nat.add_zero ((slot + _) % _), markAt_mod, Nat.add_zero, layout.begin,
      RingSize.toNat_index]
  have length : ((start + unread.flatten.length) % geometry.bytes.slots +
      (geometry.bytes.slots - start % geometry.bytes.slots)) % geometry.bytes.slots =
        unread.flatten.length := by
    rw [mod_distance (Nat.le_add_right _ _) (by omega), Nat.add_sub_cancel_left]
  simp only [unreadOffsets, first, stop, length, List.mem_map, List.mem_range, Nat.mod_add_mod]

/-- The slot after the head is never the tail, since the slots in use and the one after them are less than
one turn. -/
theorem next_ne_tail : (ring.head.toNat + 1) % geometry.marks.slots ≠ ring.tail.toNat := by
  have slots := layout.slots
  rw [layout.toNat_head, layout.toNat_tail, Nat.mod_add_mod]
  exact (mod_ne (show slot < slot + unread.length + 1 by omega) (by omega)).symm

theorem permits_next :
    ring.Permits .writer (.store (.mark ((slot + unread.length + 1) % geometry.marks.slots))) := by
  have apart := layout.next_ne_tail
  have next : (ring.head.toNat + 1) % geometry.marks.slots =
      (slot + unread.length + 1) % geometry.marks.slots := by
    rw [layout.toNat_head, Nat.mod_add_mod]
  rw [← next]
  exact .write (geometry.marks.mod_lt _) ⟨apart, .inl rfl⟩

/-- The slot after that one is not the tail as long as one more packet can be committed. -/
theorem permits_beyond (free : unread.length < geometry.marks.slots - 2) :
    ring.Permits .writer (.store (.mark ((slot + unread.length + 2) % geometry.marks.slots))) := by
  refine .write (geometry.marks.mod_lt _) ⟨?_, .inr ?_⟩
  · rw [layout.toNat_tail]
    exact (mod_ne (show slot < slot + unread.length + 2 by omega) (by omega)).symm
  · rw [layout.toNat_head, Nat.mod_add_mod]

/-- The bytes from the end of the newest packet on are not unread, up to one turn after the reader. -/
theorem permits_free {position : Nat} (behind : start + unread.flatten.length ≤ position)
    (near : position < start + geometry.bytes.slots) :
    ring.Permits .writer (.store (.byte (position % geometry.bytes.slots))) := by
  refine .write (geometry.bytes.mod_lt _) fun found => ?_
  obtain ⟨distance, inside, same⟩ := layout.mem_unreadOffsets.mp found
  exact mod_ne (show start + distance < position by omega) (by omega) same

theorem permits_free_block {position count : Nat} (behind : start + unread.flatten.length ≤ position)
    (near : position + count ≤ start + geometry.bytes.slots) :
    ∀ access ∈ accessesAt geometry .store position count, ring.Permits .writer access := by
  intro access found
  obtain ⟨distance, inside, rfl⟩ := mem_accessesAt.mp found
  exact layout.permits_free (by omega) (by omega)

theorem tail_ne_head (present : unread ≠ []) : ring.tail ≠ ring.head := by
  have slots := layout.slots
  have positive := List.length_pos_iff.mpr present
  intro same
  have indexes := congrArg UInt8.toNat same
  rw [layout.toNat_tail, layout.toNat_head] at indexes
  exact mod_ne (show slot < slot + unread.length by omega) (by omega) indexes

/-- The mark of the tail is the reader's while there is a packet. -/
theorem permits_cursor (present : unread ≠ []) :
    ring.Permits .reader (.store (.mark (slot % geometry.marks.slots))) :=
  have apart := layout.tail_ne_head present
  .read (geometry.marks.mod_lt _) ⟨layout.toNat_tail.symm, apart⟩ apart

theorem owns_unread {distance : Nat} (inside : distance < unread.flatten.length) :
    ring.Owns .reader (.byte ((start + distance) % geometry.bytes.slots)) :=
  layout.mem_unreadOffsets.mpr ⟨distance, inside, rfl⟩

theorem permits_unread {distance : Nat} (inside : distance < unread.flatten.length) :
    ring.Permits .reader (.load (.byte ((start + distance) % geometry.bytes.slots))) :=
  ⟨geometry.bytes.mod_lt _, layout.owns_unread inside⟩

theorem permits_unread_block {count : Nat} (inside : count ≤ unread.flatten.length) :
    ∀ access ∈ accessesAt geometry .load start count, ring.Permits .reader access := by
  intro access found
  obtain ⟨distance, near, rfl⟩ := mem_accessesAt.mp found
  exact layout.permits_unread (Nat.lt_of_lt_of_le near inside)

section Writing

open Writer

theorem obeys_tentativeLength : ring.Obeys .writer tentativeLength :=
  .intro layout.execute_tentativeLength (by simp) (.refl _ _)

theorem obeys_freeBytes : ring.Obeys .writer freeBytes :=
  .intro layout.execute_freeBytes (by simp) (.refl _ _)

theorem obeys_canCommit : ring.Obeys .writer canCommit :=
  .intro layout.execute_canCommit (by simp) (.refl _ _)

theorem obeys_push (byte : UInt8) : ring.Obeys .writer (push byte) := by
  have ran := layout.execute_push byte
  split at ran
  next fits =>
    have free := layout.permits_free (Nat.add_le_add_left (Nat.le_add_right _ _) start)
      (show start + (unread.flatten.length + tentative.length) < _ by omega)
    refine .intro ran (by simp [layout.permits_next, free, -List.length_flatten]) ?_
    refine ((ChangedAt.refl _ _).setBytes ?_).setMark (by simp) _
    simp [accessesAt]
  next => exact .intro ran (by simp) (.refl _ _)

theorem obeys_pushAll (data : Bytes) : ring.Obeys .writer (pushAll data) := by
  have ran := layout.execute_pushAll data
  split at ran
  next fits =>
    have free := layout.permits_free_block (Nat.add_le_add_left (Nat.le_add_right _ _) start)
      (show start + (unread.flatten.length + tentative.length) + data.length ≤ _ by omega)
    refine .intro ran ?_ (((ChangedAt.refl _ _).setBytes ?_).setMark (by simp) _)
    · simp only [List.forall_mem_append]
      exact ⟨⟨by simp, free⟩, by simp [layout.permits_next]⟩
    · intro access found
      exact List.mem_append_left _ (List.mem_append_right _ found)
  next => exact .intro ran (by simp) (.refl _ _)

theorem obeys_trim (length : Nat) : ring.Obeys .writer (trim length) := by
  have ran := layout.execute_trim length
  split at ran
  next => exact .intro ran (by simp [layout.permits_next]) ((ChangedAt.refl _ _).setMark (by simp) _)
  next => exact .intro ran (by simp) (.refl _ _)

theorem obeys_discard : ring.Obeys .writer Writer.discard :=
  .intro layout.execute_discard (by simp [layout.permits_next])
    ((ChangedAt.refl _ _).setMark (by simp) _)

theorem obeys_commit : ring.Obeys .writer Writer.commit := by
  have ran := layout.execute_commit
  split at ran
  next free =>
    have head : ring.Permits .writer (.store .head) := .write trivial trivial
    refine .intro ran (by simp [layout.permits_beyond free, head]) ?_
    exact ((ChangedAt.refl _ _).setMark (by simp) _).setHead (by simp) _
  next =>
    exact .intro ran (by simp [layout.permits_next]) ((ChangedAt.refl _ _).setMark (by simp) _)

theorem obeys_writing (operation : Writing) : ring.Obeys .writer operation.program := by
  cases operation with
  | push byte => exact (layout.obeys_push byte).map Answer.accepted
  | pushAll data => exact (layout.obeys_pushAll data).map Answer.accepted
  | trim length => exact (layout.obeys_trim length).map Answer.accepted
  | commit => exact layout.obeys_commit.map Answer.accepted
  | discard => exact layout.obeys_discard.map fun _ => Answer.done

end Writing

section Reading

open Reader

theorem obeys_snapshot (side : Side) : ring.Obeys side snapshot :=
  .intro layout.execute_snapshot (by simp) (.refl _ _)

theorem obeys_packetCount : ring.Obeys .reader packetCount :=
  .intro layout.execute_packetCount (by simp) (.refl _ _)

theorem obeys_hasPacket : ring.Obeys .reader hasPacket :=
  .intro layout.execute_hasPacket (by simp) (.refl _ _)

theorem obeys_packetLength : ring.Obeys .reader packetLength := by
  cases unread with
  | nil => exact .intro layout.execute_packetLength_none (by simp) (.refl _ _)
  | cons piece rest => exact .intro layout.execute_packetLength (by simp) (.refl _ _)

theorem obeys_remaining : ring.Obeys .reader remaining := by
  cases unread with
  | nil => exact .intro layout.execute_remaining_none (by simp) (.refl _ _)
  | cons piece rest => exact .intro layout.execute_remaining (by simp) (.refl _ _)

theorem obeys_unreadByte? : ring.Obeys .reader unreadByte? := by
  cases unread with
  | nil => exact .intro layout.execute_unreadByte?_none (by simp) (.refl _ _)
  | cons piece rest =>
    cases piece with
    | nil => exact .intro layout.execute_unreadByte?_end (by simp) (.refl _ _)
    | cons byte piece =>
      have loaded : ring.Permits .reader (.load (.byte (start % geometry.bytes.slots))) :=
        layout.permits_unread (Nat.succ_pos (piece ++ rest.flatten).length)
      exact .intro layout.execute_unreadByte? (by simp [loaded]) (.refl _ _)

theorem obeys_takeByte : ring.Obeys .reader takeByte := by
  cases unread with
  | nil => exact .intro layout.execute_takeByte_none (by simp) (.refl _ _)
  | cons piece rest =>
    have cursor := layout.permits_cursor (List.cons_ne_nil _ _)
    cases piece with
    | nil => exact .intro layout.execute_takeByte_end (by simp) (.refl _ _)
    | cons byte piece =>
      have loaded : ring.Permits .reader (.load (.byte (start % geometry.bytes.slots))) :=
        layout.permits_unread (Nat.succ_pos (piece ++ rest.flatten).length)
      refine .intro layout.execute_takeByte (by simp [loaded, cursor]) ?_
      exact ((ChangedAt.refl _ _).setMark (by simp) _).setConsumed _

theorem obeys_takeBytes (limit : Nat) : ring.Obeys .reader (takeBytes limit) := by
  cases unread with
  | nil => exact .intro (layout.execute_takeBytes_none limit) (by simp) (.refl _ _)
  | cons piece rest =>
    have cursor := layout.permits_cursor (List.cons_ne_nil _ _)
    have inside : min limit piece.length ≤ (piece :: rest).flatten.length := by
      rw [List.flatten_cons, List.length_append]
      omega
    refine .intro (layout.execute_takeBytes limit) ?_ ?_
    · simp only [List.forall_mem_append]
      exact ⟨⟨by simp, layout.permits_unread_block inside⟩, by simp [cursor]⟩
    · exact ((ChangedAt.refl _ _).setMark (by simp) _).setConsumed _

theorem obeys_copyInto (destination : Bytes) : ring.Obeys .reader (copyInto destination) :=
  (layout.obeys_takeBytes destination.length).map fun answer =>
    (answer.1, answer.2 ++ destination.drop answer.2.length)

theorem obeys_release : ring.Obeys .reader Reader.release := by
  cases unread with
  | nil => exact .intro layout.execute_release_none (by simp) (.refl _ _)
  | cons piece rest =>
    have moved : ring.Permits .reader (.store .tail) :=
      .read trivial trivial (layout.tail_ne_head (List.cons_ne_nil _ _))
    refine .intro layout.execute_release (by simp [moved]) ?_
    exact ((ChangedAt.refl _ _).setConsumed _).setTail (by simp) _

theorem obeys_overwriteUnread (byte : UInt8) : ring.Obeys .reader (overwriteUnread byte) := by
  cases unread with
  | nil => exact .intro (layout.execute_overwriteUnread_none byte) (by simp) (.refl _ _)
  | cons piece rest =>
    cases piece with
    | nil => exact .intro (layout.execute_overwriteUnread_end byte) (by simp) (.refl _ _)
    | cons first piece =>
      have owned := layout.owns_unread (Nat.succ_pos (piece ++ rest.flatten).length)
      have stored : ring.Permits .reader (.store (.byte (start % geometry.bytes.slots))) :=
        .read (geometry.bytes.mod_lt _) owned (layout.tail_ne_head (List.cons_ne_nil _ _))
      refine .intro (layout.execute_overwriteUnread byte) (by simp [stored]) ?_
      exact (ChangedAt.refl _ _).setByte (by simp) _

theorem obeys_reading (operation : Reading) : ring.Obeys .reader operation.program := by
  cases operation with
  | takeByte => exact layout.obeys_takeByte.map Answer.byte
  | copyInto destination =>
    exact (layout.obeys_copyInto destination).map fun answer => Answer.copied answer.1 answer.2
  | release => exact layout.obeys_release.map fun _ => Answer.done
  | overwriteUnread byte => exact (layout.obeys_overwriteUnread byte).map fun _ => Answer.done

end Reading

section Turns

variable {after : PacketRing geometry} {location : Location} {longer left : List Bytes} {added : Bytes}
  {following position : Nat}

/-- A ring that got more packets is the reader's wherever it was before. -/
theorem owns_longer (later : Layout after longer added slot start) (grown : unread <+: longer)
    (owned : ring.Owns .reader location) : after.Owns .reader location := by
  obtain ⟨more, rfl⟩ := grown
  cases location with
  | head => exact owned
  | tail => trivial
  | mark other =>
    have present : unread ++ more ≠ [] := by
      rintro empty
      rw [(List.append_eq_nil_iff.mp empty).1] at layout
      apply owned.2
      apply UInt8.toNat.inj
      rw [layout.toNat_tail, layout.toNat_head, List.length_nil, Nat.add_zero]
    refine ⟨owned.1.trans ?_, later.tail_ne_head present⟩
    rw [layout.toNat_tail, later.toNat_tail]
  | byte offset =>
    obtain ⟨distance, inside, same⟩ := layout.mem_unreadOffsets.mp owned
    refine later.mem_unreadOffsets.mpr ⟨distance, ?_, same⟩
    rw [List.flatten_append, List.length_append]
    omega

/-- A ring from whose front packets or bytes went is the writer's wherever it was before. -/
theorem owns_left (later : Layout after left added following position)
    (fewer : left.length ≤ unread.length) (ahead : start ≤ position)
    (head : following + left.length = slot + unread.length)
    (stop : position + left.flatten.length = start + unread.flatten.length)
    (owned : ring.Owns .writer location) : after.Owns .writer location := by
  have same : after.head.toNat = ring.head.toNat := by
    rw [layout.toNat_head, later.toNat_head, head]
  cases location with
  | head => trivial
  | tail => exact owned
  | mark other =>
    have slots := layout.slots
    refine ⟨?_, by rw [same]; exact owned.2⟩
    rcases owned.2 with next | beyond
    · rw [next, ← same]
      exact later.next_ne_tail
    -- The second slot after the head is the tail of a full ring, which is full still if it kept its tail.
    by_cases kept : following = slot
    · rw [later.toNat_tail, kept, ← layout.toNat_tail]
      exact owned.1
    · rw [beyond, ← same, later.toNat_head, later.toNat_tail, Nat.mod_add_mod]
      exact (mod_ne (show following < following + left.length + 2 by omega) (by omega)).symm
  | byte offset =>
    intro found
    apply owned
    obtain ⟨distance, inside, rfl⟩ := later.mem_unreadOffsets.mp found
    refine layout.mem_unreadOffsets.mpr ⟨position - start + distance, by omega, ?_⟩
    rw [← Nat.add_assoc, Nat.add_sub_cancel' ahead]

end Turns

theorem obeys_operation (operation : Operation) : ring.Obeys operation.side operation.program := by
  cases operation with
  | write operation => exact layout.obeys_writing operation
  | read operation => exact layout.obeys_reading operation

/-- What an end owns is its own until it does something itself. -/
theorem owns_after (operation : Operation) {location : Location}
    (owned : ring.Owns operation.side.other location) :
    (ring.after operation.program).Owns operation.side.other location := by
  cases operation with
  | write operation =>
    obtain ⟨accesses, ran⟩ := layout.execute_writing operation
    obtain ⟨longer, added, later, grown⟩ := layout.write operation
    change (ring.after operation.program).Owns .reader location
    rw [PacketRing.after, run, ran]
    exact layout.owns_longer later grown owned
  | read operation =>
    change (ring.after operation.program).Owns .writer location
    cases unread with
    | nil =>
      obtain ⟨answer, accesses, ran⟩ := layout.execute_reading_none operation
      rw [PacketRing.after, run, ran]
      exact owned
    | cons piece rest =>
      obtain ⟨accesses, ran⟩ := layout.execute_reading operation
      obtain ⟨left, following, position, later, fewer, ahead, head, stop⟩ := layout.read operation
      rw [PacketRing.after, run, ran]
      exact layout.owns_left later fewer ahead head stop owned

theorem disciplined : ring.Disciplined where
  next_ne_tail := layout.next_ne_tail
  operation := layout.obeys_operation
  keeps operation _ := layout.owns_after operation
  tentativeLength := layout.obeys_tentativeLength
  freeBytes := layout.obeys_freeBytes
  canCommit := layout.obeys_canCommit
  packetCount := layout.obeys_packetCount
  hasPacket := layout.obeys_hasPacket
  packetLength := layout.obeys_packetLength
  remaining := layout.obeys_remaining
  unreadByte? := layout.obeys_unreadByte?
  snapshot := layout.obeys_snapshot

end Layout

/-- The two ends of a ring never get in each other's way, whatever they did before. -/
theorem Reachable.ownership {ring : PacketRing geometry} (reachable : Reachable ring) :
    ring.Disciplined := by
  obtain ⟨queue, represents⟩ := reachable.represents
  obtain ⟨slot, start, layout⟩ := represents.layout
  exact layout.disciplined

/-- One byte fills a ring of two, whose writer keeps clear of it all the same. -/
theorem ownership_of_full :
    let geometry : Geometry := ⟨⟨1, by decide, by decide⟩, ⟨2, by decide, by decide⟩⟩
    let ring := { fresh geometry with taken := true }
    let full := ring.after (Operation.write (.push 17)).program
    let committed := full.after (Operation.write .commit).program
    (committed.answer Writer.freeBytes, committed.answer Reader.remaining) = (0, 1) ∧
      committed.Disciplined := by
  intro geometry ring full committed
  have reachable : Reachable ring := .fresh rfl
  exact ⟨by decide +kernel, Reachable.ownership ((reachable.after _).after _)⟩

end FramedLine.PacketRing
