import FramedLine.Proofs.PacketRing.Operation

/-!
Many bytes at once. An end of a packet ring that moves a block leaves the memory that it would leave if it
moved the bytes one after the other, wherever the array ends; but a block that does not fit is refused as
a whole.
-/

namespace FramedLine.PacketRing

open Program

variable {geometry : Geometry} {α : Type}

/-- Runs programs one after the other. A fault of one of them is a fault of all. -/
def Program.each : List (Program geometry α) → Program geometry (List α)
  | [] => return []
  | program :: rest => do
    let answer ← program
    let later ← each rest
    return answer :: later

/-- A program ends on a ring, with an answer and the ring after it. -/
def Completes (program : Program geometry α) (ring : PacketRing geometry) (answer : α)
    (after : PacketRing geometry) : Prop :=
  ∃ accesses, program.execute ring = .ok ⟨answer, after, accesses⟩

namespace Completes

variable {program : Program geometry α} {programs others : List (Program geometry α)}
  {ring middle after : PacketRing geometry} {answer : α} {answers later : List α}

theorem cons (first : Completes program ring answer middle)
    (rest : Completes (each programs) middle answers after) :
    Completes (each (program :: programs)) ring (answer :: answers) after := by
  obtain ⟨before, ran⟩ := first
  obtain ⟨behind, continued⟩ := rest
  refine ⟨before ++ behind, ?_⟩
  simp [each, execute_bind, ran, continued, Except.map, Outcome.precededBy]

theorem nil (ring : PacketRing geometry) :
    Completes (each ([] : List (Program geometry α))) ring [] ring :=
  ⟨[], rfl⟩

/-- The first of several programs that come to an end does. -/
theorem of_cons (completes : Completes (each (program :: programs)) ring answers after) :
    ∃ answer middle later, Completes program ring answer middle ∧
      Completes (each programs) middle later after ∧ answers = answer :: later := by
  obtain ⟨accesses, ran⟩ := completes
  rw [each, execute_bind] at ran
  cases first : program.execute ring with
  | error fault => simp [first] at ran
  | ok before =>
    cases rest : (each programs).execute before.ring with
    | error fault => simp [first, execute_bind, rest, Except.map] at ran
    | ok behind =>
      simp only [first, execute_bind, rest, execute_pure, Except.map, Outcome.precededBy,
        Except.ok.injEq, Outcome.mk.injEq] at ran
      obtain ⟨rfl, rfl, -⟩ := ran
      exact ⟨_, _, _, ⟨_, first⟩, ⟨_, rest⟩, rfl⟩

theorem append (first : Completes (each programs) ring answers middle)
    (second : Completes (each others) middle later after) :
    Completes (each (programs ++ others)) ring (answers ++ later) after := by
  induction programs generalizing ring answers with
  | nil =>
    obtain ⟨accesses, ran⟩ := first
    cases ran
    exact second
  | cons program rest inductionHypothesis =>
    obtain ⟨answer, between, behind, ran, continued, rfl⟩ := first.of_cons
    exact ran.cons (inductionHypothesis continued)

/-- Programs that leave the ring alone do so one after the other. -/
theorem replicate (still : ∀ program ∈ programs, Completes program ring answer ring) :
    Completes (each programs) ring (List.replicate programs.length answer) ring := by
  induction programs with
  | nil => exact .nil ring
  | cons program rest inductionHypothesis =>
    obtain ⟨first, others⟩ := List.forall_mem_cons.mp still
    exact first.cons (inductionHypothesis others)

theorem run_eq [Inhabited α] (completes : Completes program ring answer after) :
    ring.run program = (answer, after) := by
  obtain ⟨accesses, ran⟩ := completes
  simp only [run, ran]

/-- What a program answers without a change of the ring is its answer. -/
theorem observed [Inhabited α] (completes : Completes program ring answer ring) :
    Completes program ring (ring.answer program) ring := by
  rw [PacketRing.answer, completes.run_eq]
  exact completes

/-- The programs of a run that come to an end do so one by one. -/
theorem runEach_eq [Inhabited α] (completes : Completes (each programs) ring answers after) :
    ring.runEach programs = (answers, after) := by
  induction programs generalizing ring answers with
  | nil =>
    obtain ⟨accesses, ran⟩ := completes
    cases ran
    rfl
  | cons program rest inductionHypothesis =>
    obtain ⟨answer, between, behind, ran, continued, rfl⟩ := completes.of_cons
    rw [runEach_cons, ran.run_eq, inductionHypothesis continued]

end Completes

section Frame

variable (ring : PacketRing geometry) (slot position other : Nat)

/-- A mark that moves twice is where it moves at last. -/
theorem setMark_setMark :
    (ring.setMark slot position).setMark slot other = ring.setMark slot other := by
  simp only [setMark, Vector.set_set]

theorem setMark_setConsumed (consumed : Nat) :
    (ring.setConsumed consumed).setMark slot position =
      (ring.setMark slot position).setConsumed consumed := rfl

variable {ring slot position}

/-- A mark that is put where it is does not move. -/
theorem setMark_of_markAt (found : ring.markAt slot = geometry.bytes.index position) :
    ring.setMark slot position = ring := by
  have same : ring.marks[slot % geometry.marks.slots] =
      (geometry.bytes.index position).toUInt8 := by
    rw [← found, markAt, UInt8.toUInt8_toUInt64]
  simp only [setMark, ← same, Vector.set_getElem_self]

theorem setBytes_setMark (data : Bytes) :
    (ring.setMark slot position).setBytes other data = (ring.setBytes other data).setMark slot position := by
  induction data generalizing ring other with
  | nil => rfl
  | cons byte rest inductionHypothesis =>
    have first : (ring.setMark slot position).setByte other byte =
        (ring.setByte other byte).setMark slot position := rfl
    rw [setBytes, setBytes, first, inductionHypothesis]

end Frame

namespace Layout

variable {ring : PacketRing geometry} {unread rest : List Bytes} {piece tentative : Bytes}
  {slot start : Nat}

/-- Bytes that fit one after the other go where the block of them goes. -/
theorem completes_pushes (layout : Layout ring unread tentative slot start) (data : Bytes)
    (fits : unread.flatten.length + tentative.length + data.length < geometry.bytes.slots) :
    Completes (each (data.map Writer.push)) ring (List.replicate data.length true)
      ((ring.setBytes (start + (unread.flatten.length + tentative.length)) data).setMark
        (slot + unread.length + 1)
        (start + (unread.flatten.length + tentative.length) + data.length)) := by
  induction data generalizing ring tentative with
  | nil =>
    have still := setMark_of_markAt layout.stop
    exact still.symm ▸ Completes.nil ring
  | cons byte rest inductionHypothesis =>
    rw [List.length_cons] at fits
    have single : unread.flatten.length + tentative.length + 1 < geometry.bytes.slots := by omega
    have pushed := layout.execute_push byte
    rw [if_pos single] at pushed
    have longer := layout.extend [byte] single
    have later := inductionHypothesis longer (by
      rw [List.length_append, List.length_singleton]
      omega)
    have stop : start + (unread.flatten.length + (tentative ++ [byte]).length) =
        start + (unread.flatten.length + tentative.length) + 1 := by
      rw [List.length_append, List.length_singleton]
      omega
    rw [stop, List.length_singleton, setBytes_setMark, setMark_setMark, Nat.add_assoc _ 1,
      Nat.add_comm 1] at later
    exact Completes.cons ⟨_, pushed⟩ later

/-- A full ring refuses byte after byte. -/
theorem completes_pushes_full (layout : Layout ring unread tentative slot start)
    (full : unread.flatten.length + tentative.length + 1 = geometry.bytes.slots) (data : Bytes) :
    Completes (each (data.map Writer.push)) ring (List.replicate data.length false) ring := by
  have refused : ∀ program ∈ data.map Writer.push, Completes program ring false ring := by
    intro program found
    obtain ⟨byte, -, rfl⟩ := List.mem_map.mp found
    have pushed := layout.execute_push byte
    rw [if_neg (by omega)] at pushed
    exact ⟨_, pushed⟩
  have completed := Completes.replicate refused
  rw [List.length_map] at completed
  exact completed

/-- Bytes are accepted one after the other until the ring is full. -/
theorem completes_pushes_beyond (layout : Layout ring unread tentative slot start) {data : Bytes}
    {free : Nat} (whole : unread.flatten.length + tentative.length + free + 1 = geometry.bytes.slots)
    (longer : free < data.length) :
    Completes (each (data.map Writer.push)) ring
      (List.replicate free true ++ List.replicate (data.length - free) false)
      ((ring.setBytes (start + (unread.flatten.length + tentative.length)) (data.take free)).setMark
        (slot + unread.length + 1)
        (start + (unread.flatten.length + tentative.length) + free)) := by
  have taken : (data.take free).length = free := List.length_take_of_le (Nat.le_of_lt longer)
  have fits : unread.flatten.length + tentative.length + (data.take free).length <
      geometry.bytes.slots := by omega
  have filled := layout.completes_pushes (data.take free) fits
  have refused := (layout.extend (data.take free) fits).completes_pushes_full
    (by rw [List.length_append]; omega) (data.drop free)
  have completed := filled.append refused
  rw [← List.map_append, List.take_append_drop, List.length_drop, taken] at completed
  exact completed

/-- Bytes that are taken one after the other are the block of them. -/
theorem completes_takes (layout : Layout ring (piece :: rest) tentative slot start) {count : Nat}
    (within : count ≤ piece.length) :
    Completes (each (List.replicate count Reader.takeByte)) ring (piece.take count)
      ((ring.setMark slot (start + count)).setConsumed (ring.consumed + count)) := by
  induction count generalizing ring piece start with
  | zero =>
    have still := setMark_of_markAt layout.cursor
    exact still.symm ▸ Completes.nil ring
  | succ count inductionHypothesis =>
    cases piece with
    | nil => exact absurd within (Nat.not_succ_le_zero count)
    | cons byte piece =>
      have taken := layout.take (Nat.succ_le_succ (Nat.zero_le piece.length))
      have later := inductionHypothesis (taken.setConsumed (ring.consumed + 1))
        (Nat.le_of_succ_le_succ within)
      rw [setMark_setConsumed, setMark_setMark, Nat.add_assoc, Nat.add_comm 1] at later
      change Completes _ _ _ ((ring.setMark slot (start + (count + 1))).setConsumed
        (ring.consumed + 1 + count)) at later
      rw [Nat.add_assoc, Nat.add_comm 1] at later
      exact Completes.cons ⟨_, layout.execute_takeByte⟩ later

/-- A copy fills the front of the destination with the block. -/
theorem completes_copyInto (layout : Layout ring (piece :: rest) tentative slot start)
    (destination : Bytes) :
    Completes (Reader.copyInto destination) ring
      (ring.consumed + piece.length, piece.take (min destination.length piece.length) ++
        destination.drop (min destination.length piece.length))
      ((ring.setMark slot (start + min destination.length piece.length)).setConsumed
        (ring.consumed + min destination.length piece.length)) := by
  have length : (piece.take destination.length).length = min destination.length piece.length :=
    List.length_take
  have copied := execute_map ring (layout.execute_takeBytes destination.length) fun answer =>
    (answer.1, answer.2 ++ destination.drop answer.2.length)
  rw [length, List.take_eq_take_min] at copied
  exact ⟨_, copied⟩

end Layout

/-- The writer puts blocks of bytes like single bytes, but all or nothing. -/
structure WritesBlocks (ring : PacketRing geometry) : Prop where
  freeBytes : Completes Writer.freeBytes ring (ring.answer Writer.freeBytes) ring
  accepts : ∀ data, data.length ≤ ring.answer Writer.freeBytes →
    ∃ after, Completes (Writer.pushAll data) ring true after ∧
      Completes (each (data.map Writer.push)) ring (List.replicate data.length true) after ∧
      Writer.pushEach ring data = (List.replicate data.length true, after)
  /-- Where a block is refused, single bytes are accepted until the ring is full. -/
  refuses : ∀ data, ring.answer Writer.freeBytes < data.length →
    Completes (Writer.pushAll data) ring false ring ∧
    ∃ after, Completes (Writer.pushAll (data.take (ring.answer Writer.freeBytes))) ring true after ∧
      Completes (each (data.map Writer.push)) ring
        (List.replicate (ring.answer Writer.freeBytes) true ++
          List.replicate (data.length - ring.answer Writer.freeBytes) false) after ∧
      Writer.pushEach ring data =
        (List.replicate (ring.answer Writer.freeBytes) true ++
          List.replicate (data.length - ring.answer Writer.freeBytes) false, after)

/-- The reader takes blocks of bytes like single bytes, as many as there are and the destination holds. -/
structure ReadsBlocks (ring : PacketRing geometry) : Prop where
  remaining : Completes Reader.remaining ring (ring.answer Reader.remaining) ring
  packetLength : Completes Reader.packetLength ring (ring.answer Reader.packetLength) ring
  copies : ∀ destination count, count = min destination.length (ring.answer Reader.remaining) →
    ∃ data after,
      Completes (Reader.copyInto destination) ring
        (ring.answer Reader.packetLength, data ++ destination.drop count) after ∧
      Completes (each (List.replicate count Reader.takeByte)) ring data after ∧
      Reader.takeEach ring count = (data, after)

namespace Layout

variable {ring : PacketRing geometry} {unread rest : List Bytes} {piece tentative : Bytes}
  {slot start : Nat}

theorem writesBlocks (layout : Layout ring unread tentative slot start) : ring.WritesBlocks := by
  have room := layout.room
  have free : ring.answer Writer.freeBytes =
      geometry.bytes.slots - 1 - (unread.flatten.length + tentative.length) := by
    simp only [answer, run, layout.execute_freeBytes]
  constructor
  · exact Completes.observed ⟨_, layout.execute_freeBytes⟩
  · intro data fits
    have pushed := layout.execute_pushAll data
    rw [if_pos (by omega)] at pushed
    have single := layout.completes_pushes data (by omega)
    exact ⟨_, ⟨_, pushed⟩, single, single.runEach_eq⟩
  · intro data longer
    have refused := layout.execute_pushAll data
    rw [if_neg (by omega)] at refused
    have taken : (data.take (ring.answer Writer.freeBytes)).length = ring.answer Writer.freeBytes :=
      List.length_take_of_le (Nat.le_of_lt longer)
    have pushed := layout.execute_pushAll (data.take (ring.answer Writer.freeBytes))
    rw [taken, if_pos (by omega)] at pushed
    have single := layout.completes_pushes_beyond (by omega) longer
    exact ⟨⟨_, refused⟩, _, ⟨_, pushed⟩, single, single.runEach_eq⟩

theorem readsBlocks (layout : Layout ring (piece :: rest) tentative slot start) : ring.ReadsBlocks := by
  have left : ring.answer Reader.remaining = piece.length := by
    simp only [answer, run, layout.execute_remaining]
  have total : ring.answer Reader.packetLength = ring.consumed + piece.length := by
    simp only [answer, run, layout.execute_packetLength]
  constructor
  · exact Completes.observed ⟨_, layout.execute_remaining⟩
  · exact Completes.observed ⟨_, layout.execute_packetLength⟩
  · rintro destination count rfl
    have single := layout.completes_takes (Nat.min_le_right destination.length piece.length)
    rw [left, total]
    exact ⟨_, _, layout.completes_copyInto destination, single, single.runEach_eq⟩

/-- Without a packet there is no byte to take, one by one or at once. -/
theorem readsBlocks_none (layout : Layout ring [] tentative slot start) : ring.ReadsBlocks := by
  have left : ring.answer Reader.remaining = 0 := by
    simp only [answer, run, layout.execute_remaining_none]
  have total : ring.answer Reader.packetLength = 0 := by
    simp only [answer, run, layout.execute_packetLength_none]
  constructor
  · exact Completes.observed ⟨_, layout.execute_remaining_none⟩
  · exact Completes.observed ⟨_, layout.execute_packetLength_none⟩
  · rintro destination count rfl
    have copied := execute_map ring (layout.execute_takeBytes_none destination.length) fun answer =>
      (answer.1, answer.2 ++ destination.drop answer.2.length)
    rw [left, total, Nat.min_zero]
    exact ⟨_, _, ⟨_, copied⟩, .nil ring, rfl⟩

end Layout

/-- In each state that a ring can come to, blocks of bytes are moved as if their bytes were moved one after
the other. -/
theorem Reachable.blockwise {ring : PacketRing geometry} (reachable : Reachable ring) :
    ring.WritesBlocks ∧ ring.ReadsBlocks := by
  obtain ⟨queue, represents⟩ := reachable.represents
  obtain ⟨slot, start, layout⟩ := represents.layout
  refine ⟨layout.writesBlocks, ?_⟩
  rcases represents.front_cases with ⟨-, _, _, empty⟩ | ⟨_, _, -, _, _, present⟩
  · exact empty.readsBlocks_none
  · exact present.readsBlocks

/-- In a ring of eight bytes, a packet of three lies around the end of the array and the four bytes behind it
are free. -/
theorem blockwise_around_end :
    let geometry : Geometry := ⟨⟨3, by decide, by decide⟩, ⟨2, by decide, by decide⟩⟩
    let ring := { fresh geometry with taken := true }
    let first := (ring.after (Operation.write (.pushAll [1, 2, 3, 4, 5, 6])).program).after
      (Operation.write .commit).program
    let read := (first.after (Operation.read (.copyInto [0, 0, 0, 0])).program).after
      (Operation.write (.pushAll [7, 8, 9])).program
    let second := (read.after (Operation.write .commit).program).after
      (Operation.read .release).program
    (second.answer Writer.freeBytes, second.answer Reader.remaining) = (4, 3) ∧
      (second.bytes[7], second.bytes[0]) = (8, 9) ∧ second.WritesBlocks ∧ second.ReadsBlocks := by
  intro geometry ring first read second
  have reachable : Reachable ring := .fresh rfl
  exact ⟨by decide +kernel, by decide +kernel,
    Reachable.blockwise ((((((reachable.after _).after _).after _).after _).after _).after _)⟩

end FramedLine.PacketRing
