import FramedLine.Proofs.Outbound.Admission

/-!
A packet that is built in pieces is the packet that is sent at once. The builder looks for room at each
piece and folds the checksum as it goes; the sender looks once and divides the whole payload.
-/

namespace FramedLine

open PacketRing

variable {geometry : Geometry}

namespace Transmission

variable {transmission current : Transmission} {payload : Bytes}

section Building

variable (geometry) (transmission)

/-- Whether there is room for a packet, though it may be empty. -/
def Fits (payload : Bytes) : Prop :=
  payload.length + Checksum.width ≤ transmission.abandon.queue.freeBytes geometry ∧
    transmission.queue.canCommit geometry = true

/-- Builds a packet in pieces. -/
def build (pieces : List Bytes) : Bool × Transmission :=
  (pieces.foldl (append geometry) (transmission.beginPacket geometry)).endPacket

/-- How far a packet that is built in pieces has come: it is open, or something did not fit. -/
inductive Filling (payload : Bytes) : Transmission → Prop where
  /-- A packet without a byte is open even where there is no room for its checksum. -/
  | opened (slot : transmission.queue.canCommit geometry = true)
    (fits : payload ≠ [] → transmission.Fits geometry payload) :
    Filling payload { transmission.abandon with
      queue := ⟨transmission.queue.packets, transmission.queue.offset, payload⟩
      building := true }
  | dropped (full : ¬transmission.Fits geometry payload) : Filling payload transmission.abandon

end Building

/-- A longer payload does not fit better. -/
theorem Fits.of_append {more : Bytes} (fits : transmission.Fits geometry (payload ++ more)) :
    transmission.Fits geometry payload := by
  obtain ⟨room, slot⟩ := fits
  rw [List.length_append] at room
  exact ⟨by omega, slot⟩

theorem filling_beginPacket (geometry : Geometry) (transmission : Transmission) :
    transmission.Filling geometry [] (transmission.beginPacket geometry) := by
  rw [beginPacket]
  cases slot : transmission.queue.canCommit geometry with
  | false => exact .dropped fun fits => Bool.false_ne_true (slot.symm.trans fits.2)
  | true => exact .opened slot (absurd rfl)

/-- A piece is appended if the packet fits with it, and drops the packet otherwise. -/
theorem Filling.append (filling : transmission.Filling geometry payload current) (piece : Bytes) :
    transmission.Filling geometry (payload ++ piece) (current.append geometry piece) := by
  cases filling with
  | opened slot fits =>
    have free : PacketQueue.freeBytes geometry
        ⟨transmission.queue.packets, transmission.queue.offset, payload⟩ =
          transmission.abandon.queue.freeBytes geometry - payload.length :=
      PacketQueue.freeBytes_append geometry transmission.abandon.queue payload
    have room : piece.length + Checksum.width ≤ PacketQueue.freeBytes geometry
        ⟨transmission.queue.packets, transmission.queue.offset, payload⟩ ↔
          transmission.Fits geometry (payload ++ piece) := by
      rw [free, Fits, List.length_append, Checksum.width, and_iff_left slot]
      omega
    rw [Transmission.append, if_neg (by simp)]
    by_cases whole : transmission.Fits geometry (payload ++ piece)
    · rw [if_pos (room.mpr whole)]
      exact .opened slot fun _ => whole
    · rw [if_neg (mt room.mp whole)]
      exact .dropped whole
  | dropped full => exact .dropped fun whole => full whole.of_append

theorem Filling.foldl (filling : transmission.Filling geometry payload current)
    (pieces : List Bytes) : transmission.Filling geometry (payload ++ pieces.flatten)
      (pieces.foldl (Transmission.append geometry) current) := by
  induction pieces generalizing payload current with
  | nil =>
    rw [List.flatten_nil, List.append_nil]
    exact filling
  | cons piece rest inductionHypothesis =>
    rw [List.flatten_cons, ← List.append_assoc]
    exact inductionHypothesis (filling.append piece)

theorem admits_iff (transmission : Transmission) (payload : Bytes) :
    transmission.abandon.admits geometry payload = true ↔
      payload ≠ [] ∧ transmission.Fits geometry payload := by
  have slot : transmission.abandon.queue.canCommit geometry = transmission.queue.canCommit geometry := rfl
  simp [admits, Fits, slot, and_assoc]

/-- A packet that was built is closed as it would have been sent. -/
theorem Filling.endPacket (filling : transmission.Filling geometry payload current) :
    current.endPacket = transmission.send geometry payload := by
  rw [send]
  cases filling with
  | opened slot fits =>
    by_cases empty : payload = []
    · rw [if_neg (fun admitted => ((transmission.admits_iff payload).mp admitted).1 empty), empty]
      rfl
    · rw [if_pos ((transmission.admits_iff payload).mpr ⟨empty, fits empty⟩),
        Transmission.endPacket, if_pos (by simpa using empty)]
      rfl
  | dropped full =>
    rw [if_neg (fun admitted => full ((transmission.admits_iff payload).mp admitted).2)]
    rfl

/-- Building a packet in pieces is sending it. -/
theorem build_eq (geometry : Geometry) (transmission : Transmission) (pieces : List Bytes) :
    transmission.build geometry pieces = transmission.send geometry pieces.flatten :=
  ((filling_beginPacket geometry transmission).foldl pieces).endPacket

end Transmission

namespace Outbound

/-- A piece of a packet. -/
inductive Piece where
  | byte (value : UInt8)
  | word (value : UInt16)
  | slice (data : Bytes)
  deriving DecidableEq

namespace Piece

/-- The bytes of a piece; a word has its more significant byte first. -/
def bytes : Piece → Bytes
  | byte value => [value]
  | word value => [UInt8.ofNat (value.toNat / 256), UInt8.ofNat (value.toNat % 256)]
  | slice data => data

/-- The call that appends a piece. -/
def call : Piece → Call
  | byte value => .appendByte value
  | word value => .appendWord value
  | slice data => .append data

theorem bytes_word (value : UInt16) :
    bytes (word value) = [(value >>> 8).toUInt8, value.toUInt8] := by
  have high : UInt8.ofNat (value.toNat / 256) = (value >>> 8).toUInt8 := by
    apply UInt8.toNat.inj
    simp [Nat.shiftRight_eq_div_pow]
  have low : UInt8.ofNat (value.toNat % 256) = value.toUInt8 := by
    apply UInt8.toNat.inj
    simp
  rw [bytes, high, low]

end Piece

variable {outbound : Outbound geometry} {transmission : Transmission}

def add (outbound : Outbound geometry) (piece : Piece) : Outbound geometry :=
  (piece.call.perform outbound).2

/-- Builds a packet in pieces: begins it, appends the pieces in order and closes it. -/
def build (outbound : Outbound geometry) (pieces : List Piece) : Bool × Outbound geometry :=
  (pieces.foldl add outbound.beginPacket).endPacket

/-- Nobody can tell two senders apart that have no packet open. -/
structure Alike (left right : Outbound geometry) : Prop where
  contents : left.ring.contents = right.ring.contents
  consumed : left.ring.consumed = right.ring.consumed
  snapshot : left.ring.answer snapshot = right.ring.answer snapshot
  waiting : left.waiting = right.waiting
  freeBytes : left.ring.answer Writer.freeBytes = right.ring.answer Writer.freeBytes
  length : left.ring.answer Writer.tentativeLength = 0 ∧ right.ring.answer Writer.tentativeLength = 0
  building : left.building = false ∧ right.building = false
  opened : left.opened = right.opened
  armed : left.armed = right.armed

theorem Sound.add (sound : Sound outbound transmission) (piece : Piece) :
    Sound (outbound.add piece) (transmission.append geometry piece.bytes) := by
  cases piece with
  | byte value => exact sound.append [value]
  | word value =>
    rw [Piece.bytes_word]
    exact sound.append _
  | slice data => exact sound.append data

/-- Appending pieces moves neither the tail nor the notification. -/
theorem Sound.foldl_add (sound : Sound outbound transmission) (pieces : List Piece) :
    Sound (pieces.foldl Outbound.add outbound)
        ((pieces.map Piece.bytes).foldl (Transmission.append geometry) transmission) ∧
      (pieces.foldl Outbound.add outbound).ring.tail = outbound.ring.tail ∧
      (pieces.foldl Outbound.add outbound).armed = outbound.armed := by
  induction pieces generalizing outbound transmission with
  | nil => exact ⟨sound, rfl, rfl⟩
  | cons piece rest inductionHypothesis =>
    obtain ⟨behind, tail, armed⟩ := inductionHypothesis (sound.add piece)
    have refused : (piece.call.perform outbound).1 = false := by cases piece <;> rfl
    have same := outbound.armed_perform piece.call
    rw [refused, Bool.or_false] at same
    exact ⟨behind, tail.trans (sound.tail_perform piece.call), armed.trans same⟩

/-- A packet that is built in pieces goes the way of one that is sent, up to the memory of the ring. -/
theorem Sound.build (sound : Sound outbound transmission) (pieces : List Piece) :
    (outbound.build pieces).1 = (transmission.send geometry (pieces.flatMap Piece.bytes)).1 ∧
      Sound (outbound.build pieces).2
        (transmission.send geometry (pieces.flatMap Piece.bytes)).2 ∧
      (outbound.build pieces).2.ring.tail = outbound.ring.tail ∧
      (outbound.build pieces).2.armed = (outbound.armed || (outbound.build pieces).1) := by
  obtain ⟨filled, tail, armed⟩ := sound.beginPacket.foldl_add pieces
  have begun := outbound.armed_perform .beginPacket
  have sent := transmission.build_eq geometry (pieces.map Piece.bytes)
  obtain ⟨same, behind⟩ := filled.endPacket
  rw [← List.flatMap_def] at sent
  rw [Transmission.build] at sent
  rw [sent] at same behind
  refine ⟨same, behind, ?_, ?_⟩
  · exact (filled.tail_perform .endPacket).trans (tail.trans (sound.tail_perform .beginPacket))
  · rw [Outbound.build, armed_endPacket, armed]
    exact congrArg (· || _) (begun.trans (Bool.or_false _))

theorem Sound.alike {left right : Outbound geometry} (first : Sound left transmission)
    (second : Sound right transmission) (closed : transmission.building = false)
    (tail : left.ring.tail = right.ring.tail) (armed : left.armed = right.armed) : left.Alike right where
  contents := first.represents.contents_eq.trans second.represents.contents_eq.symm
  consumed := first.represents.consumed.trans second.represents.consumed.symm
  snapshot := second.represents.snapshot_eq first.represents tail
  waiting := first.waiting_eq.trans second.waiting_eq.symm
  freeBytes := ((observes_freeBytes geometry).answer_eq first.represents).trans
    ((observes_freeBytes geometry).answer_eq second.represents).symm
  length := ⟨(first.cleared (first.building.trans closed)).length,
    (second.cleared (second.building.trans closed)).length⟩
  building := ⟨first.building.trans closed, second.building.trans closed⟩
  opened := first.opened.trans second.opened.symm
  armed := armed

/-- Whatever pieces a packet is built of, it comes to the same as sending it at once, from each state that
a sender can come to. -/
theorem Reachable.build_eq_send (reachable : outbound.Reachable) (pieces : List Piece) :
    (outbound.build pieces).1 = (outbound.send (pieces.flatMap Piece.bytes)).1 ∧
      (outbound.build pieces).2.Alike (outbound.send (pieces.flatMap Piece.bytes)).2 := by
  obtain ⟨transmission, sound⟩ := reachable.sound
  obtain ⟨built, behind, tail, armed⟩ := sound.build pieces
  obtain ⟨sent, after⟩ := sound.send (pieces.flatMap Piece.bytes)
  have same := built.trans sent.symm
  refine ⟨same, behind.alike after ?_ ?_ ?_⟩
  · exact after.building.symm.trans (sound.building_send _)
  · exact tail.trans (sound.tail_perform (.send _)).symm
  · rw [armed, armed_send, same]

/-- The pieces of a packet fill a ring of eight bytes to the last one, while another packet is open. -/
theorem build_eq_send_of_exact :
    let geometry : Geometry := ⟨⟨3, by decide, by decide⟩, ⟨2, by decide, by decide⟩⟩
    let outbound := attach { PacketRing.fresh geometry with taken := true }
    let filled := (Call.append [1, 2, 3]).perform (Call.beginPacket.perform outbound).2
    let pieces : List Piece := [.slice [], .word 0x0102, .byte 3, .slice [4, 5], .slice []]
    let built := filled.2.build pieces
    pieces.flatMap Piece.bytes = [1, 2, 3, 4, 5] ∧
      built.1 = true ∧ built.2.ring.answer Writer.freeBytes = 0 ∧
      built.1 = (filled.2.send (pieces.flatMap Piece.bytes)).1 ∧
      built.2.Alike (filled.2.send (pieces.flatMap Piece.bytes)).2 := by
  intro geometry outbound filled pieces built
  have reachable : outbound.Reachable := .attach rfl
  exact ⟨by decide, by decide +kernel, by decide +kernel,
    Reachable.build_eq_send ((reachable.call _).call _) pieces⟩

end Outbound

end FramedLine
