import FramedLine.Proofs.PacketRing.Operation

/-!
The order in which the two ends get their turns. On a layout an operation changes the memory in a way
that the positions of its own end tell, and the changes of the two ends can be exchanged as long as a
packet waits.
-/

namespace FramedLine.PacketRing

open Program

variable {geometry : Geometry}

namespace Writing

/-- Whether an operation is carried out, with the packets, the unread bytes and the bytes of the packet in
progress that the ring holds. -/
def accepts (geometry : Geometry) (packets occupied tentative : Nat) : Writing → Bool
  | .push _ => occupied + tentative + 1 < geometry.bytes.slots
  | .pushAll data => occupied + tentative + data.length < geometry.bytes.slots
  | .trim length => length ≤ tentative
  | .commit => packets < geometry.marks.slots - 2
  | .discard => true

def reply (accepted : Bool) : Writing → Answer
  | .discard => .done
  | _ => .accepted accepted

/-- What an operation does to the memory, when the newest packet ends at the slot `head` and the position
`begin` and the packet in progress at the position `stop`. -/
def change (accepted : Bool) (head begin stop : Nat) (operation : Writing)
    (ring : PacketRing geometry) : PacketRing geometry :=
  match operation, accepted with
  | .push byte, true => (ring.setBytes stop [byte]).setMark (head + 1) (stop + 1)
  | .pushAll data, true => (ring.setBytes stop data).setMark (head + 1) (stop + data.length)
  | .trim length, true => ring.setMark (head + 1) (stop - length)
  | .commit, true => (ring.setMark (head + 2) stop).setHead (head + 1)
  | .commit, false => ring.setMark (head + 1) begin
  | .discard, _ => ring.setMark (head + 1) begin
  | .push _, false => ring
  | .pushAll _, false => ring
  | .trim _, false => ring

/-- An operation that finds room finds it with more room too. -/
theorem accepts_of_le {operation : Writing} {packets occupied tentative fewer less : Nat}
    (fewerPackets : fewer ≤ packets) (lessOccupied : less ≤ occupied)
    (accepted : operation.accepts geometry packets occupied tentative = true) :
    operation.accepts geometry fewer less tentative = true := by
  cases operation <;> simp only [accepts, decide_eq_true_eq] at accepted ⊢ <;> omega

/-- The answer tells whether an operation was carried out, if it may be refused at all. -/
theorem accepts_eq_of_reply_eq {operation : Writing}
    {packets occupied tentative otherPackets otherOccupied otherTentative : Nat}
    (same : operation.reply (operation.accepts geometry packets occupied tentative) =
      operation.reply (operation.accepts geometry otherPackets otherOccupied otherTentative)) :
    operation.accepts geometry packets occupied tentative =
      operation.accepts geometry otherPackets otherOccupied otherTentative := by
  cases operation with
  | discard => rfl
  | _ => exact Answer.accepted.inj same

theorem accepts_of_reply {operation : Writing} {accepted : Bool}
    (granted : operation.reply accepted = .accepted true) :
    accepted = true ∧ operation.reply true = .accepted true := by
  cases operation with
  | discard => cases granted
  | _ => exact ⟨Answer.accepted.inj granted, rfl⟩

end Writing

namespace Reading

def reply (consumed : Nat) (piece : Bytes) : Reading → Answer
  | .takeByte => .byte (piece.headD 0)
  | .copyInto destination =>
    let data := piece.take destination.length
    .copied (consumed + piece.length) (data ++ destination.drop data.length)
  | .release => .done
  | .overwriteUnread _ => .done

/-- What an operation does to the memory, when the oldest packet is at the slot `slot` and `piece` is left
of it from the position `start` on. -/
def change (slot start : Nat) (piece : Bytes) (operation : Reading) (ring : PacketRing geometry) :
    PacketRing geometry :=
  match operation, piece with
  | .takeByte, [] => ring
  | .takeByte, _ :: _ => (ring.setMark slot (start + 1)).setConsumed (ring.consumed + 1)
  | .copyInto destination, piece =>
    (ring.setMark slot (start + min destination.length piece.length)).setConsumed
      (ring.consumed + min destination.length piece.length)
  | .release, _ => (ring.setConsumed 0).setTail (slot + 1)
  | .overwriteUnread _, [] => ring
  | .overwriteUnread byte, _ :: _ => ring.setByte start byte

end Reading

/-- A change of the memory that has nothing to do with what the reader changes, when the oldest packet is
at the slot `slot` and `piece` is left of it from the position `start` on. -/
structure Spares (change : PacketRing geometry → PacketRing geometry) (slot start : Nat)
    (piece : Bytes) : Prop where
  consumed (ring : PacketRing geometry) : (change ring).consumed = ring.consumed
  setConsumed (ring : PacketRing geometry) (count : Nat) :
    change (ring.setConsumed count) = (change ring).setConsumed count
  setTail (ring : PacketRing geometry) (other : Nat) :
    change (ring.setTail other) = (change ring).setTail other
  setMark (ring : PacketRing geometry) (position : Nat) :
    change (ring.setMark slot position) = (change ring).setMark slot position
  setByte (ring : PacketRing geometry) (byte : UInt8) (left : piece ≠ []) :
    change (ring.setByte start byte) = (change ring).setByte start byte

namespace Spares

variable {change first second : PacketRing geometry → PacketRing geometry} {slot start : Nat}
  {piece : Bytes}

theorem id : Spares (fun ring : PacketRing geometry => ring) slot start piece where
  consumed _ := rfl
  setConsumed _ _ := rfl
  setTail _ _ := rfl
  setMark _ _ := rfl
  setByte _ _ _ := rfl

theorem comp (after : Spares second slot start piece) (before : Spares first slot start piece) :
    Spares (fun ring => second (first ring)) slot start piece where
  consumed ring := by rw [after.consumed, before.consumed]
  setConsumed ring count := by rw [before.setConsumed, after.setConsumed]
  setTail ring other := by rw [before.setTail, after.setTail]
  setMark ring position := by rw [before.setMark, after.setMark]
  setByte ring byte left := by rw [before.setByte _ _ left, after.setByte _ _ left]

theorem ofSetHead (other : Nat) :
    Spares (fun ring : PacketRing geometry => ring.setHead other) slot start piece where
  consumed _ := rfl
  setConsumed _ _ := rfl
  setTail _ _ := rfl
  setMark _ _ := rfl
  setByte _ _ _ := rfl

/-- The marks of other slots are the writer's. -/
theorem ofSetMark {other : Nat} (after : slot < other) (near : other < slot + geometry.marks.slots)
    (position : Nat) :
    Spares (fun ring : PacketRing geometry => ring.setMark other position) slot start piece where
  consumed _ := rfl
  setConsumed _ _ := rfl
  setTail _ _ := rfl
  setMark ring reached := by
    have apart := mod_ne after near
    simp only [PacketRing.setMark, Vector.set_comm _ _ apart]
  setByte _ _ _ := rfl

/-- The bytes behind the oldest packet are the writer's. -/
theorem ofSetByte {position : Nat} (after : piece ≠ [] → start < position)
    (near : position < start + geometry.bytes.slots) (value : UInt8) :
    Spares (fun ring : PacketRing geometry => ring.setByte position value) slot start piece where
  consumed _ := rfl
  setConsumed _ _ := rfl
  setTail _ _ := rfl
  setMark _ _ := rfl
  setByte ring byte left := by
    have apart := mod_ne (after left) near
    simp only [PacketRing.setByte, Vector.set_comm _ _ apart]

theorem ofSetBytes {position : Nat} {data : Bytes} (after : piece ≠ [] → start < position)
    (near : position + data.length ≤ start + geometry.bytes.slots) :
    Spares (fun ring : PacketRing geometry => ring.setBytes position data) slot start piece := by
  induction data generalizing position with
  | nil => exact .id
  | cons byte rest inductionHypothesis =>
    rw [List.length_cons] at near
    have later := inductionHypothesis (fun left => Nat.lt_succ_of_lt (after left)) (by omega)
    exact later.comp (.ofSetByte after (by omega) byte)

/-- Such a change can be made before or after any that the reader makes. -/
theorem exchange (spares : Spares change slot start piece) (operation : Reading)
    (ring : PacketRing geometry) :
    change (operation.change slot start piece ring) =
      operation.change slot start piece (change ring) := by
  cases operation with
  | takeByte =>
    cases piece with
    | nil => rfl
    | cons byte piece =>
      simp only [Reading.change, spares.setConsumed, spares.setMark, spares.consumed]
  | copyInto destination =>
    simp only [Reading.change, spares.setConsumed, spares.setMark, spares.consumed]
  | release => simp only [Reading.change, spares.setTail, spares.setConsumed]
  | overwriteUnread byte =>
    cases piece with
    | nil => rfl
    | cons first piece => exact spares.setByte ring byte (List.cons_ne_nil _ _)

end Spares

namespace Layout

variable {ring : PacketRing geometry} {unread rest : List Bytes} {piece tentative : Bytes}
  {slot start : Nat}

/-- An operation that decides on a condition answers the decision. -/
theorem execute_decided {program : Program geometry Bool} {condition : Prop} [Decidable condition]
    {granted refused : List Access} (change : Bool → PacketRing geometry)
    (ran : program.execute ring =
      if condition then .ok ⟨true, change true, granted⟩ else .ok ⟨false, change false, refused⟩) :
    ∃ accesses, (do return Answer.accepted (← program) : Program geometry Answer).execute ring =
      .ok ⟨.accepted (decide condition), change (decide condition), accesses⟩ := by
  by_cases holds : condition
  · rw [if_pos holds] at ran
    rw [decide_eq_true holds]
    exact ⟨_, execute_map ring ran Answer.accepted⟩
  · rw [if_neg holds] at ran
    rw [decide_eq_false holds]
    exact ⟨_, execute_map ring ran Answer.accepted⟩

/-- What the writer does is told by the positions of the packet in progress. -/
theorem execute_writing (layout : Layout ring unread tentative slot start) (operation : Writing) :
    ∃ accesses, operation.program.execute ring =
      .ok ⟨operation.reply
          (operation.accepts geometry unread.length unread.flatten.length tentative.length),
        operation.change
          (operation.accepts geometry unread.length unread.flatten.length tentative.length)
          (slot + unread.length) (start + unread.flatten.length)
          (start + (unread.flatten.length + tentative.length)) ring, accesses⟩ := by
  cases operation with
  | push byte =>
    exact execute_decided (fun accepted => Writing.change accepted _ _ _ (.push byte) ring)
      (layout.execute_push byte)
  | pushAll data =>
    exact execute_decided (fun accepted => Writing.change accepted _ _ _ (.pushAll data) ring)
      (layout.execute_pushAll data)
  | trim length =>
    exact execute_decided (fun accepted => Writing.change accepted _ _ _ (.trim length) ring)
      (layout.execute_trim length)
  | commit =>
    exact execute_decided (fun accepted => Writing.change accepted _ _ _ .commit ring)
      layout.execute_commit
  | discard => exact ⟨_, execute_map ring layout.execute_discard fun _ => Answer.done⟩

/-- While a packet waits, what the reader does is told by the positions of that packet. -/
theorem execute_reading (layout : Layout ring (piece :: rest) tentative slot start)
    (operation : Reading) :
    ∃ accesses, operation.program.execute ring =
      .ok ⟨operation.reply ring.consumed piece, operation.change slot start piece ring, accesses⟩ := by
  cases operation with
  | takeByte =>
    cases piece with
    | nil => exact ⟨_, execute_map ring layout.execute_takeByte_end Answer.byte⟩
    | cons byte piece => exact ⟨_, execute_map ring layout.execute_takeByte Answer.byte⟩
  | copyInto destination =>
    have taken := execute_map ring (layout.execute_takeBytes destination.length) fun answer =>
      (answer.1, answer.2 ++ destination.drop answer.2.length)
    exact ⟨_, execute_map ring taken fun answer => Answer.copied answer.1 answer.2⟩
  | release => exact ⟨_, execute_map ring layout.execute_release fun _ => Answer.done⟩
  | overwriteUnread byte =>
    cases piece with
    | nil => exact ⟨_, execute_map ring (layout.execute_overwriteUnread_end byte) fun _ => Answer.done⟩
    | cons first piece =>
      exact ⟨_, execute_map ring (layout.execute_overwriteUnread byte) fun _ => Answer.done⟩

/-- Without a packet the reader changes nothing. -/
theorem execute_reading_none (layout : Layout ring [] tentative slot start) (operation : Reading) :
    ∃ answer accesses, operation.program.execute ring = .ok ⟨answer, ring, accesses⟩ := by
  cases operation with
  | takeByte => exact ⟨_, _, execute_map ring layout.execute_takeByte_none Answer.byte⟩
  | copyInto destination =>
    have taken := execute_map ring (layout.execute_takeBytes_none destination.length) fun answer =>
      (answer.1, answer.2 ++ destination.drop answer.2.length)
    exact ⟨_, _, execute_map ring taken fun answer => Answer.copied answer.1 answer.2⟩
  | release => exact ⟨_, _, execute_map ring layout.execute_release_none fun _ => Answer.done⟩
  | overwriteUnread byte =>
    exact ⟨_, _, execute_map ring (layout.execute_overwriteUnread_none byte) fun _ => Answer.done⟩

/-- The writer leaves the waiting packets where they are. -/
theorem write (layout : Layout ring unread tentative slot start) (operation : Writing) :
    ∃ longer added, Layout
        (operation.change
          (operation.accepts geometry unread.length unread.flatten.length tentative.length)
          (slot + unread.length) (start + unread.flatten.length)
          (start + (unread.flatten.length + tentative.length)) ring)
        longer added slot start ∧
      unread <+: longer := by
  cases accepted : operation.accepts geometry unread.length unread.flatten.length tentative.length
  case true =>
    cases operation with
    | push byte => exact ⟨_, _, layout.extend [byte] (of_decide_eq_true accepted), List.prefix_rfl⟩
    | pushAll data => exact ⟨_, _, layout.extend data (of_decide_eq_true accepted), List.prefix_rfl⟩
    | trim length => exact ⟨_, _, layout.shortenBy (of_decide_eq_true accepted), List.prefix_rfl⟩
    | commit =>
      have free : unread.length < geometry.marks.slots - 2 := of_decide_eq_true accepted
      exact ⟨_, _, layout.commit (by omega), List.prefix_append _ _⟩
    | discard => exact ⟨_, _, layout.clear, List.prefix_rfl⟩
  case false =>
    cases operation with
    | commit => exact ⟨_, _, layout.clear, List.prefix_rfl⟩
    | discard => cases accepted
    | _ => exact ⟨_, _, layout, List.prefix_rfl⟩

/-- The reader leaves the end of the newest packet where it is. -/
theorem read (layout : Layout ring (piece :: rest) tentative slot start) (operation : Reading) :
    ∃ left following position,
      Layout (operation.change slot start piece ring) left tentative following position ∧
      left.length ≤ (piece :: rest).length ∧ start ≤ position ∧
      following + left.length = slot + (piece :: rest).length ∧
      position + left.flatten.length = start + (piece :: rest).flatten.length := by
  cases operation with
  | takeByte =>
    cases piece with
    | nil => exact ⟨_, _, _, layout, Nat.le_refl _, Nat.le_refl _, rfl, rfl⟩
    | cons byte piece =>
      have taken := layout.take (Nat.succ_le_succ (Nat.zero_le piece.length))
      refine ⟨_, _, _, taken.setConsumed _, Nat.le_refl _, Nat.le_succ _, rfl, ?_⟩
      simp
      omega
  | copyInto destination =>
    have taken := layout.take (Nat.min_le_right destination.length _)
    refine ⟨_, _, _, taken.setConsumed _, Nat.le_refl _, Nat.le_add_right _ _, rfl, ?_⟩
    simp
    omega
  | release =>
    have released := (layout.setConsumed 0).release
    refine ⟨_, _, _, released, Nat.le_succ _, Nat.le_add_right _ _, ?_, ?_⟩
    · rw [List.length_cons]
      omega
    · rw [List.flatten_cons, List.length_append, Nat.add_assoc]
  | overwriteUnread byte =>
    cases piece with
    | nil => exact ⟨_, _, _, layout, Nat.le_refl _, Nat.le_refl _, rfl, rfl⟩
    | cons first piece => exact ⟨_, _, _, layout.overwrite byte, Nat.le_refl _, Nat.le_refl _, rfl, rfl⟩

/-- What the writer changes has nothing to do with a packet that waits. -/
theorem spares (layout : Layout ring (piece :: rest) tentative slot start) (operation : Writing)
    {accepted : Bool} (told : operation.accepts geometry (piece :: rest).length
      (piece :: rest).flatten.length tentative.length = accepted) :
    Spares (fun ring : PacketRing geometry => operation.change accepted
      (slot + (piece :: rest).length) (start + (piece :: rest).flatten.length)
      (start + ((piece :: rest).flatten.length + tentative.length)) ring) slot start piece := by
  have slots := layout.slots
  have room := layout.room
  have behind : piece ≠ [] →
      start < start + ((piece :: rest).flatten.length + tentative.length) := by
    intro left
    have positive := List.length_pos_iff.mpr left
    rw [List.flatten_cons, List.length_append]
    omega
  have next (position : Nat) : Spares
      (fun ring : PacketRing geometry =>
        ring.setMark (slot + (piece :: rest).length + 1) position) slot start piece :=
    .ofSetMark (by omega) (by omega) position
  cases accepted
  case true =>
    cases operation with
    | push byte =>
      have fits := of_decide_eq_true told
      exact (next _).comp (.ofSetBytes behind (by rw [List.length_singleton]; omega))
    | pushAll data =>
      have fits := of_decide_eq_true told
      exact (next _).comp (.ofSetBytes behind (by omega))
    | trim length => exact next _
    | commit =>
      have free : (piece :: rest).length < geometry.marks.slots - 2 := of_decide_eq_true told
      exact (Spares.ofSetHead _).comp (.ofSetMark (by omega) (by omega) _)
    | discard => exact next _
  case false =>
    cases operation with
    | commit => exact next _
    | discard => exact next _
    | _ => exact .id

end Layout

/-- Both orders of two operations end without a fault. The reader gets the same in either order, and
takes neither room nor a slot from the writer: what is granted before the reader's turn is granted after
it too. When the writer is told the same in either order, the memory is the same as well. -/
def Exchangeable (ring : PacketRing geometry) (writing : Writing) (reading : Reading) : Prop :=
  ∃ written writtenThenRead read readThenWritten,
    writing.program.execute ring = .ok written ∧
    reading.program.execute written.ring = .ok writtenThenRead ∧
    reading.program.execute ring = .ok read ∧
    writing.program.execute read.ring = .ok readThenWritten ∧
    writtenThenRead.answer = read.answer ∧
    (written.answer = .accepted true → readThenWritten.answer = .accepted true) ∧
    ring.answer Writer.freeBytes ≤ read.ring.answer Writer.freeBytes ∧
    (ring.answer Writer.canCommit = true → read.ring.answer Writer.canCommit = true) ∧
    (written.answer = readThenWritten.answer → writtenThenRead.ring = readThenWritten.ring)

/-- While a packet waits, the operations of the two ends can be exchanged. -/
theorem Reachable.commutes {ring : PacketRing geometry} (reachable : Reachable ring)
    (waits : ring.answer Reader.hasPacket = true) (writing : Writing) (reading : Reading) :
    ring.Exchangeable writing reading := by
  obtain ⟨queue, represents⟩ := reachable.represents
  rw [observes_hasPacket.answer_eq represents] at waits
  rcases represents.front_cases with ⟨none, -⟩ | ⟨oldest, rest, -, slot, start, layout⟩
  · simp [none] at waits
  obtain ⟨_, written⟩ := layout.execute_writing writing
  obtain ⟨_, _, writtenLayout, later, rfl⟩ := layout.write writing
  obtain ⟨_, writtenThenRead⟩ := writtenLayout.execute_reading reading
  obtain ⟨_, read⟩ := layout.execute_reading reading
  obtain ⟨left, following, position, readLayout, fewer, ahead, head, stop⟩ := layout.read reading
  obtain ⟨_, readThenWritten⟩ := readLayout.execute_writing writing
  rw [← Nat.add_assoc position, head, stop, Nat.add_assoc start] at readThenWritten
  obtain ⟨after, _, ran, readRepresents⟩ := refines_read reading _ _ represents
  obtain rfl : _ = after := congrArg Outcome.ring (Except.ok.inj (read.symm.trans ran))
  have spares := layout.spares writing rfl
  have less : left.flatten.length ≤ (oldest.drop queue.offset :: rest).flatten.length := by omega
  refine ⟨_, _, _, _, written, writtenThenRead, read, readThenWritten, ?_, ?_, ?_, ?_, ?_⟩
  · change reading.reply _ _ = reading.reply _ _
    rw [spares.consumed]
  · intro granted
    obtain ⟨accepted, told⟩ := Writing.accepts_of_reply granted
    change writing.reply _ = _
    rw [Writing.accepts_of_le fewer less accepted, told]
  · rw [(observes_freeBytes geometry).answer_eq represents,
      (observes_freeBytes geometry).answer_eq readRepresents]
    exact queue.freeBytes_read_le reading geometry
  · rw [(observes_canCommit geometry).answer_eq represents,
      (observes_canCommit geometry).answer_eq readRepresents]
    exact queue.canCommit_read reading geometry
  · intro same
    have equal := Writing.accepts_eq_of_reply_eq same
    change reading.change slot start _ _ = _
    rw [← equal, ← spares.exchange]

/-- A ring of four marks holds two packets, so the second one can be handed over before the first one is
released or after. -/
theorem commutes_at_last_slot :
    let geometry : Geometry := ⟨⟨2, by decide, by decide⟩, ⟨2, by decide, by decide⟩⟩
    let ring := { fresh geometry with taken := true }
    let first := (ring.after (Operation.write (.push 17)).program).after (Operation.write .commit).program
    let second := first.after (Operation.write (.push 18)).program
    second.answer Reader.hasPacket = true ∧ second.Exchangeable .commit .release := by
  intro geometry ring first second
  have reachable : Reachable ring := .fresh rfl
  have waits : second.answer Reader.hasPacket = true := by decide +kernel
  exact ⟨waits, Reachable.commutes (((reachable.after _).after _).after _) waits .commit .release⟩

end FramedLine.PacketRing
