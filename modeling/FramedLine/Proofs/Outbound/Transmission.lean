import FramedLine.Outbound
import FramedLine.Proofs.PacketRing.Operation
import FramedLine.Proofs.Stuffing

/-!
The sending direction over a bounded queue. A sender of packets over a queue either queues a sealed
payload or nothing, and its driver takes the front of the queue to the line. The sender over a ring does
the same, and none of its checks comes too late.
-/

namespace FramedLine

open PacketRing Stuffing

variable {geometry : Geometry}

/-- A sender over a queue. -/
structure Transmission where
  queue : PacketQueue
  building : Bool := false
  opened : Bool := false
  deriving DecidableEq, Repr

namespace Transmission

def abandon (transmission : Transmission) : Transmission :=
  { transmission with queue := transmission.queue.discard, building := false }

def enqueue (transmission : Transmission) (payload : Bytes) : Transmission :=
  { transmission with
    queue := { transmission.queue with
      packets := transmission.queue.packets ++ [Checksum.sealed payload]
      tentative := [] }
    building := false }

section Calls

variable (geometry : Geometry) (transmission : Transmission)

/-- Whether a payload can be queued at once. -/
def admits (data : Bytes) : Bool :=
  !data.isEmpty && decide (data.length + Checksum.width ≤ transmission.queue.freeBytes geometry) &&
    transmission.queue.canCommit geometry

def send (data : Bytes) : Bool × Transmission :=
  let idle := transmission.abandon
  if idle.admits geometry data then (true, idle.enqueue data) else (false, idle)

def beginPacket : Transmission :=
  { transmission.abandon with building := transmission.queue.canCommit geometry }

def append (data : Bytes) : Transmission :=
  if !transmission.building then
    transmission
  else if data.length + Checksum.width ≤ transmission.queue.freeBytes geometry then
    { transmission with
      queue := { transmission.queue with tentative := transmission.queue.tentative ++ data } }
  else
    transmission.abandon

def endPacket : Bool × Transmission :=
  if transmission.building && !transmission.queue.tentative.isEmpty then
    (true, transmission.enqueue transmission.queue.tentative)
  else
    (false, transmission.abandon)

def sendDiagnostic (report : Diagnostic) : Except Failure Bool × Transmission :=
  if geometry.bytes.slots - 1 < Diagnostic.size + Checksum.width then
    (.error .packetTooLong, transmission)
  else
    let (queued, after) := transmission.send geometry report.toBytes
    (.ok queued, after)

end Calls

/-- The next byte for the line. -/
def nextByte (transmission : Transmission) : Option UInt8 × Transmission :=
  match transmission.queue.packets with
  | [] => (none, { transmission with opened := false })
  | _ :: rest =>
    if !transmission.opened then
      (some Stuffing.start, { transmission with opened := true })
    else
      match transmission.queue.front with
      | [] =>
        (some Stuffing.start,
          { transmission with queue := transmission.queue.release, opened := !rest.isEmpty })
      | byte :: _ =>
        if needsEscape byte then
          (some Stuffing.escape,
            { transmission with
              queue := transmission.queue.overwriteUnread (byte ^^^ escapeMask) })
        else
          (some byte, { transmission with queue := transmission.queue.takeByte.2 })

end Transmission

namespace Outbound

/-- A sender over a ring stands for a sender over a queue. An open packet could be closed at any time:
there is a slot for it, and room for its checksum as soon as it holds a byte. -/
structure Sound (outbound : Outbound geometry) (transmission : Transmission) : Prop where
  represents : Represents outbound.ring transmission.queue
  building : outbound.building = transmission.building
  opened : outbound.opened = transmission.opened
  checksum : transmission.building = true →
    outbound.checksum = Checksum.fold Checksum.initial transmission.queue.tentative
  idle : transmission.building = false → transmission.queue.tentative = []
  slot : transmission.building = true → transmission.queue.canCommit geometry = true
  room : transmission.queue.tentative ≠ [] →
    Checksum.width ≤ transmission.queue.freeBytes geometry

variable {outbound : Outbound geometry} {transmission : Transmission} {queue : PacketQueue}

theorem sound_attach (geometry : Geometry) (taken : Bool) :
    Sound (attach { PacketRing.fresh geometry with taken }) { queue := .empty } where
  represents := represents_fresh geometry taken
  building := rfl
  opened := rfl
  checksum inactive := by cases inactive
  idle _ := rfl
  slot inactive := by cases inactive
  room filled := absurd rfl filled

section Steps

variable {ring : PacketRing geometry} (represents : Represents ring queue)
include represents

/-- Data that fits is stored. -/
theorem run_pushAll (data : Bytes) (fits : data.length ≤ queue.freeBytes geometry) :
    ∃ after, ring.run (Writer.pushAll data) = (true, after) ∧
      Represents after { queue with tentative := queue.tentative ++ data } := by
  have stored : queue.pushAll geometry data = (true,
      { queue with tentative := queue.tentative ++ data }) := if_pos fits
  have runs := (refines_pushAll data).runs represents
  rw [stored] at runs
  exact runs

/-- A packet in progress for which there is a slot is published. -/
theorem publish_eq (outbound : Outbound geometry) (slot : queue.canCommit geometry = true) :
    ∃ after, publish { outbound with ring } = (true, { outbound with ring := after, armed := true }) ∧
      Represents after { queue with packets := queue.packets ++ [queue.tentative], tentative := [] } := by
  have committed : queue.commit geometry = (true, { queue with
      packets := queue.packets ++ [queue.tentative], tentative := [] }) := if_pos slot
  obtain ⟨after, ran, represented⟩ := refines_commit.runs represents
  rw [committed] at ran represented
  refine ⟨after, ?_, represented⟩
  simp only [publish, ran, if_true, arm]

end Steps

/-- A packet in progress is sealed and published if there is room and a slot. -/
theorem seal_eq {ring : PacketRing geometry} (represents : Represents ring queue)
    (outbound : Outbound geometry) (room : Checksum.width ≤ queue.freeBytes geometry)
    (slot : queue.canCommit geometry = true) :
    ∃ full after,
      ring.run (Writer.pushAll (Checksum.trailer (Checksum.ofBytes queue.tentative))) = (true, full) ∧
      publish { outbound with ring := full } = (true, { outbound with ring := after, armed := true }) ∧
      Represents after { queue with
        packets := queue.packets ++ [Checksum.sealed queue.tentative], tentative := [] } := by
  obtain ⟨full, ran, filled⟩ := run_pushAll represents
    (Checksum.trailer (Checksum.ofBytes queue.tentative)) room
  obtain ⟨after, published, represented⟩ := publish_eq filled outbound slot
  exact ⟨full, after, ran, published, represented⟩

theorem Sound.abandon (sound : Sound outbound transmission) :
    Sound outbound.abandon transmission.abandon where
  represents := refines_discard.after_represents sound.represents
  building := rfl
  opened := sound.opened
  checksum inactive := by cases inactive
  idle _ := rfl
  slot inactive := by cases inactive
  room filled := absurd rfl filled

/-- Without an open packet there is nothing to abandon. -/
theorem Sound.abandon_idle (sound : Sound outbound transmission)
    (closed : transmission.building = false) : transmission.abandon = transmission := by
  have nothing := sound.idle closed
  simp only [Transmission.abandon, PacketQueue.discard, ← nothing, ← closed]

theorem Sound.enqueue (sound : Sound outbound transmission) {after : PacketRing geometry}
    {payload : Bytes} (represents : Represents after { transmission.queue with
      packets := transmission.queue.packets ++ [Checksum.sealed payload], tentative := [] })
    (armed : Bool) (checksum : UInt16) :
    Sound { outbound with ring := after, building := false, armed, checksum }
      (transmission.enqueue payload) where
  represents := represents
  building := rfl
  opened := sound.opened
  checksum inactive := by cases inactive
  idle _ := rfl
  slot inactive := by cases inactive
  room filled := absurd rfl filled

/-- A payload is queued whole once it is known to fit. -/
theorem Sound.queue_eq (sound : Sound outbound transmission) (closed : transmission.building = false)
    {data : Bytes} (fits : data.length + Checksum.width ≤ transmission.queue.freeBytes geometry)
    (slot : transmission.queue.canCommit geometry = true) :
    (outbound.queue data).1 = true ∧ Sound (outbound.queue data).2 (transmission.enqueue data) := by
  have nothing := sound.idle closed
  obtain ⟨stored, ran, filled⟩ := run_pushAll sound.represents data (by omega)
  have room : Checksum.width ≤ PacketQueue.freeBytes geometry
      { transmission.queue with tentative := transmission.queue.tentative ++ data } := by
    rw [PacketQueue.freeBytes_append]
    omega
  obtain ⟨full, after, sealed, published, represented⟩ := seal_eq filled outbound room slot
  rw [nothing, List.nil_append] at sealed represented
  have queued : outbound.queue data = (true, { outbound with ring := after, armed := true }) := by
    simp only [Outbound.queue, ran, sealed, if_true, published]
  rw [queued]
  have building : outbound.building = false := sound.building.trans closed
  exact ⟨rfl, by simpa only [← building] using sound.enqueue represented true outbound.checksum⟩

/-- An open packet makes way for one that is sent at once. -/
theorem Sound.makeWay (sound : Sound outbound transmission) :
    Sound (if outbound.building then outbound.abandon else outbound) transmission.abandon := by
  cases closed : transmission.building with
  | false =>
    rw [sound.building, closed, sound.abandon_idle closed]
    exact sound
  | true =>
    rw [sound.building, closed]
    exact sound.abandon

/-- A payload is queued if it is admitted, and otherwise an open packet is all that is lost. -/
theorem Sound.send (sound : Sound outbound transmission) (data : Bytes) :
    (outbound.send data).1 = (transmission.send geometry data).1 ∧
      Sound (outbound.send data).2 (transmission.send geometry data).2 := by
  have idle := sound.makeWay
  unfold Outbound.send Transmission.send
  generalize (if outbound.building then outbound.abandon else outbound) = start at idle ⊢
  have free := (observes_freeBytes geometry).answer_eq idle.represents
  have slot := (observes_canCommit geometry).answer_eq idle.represents
  simp only [free, slot]
  by_cases empty : data.isEmpty = true
  · have refused : transmission.abandon.admits geometry data = false := by
      simp [Transmission.admits, empty]
    rw [if_pos empty, refused]
    exact ⟨rfl, idle⟩
  rw [if_neg empty]
  by_cases full : transmission.abandon.queue.freeBytes geometry < data.length + Checksum.width ∨
      (!transmission.abandon.queue.canCommit geometry) = true
  · have refused : transmission.abandon.admits geometry data = false := by
      rcases full with short | taken
      · simp [Transmission.admits, Nat.not_le.mpr short]
      · have occupied : transmission.abandon.queue.canCommit geometry = false := by simpa using taken
        simp [Transmission.admits, occupied]
    rw [if_pos full, refused]
    exact ⟨rfl, idle⟩
  · obtain ⟨enough, open'⟩ := not_or.mp full
    have fits := Nat.not_lt.mp enough
    have slot : transmission.abandon.queue.canCommit geometry = true := by simpa using open'
    have admitted : transmission.abandon.admits geometry data = true := by
      simp [Transmission.admits, empty, fits, slot]
    rw [if_neg full, admitted]
    exact idle.queue_eq rfl fits slot

theorem Sound.beginPacket (sound : Sound outbound transmission) :
    Sound outbound.beginPacket (transmission.beginPacket geometry) := by
  have dropped := refines_discard.after_represents sound.represents
  have slot := (observes_canCommit geometry).answer_eq dropped
  unfold Outbound.beginPacket
  simp only [slot]
  have same : transmission.queue.discard.canCommit geometry = transmission.queue.canCommit geometry := rfl
  cases free : transmission.queue.canCommit geometry with
  | false =>
    rw [same, free, Transmission.beginPacket, free]
    exact {
      represents := dropped
      building := rfl
      opened := sound.opened
      checksum := fun inactive => by cases inactive
      idle := fun _ => rfl
      slot := fun inactive => by cases inactive
      room := fun filled => absurd rfl filled }
  | true =>
    rw [same, free, Transmission.beginPacket, free]
    exact {
      represents := dropped
      building := rfl
      opened := sound.opened
      checksum := fun _ => rfl
      idle := fun inactive => by cases inactive
      slot := fun _ => free
      room := fun filled => absurd rfl filled }

/-- Data is appended if it fits with the checksum, and otherwise the packet is dropped. -/
theorem Sound.append (sound : Sound outbound transmission) (data : Bytes) :
    Sound (outbound.append data) (transmission.append geometry data) := by
  have free := (observes_freeBytes geometry).answer_eq sound.represents
  unfold Outbound.append Transmission.append
  by_cases active : transmission.building = true
  · rw [if_neg (show ¬(!outbound.building) = true by simp [sound.building, active]),
      if_neg (show ¬(!transmission.building) = true by simp [active]), free]
    by_cases fits : data.length + Checksum.width ≤ transmission.queue.freeBytes geometry
    · obtain ⟨stored, ran, represents⟩ := run_pushAll sound.represents data (by omega)
      simp only [ran, if_pos fits, if_neg (Nat.not_lt.mpr fits), if_true]
      exact {
        represents
        building := sound.building
        opened := sound.opened
        checksum := fun _ => by rw [Checksum.fold_append, ← sound.checksum active]
        idle := fun inactive => by cases active.symm.trans inactive
        slot := sound.slot
        room := fun _ => by
          rw [PacketQueue.freeBytes_append]
          omega }
    · simp only [if_neg fits, if_pos (Nat.not_le.mp fits)]
      exact sound.abandon
  · rw [if_pos (show (!outbound.building) = true by simp [sound.building, active]),
      if_pos (show (!transmission.building) = true by simp [active])]
    exact sound

/-- A packet that holds a byte can always be closed. -/
theorem Sound.endPacket (sound : Sound outbound transmission) :
    outbound.endPacket.1 = transmission.endPacket.1 ∧
      Sound outbound.endPacket.2 transmission.endPacket.2 := by
  have length := (observes_tentativeLength geometry).answer_eq sound.represents
  unfold Outbound.endPacket Transmission.endPacket
  by_cases active : transmission.building = true
  · rw [if_neg (show ¬(!outbound.building) = true by simp [sound.building, active])]
    simp only [length]
    by_cases empty : transmission.queue.tentative.length = 0
    · have nothing := List.length_eq_zero_iff.mp empty
      rw [if_pos empty, nothing, if_neg (show ¬(transmission.building && !([] : Bytes).isEmpty) = true
        by simp)]
      exact ⟨rfl, sound.abandon⟩
    · have filled : transmission.queue.tentative ≠ [] := fun none => empty (by rw [none]; rfl)
      obtain ⟨full, after, sealed, published, represents⟩ := seal_eq sound.represents
        { outbound with building := false } (sound.room filled) (sound.slot active)
      rw [← Checksum.fold_eq_ofBytes, ← sound.checksum active] at sealed
      rw [if_neg empty, if_pos (show (transmission.building &&
        !transmission.queue.tentative.isEmpty) = true by simp [active, filled])]
      simp only [sealed, published, if_true]
      exact ⟨trivial, sound.enqueue represents true outbound.checksum⟩
  · have closed : transmission.building = false := Bool.not_eq_true _ ▸ active
    rw [if_pos (show (!outbound.building) = true by simp [sound.building, closed]),
      if_neg (show ¬(transmission.building && !transmission.queue.tentative.isEmpty) = true by
        simp [closed]), sound.abandon_idle closed]
    exact ⟨rfl, sound⟩

theorem Sound.sendDiagnostic (sound : Sound outbound transmission) (report : Diagnostic) :
    (outbound.sendDiagnostic report).1 = (transmission.sendDiagnostic geometry report).1 ∧
      Sound (outbound.sendDiagnostic report).2 (transmission.sendDiagnostic geometry report).2 := by
  unfold Outbound.sendDiagnostic Transmission.sendDiagnostic
  split
  · exact ⟨rfl, sound⟩
  · obtain ⟨same, after⟩ := sound.send report.toBytes
    exact ⟨congrArg Except.ok same, after⟩

end Outbound

end FramedLine
