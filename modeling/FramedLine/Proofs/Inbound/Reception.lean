import FramedLine.Inbound
import FramedLine.Proofs.PacketRing.Contents
import FramedLine.Proofs.PacketRing.Operation
import FramedLine.Proofs.Stuffing

/-!
The receiving direction over a bounded queue. The receiver of the line keeps a checksum register and a
ring; it does what a receiver does that keeps the packet in progress as a string and looks at its
checksum when it is closed.
-/

namespace FramedLine

open PacketRing Stuffing

variable {geometry : Geometry}

namespace PacketQueue

/-- The packet that a delimiter appends to the queue, if it closes a sealed string and there is a slot. -/
def closing (geometry : Geometry) (queue : PacketQueue) : Option Bytes :=
  if queue.canCommit geometry then Checksum.unseal? queue.tentative else none

/-- A delimiter ends the packet in progress, accepted or not. -/
def close (geometry : Geometry) (queue : PacketQueue) : PacketQueue :=
  { queue with packets := queue.packets ++ (queue.closing geometry).toList, tentative := [] }

end PacketQueue

/-- A receiver over a queue. -/
structure Reception where
  queue : PacketQueue
  started : Bool := false
  escaped : Bool := false
  deriving DecidableEq, Repr

namespace Reception

def drop (reception : Reception) : Reception where
  queue := reception.queue.discard

def store (geometry : Geometry) (reception : Reception) (byte : UInt8) : Reception :=
  let (stored, queue) := reception.queue.push geometry byte
  if stored then { reception with queue, escaped := false } else reception.drop

def receive (geometry : Geometry) (dropOn : Status) (reception : Reception) (byte : UInt8)
    (status : Status) : Reception :=
  if status.intersects dropOn then reception.drop
  else if byte = Stuffing.start then { queue := reception.queue.close geometry, started := true }
  else if !reception.started then reception
  else if byte = Stuffing.reset then reception.drop
  else if byte = Stuffing.escape then { reception with escaped := true }
  else reception.store geometry (unmask reception.escaped byte)

def read (reception : Reception) (operation : Reading) : Reception :=
  { reception with queue := (reception.queue.read operation).2 }

/-- A data byte is stored where there is room for it. -/
theorem store_eq (reception : Reception) (byte : UInt8) :
    reception.store geometry byte =
      if 0 < reception.queue.freeBytes geometry then
        { reception with
          queue := { reception.queue with tentative := reception.queue.tentative ++ [byte] }
          escaped := false }
      else reception.drop := by
  unfold store PacketQueue.push PacketQueue.pushAll
  by_cases room : 0 < reception.queue.freeBytes geometry
  · rw [if_pos room, if_pos (show [byte].length ≤ reception.queue.freeBytes geometry from room)]
    rfl
  · rw [if_neg room, if_neg (show ¬[byte].length ≤ reception.queue.freeBytes geometry from room)]
    rfl

section Branches

variable {dropOn status : Status} {reception : Reception}

theorem receive_spoiled (spoiled : status.intersects dropOn = true) (byte : UInt8) :
    reception.receive geometry dropOn byte status = reception.drop :=
  if_pos spoiled

variable (clean : status.intersects dropOn = false)
include clean

theorem receive_start : reception.receive geometry dropOn Stuffing.start status =
    { queue := reception.queue.close geometry, started := true } := by
  rw [receive, if_neg (by simp [clean]), if_pos rfl]

variable {byte : UInt8} (other : byte ≠ Stuffing.start)
include other

/-- Between packets everything but a delimiter is noise. -/
theorem receive_noise (idle : reception.started = false) :
    reception.receive geometry dropOn byte status = reception := by
  rw [receive, if_neg (by simp [clean]), if_neg other, if_pos (by simp [idle])]

theorem receive_active (active : reception.started = true) :
    reception.receive geometry dropOn byte status =
      if byte = Stuffing.reset then reception.drop
      else if byte = Stuffing.escape then { reception with escaped := true }
      else reception.store geometry (unmask reception.escaped byte) := by
  rw [receive, if_neg (by simp [clean]), if_neg other, if_neg (by simp [active])]

end Branches

section Queue

variable (geometry) (dropOn : Status) (reception : Reception) (byte : UInt8) (status : Status)

/-- The packet that a byte from the line appends to the queue, if it does. -/
def appended : Option Bytes :=
  if byte = Stuffing.start ∧ status.intersects dropOn = false then reception.queue.closing geometry
  else none

/-- A byte from the line appends at most one packet, and the packets that are there stay as they are. -/
theorem receive_queue : ∃ tentative, (reception.receive geometry dropOn byte status).queue =
    { reception.queue with
      packets := reception.queue.packets ++ (reception.appended geometry dropOn byte status).toList
      tentative } := by
  unfold appended
  cases spoiled : status.intersects dropOn with
  | true =>
    rw [receive_spoiled spoiled, if_neg (by simp), Option.toList_none, List.append_nil]
    exact ⟨[], rfl⟩
  | false =>
    by_cases delimiter : byte = Stuffing.start
    · rw [delimiter, receive_start spoiled, if_pos ⟨rfl, rfl⟩]
      exact ⟨[], rfl⟩
    rw [if_neg (by simp [delimiter]), Option.toList_none, List.append_nil]
    cases active : reception.started with
    | false =>
      rw [receive_noise spoiled delimiter active]
      exact ⟨_, rfl⟩
    | true =>
      rw [receive_active spoiled delimiter active, store_eq]
      split
      · exact ⟨[], rfl⟩
      split
      · exact ⟨_, rfl⟩
      split
      · exact ⟨_, rfl⟩
      · exact ⟨[], rfl⟩

end Queue

end Reception

namespace Inbound

/-- A receiver of the line stands for a receiver over a queue. Outside of a packet, it is clean. -/
structure Sound (inbound : Inbound geometry) (reception : Reception) : Prop where
  represents : Represents inbound.ring reception.queue
  checksum : inbound.checksum = Checksum.fold Checksum.initial reception.queue.tentative
  started : inbound.started = reception.started
  decoder : inbound.decoder = ⟨reception.escaped⟩
  idle : reception.started = false → reception.queue.tentative = [] ∧ reception.escaped = false

variable {inbound : Inbound geometry} {reception : Reception}

theorem sound_attach (dropOn : Status) (waker : Waker) (taken : Bool) :
    Sound { attach { PacketRing.fresh geometry with taken } dropOn with waker } { queue := .empty } where
  represents := represents_fresh geometry taken
  checksum := rfl
  started := rfl
  decoder := rfl
  idle _ := ⟨rfl, rfl⟩

theorem sound_abandon (represents : Represents inbound.ring reception.queue) :
    Sound inbound.abandon reception.drop where
  represents := refines_discard.after_represents represents
  checksum := rfl
  started := rfl
  decoder := rfl
  idle _ := ⟨rfl, rfl⟩

/-- A delimiter closes the packet in progress as the register and the length of the packet tell, and wakes the
task that waits if it appends a packet. -/
theorem closePacket_eq {queue : PacketQueue} (represents : Represents inbound.ring queue)
    (checksum : inbound.checksum = Checksum.fold Checksum.initial queue.tentative) :
    ∃ ring, Represents ring (queue.close geometry) ∧
      inbound.closePacket =
        { inbound with
          ring
          waker := if (queue.closing geometry).isSome then inbound.waker.wake else inbound.waker } := by
  have length := (observes_tentativeLength geometry).answer_eq represents
  have refused (none : queue.closing geometry = none) : queue.close geometry = queue.discard := by
    simp [PacketQueue.close, PacketQueue.discard, none]
  unfold closePacket
  simp only [length, checksum]
  by_cases empty : queue.tentative.length = 0
  · have nothing := List.length_eq_zero_iff.mp empty
    have none : queue.closing geometry = none := by
      simp [PacketQueue.closing, nothing, Checksum.unseal?, Checksum.width]
    have same : queue.close geometry = queue := by
      rw [refused none]
      simp [PacketQueue.discard, ← nothing]
    rw [if_pos empty, same, none]
    exact ⟨inbound.ring, represents, by rw [← checksum]; rfl⟩
  rw [if_neg empty]
  by_cases short : queue.tentative.length ≤ Checksum.width ∨
      Checksum.fold Checksum.initial queue.tentative ≠ 0
  · have unsealed : Checksum.unseal? queue.tentative = none := by
      by_cases long : Checksum.width < queue.tentative.length
      · rw [Checksum.unseal?_eq _ long, if_neg (short.resolve_left (Nat.not_le.mpr long))]
      · exact Checksum.unseal?_of_short _ (Nat.not_lt.mp long)
    have none : queue.closing geometry = none := by simp [PacketQueue.closing, unsealed]
    rw [if_pos short, refused none, none]
    exact ⟨_, refines_discard.after_represents represents, by rw [← checksum]; rfl⟩
  · obtain ⟨long, clear⟩ := not_or.mp short
    have long := Nat.not_le.mp long
    obtain ⟨trimmed, ran, represents⟩ := (refines_trim Checksum.width).runs represents
    rw [PacketQueue.trim, if_pos (Nat.le_of_lt long)] at ran represents
    obtain ⟨committed, stored, represents⟩ := refines_commit.runs represents
    simp only [if_neg short, ran, if_true, stored]
    have opened := Checksum.unseal?_eq _ long
    rw [if_pos (Decidable.not_not.mp clear)] at opened
    have free : PacketQueue.canCommit geometry { queue with
        tentative := queue.tentative.take (queue.tentative.length - Checksum.width) } =
          queue.canCommit geometry := rfl
    have same : (queue.closing geometry).isSome = (PacketQueue.commit geometry { queue with
        tentative := queue.tentative.take (queue.tentative.length - Checksum.width) }).1 ∧
        queue.close geometry = (PacketQueue.commit geometry { queue with
          tentative := queue.tentative.take (queue.tentative.length - Checksum.width) }).2 := by
      unfold PacketQueue.close PacketQueue.closing PacketQueue.commit
      rw [opened, free]
      split <;> simp [PacketQueue.discard]
    rw [same.1, same.2]
    exact ⟨committed, represents, by rw [← checksum]⟩

theorem closePacket_represents {queue : PacketQueue} (represents : Represents inbound.ring queue)
    (checksum : inbound.checksum = Checksum.fold Checksum.initial queue.tentative) :
    Represents inbound.closePacket.ring (queue.close geometry) := by
  obtain ⟨ring, represents, closed⟩ := closePacket_eq represents checksum
  rw [closed]
  exact represents

/-- Closing a packet touches the ring and the waker only. -/
theorem closePacket_frame (inbound : Inbound geometry) :
    ∃ ring waker, inbound.closePacket = { inbound with ring, waker } := by
  simp only [closePacket]
  split
  · exact ⟨_, _, rfl⟩
  · split
    · exact ⟨_, _, rfl⟩
    · split
      · exact ⟨_, _, rfl⟩
      · exact ⟨_, _, rfl⟩

/-- A data byte goes to the packet in progress and into the register, or drops both. -/
theorem Sound.store (sound : Sound inbound reception) (active : reception.started = true)
    (byte : UInt8) :
    Sound (Inbound.store { inbound with decoder := ⟨false⟩ } byte) (reception.store geometry byte) := by
  obtain ⟨ring, ran, represents⟩ := (refines_push byte).runs sound.represents
  unfold Inbound.store
  rw [Reception.store_eq]
  by_cases room : 0 < reception.queue.freeBytes geometry
  · have pushed : reception.queue.push geometry byte = (true,
        { reception.queue with tentative := reception.queue.tentative ++ [byte] }) := if_pos room
    rw [pushed] at ran represents
    simp only [ran, if_pos room, if_true]
    exact {
      represents
      checksum := by
        rw [Checksum.fold_append, ← sound.checksum]
        rfl
      started := sound.started
      decoder := rfl
      idle := by
        intro inactive
        rw [active] at inactive
        cases inactive }
  · have refused : reception.queue.push geometry byte = (false, reception.queue) := if_neg room
    rw [refused] at ran represents
    simp only [ran, if_neg room]
    exact sound_abandon represents

/-- The receiver of the line does what the receiver over the queue does. -/
theorem Sound.receive (sound : Sound inbound reception) (byte : UInt8) (status : Status) :
    Sound (inbound.receive byte status) (reception.receive geometry inbound.dropOn byte status) := by
  unfold Inbound.receive
  cases spoiled : status.intersects inbound.dropOn with
  | true =>
    rw [if_pos rfl, Reception.receive_spoiled spoiled]
    exact sound_abandon sound.represents
  | false =>
    rw [if_neg Bool.false_ne_true, sound.decoder]
    by_cases delimiter : byte = Stuffing.start
    · subst delimiter
      rw [if_neg fun noise => noise.1 rfl, Reception.receive_start spoiled, Decoder.feed_start]
      dsimp only
      exact {
        represents := closePacket_represents sound.represents sound.checksum
        checksum := rfl
        started := rfl
        decoder := by
          obtain ⟨ring, waker, same⟩ := closePacket_frame { inbound with decoder := ⟨false⟩ }
          rw [same]
        idle := by
          intro inactive
          cases inactive }
    by_cases active : reception.started = true
    · have running : ¬(byte ≠ Stuffing.start ∧ (!inbound.started) = true) := by
        simp [sound.started, active]
      rw [if_neg running, Reception.receive_active spoiled delimiter active]
      by_cases aborts : byte = Stuffing.reset
      · subst aborts
        rw [if_pos rfl, Decoder.feed_reset]
        exact sound_abandon sound.represents
      by_cases marker : byte = Stuffing.escape
      · subst marker
        rw [if_neg aborts, if_pos rfl, Decoder.feed_escape]
        exact {
          represents := sound.represents
          checksum := sound.checksum
          started := sound.started
          decoder := rfl
          idle := fun inactive => absurd active (Bool.not_eq_true _ ▸ inactive) }
      rw [if_neg aborts, if_neg marker, Decoder.feed_data _ delimiter aborts marker]
      exact sound.store active _
    · have noise : byte ≠ Stuffing.start ∧ (!inbound.started) = true := by
        simp [delimiter, sound.started, active]
      rw [if_pos noise, Reception.receive_noise spoiled delimiter (Bool.not_eq_true _ ▸ active)]
      exact sound

/-- The reader of the ring does not meddle with the packet in progress. -/
theorem Sound.read (sound : Sound inbound reception) (operation : Reading) {ring : PacketRing geometry}
    (represents : Represents ring (reception.queue.read operation).2) :
    Sound { inbound with ring } (reception.read operation) where
  represents := represents
  checksum := by rw [Reception.read, PacketQueue.tentative_read, sound.checksum]
  started := sound.started
  decoder := sound.decoder
  idle := by
    rw [Reception.read, PacketQueue.tentative_read]
    exact sound.idle

/-- A byte from the line appends to the memory of the ring what the receiver over the queue appends. -/
theorem Sound.contents_receive_eq (sound : Sound inbound reception) (byte : UInt8) (status : Status) :
    (inbound.receive byte status).ring.contents = inbound.ring.contents ++
        (reception.appended geometry inbound.dropOn byte status).toList ∧
      (inbound.receive byte status).ring.consumed = inbound.ring.consumed := by
  have received := (sound.receive byte status).represents
  obtain ⟨tentative, queue⟩ := reception.receive_queue geometry inbound.dropOn byte status
  rw [queue] at received
  rw [received.contents_eq, sound.represents.contents_eq, received.consumed, sound.represents.consumed]
  exact ⟨PacketQueue.unread_append sound.represents.within _ _, rfl⟩

theorem receive_dropOn (inbound : Inbound geometry) (byte : UInt8) (status : Status) :
    (inbound.receive byte status).dropOn = inbound.dropOn := by
  unfold receive
  split
  · rfl
  split
  · rfl
  rcases inbound.decoder.feed byte with ⟨token, decoder⟩
  cases token with
  | start =>
    obtain ⟨ring, waker, same⟩ := closePacket_frame { inbound with decoder }
    simp only [same]
  | reset => rfl
  | pending => rfl
  | data value =>
    simp only [Inbound.store]
    split <;> rfl

end Inbound

end FramedLine
