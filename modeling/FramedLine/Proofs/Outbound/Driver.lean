import FramedLine.Proofs.Outbound.Transmission

/-!
What the driver of the line does in one call. What is left of the oldest packet goes out byte by byte: a
byte that has to be stuffed is masked in its place, and leaves as many line bytes to send as before.
-/

namespace FramedLine

open PacketRing Stuffing

namespace Transmission

section Branches

variable {transmission : Transmission}

theorem nextByte_quiet (empty : transmission.queue.packets = []) :
    transmission.nextByte = (none, { transmission with opened := false }) := by
  simp only [nextByte, empty]

theorem nextByte_opening (present : transmission.queue.packets ≠ [])
    (closed : transmission.opened = false) :
    transmission.nextByte = (some Stuffing.start, { transmission with opened := true }) := by
  cases found : transmission.queue.packets with
  | nil => exact absurd found present
  | cons oldest rest => simp [nextByte, found, closed]

theorem nextByte_closing (present : transmission.queue.packets ≠ [])
    (opened : transmission.opened = true) (done : transmission.queue.front = []) :
    transmission.nextByte = (some Stuffing.start, { transmission with
      queue := transmission.queue.release
      opened := !transmission.queue.packets.tail.isEmpty }) := by
  cases found : transmission.queue.packets with
  | nil => exact absurd found present
  | cons oldest rest => simp [nextByte, found, opened, done]

variable {byte : UInt8} {more : Bytes}

theorem packets_of_front (left : transmission.queue.front = byte :: more) :
    transmission.queue.packets ≠ [] := by
  intro empty
  rw [transmission.queue.front_of_nil empty] at left
  cases left

theorem nextByte_marker (opened : transmission.opened = true)
    (left : transmission.queue.front = byte :: more) (special : needsEscape byte = true) :
    transmission.nextByte = (some Stuffing.escape, { transmission with
      queue := transmission.queue.overwriteUnread (byte ^^^ escapeMask) }) := by
  cases found : transmission.queue.packets with
  | nil => exact absurd found (packets_of_front left)
  | cons oldest rest => simp [nextByte, found, opened, left, special]

theorem nextByte_plain (opened : transmission.opened = true)
    (left : transmission.queue.front = byte :: more) (plain : needsEscape byte = false) :
    transmission.nextByte = (some byte, { transmission with queue := transmission.queue.takeByte.2 }) := by
  cases found : transmission.queue.packets with
  | nil => exact absurd found (packets_of_front left)
  | cons oldest rest => simp [nextByte, found, opened, left, plain]

end Branches

/-- What one call of the driver does. -/
inductive Step (transmission : Transmission) : Option UInt8 → Transmission → Prop where
  /-- Without a packet there is nothing to send. -/
  | quiet (empty : transmission.queue.packets = []) :
    Step transmission none { transmission with opened := false }
  /-- The opening delimiter of the oldest packet. -/
  | opening (present : transmission.queue.packets ≠ []) (closed : transmission.opened = false) :
    Step transmission (some Stuffing.start) { transmission with opened := true }
  /-- A line byte of the oldest packet. -/
  | body {byte : UInt8} {queue : PacketQueue} (present : transmission.queue.packets ≠ [])
    (opened : transmission.opened = true)
    (stuffed : stuffAll transmission.queue.front = byte :: stuffAll queue.front)
    (length : queue.packets.length = transmission.queue.packets.length)
    (behind : queue.packets.tail = transmission.queue.packets.tail)
    (tentative : queue.tentative = transmission.queue.tentative) :
    Step transmission (some byte) { transmission with queue }
  /-- The closing delimiter of the oldest packet, which releases it. -/
  | closing (present : transmission.queue.packets ≠ []) (opened : transmission.opened = true)
    (done : transmission.queue.front = []) :
    Step transmission (some Stuffing.start) { transmission with
      queue := transmission.queue.release
      opened := !transmission.queue.packets.tail.isEmpty }

theorem step_nextByte (transmission : Transmission) :
    transmission.Step transmission.nextByte.1 transmission.nextByte.2 := by
  by_cases empty : transmission.queue.packets = []
  · rw [nextByte_quiet empty]
    exact .quiet empty
  cases opened : transmission.opened with
  | false =>
    rw [nextByte_opening empty opened]
    exact .opening empty opened
  | true =>
    cases left : transmission.queue.front with
    | nil =>
      rw [nextByte_closing empty opened left]
      exact .closing empty opened left
    | cons byte more =>
      obtain ⟨oldest, rest, found⟩ := List.exists_cons_of_ne_nil empty
      cases special : needsEscape byte with
      | true =>
        have masked := stuff_of_plain (needsEscape_mask byte special)
        rw [nextByte_marker opened left special]
        refine .body empty opened ?_ ?_ ?_ ?_
        · rw [left, PacketQueue.front_overwriteUnread left, stuffAll_cons, stuffAll_cons, masked,
            stuff_of_special special]
          rfl
        · simp [PacketQueue.overwriteUnread, found]
        · simp [PacketQueue.overwriteUnread, found]
        · simp [PacketQueue.overwriteUnread, found]
      | false =>
        rw [nextByte_plain opened left special]
        refine .body empty opened ?_ ?_ ?_ ?_
        · rw [left, PacketQueue.front_takeByte left, stuffAll_cons, stuff_of_plain special]
          rfl
        · simp only [PacketQueue.takeByte, left]
        · simp only [PacketQueue.takeByte, left]
        · simp only [PacketQueue.takeByte, left]

end Transmission

namespace Outbound

variable {geometry : Geometry} {outbound : Outbound geometry} {transmission : Transmission}

theorem Sound.mark (sound : Sound outbound transmission) (armed opened : Bool) :
    Sound { outbound with armed, opened } { transmission with opened } :=
  { sound with opened := rfl }

/-- The reader of a ring gives the sender room, and takes none. -/
theorem Sound.read (sound : Sound outbound transmission) (operation : Reading)
    {ring : PacketRing geometry} (represents : Represents ring (transmission.queue.read operation).2)
    (armed opened : Bool) :
    Sound { outbound with ring, armed, opened }
      { transmission with queue := (transmission.queue.read operation).2, opened } where
  represents := represents
  building := sound.building
  opened := rfl
  checksum active := by
    rw [PacketQueue.tentative_read]
    exact sound.checksum active
  idle closed := by
    rw [PacketQueue.tentative_read]
    exact sound.idle closed
  slot active := PacketQueue.canCommit_read _ _ _ (sound.slot active)
  room filled := by
    rw [PacketQueue.tentative_read] at filled
    exact Nat.le_trans (sound.room filled) (PacketQueue.freeBytes_read_le _ _ _)

/-- The driver over a ring gives the line what the driver over the queue gives it. -/
theorem Sound.nextByte (sound : Sound outbound transmission) :
    outbound.nextByte.1 = transmission.nextByte.1 ∧
      Sound outbound.nextByte.2 transmission.nextByte.2 := by
  have present : outbound.ring.answer Reader.hasPacket = !transmission.queue.packets.isEmpty :=
    observes_hasPacket.answer_eq sound.represents
  have unread : outbound.ring.answer Reader.unreadByte? = transmission.queue.front.head? :=
    observes_unreadByte?.answer_eq sound.represents
  unfold Outbound.nextByte
  rw [present, sound.opened]
  by_cases empty : transmission.queue.packets = []
  · rw [Transmission.nextByte_quiet empty, if_pos (by simp [empty])]
    exact ⟨rfl, sound.mark false false⟩
  rw [if_neg (by simp [empty])]
  cases opened : transmission.opened with
  | false =>
    rw [Transmission.nextByte_opening empty opened]
    exact ⟨rfl, sound.mark outbound.armed true⟩
  | true =>
    cases left : transmission.queue.front with
    | nil =>
      have released := refines_release.after_represents sound.represents
      have following : (outbound.ring.after Reader.release).answer Reader.hasPacket =
          !transmission.queue.packets.tail.isEmpty := observes_hasPacket.answer_eq released
      rw [Transmission.nextByte_closing empty opened left, if_neg (by simp), unread, left]
      simp only [List.head?_nil, closeFrame, following]
      cases behind : transmission.queue.packets.tail.isEmpty with
      | false => exact ⟨trivial, sound.read .release released outbound.armed true⟩
      | true => exact ⟨trivial, sound.read .release released false false⟩
    | cons byte more =>
      cases special : needsEscape byte with
      | true =>
        have masked := (refines_overwriteUnread (byte ^^^ escapeMask)).after_represents sound.represents
        rw [Transmission.nextByte_marker opened left special, if_neg (by simp), unread, left]
        simp only [List.head?_cons, special, opened, if_true]
        exact ⟨trivial, sound.read (.overwriteUnread _) masked outbound.armed true⟩
      | false =>
        have taken := refines_takeByte.after_represents sound.represents
        rw [Transmission.nextByte_plain opened left special, if_neg (by simp), unread, left]
        simp only [List.head?_cons, special, opened]
        exact ⟨rfl, sound.read .takeByte taken outbound.armed true⟩

end Outbound

end FramedLine
