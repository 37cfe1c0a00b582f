import FramedLine.Checksum
import FramedLine.Geometry

/-!
What a packet ring is for: a bounded queue of packets, of which the oldest is being read and the newest
is being written. Nothing here knows of slots or offsets.
-/

namespace FramedLine

structure PacketQueue where
  /-- The committed packets, the oldest first. -/
  packets : List Bytes := []
  /-- How many bytes of the oldest packet were taken. -/
  offset : Nat := 0
  /-- The packet in progress. -/
  tentative : Bytes := []
  deriving DecidableEq, Repr

namespace PacketQueue

/-- What is left to read of each committed packet. -/
def unread (queue : PacketQueue) : List Bytes :=
  match queue.packets with
  | [] => []
  | oldest :: rest => oldest.drop queue.offset :: rest

/-- The oldest packet, or the empty string without one. -/
def oldest (queue : PacketQueue) : Bytes :=
  queue.packets.headD []

/-- What is left to read of the oldest packet. -/
def front (queue : PacketQueue) : Bytes :=
  queue.oldest.drop queue.offset

section Observers

variable (geometry : Geometry) (queue : PacketQueue)

/-- One byte of the ring always stays free. -/
def freeBytes : Nat :=
  geometry.bytes.slots - 1 - queue.unread.flatten.length - queue.tentative.length

/-- A packet takes a mark, and two marks are always in use. -/
def canCommit : Bool :=
  queue.packets.length < geometry.marks.slots - 2

end Observers

section Writing

variable (geometry : Geometry)

def pushAll (data : Bytes) (queue : PacketQueue) : Bool × PacketQueue :=
  if data.length ≤ queue.freeBytes geometry then
    (true, { queue with tentative := queue.tentative ++ data })
  else
    (false, queue)

def push (byte : UInt8) : PacketQueue → Bool × PacketQueue :=
  pushAll geometry [byte]

def trim (length : Nat) (queue : PacketQueue) : Bool × PacketQueue :=
  if length ≤ queue.tentative.length then
    (true, { queue with tentative := queue.tentative.take (queue.tentative.length - length) })
  else
    (false, queue)

def discard (queue : PacketQueue) : PacketQueue :=
  { queue with tentative := [] }

def commit (queue : PacketQueue) : Bool × PacketQueue :=
  if queue.canCommit geometry then
    (true, { queue with packets := queue.packets ++ [queue.tentative], tentative := [] })
  else
    (false, queue.discard)

end Writing

/-- Nothing is read beyond the end of the oldest packet. -/
def WithinOldest (queue : PacketQueue) : Prop :=
  queue.offset ≤ queue.oldest.length

/-- Takes the next byte of the oldest packet, which reads as zero where there is none. -/
def takeByte (queue : PacketQueue) : UInt8 × PacketQueue :=
  match queue.front with
  | [] => (0, queue)
  | byte :: _ => (byte, { queue with offset := queue.offset + 1 })

/-- Takes bytes of the oldest packet to the front of `destination`, as many as it has room for. -/
def copyInto (destination : Bytes) (queue : PacketQueue) : (Nat × Bytes) × PacketQueue :=
  let data := queue.front.take destination.length
  ((queue.oldest.length, data ++ destination.drop data.length),
    { queue with offset := queue.offset + data.length })

def release (queue : PacketQueue) : PacketQueue :=
  { queue with packets := queue.packets.tail, offset := 0 }

/-- Puts another byte in the place of the next one of the oldest packet. -/
def overwriteUnread (byte : UInt8) (queue : PacketQueue) : PacketQueue :=
  match queue.packets with
  | [] => queue
  | oldest :: rest => { queue with packets := oldest.set queue.offset byte :: rest }

/-- The queue of a ring in which nothing was ever written. -/
def empty : PacketQueue := {}

section Lemmas

variable {queue : PacketQueue}

theorem length_unread (queue : PacketQueue) : queue.unread.length = queue.packets.length := by
  unfold unread
  split <;> simp_all

/-- Nothing is left to read only where there is no packet. -/
theorem unread_eq_nil : queue.unread = [] ↔ queue.packets = [] := by
  rw [← List.length_eq_zero_iff, length_unread, List.length_eq_zero_iff]

/-- The packet behind the oldest one is unread. -/
theorem unread_release (queue : PacketQueue) : queue.release.unread = queue.packets.tail := by
  unfold unread release
  cases queue.packets.tail with
  | nil => rfl
  | cons packet rest => rfl

theorem oldest_of_nil (none : queue.packets = []) : queue.oldest = [] := by
  rw [oldest, none, List.headD_nil]

theorem front_of_nil (none : queue.packets = []) : queue.front = [] := by
  rw [front, oldest_of_nil none, List.drop_nil]

theorem oldest_of_cons {packet : Bytes} {rest : List Bytes} (found : queue.packets = packet :: rest) :
    queue.oldest = packet := by
  rw [oldest, found, List.headD_cons]

theorem front_of_cons {packet : Bytes} {rest : List Bytes} (found : queue.packets = packet :: rest) :
    queue.front = packet.drop queue.offset := by
  rw [front, oldest_of_cons found]

theorem packets_of_unread {piece : Bytes} {rest : List Bytes} (left : queue.unread = piece :: rest) :
    queue.packets = queue.oldest :: rest ∧ queue.front = piece := by
  cases found : queue.packets with
  | nil =>
    rw [unread_eq_nil.mpr found] at left
    cases left
  | cons packet others =>
    rw [unread, found] at left
    obtain ⟨same, rfl⟩ := List.cons.inj left
    exact ⟨by rw [queue.oldest_of_cons found], (queue.front_of_cons found).trans same⟩

theorem front_takeByte {byte : UInt8} {more : Bytes} (left : queue.front = byte :: more) :
    queue.takeByte.2.front = more := by
  have behind : queue.oldest.drop (queue.offset + 1) = (queue.oldest.drop queue.offset).drop 1 :=
    List.drop_drop.symm
  rw [takeByte, left]
  change queue.oldest.drop (queue.offset + 1) = more
  rw [behind]
  change queue.front.drop 1 = more
  rw [left, List.drop_one, List.tail_cons]

theorem front_overwriteUnread {byte : UInt8} {more : Bytes} (left : queue.front = byte :: more)
    (value : UInt8) : (queue.overwriteUnread value).front = value :: more := by
  cases found : queue.packets with
  | nil =>
    rw [front_of_nil found] at left
    cases left
  | cons oldest rest =>
    rw [front_of_cons found] at left
    simp only [overwriteUnread, found]
    change (oldest.set queue.offset value).drop queue.offset = value :: more
    rw [List.drop_set, if_neg (Nat.lt_irrefl _), left, Nat.sub_self, List.set_cons_zero]

/-- Each byte of the packet in progress takes a byte of the ring. -/
theorem freeBytes_append (geometry : Geometry) (queue : PacketQueue) (data : Bytes) :
    freeBytes geometry { queue with tentative := queue.tentative ++ data } =
      queue.freeBytes geometry - data.length := by
  change geometry.bytes.slots - 1 - queue.unread.flatten.length - (queue.tentative ++ data).length = _
  rw [List.length_append, Nat.sub_add_eq, freeBytes]

/-- Packets that join the queue are unread. -/
theorem unread_append (within : queue.WithinOldest) (added : List Bytes) (tentative : Bytes) :
    unread { queue with packets := queue.packets ++ added, tentative } = queue.unread ++ added := by
  cases found : queue.packets with
  | nil =>
    have none : queue.offset = 0 := by simpa [WithinOldest, oldest, found] using within
    cases added with
    | nil => simp [unread, found]
    | cons packet rest => simp [unread, found, none]
  | cons oldest rest => simp [unread, found]

theorem withinOldest_append (within : queue.WithinOldest) (packet tentative : Bytes) :
    WithinOldest { queue with packets := queue.packets ++ [packet], tentative } := by
  cases found : queue.packets with
  | nil =>
    have none : queue.offset = 0 := by simpa [WithinOldest, oldest, found] using within
    simp [WithinOldest, none]
  | cons oldest rest => simpa [WithinOldest, PacketQueue.oldest, found] using within

end Lemmas

end PacketQueue

end FramedLine
