import FramedLine.Proofs.Link.Delivery
import FramedLine.Proofs.PacketRing.Snapshot

/-!
What a receive takes from a link. It answers for the unread part of the oldest packet, fills the buffer as
far as that part and the buffer go, and releases the packet in any case; so that receives empty a link packet
by packet, whatever their buffers are.
-/

namespace FramedLine.Link

open PacketRing

variable {geometry : Geometry}

/-- What a receive makes of the unread part of a packet: its answer, and the buffer. -/
def receipt (unread destination : Bytes) : Except Failure (Option Nat) × Bytes :=
  (if destination.length < unread.length then .error .destinationTooShort else .ok (some unread.length),
    unread.take destination.length ++ destination.drop unread.length)

/-- Receives to one buffer after the other. -/
def takeEach (link : Link geometry) :
    List Bytes → List (Except Failure (Option Nat) × Bytes) × Link geometry
  | [] => ([], link)
  | destination :: later =>
    let (answer, copied, link) := link.take destination
    let (receipts, link) := link.takeEach later
    ((answer, copied) :: receipts, link)

/-- A link without its oldest packet. The next packet is there from its first byte, and the packet in
progress, the other direction and the task that waits are as they were. -/
structure Releases (link after : Link geometry) (later : List Bytes) : Prop where
  frame : ∃ ring, after = { link with inbound := { link.inbound with ring } }
  contents : after.inbound.ring.contents = later
  consumed : after.inbound.ring.consumed = 0
  tentative : after.inbound.ring.tentative = link.inbound.ring.tentative
  packetLength : after.inbound.ring.answer Reader.packetLength = (later.headD []).length
  remaining : after.inbound.ring.answer Reader.remaining = (later.headD []).length

variable {link : Link geometry} {reception : Reception}

/-- A release wakes nobody. -/
theorem Releases.waker {after : Link geometry} {later : List Bytes} (releases : Releases link after later) :
    after.inbound.waker = link.inbound.waker := by
  obtain ⟨ring, rfl⟩ := releases.frame
  rfl

/-- A packet is never reported as none. -/
theorem receipt_ne (unread destination : Bytes) : (receipt unread destination).1 ≠ .ok none := by
  unfold receipt
  split
  · exact nofun
  · exact nofun

/-- What is left of a packet that fits is at the front of the buffer. -/
theorem take_receipt {unread destination : Bytes} {length : Nat}
    (fits : (receipt unread destination).1 = .ok (some length)) :
    (receipt unread destination).2.take length = unread := by
  unfold receipt at fits ⊢
  split at fits
  next => cases fits
  next short =>
    obtain rfl := Option.some.inj (Except.ok.inj fits)
    dsimp only
    rw [List.take_of_length_le (Nat.not_lt.mp short), List.take_left]

/-- A copy of a packet is what a receipt tells of the buffer. -/
theorem copied_eq (queue : PacketQueue) (destination : Bytes) :
    (queue.copyInto destination).1.2 = (receipt queue.front destination).2 := by
  have rest : destination.drop (queue.front.take destination.length).length =
      destination.drop queue.front.length := by
    rw [List.length_take, List.drop_eq_drop_iff, Nat.min_comm destination.length, Nat.min_assoc,
      Nat.min_self]
  rw [PacketQueue.copyInto, rest]
  rfl

theorem packetCount_eq (sound : Inbound.Sound link.inbound reception) :
    link.inbound.ring.answer Reader.packetCount = link.inbound.ring.contents.length := by
  rw [observes_packetCount.answer_eq sound.represents, sound.represents.contents_eq,
    PacketQueue.length_unread]

/-- Without a packet a receive changes nothing. -/
theorem take_empty (sound : Inbound.Sound link.inbound reception)
    (empty : link.inbound.ring.contents = []) (destination : Bytes) :
    link.take destination = (.ok none, destination, link) := by
  rw [sound.represents.contents_eq, PacketQueue.unread_eq_nil] at empty
  have none : link.inbound.ring.answer Reader.hasPacket = false := by
    simpa [empty] using observes_hasPacket.answer_eq sound.represents
  simp only [take, none, Bool.not_false, if_true]

/-- A receive releases the oldest packet, whether it fits the buffer or not. -/
theorem take_oldest (sound : Inbound.Sound link.inbound reception) {unread : Bytes}
    {later : List Bytes} (found : link.inbound.ring.contents = unread :: later) (destination : Bytes) :
    ∃ after,
      link.take destination =
        ((receipt unread destination).1, (receipt unread destination).2, after) ∧
      Inbound.Sound after.inbound (reception.read .release) ∧ Releases link after later := by
  have represents := sound.represents
  rw [represents.contents_eq] at found
  obtain ⟨packets, rfl⟩ := PacketQueue.packets_of_unread found
  have some : link.inbound.ring.answer Reader.hasPacket = true := by
    simpa [packets] using observes_hasPacket.answer_eq represents
  have length := observes_remaining.answer_eq represents
  obtain ⟨copied, ran, represented⟩ := (refines_copyInto destination).runs represents
  obtain ⟨released, freed, represented⟩ := refines_release.runs represented
  have queue : PacketQueue.release (reception.queue.copyInto destination).2 = reception.queue.release := rfl
  rw [queue] at represented
  have behind : reception.queue.release.unread = later := by
    rw [PacketQueue.unread_release, packets, List.tail_cons]
  have oldest : reception.queue.release.oldest = later.headD [] := by
    rw [PacketQueue.oldest, PacketQueue.release, packets, List.tail_cons]
  have front : reception.queue.release.front = later.headD [] := oldest
  refine ⟨{ link with inbound := { link.inbound with ring := released } }, ?_,
    sound.read .release represented, ?_⟩
  · rw [← copied_eq]
    simp only [take, some, Bool.not_true, read, ran, freed, length]
    rfl
  · exact {
      frame := ⟨released, rfl⟩
      contents := represented.contents_eq.trans behind
      consumed := represented.consumed
      tentative := represented.tentative_eq.trans represents.tentative_eq.symm
      packetLength := (observes_packetLength.answer_eq represented).trans (congrArg List.length oldest)
      remaining := (observes_remaining.answer_eq represented).trans (congrArg List.length front) }

/-- Receives in a row take a packet each, the oldest first. -/
theorem takeEach_eq (sound : Inbound.Sound link.inbound reception) (destinations : List Bytes)
    (enough : destinations.length ≤ link.inbound.ring.contents.length) :
    (link.takeEach destinations).1 =
        List.zipWith receipt link.inbound.ring.contents destinations ∧
      (link.takeEach destinations).2.inbound.ring.contents =
        link.inbound.ring.contents.drop destinations.length := by
  induction destinations generalizing link reception with
  | nil => exact ⟨List.zipWith_nil_right.symm, rfl⟩
  | cons destination others inductionHypothesis =>
    cases found : link.inbound.ring.contents with
    | nil =>
      rw [found] at enough
      cases enough
    | cons unread later =>
      obtain ⟨after, taken, released, releases⟩ := take_oldest sound found destination
      rw [found] at enough
      obtain ⟨receipts, rest⟩ := inductionHypothesis released
        (by rw [releases.contents]; exact Nat.le_of_succ_le_succ enough)
      rw [releases.contents] at receipts rest
      simp only [takeEach, taken]
      exact ⟨congrArg _ receipts, rest⟩

/-- What a link owes to the task that receives, whatever its buffers are. -/
structure Yields (link : Link geometry) : Prop where
  count : link.inbound.ring.answer Reader.packetCount = link.inbound.ring.contents.length
  nothing : ∀ destination,
    (link.take destination).1 = .ok none ↔ link.inbound.ring.contents = []
  unchanged : link.inbound.ring.contents = [] →
    ∀ destination, link.take destination = (.ok none, destination, link)
  oldest : ∀ unread later, link.inbound.ring.contents = unread :: later → ∀ destination,
    ∃ after,
      link.take destination =
        ((receipt unread destination).1, (receipt unread destination).2, after) ∧
      Releases link after later
  drains : ∀ destinations : List Bytes,
    destinations.length = link.inbound.ring.answer Reader.packetCount →
      (link.takeEach destinations).1 =
          List.zipWith receipt link.inbound.ring.contents destinations ∧
        (link.takeEach destinations).2.inbound.ring.contents = []

theorem yields_of_sound (sound : Inbound.Sound link.inbound reception) : link.Yields where
  count := packetCount_eq sound
  nothing destination := by
    constructor
    · intro none
      cases found : link.inbound.ring.contents with
      | nil => rfl
      | cons unread later =>
        obtain ⟨after, taken, -, -⟩ := take_oldest sound found destination
        rw [taken] at none
        exact absurd none (receipt_ne unread destination)
    · intro empty
      rw [take_empty sound empty]
  unchanged empty := take_empty sound empty
  oldest unread later found destination := by
    obtain ⟨after, taken, -, releases⟩ := take_oldest sound found destination
    exact ⟨after, taken, releases⟩
  drains destinations every := by
    rw [packetCount_eq sound] at every
    obtain ⟨receipts, rest⟩ := takeEach_eq sound destinations (Nat.le_of_eq every)
    exact ⟨receipts, by rw [rest, every, List.drop_length]⟩

/-- A packet that is too long for the buffer does not stand in the way of the one behind it. -/
example :
    let line := Frame.encoding [1, 2, 3] ++ Frame.encoding [4]
    let link := Link.fresh .standard {}
    let fed := { link with inbound := link.inbound.receiveAll line .ok }
    (fed.takeEach [[0, 0], [0, 0]]).1.map (fun receipt => (receipt.1.toOption, receipt.2)) =
      [(none, [1, 2]), (some (some 1), [4, 0])] := by
  decide +kernel

end FramedLine.Link
