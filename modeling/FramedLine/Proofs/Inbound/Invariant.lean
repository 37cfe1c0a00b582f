import FramedLine.Proofs.Inbound.RoundTrip
import FramedLine.Proofs.Trailer

/-!
What holds of a receiver between any two bytes of the line. Its register, its decoder and its ring are kept
apart from each other, and each byte may change some of them only; but they agree whatever came, and so no
packet is queued that is empty or that the ring could not hold with its checksum.
-/

namespace FramedLine

open PacketRing

variable {geometry : Geometry}

namespace Checksum

/-- A string is longer than what it seals by a checksum, and what it seals is not empty. -/
theorem length_of_unseal? {data payload : Bytes} (opened : unseal? data = some payload) :
    1 ≤ payload.length ∧ payload.length + width = data.length := by
  simp only [unseal?] at opened
  split at opened
  next sealed =>
    obtain rfl := Option.some.inj opened
    rw [List.length_take]
    omega
  next => cases opened

end Checksum

namespace Inbound

/-- The parts of a receiver agree. The register is that of the packet in progress, and there is none outside
of a packet. -/
structure Agrees (inbound : Inbound geometry) : Prop where
  checksum : inbound.checksum = Checksum.fold Checksum.initial inbound.ring.tentative
  length : inbound.ring.answer Writer.tentativeLength = inbound.ring.tentative.length
  idle : inbound.started = false → inbound.ring.tentative = [] ∧ inbound.decoder = {} ∧
    inbound.checksum = Checksum.initial
  opens : ∀ status, status.intersects inbound.dropOn = false →
    (inbound.receive Stuffing.start status).Ready ∧
      (inbound.receive Stuffing.start status).ring.tentative = []
  /-- A packet that is longer than its checksum can be cut by it. -/
  trims : Checksum.width < inbound.ring.answer Writer.tentativeLength →
    inbound.ring.answer (Writer.trim Checksum.width) = true

variable {inbound : Inbound geometry} {reception : Reception}

theorem Sound.length_eq (sound : Sound inbound reception) :
    inbound.ring.answer Writer.tentativeLength = inbound.ring.tentative.length := by
  rw [(observes_tentativeLength geometry).answer_eq sound.represents, sound.represents.tentative_eq]

theorem Sound.trims (sound : Sound inbound reception)
    (long : Checksum.width < inbound.ring.answer Writer.tentativeLength) :
    inbound.ring.answer (Writer.trim Checksum.width) = true := by
  rw [(observes_tentativeLength geometry).answer_eq sound.represents] at long
  obtain ⟨trimmed, ran, -⟩ := (refines_trim Checksum.width).runs sound.represents
  rw [PacketQueue.trim, if_pos (Nat.le_of_lt long)] at ran
  exact congrArg Prod.fst ran

theorem Sound.opens (sound : Sound inbound reception) {status : Status}
    (clean : status.intersects inbound.dropOn = false) :
    (inbound.receive Stuffing.start status).Ready ∧
      (inbound.receive Stuffing.start status).ring.tentative = [] := by
  have received := sound.receive Stuffing.start status
  rw [Reception.receive_start clean] at received
  exact ⟨received.ready ⟨rfl, rfl, rfl⟩, received.represents.tentative_eq⟩

theorem Sound.agrees (sound : Sound inbound reception) : inbound.Agrees where
  checksum := sound.checksum_eq
  length := sound.length_eq
  idle quiet := by
    obtain ⟨empty, unescaped⟩ := sound.idle (sound.started.symm.trans quiet)
    rw [sound.represents.tentative_eq, sound.decoder, sound.checksum, empty, unescaped]
    exact ⟨rfl, rfl, rfl⟩
  opens _ := sound.opens
  trims := sound.trims

/-- A packet that a byte appends was in the ring with its checksum, where one byte always stays free. -/
theorem Sound.length_of_appended (sound : Sound inbound reception) {dropOn status : Status} {byte : UInt8}
    {packet : Bytes} (appended : reception.appended geometry dropOn byte status = some packet) :
    1 ≤ packet.length ∧ packet.length + 3 ≤ geometry.bytes.slots := by
  obtain ⟨-, bound⟩ := sound.represents.bounds
  have sealed : Checksum.unseal? reception.queue.tentative = some packet := by
    unfold Reception.appended PacketQueue.closing at appended
    split at appended
    · split at appended
      · exact appended
      · cases appended
    · cases appended
  obtain ⟨filled, length⟩ := Checksum.length_of_unseal? sealed
  have width : Checksum.width = 2 := rfl
  omega

/-- The packets that events queue: what the ring holds more after each of them than before it. -/
def Log.queued (log : Log geometry) : List Event → List Bytes
  | [] => []
  | event :: later =>
    let after := log.next event
    after.inbound.ring.contents.drop log.inbound.ring.contents.length ++ after.queued later

/-- Reading queues nothing. -/
theorem Log.Truthful.length_contents_read {log : Log geometry} {dropOn : Status}
    (truthful : log.Truthful dropOn reception) (operation : Reading) :
    (log.next (.read operation)).inbound.ring.contents.length ≤ log.inbound.ring.contents.length := by
  have represents := truthful.sound.represents
  have read := (refines_read operation).after_represents represents
  change (log.inbound.ring.after operation.program).contents.length ≤ _
  rw [read.contents_eq, represents.contents_eq, PacketQueue.length_unread, PacketQueue.length_unread]
  exact reception.queue.length_read_le operation

theorem Log.Truthful.length_of_queued {log : Log geometry} {dropOn : Status}
    (truthful : log.Truthful dropOn reception) (events : List Event) :
    ∀ packet ∈ log.queued events, 1 ≤ packet.length ∧ packet.length + 3 ≤ geometry.bytes.slots := by
  induction events generalizing log reception with
  | nil =>
    intro packet found
    cases found
  | cons event later inductionHypothesis =>
    intro packet found
    obtain ⟨after, truthfulAfter⟩ := Log.truthful_next truthful event
    rcases List.mem_append.mp found with now | later
    · cases event with
      | line byte status =>
        obtain ⟨contents, -⟩ := truthful.sound.contents_receive_eq byte status
        change packet ∈ (log.inbound.receive byte status).ring.contents.drop _ at now
        rw [contents, List.drop_left, Option.mem_toList] at now
        exact truthful.sound.length_of_appended now
      | read operation =>
        rw [List.drop_eq_nil_of_le (truthful.length_contents_read operation)] at now
        cases now
    · exact inductionHypothesis truthfulAfter packet later

/-- A frame queues its payload, and reading it queues nothing more. -/
example :
    let log := Log.mk [] (attach (PacketRing.fresh .standard) .framing)
    log.queued ((Frame.encoding [1, 2]).map (.line · .ok) ++ [.read .release]) = [[1, 2]] := by
  decide +kernel

/-- Whatever came from the line and whatever was read, the parts of a receiver agree; and each packet that it
ever queued has a byte at least, and leaves room for its checksum in the ring. -/
theorem agrees_run (geometry : Geometry) (dropOn : Status) (waker : Waker) (events : List Event) :
    ∃ ring, (PacketRing.fresh geometry).split = .ok ring ∧
      let log := Log.mk [] { attach ring dropOn with waker }
      (log.run events).inbound.Agrees ∧
      ∀ packet ∈ log.queued events, 1 ≤ packet.length ∧ packet.length + 3 ≤ geometry.bytes.slots := by
  refine ⟨_, rfl, ?_⟩
  have fresh := Log.truthful_fresh geometry dropOn waker
  obtain ⟨reception, truthful⟩ := Log.truthful_run fresh events
  exact ⟨truthful.sound.agrees, fresh.length_of_queued events⟩

end Inbound

end FramedLine
