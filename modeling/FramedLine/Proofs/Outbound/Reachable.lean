import FramedLine.Proofs.Outbound.Arming
import FramedLine.Proofs.PacketRing.Snapshot

/-!
The states that a sending direction can come to, and what a call of the application does to the memory of
its ring: it only writes, so that the reader's end of the ring stays where it is.
-/

namespace FramedLine

open PacketRing

namespace Outbound

variable {geometry : Geometry} {outbound : Outbound geometry} {transmission : Transmission}

/-- The senders that can come about over a fresh ring. The application makes calls and the driver of the
line takes bytes; whoever else has the reading end reads, and anyone masks the notification and unmasks
it. -/
inductive Reachable : Outbound geometry → Prop where
  | attach {ring : PacketRing geometry} (handed : (PacketRing.fresh geometry).split = .ok ring) :
    Reachable (attach ring)
  | call {outbound : Outbound geometry} (reachable : Reachable outbound) (call : Call) :
    Reachable (call.perform outbound).2
  | nextByte {outbound : Outbound geometry} (reachable : Reachable outbound) :
    Reachable outbound.nextByte.2
  | read {outbound : Outbound geometry} (reachable : Reachable outbound) (operation : Reading) :
    Reachable { outbound with ring := outbound.ring.after operation.program }
  | notify {outbound : Outbound geometry} (reachable : Reachable outbound) (armed : Bool) :
    Reachable { outbound with armed }

theorem Reachable.sound (reachable : Reachable outbound) :
    ∃ transmission, Sound outbound transmission := by
  induction reachable with
  | attach handed =>
    obtain rfl := Except.ok.inj handed
    exact ⟨_, sound_attach geometry true⟩
  | call reachable call inductionHypothesis =>
    obtain ⟨transmission, sound⟩ := inductionHypothesis
    exact ⟨_, (sound.perform call).2⟩
  | nextByte reachable inductionHypothesis =>
    obtain ⟨transmission, sound⟩ := inductionHypothesis
    exact ⟨_, sound.nextByte.2⟩
  | @read outbound reachable operation inductionHypothesis =>
    obtain ⟨transmission, sound⟩ := inductionHypothesis
    have represents := (refines_read operation).after_represents sound.represents
    exact ⟨_, sound.read operation represents outbound.armed outbound.opened⟩
  | notify reachable armed inductionHypothesis =>
    obtain ⟨transmission, sound⟩ := inductionHypothesis
    exact ⟨transmission, { sound with }⟩

section Writing

variable {property : PacketRing geometry → Prop}
  (keeps : ∀ (ring : PacketRing geometry) (operation : Writing), property ring →
    property (ring.after operation.program))
include keeps

theorem discard_keeps {ring : PacketRing geometry} (holds : property ring) :
    property (ring.after Writer.discard) := by
  have kept := keeps ring .discard holds
  rw [Writing.program, after_map] at kept
  exact kept

theorem pushAll_keeps {ring : PacketRing geometry} (holds : property ring) (data : Bytes) :
    property (ring.after (Writer.pushAll data)) := by
  have kept := keeps ring (.pushAll data) holds
  rw [Writing.program, after_map] at kept
  exact kept

theorem publish_keeps (holds : property outbound.ring) : property outbound.publish.2.ring := by
  have kept := keeps _ .commit holds
  rw [Writing.program, after_map] at kept
  simp only [publish]
  split <;> exact kept

theorem send_keeps (holds : property outbound.ring) (data : Bytes) :
    property (outbound.send data).2.ring := by
  have idle : property (if outbound.building then outbound.abandon else outbound).ring := by
    split
    · exact discard_keeps keeps holds
    · exact holds
  have filled := pushAll_keeps keeps idle data
  have sealed := pushAll_keeps keeps filled (Checksum.trailer (Checksum.ofBytes data))
  simp only [send]
  generalize (if outbound.building then outbound.abandon else outbound) = start at idle filled sealed ⊢
  split
  · exact idle
  split
  · exact idle
  simp only [queue]
  split
  · split
    · exact publish_keeps keeps sealed
    · exact discard_keeps keeps sealed
  · exact discard_keeps keeps filled

theorem append_keeps (holds : property outbound.ring) (data : Bytes) :
    property (outbound.append data).ring := by
  have filled := pushAll_keeps keeps holds data
  simp only [append]
  split
  · exact holds
  split
  · exact discard_keeps keeps holds
  split
  · exact filled
  · exact discard_keeps keeps filled

theorem endPacket_keeps (holds : property outbound.ring) : property outbound.endPacket.2.ring := by
  have sealed := pushAll_keeps keeps holds (Checksum.trailer outbound.checksum)
  simp only [endPacket]
  split
  · exact holds
  split
  · exact discard_keeps keeps holds
  split
  · exact publish_keeps keeps sealed
  · exact discard_keeps keeps sealed

/-- A call changes the ring only as a writer. -/
theorem perform_keeps (holds : property outbound.ring) (call : Call) :
    property (call.perform outbound).2.ring := by
  cases call with
  | send data => exact send_keeps keeps holds data
  | beginPacket =>
    simp only [Call.perform, beginPacket]
    split <;> exact discard_keeps keeps holds
  | append data => exact append_keeps keeps holds data
  | appendByte byte => exact append_keeps keeps holds [byte]
  | appendWord word => exact append_keeps keeps holds _
  | endPacket => exact endPacket_keeps keeps holds
  | sendDiagnostic report =>
    simp only [Call.perform, sendDiagnostic]
    split
    · exact holds
    · exact send_keeps keeps holds _

end Writing

/-- A call does not move the tail of the ring. -/
theorem Sound.tail_perform (sound : Sound outbound transmission) (call : Call) :
    (call.perform outbound).2.ring.tail = outbound.ring.tail :=
  (perform_keeps (tail_keeps _) ⟨⟨_, sound.represents⟩, rfl⟩ call).2

end Outbound

end FramedLine
