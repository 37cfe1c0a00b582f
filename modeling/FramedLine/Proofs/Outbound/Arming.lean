import FramedLine.Proofs.Outbound.Line

/-!
When the transmit notification of a sending direction is armed and masked: a call arms it with the packet
that it queues, and the driver masks it when it leaves no packet.
-/

namespace FramedLine

open PacketRing Stuffing

variable {geometry : Geometry}

namespace Transmission

/-- A call adds a packet to those that wait if it is accepted, and otherwise leaves them alone. -/
theorem packets_perform (geometry : Geometry) (transmission : Transmission) (call : Outbound.Call) :
    ∃ payload, (transmission.perform geometry call).2.queue.packets = transmission.queue.packets ++
      if (transmission.perform geometry call).1 then [Checksum.sealed payload] else [] := by
  have drafts : transmission.Drafts transmission.queue.tentative := fun _ => rfl
  exact ⟨_, (effect_perform geometry drafts call).packets⟩

/-- The driver adds no packet. -/
theorem length_nextByte_le (transmission : Transmission) :
    transmission.nextByte.2.queue.packets.length ≤ transmission.queue.packets.length := by
  have step := transmission.step_nextByte
  generalize transmission.nextByte = result at step ⊢
  obtain ⟨byte, after⟩ := result
  cases step with
  | quiet empty => exact Nat.le_refl _
  | opening present closed => exact Nat.le_refl _
  | body present opened stuffed length behind tentative => exact Nat.le_of_eq length
  | closing present opened done => simp [PacketQueue.release]

end Transmission

namespace Outbound

variable (outbound : Outbound geometry)

theorem armed_publish : outbound.publish.2.armed = (outbound.armed || outbound.publish.1) := by
  simp only [publish]
  split <;> simp [arm]

theorem armed_queue (data : Bytes) :
    (outbound.queue data).2.armed = (outbound.armed || (outbound.queue data).1) := by
  simp only [queue]
  split
  · split
    · exact armed_publish _
    · exact (Bool.or_false _).symm
  · exact (Bool.or_false _).symm

theorem armed_send (data : Bytes) :
    (outbound.send data).2.armed = (outbound.armed || (outbound.send data).1) := by
  have idle : (if outbound.building then outbound.abandon else outbound).armed = outbound.armed := by
    split <;> rfl
  simp only [send]
  generalize (if outbound.building then outbound.abandon else outbound) = start at idle ⊢
  rw [← idle]
  split
  · exact (Bool.or_false _).symm
  split
  · exact (Bool.or_false _).symm
  · exact armed_queue _ _

theorem armed_append (data : Bytes) : (outbound.append data).armed = outbound.armed := by
  simp only [append]
  split
  · rfl
  split
  · rfl
  split <;> rfl

theorem armed_endPacket : outbound.endPacket.2.armed = (outbound.armed || outbound.endPacket.1) := by
  simp only [endPacket]
  split
  · exact (Bool.or_false _).symm
  split
  · exact (Bool.or_false _).symm
  split
  · exact armed_publish _
  · exact (Bool.or_false _).symm

/-- A call arms the notification if it queues a packet, and otherwise leaves it as it is. -/
theorem armed_perform (call : Call) :
    (call.perform outbound).2.armed = (outbound.armed || (call.perform outbound).1) := by
  cases call with
  | send data => exact armed_send _ _
  | beginPacket =>
    simp only [Call.perform, beginPacket, Bool.or_false]
    split <;> rfl
  | append data => exact (armed_append _ _).trans (Bool.or_false _).symm
  | appendByte byte => exact (armed_append _ _).trans (Bool.or_false _).symm
  | appendWord word => exact (armed_append _ _).trans (Bool.or_false _).symm
  | endPacket => exact armed_endPacket _
  | sendDiagnostic report =>
    simp only [Call.perform, sendDiagnostic]
    split
    · exact (Bool.or_false _).symm
    · exact armed_send _ _

variable {outbound} {transmission : Transmission}

/-- The driver masks the notification when it leaves no packet, and does not arm it. -/
theorem Sound.armed_nextByte (sound : Sound outbound transmission) :
    outbound.nextByte.2.armed =
      (outbound.armed && !transmission.nextByte.2.queue.packets.isEmpty) := by
  have present : outbound.ring.answer Reader.hasPacket = !transmission.queue.packets.isEmpty :=
    observes_hasPacket.answer_eq sound.represents
  have unread : outbound.ring.answer Reader.unreadByte? = transmission.queue.front.head? :=
    observes_unreadByte?.answer_eq sound.represents
  unfold Outbound.nextByte
  rw [present, sound.opened]
  by_cases empty : transmission.queue.packets = []
  · rw [Transmission.nextByte_quiet empty, if_pos (by simp [empty])]
    simp [empty]
  rw [if_neg (by simp [empty])]
  cases opened : transmission.opened with
  | false =>
    rw [Transmission.nextByte_opening empty opened]
    simp [empty]
  | true =>
    cases left : transmission.queue.front with
    | nil =>
      have released := refines_release.after_represents sound.represents
      have following : (outbound.ring.after Reader.release).answer Reader.hasPacket =
          !transmission.queue.packets.tail.isEmpty := observes_hasPacket.answer_eq released
      rw [Transmission.nextByte_closing empty opened left, if_neg (by simp), unread, left]
      simp only [List.head?_nil, closeFrame, following, PacketQueue.release]
      cases transmission.queue.packets.tail.isEmpty <;> simp
    | cons byte more =>
      obtain ⟨oldest, rest, found⟩ := List.exists_cons_of_ne_nil empty
      rw [if_neg (by simp), unread, left]
      cases special : needsEscape byte with
      | true =>
        rw [Transmission.nextByte_marker opened left special]
        simp [special, PacketQueue.overwriteUnread, found]
      | false =>
        rw [Transmission.nextByte_plain opened left special]
        simp [special, PacketQueue.takeByte, left, found]

/-- The line asking for a byte adds no packet. -/
theorem Sound.waiting_nextByte_le (sound : Sound outbound transmission) :
    outbound.nextByte.2.waiting ≤ outbound.waiting := by
  rw [sound.waiting_eq, sound.nextByte.2.waiting_eq]
  exact transmission.length_nextByte_le

end Outbound

end FramedLine
