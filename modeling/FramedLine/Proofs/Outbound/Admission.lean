import FramedLine.Proofs.Outbound.Reachable

/-!
Sending is all or nothing. A payload is admitted if there is room for it and its checksum behind what is
still to be read, and then it is the newest packet; whatever queues no packet leaves the packets alone.
-/

namespace FramedLine

open PacketRing

namespace Outbound

variable {geometry : Geometry} {outbound : Outbound geometry} {transmission : Transmission}

/-- What is to be read of the ring is as it was, and so is the notification. -/
structure Unsent (before after : Outbound geometry) : Prop where
  contents : after.ring.contents = before.ring.contents
  consumed : after.ring.consumed = before.ring.consumed
  snapshot : after.ring.answer snapshot = before.ring.answer snapshot
  armed : after.armed = before.armed

/-- No byte of a packet in progress is left, and each byte of the ring that is not to be read is free, but
for the one that always stays free. -/
structure Cleared (outbound : Outbound geometry) : Prop where
  tentative : outbound.ring.tentative = []
  length : outbound.ring.answer Writer.tentativeLength = 0
  free : outbound.ring.answer Writer.freeBytes =
    geometry.bytes.slots - 1 - outbound.ring.contents.flatten.length

/-- A call changes the queue by the packet that it queues and by the packet in progress. -/
theorem queue_of_effect {before after : Transmission} {accepted : Bool} {payload draft : Bytes}
    (effect : before.Effect accepted payload draft after) :
    after.queue = ⟨before.queue.packets ++ (if accepted then [Checksum.sealed payload] else []),
      before.queue.offset, after.queue.tentative⟩ := by
  rw [← effect.packets, ← effect.offset]

/-- A call appends the packet that it queues, and nothing else, to what is to be read. -/
theorem Sound.contents_perform (sound : Sound outbound transmission) {draft : Bytes}
    (drafts : transmission.Drafts draft) (call : Call) :
    (call.perform outbound).2.ring.contents = outbound.ring.contents ++
        (if (call.perform outbound).1 then [Checksum.sealed (call.payload draft)] else []) ∧
      (call.perform outbound).2.ring.consumed = outbound.ring.consumed := by
  obtain ⟨accepted, after⟩ := sound.perform call
  have queue := queue_of_effect (Transmission.effect_perform geometry drafts call)
  rw [after.represents.contents_eq, sound.represents.contents_eq, after.represents.consumed,
    sound.represents.consumed, queue, accepted]
  exact ⟨PacketQueue.unread_append sound.represents.within _ _, rfl⟩

/-- A packet that a call queues is the newest one, and the line is to ask for it. -/
theorem Sound.queued (sound : Sound outbound transmission) {draft : Bytes}
    (drafts : transmission.Drafts draft) (call : Call) (accepted : (call.perform outbound).1 = true) :
    (call.perform outbound).2.ring.contents =
        outbound.ring.contents ++ [Checksum.sealed (call.payload draft)] ∧
      (call.perform outbound).2.ring.consumed = outbound.ring.consumed ∧
      (call.perform outbound).2.armed = true := by
  obtain ⟨contents, consumed⟩ := sound.contents_perform drafts call
  rw [accepted, if_pos rfl] at contents
  refine ⟨contents, consumed, ?_⟩
  rw [outbound.armed_perform, accepted, Bool.or_true]

/-- A call that queues no packet leaves everything as it was but the packet in progress. -/
theorem Sound.unsent (sound : Sound outbound transmission) (call : Call)
    (refused : (call.perform outbound).1 = false) : outbound.Unsent (call.perform outbound).2 := by
  have drafts : transmission.Drafts transmission.queue.tentative := fun _ => rfl
  obtain ⟨contents, consumed⟩ := sound.contents_perform drafts call
  obtain ⟨accepted, after⟩ := sound.perform call
  have queue := queue_of_effect (Transmission.effect_perform geometry drafts call)
  rw [← accepted, refused, if_neg Bool.false_ne_true, List.append_nil] at queue
  rw [refused, if_neg Bool.false_ne_true, List.append_nil] at contents
  have represents := after.represents
  rw [queue] at represents
  refine ⟨contents, consumed, sound.represents.snapshot_eq represents (sound.tail_perform call), ?_⟩
  rw [outbound.armed_perform, refused, Bool.or_false]

/-- Without an open packet there are no bytes of one. -/
theorem Sound.cleared (sound : Sound outbound transmission) (closed : outbound.building = false) :
    outbound.Cleared := by
  have nothing := sound.idle (sound.building.symm.trans closed)
  refine ⟨sound.represents.tentative_eq.trans nothing, ?_, ?_⟩
  · rw [(observes_tentativeLength geometry).answer_eq sound.represents]
    exact congrArg List.length nothing
  · rw [(observes_freeBytes geometry).answer_eq sound.represents, sound.represents.contents_eq,
      PacketQueue.freeBytes, nothing, List.length_nil, Nat.sub_zero]

/-- A payload is admitted if it is not empty and there is room for it, its checksum and its mark. -/
theorem Sound.send_eq_true_iff (sound : Sound outbound transmission) (data : Bytes) :
    (outbound.send data).1 = true ↔ data ≠ [] ∧
      data.length + Checksum.width ≤
        geometry.bytes.slots - 1 - outbound.ring.contents.flatten.length ∧
      outbound.waiting < geometry.marks.slots - 2 := by
  have admitted : (transmission.send geometry data).1 = transmission.abandon.admits geometry data := by
    simp only [Transmission.send]
    split
    next found => exact found.symm
    next refused => exact (Bool.not_eq_true _ ▸ refused).symm
  have free : transmission.abandon.queue.freeBytes geometry =
      geometry.bytes.slots - 1 - outbound.ring.contents.flatten.length := by
    rw [sound.represents.contents_eq]
    rfl
  have slot : transmission.abandon.queue.canCommit geometry =
      decide (outbound.waiting < geometry.marks.slots - 2) := by
    rw [sound.waiting_eq]
    rfl
  rw [(sound.send data).1, admitted, Transmission.admits, free, slot]
  simp [and_assoc]

/-- A payload that is sent at once leaves no packet open. -/
theorem Sound.building_send (sound : Sound outbound transmission) (data : Bytes) :
    (outbound.send data).2.building = false := by
  rw [(sound.send data).2.building, Transmission.send]
  split <;> rfl

theorem Sound.building_endPacket (sound : Sound outbound transmission) :
    outbound.endPacket.2.building = false := by
  rw [sound.endPacket.2.building, Transmission.endPacket]
  split <;> rfl

theorem Sound.building_sendDiagnostic (sound : Sound outbound transmission) {report : Diagnostic}
    {accepted : Bool} (answered : (outbound.sendDiagnostic report).1 = .ok accepted) :
    (outbound.sendDiagnostic report).2.building = false := by
  simp only [Outbound.sendDiagnostic] at answered ⊢
  split at answered
  next => cases answered
  next fits =>
    rw [if_neg fits]
    exact sound.building_send report.toBytes

/-- A report that a ring could never hold leaves the sender alone. -/
theorem sendDiagnostic_error {report : Diagnostic} {failure : Failure}
    (failed : (outbound.sendDiagnostic report).1 = .error failure) :
    (outbound.sendDiagnostic report).2 = outbound := by
  simp only [sendDiagnostic] at failed ⊢
  split at failed
  next short => rw [if_pos short]
  next => cases failed

/-- No call on a sender queues half a packet, or loses a byte of the ring. -/
structure AllOrNothing (outbound : Outbound geometry) : Prop where
  /-- What counts is the room beside the committed packets; an open packet makes way. -/
  admits : ∀ data, (outbound.send data).1 = true ↔ data ≠ [] ∧
    data.length + Checksum.width ≤
      geometry.bytes.slots - 1 - outbound.ring.contents.flatten.length ∧
    outbound.waiting < geometry.marks.slots - 2
  queues : ∀ data, (outbound.send data).1 = true →
    (outbound.send data).2.ring.contents =
        outbound.ring.contents ++ [data ++ Checksum.trailer (Checksum.ofBytes data)] ∧
      (outbound.send data).2.ring.consumed = outbound.ring.consumed ∧
      (outbound.send data).2.armed = true
  unsent : ∀ call : Call, (call.perform outbound).1 = false → outbound.Unsent (call.perform outbound).2
  /-- A packet in progress that is no longer open is gone. -/
  aborted : ∀ call : Call, (call.perform outbound).2.building = false → (call.perform outbound).2.Cleared
  refused : ∀ data, (outbound.send data).1 = false → (outbound.send data).2.Cleared
  unfinished : outbound.endPacket.1 = false → outbound.endPacket.2.Cleared
  unreported : ∀ report, (outbound.sendDiagnostic report).1 = .ok false →
    (outbound.sendDiagnostic report).2.Cleared
  /-- A ring that could never hold a report is left alone. -/
  failed : ∀ report failure, (outbound.sendDiagnostic report).1 = .error failure →
    (outbound.sendDiagnostic report).2 = outbound

theorem Sound.allOrNothing (sound : Sound outbound transmission) : outbound.AllOrNothing where
  admits := sound.send_eq_true_iff
  queues data accepted := by
    have drafts : transmission.Drafts transmission.queue.tentative := fun _ => rfl
    exact sound.queued drafts (.send data) accepted
  unsent := sound.unsent
  aborted call closed := (sound.perform call).2.cleared closed
  refused data _ := (sound.send data).2.cleared (sound.building_send data)
  unfinished _ := sound.endPacket.2.cleared sound.building_endPacket
  unreported report refused :=
    (sound.sendDiagnostic report).2.cleared (sound.building_sendDiagnostic refused)
  failed _ _ := sendDiagnostic_error

/-- Sending is all or nothing in each state that a sender can come to. -/
theorem Reachable.all_or_nothing (reachable : outbound.Reachable) : outbound.AllOrNothing := by
  obtain ⟨transmission, sound⟩ := reachable.sound
  exact sound.allOrNothing

/-- An open packet takes three bytes of a ring of eight, and all the same there is room for five bytes that
are sent at once. -/
theorem all_or_nothing_of_open :
    let geometry : Geometry := ⟨⟨3, by decide, by decide⟩, ⟨2, by decide, by decide⟩⟩
    let outbound := attach { PacketRing.fresh geometry with taken := true }
    let filled := (Call.append [1, 2, 3]).perform (Call.beginPacket.perform outbound).2
    filled.2.building = true ∧ filled.2.ring.answer Writer.freeBytes = 4 ∧
      (filled.2.send [1, 2, 3, 4, 5]).1 = true ∧ filled.2.AllOrNothing := by
  intro geometry outbound filled
  have reachable : outbound.Reachable := .attach rfl
  exact ⟨by decide +kernel, by decide +kernel, by decide +kernel,
    Reachable.all_or_nothing ((reachable.call _).call _)⟩

end Outbound

end FramedLine
