import FramedLine.Proofs.Outbound.Pieces

/-!
A packet that is built in pieces never fails late. What it takes to close the packet is looked for when it
is begun and at each piece, and neither the pieces that follow nor the driver take it away again.
-/

namespace FramedLine

open PacketRing

variable {geometry : Geometry}

/-- The driver neither opens a packet nor drops one. -/
theorem Transmission.Step.building {transmission after : Transmission} {byte : Option UInt8}
    (step : transmission.Step byte after) : after.building = transmission.building := by
  cases step with
  | quiet empty => rfl
  | opening present closed => rfl
  | body present opened stuffed length behind tentative => rfl
  | closing present opened done => rfl

namespace Outbound

variable {outbound : Outbound geometry} {transmission : Transmission}

/-- Pieces, and the end of a packet, are without effect. -/
structure Inert (outbound : Outbound geometry) : Prop where
  add : ∀ piece, outbound.add piece = outbound
  endPacket : outbound.endPacket = (false, outbound)

theorem append_closed (closed : outbound.building = false) (data : Bytes) :
    outbound.append data = outbound := by
  rw [append, closed]
  rfl

theorem inert_of_closed (closed : outbound.building = false) : outbound.Inert where
  add piece := by
    cases piece with
    | byte value => exact append_closed closed _
    | word value => exact append_closed closed _
    | slice data => exact append_closed closed data
  endPacket := by
    rw [Outbound.endPacket, closed]
    rfl

theorem Sound.building_nextByte (sound : Sound outbound transmission) :
    outbound.nextByte.2.building = outbound.building := by
  rw [sound.nextByte.2.building, transmission.step_nextByte.building, sound.building]

theorem Sound.building_beginPacket (sound : Sound outbound transmission) :
    outbound.beginPacket.building = outbound.ring.answer Writer.canCommit := by
  rw [sound.beginPacket.building, (observes_canCommit geometry).answer_eq sound.represents]
  rfl

/-- Of all calls, only the beginning of a packet opens one, and only with a slot for it. -/
theorem Sound.building_perform (sound : Sound outbound transmission)
    (closed : outbound.building = false) (call : Call)
    (unbegun : call = .beginPacket → outbound.ring.answer Writer.canCommit = false) :
    (call.perform outbound).2.building = false := by
  have inert := inert_of_closed closed
  cases call with
  | send data => exact sound.building_send data
  | beginPacket => exact sound.building_beginPacket.trans (unbegun rfl)
  | append data => exact (congrArg Outbound.building (inert.add (.slice data))).trans closed
  | appendByte byte => exact (congrArg Outbound.building (inert.add (.byte byte))).trans closed
  | appendWord word => exact (congrArg Outbound.building (inert.add (.word word))).trans closed
  | endPacket => exact sound.building_endPacket
  | sendDiagnostic report =>
    cases answer : (outbound.sendDiagnostic report).1 with
    | ok accepted => exact sound.building_sendDiagnostic answer
    | error failure => exact (congrArg Outbound.building (sendDiagnostic_error answer)).trans closed

/-- A piece that fits with the checksum goes to the open packet, and one that does not drops it. -/
theorem Sound.add_open (sound : Sound outbound transmission) (active : outbound.building = true)
    (piece : Piece) :
    if piece.bytes.length + Checksum.width ≤ outbound.ring.answer Writer.freeBytes then
      (outbound.add piece).building = true ∧
        (outbound.add piece).ring.tentative = outbound.ring.tentative ++ piece.bytes
    else
      (outbound.add piece).building = false ∧ (outbound.add piece).Cleared := by
  have behind := sound.add piece
  rw [Transmission.append, if_neg (by simp [← sound.building, active])] at behind
  rw [(observes_freeBytes geometry).answer_eq sound.represents]
  split
  next fits =>
    rw [if_pos fits] at behind
    refine ⟨behind.building.trans (sound.building.symm.trans active), ?_⟩
    rw [behind.represents.tentative_eq, sound.represents.tentative_eq]
  next full =>
    rw [if_neg full] at behind
    exact ⟨behind.building, behind.cleared behind.building⟩

namespace Record

variable {record : Record geometry}

/-- No packet that is begun in the course of some actions finds a slot. -/
def Unbegun (record : Record geometry) (actions : List Action) : Prop :=
  ∀ before after, actions = before ++ .call .beginPacket :: after →
    (record.run before).outbound.ring.answer Writer.canCommit = false

theorem Unbegun.later {action : Action} {actions : List Action}
    (unbegun : record.Unbegun (action :: actions)) : (record.next action).Unbegun actions := by
  rintro before after rfl
  exact unbegun (action :: before) after rfl

/-- A sender without an open packet stays so until a packet is begun that finds a slot. -/
theorem Matches.closed_run (truthful : record.Matches transmission) {actions : List Action}
    (unbegun : record.Unbegun actions) (closed : record.outbound.building = false) :
    (record.run actions).outbound.building = false := by
  induction actions generalizing record transmission with
  | nil => exact closed
  | cons action later inductionHypothesis =>
    cases action with
    | call call =>
      apply inductionHypothesis (truthful.call call) unbegun.later
      apply truthful.sound.building_perform closed
      rintro rfl
      exact unbegun [] later rfl
    | nextByte =>
      apply inductionHypothesis truthful.nextByte unbegun.later
      exact truthful.sound.building_nextByte.trans closed

/-- What can be relied on when a packet is built in pieces. -/
structure Builds (record : Record geometry) : Prop where
  /-- A packet is begun if there is a slot for it, and it is empty. -/
  begins : record.outbound.beginPacket.building = record.outbound.ring.answer Writer.canCommit ∧
    record.outbound.beginPacket.ring.tentative = []
  adds : record.outbound.building = true → ∀ piece : Piece,
    if piece.bytes.length + Checksum.width ≤ record.outbound.ring.answer Writer.freeBytes then
      (record.outbound.add piece).building = true ∧
        (record.outbound.add piece).ring.tentative = record.outbound.ring.tentative ++ piece.bytes
    else
      (record.outbound.add piece).building = false ∧ (record.outbound.add piece).Cleared
  /-- An open packet that something was appended to can be closed. -/
  ends : record.outbound.endPacket.1 = (record.outbound.building && !record.draft.isEmpty)
  queues : record.outbound.endPacket.1 = true →
    record.outbound.endPacket.2.ring.contents = record.outbound.ring.contents ++
        [record.draft ++ Checksum.trailer (Checksum.ofBytes record.draft)] ∧
      record.outbound.endPacket.2.ring.consumed = record.outbound.ring.consumed ∧
      record.outbound.endPacket.2.armed = true
  unsent : record.outbound.endPacket.1 = false → record.outbound.Unsent record.outbound.endPacket.2
  /-- A packet is no longer open once it was closed, or once another one was sent at once. -/
  closes : record.outbound.endPacket.2.building = false ∧
    (∀ data, (record.outbound.send data).2.building = false) ∧
    ∀ report accepted, (record.outbound.sendDiagnostic report).1 = .ok accepted →
      (record.outbound.sendDiagnostic report).2.building = false
  inert : record.outbound.building = false → record.outbound.Inert
  lasts : record.outbound.building = false → ∀ later, record.Unbegun later →
    (record.run later).outbound.building = false
  idle : record.outbound.building = false → record.outbound.ring.tentative = []
  slot : record.outbound.building = true → record.outbound.ring.answer Writer.canCommit = true
  holds : record.outbound.building = true → record.outbound.ring.tentative = record.draft
  checksum : record.outbound.building = true → record.outbound.checksum =
    Checksum.fold Checksum.initial record.outbound.ring.tentative
  room : record.outbound.ring.tentative ≠ [] →
    Checksum.width ≤ record.outbound.ring.answer Writer.freeBytes

theorem Matches.builds (truthful : record.Matches transmission) : record.Builds := by
  have sound := truthful.sound
  have content := sound.represents.tentative_eq
  have drafts : record.outbound.building = true → transmission.queue.tentative = record.draft :=
    fun active => truthful.drafts (sound.building.symm.trans active)
  have ends : record.outbound.endPacket.1 = (record.outbound.building && !record.draft.isEmpty) := by
    rw [sound.endPacket.1, Transmission.endPacket, sound.building]
    cases active : transmission.building with
    | false => rfl
    | true =>
      rw [truthful.drafts active]
      cases record.draft.isEmpty <;> rfl
  exact {
    begins := ⟨sound.building_beginPacket, sound.beginPacket.represents.tentative_eq⟩
    adds := sound.add_open
    ends
    queues := sound.queued truthful.drafts .endPacket
    unsent := sound.unsent .endPacket
    closes := ⟨sound.building_endPacket, sound.building_send,
      fun _ _ answered => sound.building_sendDiagnostic answered⟩
    inert := inert_of_closed
    lasts := fun closed later unbegun => truthful.closed_run unbegun closed
    idle := fun closed => content.trans (sound.idle (sound.building.symm.trans closed))
    slot := fun active => ((observes_canCommit geometry).answer_eq sound.represents).trans
      (sound.slot (sound.building.symm.trans active))
    holds := fun active => content.trans (drafts active)
    checksum := fun active => by
      rw [content]
      exact sound.checksum (sound.building.symm.trans active)
    room := fun filled => by
      rw [content] at filled
      rw [(observes_freeBytes geometry).answer_eq sound.represents]
      exact sound.room filled }

end Record

/-- Whatever the application and the line did, a packet that is open can be closed, and one that is not
open stays away until it is begun again. -/
theorem never_fails_late (geometry : Geometry) (actions : List Action) :
    ∃ ring, (PacketRing.fresh geometry).split = .ok ring ∧
      let record := (Record.mk (attach ring) [] [] [] []).run actions
      record.Builds ∧
      (Action.call .beginPacket ∉ actions → record.outbound.building = false) := by
  have fresh := Record.matches_fresh geometry
  obtain ⟨transmission, truthful⟩ := fresh.run actions
  refine ⟨_, rfl, truthful.builds, ?_⟩
  intro never
  apply fresh.closed_run _ rfl
  rintro before after rfl
  exact absurd (List.mem_append_right before (List.mem_cons_self)) never

end Outbound

end FramedLine
