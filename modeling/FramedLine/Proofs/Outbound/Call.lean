import FramedLine.Proofs.Outbound.Driver

/-!
The calls of an application to a sender as data, and what they queue. A call either queues the payload
that it was given, or that was appended since the last packet was begun, or it queues nothing.
-/

namespace FramedLine

open PacketRing

namespace Outbound

/-- A call of the application. -/
inductive Call where
  | send (data : Bytes)
  | beginPacket
  | append (data : Bytes)
  | appendByte (byte : UInt8)
  | appendWord (word : UInt16)
  | endPacket
  | sendDiagnostic (report : Diagnostic)
  deriving DecidableEq

namespace Call

/-- What was appended since the last packet was begun, after a call. -/
def draft (before : Bytes) : Call → Bytes
  | beginPacket => []
  | append data => before ++ data
  | appendByte byte => before ++ [byte]
  | appendWord word => before ++ [(word >>> 8).toUInt8, word.toUInt8]
  | _ => before

/-- The payload that a call queues, if it queues one. -/
def payload (before : Bytes) : Call → Bytes
  | send data => data
  | sendDiagnostic report => report.toBytes
  | _ => before

variable {geometry : Geometry}

/-- Makes a call. The answer tells whether it queued a packet. -/
def perform (outbound : Outbound geometry) : Call → Bool × Outbound geometry
  | send data => outbound.send data
  | beginPacket => (false, outbound.beginPacket)
  | append data => (false, outbound.append data)
  | appendByte byte => (false, outbound.appendByte byte)
  | appendWord word => (false, outbound.appendWord word)
  | endPacket => outbound.endPacket
  | sendDiagnostic report =>
    let (result, after) := outbound.sendDiagnostic report
    (result.toOption.getD false, after)

end Call

end Outbound

namespace Transmission

open Outbound (Call)

def perform (geometry : Geometry) (transmission : Transmission) : Call → Bool × Transmission
  | .send data => transmission.send geometry data
  | .beginPacket => (false, transmission.beginPacket geometry)
  | .append data => (false, transmission.append geometry data)
  | .appendByte byte => (false, transmission.append geometry [byte])
  | .appendWord word =>
    (false, transmission.append geometry [(word >>> 8).toUInt8, word.toUInt8])
  | .endPacket => transmission.endPacket
  | .sendDiagnostic report =>
    let (result, after) := transmission.sendDiagnostic geometry report
    (result.toOption.getD false, after)

/-- The open packet holds what was appended since it was begun. -/
def Drafts (transmission : Transmission) (draft : Bytes) : Prop :=
  transmission.building = true → transmission.queue.tentative = draft

/-- What a call leaves when it answers `accepted`: one packet more, or none. -/
structure Effect (before : Transmission) (accepted : Bool) (payload draft : Bytes)
    (after : Transmission) : Prop where
  packets : after.queue.packets =
    before.queue.packets ++ if accepted then [Checksum.sealed payload] else []
  offset : after.queue.offset = before.queue.offset
  opened : after.opened = before.opened
  drafts : after.Drafts draft
  filled : accepted = true → payload ≠ []

variable {geometry : Geometry} {transmission : Transmission} {draft : Bytes}

theorem effect_abandon (before : Transmission) (payload draft : Bytes) :
    before.Effect false payload draft before.abandon where
  packets := (List.append_nil _).symm
  offset := rfl
  opened := rfl
  drafts active := by cases active
  filled accepted := by cases accepted

theorem effect_send (data : Bytes) :
    transmission.Effect (transmission.send geometry data).1 data draft
      (transmission.send geometry data).2 := by
  simp only [send]
  split
  next admitted =>
    exact {
      packets := rfl
      offset := rfl
      opened := rfl
      drafts := fun active => by cases active
      filled := fun _ empty => by simp [admits, empty] at admitted }
  next => exact effect_abandon _ _ _

theorem effect_append (drafts : transmission.Drafts draft) (data : Bytes) :
    transmission.Effect false draft (draft ++ data) (transmission.append geometry data) := by
  unfold append
  split
  next closed =>
    exact {
      packets := (List.append_nil _).symm
      offset := rfl
      opened := rfl
      drafts := fun active => by simp [active] at closed
      filled := fun accepted => by cases accepted }
  split
  next =>
    exact {
      packets := (List.append_nil _).symm
      offset := rfl
      opened := rfl
      drafts := fun active => congrArg (· ++ data) (drafts active)
      filled := fun accepted => by cases accepted }
  next => exact effect_abandon _ _ _

/-- Each call queues its payload or leaves the packets as they are. -/
theorem effect_perform (geometry : Geometry) (drafts : transmission.Drafts draft) (call : Call) :
    transmission.Effect (transmission.perform geometry call).1 (call.payload draft) (call.draft draft)
      (transmission.perform geometry call).2 := by
  cases call with
  | send data => exact effect_send data
  | beginPacket =>
    exact {
      packets := (List.append_nil _).symm
      offset := rfl
      opened := rfl
      drafts := fun _ => rfl
      filled := fun accepted => by cases accepted }
  | append data => exact effect_append drafts data
  | appendByte byte => exact effect_append drafts [byte]
  | appendWord word => exact effect_append drafts _
  | endPacket =>
    simp only [perform, endPacket]
    split
    next filled =>
      obtain ⟨active, filled⟩ := (Bool.and_eq_true _ _).mp filled
      have content := drafts active
      exact {
        packets := by rw [← content]; rfl
        offset := rfl
        opened := rfl
        drafts := fun active => by cases active
        filled := fun _ empty => by simp [content.trans empty] at filled }
    next => exact effect_abandon _ _ _
  | sendDiagnostic report =>
    simp only [perform, sendDiagnostic]
    split
    · exact {
        packets := (List.append_nil _).symm
        offset := rfl
        opened := rfl
        drafts := drafts
        filled := fun accepted => by cases accepted }
    · exact effect_send report.toBytes

end Transmission

namespace Outbound

variable {geometry : Geometry} {outbound : Outbound geometry} {transmission : Transmission}

/-- The sender over a ring makes each call as the sender over the queue does. -/
theorem Sound.perform (sound : Sound outbound transmission) (call : Call) :
    (call.perform outbound).1 = (transmission.perform geometry call).1 ∧
      Sound (call.perform outbound).2 (transmission.perform geometry call).2 := by
  cases call with
  | send data => exact sound.send data
  | beginPacket => exact ⟨rfl, sound.beginPacket⟩
  | append data => exact ⟨rfl, sound.append data⟩
  | appendByte byte => exact ⟨rfl, sound.append [byte]⟩
  | appendWord word => exact ⟨rfl, sound.append _⟩
  | endPacket => exact sound.endPacket
  | sendDiagnostic report =>
    obtain ⟨same, after⟩ := sound.sendDiagnostic report
    exact ⟨congrArg (·.toOption.getD false) same, after⟩

end Outbound

end FramedLine
