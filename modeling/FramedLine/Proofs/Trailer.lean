import FramedLine.Proofs.Inbound.Grammar
import FramedLine.Proofs.Outbound.Admission

/-!
The two bytes behind a payload. A sender puts them there by the long division or piece by piece, and they are
the only ones with which a receiver that folds every byte into its register finds the register clear.
-/

namespace FramedLine

open PacketRing

variable {geometry : Geometry}

namespace Checksum

/-- Two more bytes clear the register if they are the trailer of what came before, and no others do. -/
theorem fold_append_pair_eq_zero (register : UInt16) (data : Bytes) (first second : UInt8) :
    fold register (data ++ [first, second]) = 0 ↔ [first, second] = trailer (fold register data) := by
  rw [fold_append, fold_pair_eq_zero]

/-- What a string with two more bytes seals is the string itself, if it is not empty. -/
theorem unseal?_append_pair (payload : Bytes) (first second : UInt8) :
    unseal? (payload ++ [first, second]) =
      if payload ≠ [] ∧ [first, second] = trailer (ofBytes payload) then some payload else none := by
  have total : (payload ++ [first, second]).length = payload.length + width := List.length_append
  have long : width < (payload ++ [first, second]).length ↔ payload ≠ [] := by
    rw [total, Nat.lt_add_left_iff_pos, List.length_pos_iff]
  have body : (payload ++ [first, second]).length - width = payload.length := by
    rw [total, Nat.add_sub_cancel]
  simp only [unseal?, body, List.take_left, List.drop_left, long]

end Checksum

namespace Inbound

variable {inbound : Inbound geometry} {reception : Reception}

/-- The register of a receiver is that of the bytes that it stored since the packet began. -/
theorem Sound.checksum_eq (sound : Sound inbound reception) :
    inbound.checksum = Checksum.fold Checksum.initial inbound.ring.tentative := by
  rw [sound.checksum, sound.represents.tentative_eq]

/-- The end of a packet appends what is before its last two bytes if these are its trailer. -/
theorem Sound.contents_closePacket (sound : Sound inbound reception) {payload : Bytes}
    {first second : UInt8} (stored : inbound.ring.tentative = payload ++ [first, second]) :
    inbound.closePacket.ring.contents = inbound.ring.contents ++
      if inbound.ring.answer Writer.canCommit = true ∧ payload ≠ [] ∧
        [first, second] = Checksum.trailer (Checksum.ofBytes payload) then [payload] else [] := by
  have closed := closePacket_represents sound.represents sound.checksum
  have slot := (observes_canCommit geometry).answer_eq sound.represents
  rw [sound.represents.tentative_eq] at stored
  have appended := reception.queue.unread_append sound.represents.within
    (reception.queue.closing geometry).toList []
  rw [closed.contents_eq, sound.represents.contents_eq, PacketQueue.close, appended, slot]
  congr 1
  rw [PacketQueue.closing, stored, Checksum.unseal?_append_pair]
  by_cases free : reception.queue.canCommit geometry = true
  · simp only [free, if_true, true_and]
    split <;> rfl
  · rw [if_neg free, if_neg fun fits => free fits.1]
    rfl

end Inbound

namespace Checksum

open Inbound

/-- Both forms of the checksum agree on each string, and the register is clear after a string and two bytes
exactly if these are its trailer. That is what a sender puts behind each payload, whichever way it was
queued, and nothing else is what a receiver accepts. -/
theorem trailer_decides :
    (∀ data, fold initial data = ofBytes data) ∧
    (∀ register data first second,
      fold register (data ++ [first, second]) = 0 ↔ [first, second] = trailer (fold register data)) ∧
    (∀ (geometry : Geometry) (outbound : Outbound geometry) (call : Outbound.Call),
      outbound.Reachable → (call.perform outbound).1 = true →
        ∃ payload, (call.perform outbound).2.ring.contents =
          outbound.ring.contents ++ [payload ++ trailer (ofBytes payload)]) ∧
    ∀ (geometry : Geometry) (dropOn : Status) (waker : Waker) (events : List Event),
      ∃ ring, (PacketRing.fresh geometry).split = .ok ring ∧
        let receiver := ((Log.mk [] { attach ring dropOn with waker }).run events).inbound
        receiver.checksum = fold initial receiver.ring.tentative ∧
        ∀ payload first second, receiver.ring.tentative = payload ++ [first, second] →
          (receiver.checksum = 0 ↔ [first, second] = trailer (ofBytes payload)) ∧
          receiver.closePacket.ring.contents = receiver.ring.contents ++
            if receiver.ring.answer Writer.canCommit = true ∧ payload ≠ [] ∧
              [first, second] = trailer (ofBytes payload) then [payload] else [] := by
  refine ⟨fold_eq_ofBytes, fold_append_pair_eq_zero, ?_, ?_⟩
  · intro geometry outbound call reachable accepted
    obtain ⟨transmission, sound⟩ := reachable.sound
    have drafts : transmission.Drafts transmission.queue.tentative := fun _ => rfl
    exact ⟨_, (sound.queued drafts call accepted).1⟩
  · intro geometry dropOn waker events
    refine ⟨_, rfl, ?_⟩
    obtain ⟨reception, truthful⟩ :=
      Log.truthful_run (Log.truthful_fresh geometry dropOn waker) events
    intro receiver
    have register := truthful.sound.checksum_eq
    refine ⟨register, ?_⟩
    intro payload first second stored
    refine ⟨?_, truthful.sound.contents_closePacket stored⟩
    rw [register, stored, fold_append_pair_eq_zero, fold_eq_ofBytes]

end Checksum

end FramedLine
