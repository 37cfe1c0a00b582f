import FramedLine.Proofs.Outbound.Arming

/-!
Everything that a sender has still to put on the line. Each call of the driver takes the first byte of it,
also a call that masks a byte in its place and leaves as many bytes in the ring as before, so that its
length measures how far the line is from running dry.
-/

namespace FramedLine

open PacketRing Stuffing

variable {geometry : Geometry}

namespace Transmission

/-- What is still to be sent: the rest of the oldest packet, and each packet behind it with its closing
delimiter. -/
def pending (transmission : Transmission) : Bytes :=
  transmission.rest ++
    transmission.queue.packets.tail.flatMap fun packet => stuffAll packet ++ [Stuffing.start]

variable {transmission after : Transmission} {byte : Option UInt8}

theorem pending_of_empty (empty : transmission.queue.packets = []) : transmission.pending = [] := by
  rw [pending, rest_of_empty empty, empty]
  rfl

/-- What is pending once the oldest packet is released. -/
theorem pending_release (transmission : Transmission) :
    pending { transmission with
      queue := transmission.queue.release
      opened := !transmission.queue.packets.tail.isEmpty } =
        transmission.queue.packets.tail.flatMap fun packet => stuffAll packet ++ [Stuffing.start] := by
  cases behind : transmission.queue.packets.tail with
  | nil => exact pending_of_empty behind
  | cons packet others =>
    have packets : transmission.queue.release.packets = packet :: others := behind
    have present : transmission.queue.release.packets ≠ [] := by
      rw [packets]
      exact List.cons_ne_nil _ _
    have front : transmission.queue.release.front = packet := PacketQueue.front_of_cons packets
    rw [pending, rest_of_opened present rfl]
    simp only [front, packets, List.tail_cons, List.flatMap_cons]

/-- A call of the driver takes the first byte of what is pending. -/
theorem Step.pending_eq (step : transmission.Step byte after) :
    transmission.pending = byte.toList ++ after.pending := by
  obtain ⟨first, rest⟩ := step.rest_eq
  by_cases last : transmission.rest = [Stuffing.start]
  · rw [if_pos last] at rest
    rw [last] at first
    rw [rest, pending_release, pending, last, first]
    rfl
  · rw [if_neg last] at rest
    obtain ⟨rest, -, behind⟩ := rest
    rw [pending, pending, rest, behind, List.append_assoc]

/-- The line runs dry when there is no packet, and not before. -/
theorem Step.dry (step : transmission.Step none after) : after.queue.packets = [] := by
  cases step with
  | quiet empty => exact empty

theorem length_behind_le (packets : List Bytes) :
    (packets.flatMap fun packet => stuffAll packet ++ [Stuffing.start]).length ≤
      2 * packets.flatten.length + packets.length := by
  induction packets with
  | nil => exact Nat.le_refl _
  | cons packet others inductionHypothesis =>
    have stuffed := Frame.length_stuffAll_le packet
    simp only [List.flatMap_cons, List.flatten_cons, List.length_append, List.length_cons,
      List.length_nil]
    omega

/-- A byte may be stuffed, and each packet has its delimiter, beside the one that opens the first. -/
theorem length_pending_le (transmission : Transmission) :
    transmission.pending.length ≤
      2 * transmission.queue.unread.flatten.length + transmission.queue.packets.length + 1 := by
  cases found : transmission.queue.packets with
  | nil =>
    rw [pending_of_empty found]
    exact Nat.zero_le _
  | cons oldest others =>
    have front := Frame.length_stuffAll_le transmission.queue.front
    have behind := length_behind_le others
    have unread : transmission.queue.unread = transmission.queue.front :: others := by
      rw [PacketQueue.front_of_cons found, PacketQueue.unread, found]
    have present : transmission.queue.packets ≠ [] := by
      rw [found]
      exact List.cons_ne_nil _ _
    have rest : transmission.rest.length ≤ 2 + (stuffAll transmission.queue.front).length := by
      cases opened : transmission.opened with
      | true =>
        rw [rest_of_opened present opened, List.length_append, List.length_singleton]
        omega
      | false =>
        rw [rest_of_closed present opened, List.length_cons, List.length_append, List.length_singleton]
        omega
    rw [pending, unread, found]
    simp only [List.length_append, List.tail_cons, List.flatten_cons, List.length_cons]
    omega

end Transmission

namespace Outbound

variable {outbound : Outbound geometry} {transmission : Transmission}

/-- A line that runs dry leaves no packet, and the notification masked. -/
theorem Sound.dry (sound : Sound outbound transmission) (dry : outbound.nextByte.1 = none) :
    outbound.nextByte.2.waiting = 0 ∧ outbound.nextByte.2.armed = false := by
  obtain ⟨same, behind⟩ := sound.nextByte
  have step := transmission.step_nextByte
  rw [← same, dry] at step
  have empty := step.dry
  rw [behind.waiting_eq, sound.armed_nextByte, empty]
  exact ⟨rfl, Bool.and_false _⟩

/-- A driver whose notification is armed masks it with the last byte of the last packet. -/
theorem Sound.masked (sound : Sound outbound transmission) (armed : outbound.armed = true)
    (masked : outbound.nextByte.2.armed = false) : outbound.nextByte.2.waiting = 0 := by
  rw [sound.armed_nextByte, armed] at masked
  rw [sound.nextByte.2.waiting_eq, List.length_eq_zero_iff]
  simpa using masked

theorem Sound.pending_nextByte (sound : Sound outbound transmission) :
    transmission.pending = outbound.nextByte.1.toList ++ transmission.nextByte.2.pending := by
  rw [sound.nextByte.1]
  exact transmission.step_nextByte.pending_eq

section Stretches

variable {after : Outbound geometry}

/-- A line that has run dry stays dry. -/
theorem nextByte_of_dry (dry : outbound.nextByte = (none, after)) : after.nextByte = (none, after) := by
  simp only [nextByte] at dry
  split at dry
  next empty =>
    obtain rfl := (Prod.mk.inj dry).2
    simp only [nextByte, if_pos empty]
  next =>
    split at dry
    · cases dry
    split at dry
    · cases dry
    · split at dry <;> cases dry

theorem takeLine_of_dry (dry : outbound.nextByte = (none, outbound)) (limit : Nat) :
    (outbound.takeLine limit).1.bytes = [] ∧ (outbound.takeLine limit).2 = outbound := by
  cases limit with
  | zero => exact ⟨rfl, rfl⟩
  | succ limit =>
    rw [takeLine, dry]
    exact ⟨rfl, rfl⟩

/-- Taking bytes in two stretches is taking them in one. -/
theorem takeLine_add (outbound : Outbound geometry) (first second : Nat) :
    (outbound.takeLine (first + second)).1.bytes = (outbound.takeLine first).1.bytes ++
        ((outbound.takeLine first).2.takeLine second).1.bytes ∧
      (outbound.takeLine (first + second)).2 = ((outbound.takeLine first).2.takeLine second).2 := by
  induction first generalizing outbound with
  | zero =>
    rw [Nat.zero_add]
    exact ⟨rfl, rfl⟩
  | succ first inductionHypothesis =>
    rw [Nat.succ_add, takeLine, takeLine]
    rcases next : outbound.nextByte with ⟨byte, after⟩
    cases byte with
    | none =>
      obtain ⟨nothing, same⟩ := takeLine_of_dry (nextByte_of_dry next) second
      exact ⟨nothing.symm, same.symm⟩
    | some byte =>
      obtain ⟨bytes, final⟩ := inductionHypothesis after
      exact ⟨congrArg (byte :: ·) bytes, final⟩

end Stretches

end Outbound

end FramedLine
