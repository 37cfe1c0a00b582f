import FramedLine.Proofs.Inbound.RoundTrip

/-!
Whom a receiver wakes. A task that asked for it is woken once by each packet that is committed and by nothing
else that comes from the line; and whether a task asked makes no difference to the packets.
-/

namespace FramedLine

open PacketRing Stuffing

variable {geometry : Geometry}

namespace Waker

/-- Wakes a number of times. -/
def wakeTimes (waker : Waker) (count : Nat) : Waker :=
  if waker.registered then { waker with woken := waker.woken + count } else waker

variable (waker : Waker)

@[simp] theorem wakeTimes_zero : waker.wakeTimes 0 = waker := by
  rw [wakeTimes]
  split <;> rfl

@[simp] theorem wakeTimes_one : waker.wakeTimes 1 = waker.wake := rfl

theorem wakeTimes_add (first second : Nat) :
    waker.wakeTimes (first + second) = (waker.wakeTimes first).wakeTimes second := by
  obtain ⟨registered, woken⟩ := waker
  cases registered with
  | false => rfl
  | true => exact congrArg (Waker.mk true) (Nat.add_assoc woken first second).symm

theorem registered_wakeTimes (count : Nat) : (waker.wakeTimes count).registered = waker.registered := by
  rw [wakeTimes]
  split <;> rfl

end Waker

namespace Inbound

variable {inbound : Inbound geometry} {reception : Reception}

theorem start_of_feed {decoder after : Decoder} {byte : UInt8}
    (fed : decoder.feed byte = (.start, after)) : byte = Stuffing.start := by
  unfold Decoder.feed at fed
  split at fed
  next delimiter => exact delimiter
  next =>
    repeat' split at fed
    all_goals cases fed

/-- What does not end a packet wakes nobody. -/
theorem waker_receive_of_ne (inbound : Inbound geometry) {byte : UInt8} (other : byte ≠ Stuffing.start)
    (status : Status) : (inbound.receive byte status).waker = inbound.waker := by
  unfold receive
  split
  · rfl
  split
  · rfl
  rcases fed : inbound.decoder.feed byte with ⟨token, decoder⟩
  cases token with
  | start => exact absurd (start_of_feed fed) other
  | reset => rfl
  | pending => rfl
  | data value =>
    simp only [store]
    split <;> rfl

/-- A byte from the line wakes the task that waits if it appends a packet. -/
theorem Sound.waker_receive (sound : Sound inbound reception) (byte : UInt8) (status : Status) :
    (inbound.receive byte status).waker =
      inbound.waker.wakeTimes
        (reception.appended geometry inbound.dropOn byte status).toList.length := by
  unfold Reception.appended
  by_cases closes : byte = Stuffing.start ∧ status.intersects inbound.dropOn = false
  · obtain ⟨rfl, clean⟩ := closes
    obtain ⟨ring, -, closed⟩ := @closePacket_eq _ { inbound with decoder := ⟨false⟩ } _
      sound.represents sound.checksum
    rw [if_pos ⟨rfl, clean⟩, Inbound.receive, clean, if_neg Bool.false_ne_true,
      if_neg fun noise => noise.1 rfl, sound.decoder, Decoder.feed_start]
    dsimp only
    rw [closed]
    cases reception.queue.closing geometry with
    | none => exact inbound.waker.wakeTimes_zero.symm
    | some packet => exact inbound.waker.wakeTimes_one.symm
  · rw [if_neg closes, Option.toList_none, List.length_nil, Waker.wakeTimes_zero]
    by_cases delimiter : byte = Stuffing.start
    · have spoiled : status.intersects inbound.dropOn = true :=
        Bool.not_eq_false _ ▸ fun clean => closes ⟨delimiter, clean⟩
      rw [Inbound.receive, if_pos spoiled]
      rfl
    · exact inbound.waker_receive_of_ne delimiter status

/-- The packets that a line appends to the ring, with what it leaves of the rest. -/
structure Appends (before after : Inbound geometry) (added : List Bytes) : Prop where
  contents : after.ring.contents = before.ring.contents ++ added
  consumed : after.ring.consumed = before.ring.consumed
  waker : after.waker = before.waker.wakeTimes added.length

/-- A line appends packets, and wakes as often as it appends one. -/
theorem Sound.receiveLine_appends (sound : Sound inbound reception) (line : List (UInt8 × Status)) :
    ∃ added tentative,
      (reception.receiveLine geometry inbound.dropOn line).queue =
        { reception.queue with packets := reception.queue.packets ++ added, tentative } ∧
      Appends inbound (inbound.receiveLine line) added := by
  induction line generalizing inbound reception with
  | nil =>
    refine ⟨[], reception.queue.tentative, by rw [List.append_nil]; rfl, ?_⟩
    exact ⟨(List.append_nil _).symm, rfl, inbound.waker.wakeTimes_zero.symm⟩
  | cons arrival later inductionHypothesis =>
    obtain ⟨started, first⟩ := reception.receive_queue geometry inbound.dropOn arrival.1 arrival.2
    obtain ⟨contents, consumed⟩ := sound.contents_receive_eq arrival.1 arrival.2
    have waker := sound.waker_receive arrival.1 arrival.2
    obtain ⟨added, tentative, queue, appends⟩ :=
      inductionHypothesis (sound.receive arrival.1 arrival.2)
    rw [first, receive_dropOn, List.append_assoc] at queue
    refine ⟨_, tentative, queue, ?_, appends.consumed.trans consumed, ?_⟩
    · rw [← List.append_assoc, ← contents]
      exact appends.contents
    · rw [List.length_append, Waker.wakeTimes_add, ← waker]
      exact appends.waker

/-- A receiver without the task that waits for it. -/
def unwatched (inbound : Inbound geometry) : Inbound geometry :=
  { inbound with waker := {} }

theorem unwatched_closePacket (inbound : Inbound geometry) :
    inbound.unwatched.closePacket.unwatched = inbound.closePacket.unwatched := by
  simp only [closePacket, apply_ite unwatched]
  rfl

theorem unwatched_store (inbound : Inbound geometry) (byte : UInt8) :
    (inbound.unwatched.store byte).unwatched = (inbound.store byte).unwatched := by
  simp only [store, apply_ite unwatched]
  rfl

/-- A receiver does the same whether a task waits for it or not. -/
theorem unwatched_receive (inbound : Inbound geometry) (byte : UInt8) (status : Status) :
    (inbound.unwatched.receive byte status).unwatched = (inbound.receive byte status).unwatched := by
  have marked : inbound.unwatched.decoder = inbound.decoder := rfl
  simp only [receive, apply_ite unwatched, marked]
  apply ite_congr rfl fun _ => rfl
  intro _
  apply ite_congr rfl fun _ => rfl
  intro _
  rcases inbound.decoder.feed byte with ⟨token, decoder⟩
  cases token with
  | start =>
    have closed := unwatched_closePacket { inbound with decoder }
    exact congrArg (fun closed => { closed with started := true, checksum := Checksum.initial }) closed
  | reset => rfl
  | pending => rfl
  | data value => exact unwatched_store { inbound with decoder } value

theorem unwatched_receiveLine (inbound : Inbound geometry) (line : List (UInt8 × Status)) :
    (inbound.unwatched.receiveLine line).unwatched = (inbound.receiveLine line).unwatched := by
  induction line generalizing inbound with
  | nil => rfl
  | cons arrival later inductionHypothesis =>
    have first := inbound.unwatched_receive arrival.1 arrival.2
    rw [receiveLine, List.foldl_cons, receiveLine, List.foldl_cons]
    change ((inbound.unwatched.receive arrival.1 arrival.2).receiveLine later).unwatched =
      ((inbound.receive arrival.1 arrival.2).receiveLine later).unwatched
    rw [← inductionHypothesis, first, inductionHypothesis]

end Inbound

end FramedLine
