import FramedLine.Proofs.PacketRing.Operation

/-!
A packet ring cannot be told from a bounded queue of packets. Whatever its two ends do, in whatever
order, every answer and everything that either end can observe is what the queue tells.
-/

namespace FramedLine

/-- What the two ends can observe of a ring. -/
structure RingView where
  tentativeLength : Nat
  freeBytes : Nat
  canCommit : Bool
  packetCount : Nat
  hasPacket : Bool
  packetLength : Nat
  remaining : Nat
  /-- The packets and bytes of a snapshot. -/
  snapshot : Nat × Nat
  deriving DecidableEq, Repr

namespace PacketRing

variable {geometry : Geometry}

def observe : Program geometry RingView := do
  let tentativeLength ← Writer.tentativeLength
  let freeBytes ← Writer.freeBytes
  let canCommit ← Writer.canCommit
  let packetCount ← Reader.packetCount
  let hasPacket ← Reader.hasPacket
  let packetLength ← Reader.packetLength
  let remaining ← Reader.remaining
  let snapshot ← (do
    let view ← snapshot
    return (view.packets.toNat, view.bytes.toNat))
  return {
    tentativeLength, freeBytes, canCommit, packetCount, hasPacket, packetLength, remaining, snapshot }

/-- Performs operations one after the other and observes the ring after each of them. -/
def transcript : List Operation → Program geometry (List (Answer × RingView))
  | [] => return []
  | operation :: rest => do
    let answer ← operation.program
    let view ← observe
    let later ← transcript rest
    return (answer, view) :: later

end PacketRing

namespace PacketQueue

open PacketRing

def view (geometry : Geometry) (queue : PacketQueue) : RingView where
  tentativeLength := queue.tentative.length
  freeBytes := queue.freeBytes geometry
  canCommit := queue.canCommit geometry
  packetCount := queue.packets.length
  hasPacket := !queue.packets.isEmpty
  packetLength := queue.oldest.length
  remaining := queue.front.length
  snapshot := (queue.packets.length, queue.unread.flatten.length)

/-- The answers and views of operations, and the queue after them. -/
def transcript (geometry : Geometry) (queue : PacketQueue) :
    List Operation → List (Answer × RingView) × PacketQueue
  | [] => ([], queue)
  | operation :: rest =>
    let (answer, after) := queue.perform geometry operation
    let (later, final) := after.transcript geometry rest
    ((answer, after.view geometry) :: later, final)

end PacketQueue

namespace PacketRing

variable {geometry : Geometry}

theorem observes_observe : Observes geometry observe (PacketQueue.view geometry) := by
  intro ring queue represents
  refine (observes_tentativeLength geometry _ _ represents).bind fun _ represents => ?_
  refine (observes_freeBytes geometry _ _ represents).bind fun _ represents => ?_
  refine (observes_canCommit geometry _ _ represents).bind fun _ represents => ?_
  refine (observes_packetCount _ _ represents).bind fun _ represents => ?_
  refine (observes_hasPacket _ _ represents).bind fun _ represents => ?_
  refine (observes_packetLength _ _ represents).bind fun _ represents => ?_
  refine (observes_remaining _ _ represents).bind fun _ represents => ?_
  refine (observes_snapshot _ _ represents).bind fun _ represents => ?_
  exact Refines.pure _ _ _ represents

theorem refines_transcript (operations : List Operation) :
    Refines geometry (transcript operations) fun queue => queue.transcript geometry operations := by
  induction operations with
  | nil => exact .pure []
  | cons operation rest inductionHypothesis =>
    intro ring queue represents
    refine (refines_perform operation _ _ represents).bind fun _ represents => ?_
    refine (observes_observe _ _ represents).bind fun _ represents => ?_
    refine (inductionHypothesis _ _ represents).bind fun _ represents => ?_
    exact Refines.pure _ _ _ represents

/-- A run of operations over a fresh ring ends without a fault, and each of its answers and
observations is that of the bounded queue. -/
theorem transcript_of_fresh (geometry : Geometry) (operations : List Operation) :
    ∃ ring, (PacketRing.fresh geometry).split = .ok ring ∧
      ∃ after accesses, (do return (← observe, ← transcript operations)).execute ring =
        .ok ⟨(PacketQueue.empty.view geometry, (PacketQueue.empty.transcript geometry operations).1),
          after, accesses⟩ := by
  refine ⟨_, rfl, ?_⟩
  have refines : Refines geometry (do return (← observe, ← transcript operations)) _ :=
    Refines.bind observes_observe fun view =>
      (refines_transcript operations).bind fun later => .pure (view, later)
  obtain ⟨after, accesses, ran, _⟩ := refines _ _ (represents_fresh geometry true)
  exact ⟨after, accesses, ran⟩

end PacketRing

end FramedLine
