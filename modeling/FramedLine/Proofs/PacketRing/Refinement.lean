import FramedLine.Proofs.PacketRing.Layout
import FramedLine.Proofs.PacketRing.Queue

/-!
When a ring represents a queue, and when a program on rings does what an operation on queues does. A
program that refines an operation never ends in a fault.
-/

namespace FramedLine

namespace PacketRing

variable {geometry : Geometry} {α β : Type}

structure Represents (ring : PacketRing geometry) (queue : PacketQueue) : Prop where
  layout : ∃ slot start, Layout ring queue.unread queue.tentative slot start
  consumed : ring.consumed = queue.offset
  within : queue.WithinOldest

theorem represents_fresh (geometry : Geometry) (taken : Bool) :
    Represents { PacketRing.fresh geometry with taken } .empty where
  layout := ⟨0, 0, .fresh taken⟩
  consumed := rfl
  within := Nat.le_refl _

/-- Both bounds of a queue are bounds on what a ring can represent. -/
theorem Represents.bounds {ring : PacketRing geometry} {queue : PacketQueue}
    (represents : Represents ring queue) :
    queue.packets.length + 2 ≤ geometry.marks.slots ∧
      queue.unread.flatten.length + queue.tentative.length < geometry.bytes.slots := by
  obtain ⟨slot, start, layout⟩ := represents.layout
  exact ⟨by rw [← queue.length_unread]; exact layout.slots, layout.room⟩

/-- A program ends on a ring, with an answer and a queue after it. -/
def Reaches (program : Program geometry α) (ring : PacketRing geometry) (result : α × PacketQueue) :
    Prop :=
  ∃ after accesses, program.execute ring = .ok ⟨result.1, after, accesses⟩ ∧
    Represents after result.2

theorem Reaches.intro {program : Program geometry α} {ring after : PacketRing geometry} {answer : α}
    {accesses : List Access} {result : α × PacketQueue} {queue : PacketQueue}
    (ran : program.execute ring = .ok ⟨answer, after, accesses⟩) (same : result = (answer, queue))
    (represents : Represents after queue) : Reaches program ring result := by
  subst same
  exact ⟨after, accesses, ran, represents⟩

/-- A program goes on from where the program before it ended. -/
theorem Reaches.bind {program : Program geometry α} {next : α → Program geometry β}
    {ring : PacketRing geometry} {answer : α} {queue : PacketQueue} {result : β × PacketQueue}
    (first : Reaches program ring (answer, queue))
    (second : ∀ middle, Represents middle queue → Reaches (next answer) middle result) :
    Reaches (program >>= next) ring result := by
  obtain ⟨middle, before, ran, between⟩ := first
  obtain ⟨after, accesses, continued, represented⟩ := second middle between
  refine ⟨after, before ++ accesses, ?_, represented⟩
  rw [Program.execute_bind, ran]
  simp only [continued, Except.map, Outcome.precededBy]

/-- A program that ends on every ring as the operation tells of its queue. -/
def Refines (geometry : Geometry) (program : Program geometry α)
    (operation : PacketQueue → α × PacketQueue) : Prop :=
  ∀ (ring : PacketRing geometry) (queue : PacketQueue), Represents ring queue →
    Reaches program ring (operation queue)

/-- A program that tells something of the queue and leaves it as it is. -/
def Observes (geometry : Geometry) (program : Program geometry α) (view : PacketQueue → α) :
    Prop :=
  Refines geometry program fun queue => (view queue, queue)

namespace Refines

variable {program : Program geometry α} {operation : PacketQueue → α × PacketQueue}

theorem pure (answer : α) : Refines geometry (Pure.pure answer) fun queue => (answer, queue) := by
  intro ring queue represents
  exact ⟨ring, [], rfl, represents⟩

/-- Programs that refine operations do so one after the other. -/
theorem bind {next : α → Program geometry β} {following : α → PacketQueue → β × PacketQueue}
    (first : Refines geometry program operation)
    (second : ∀ answer, Refines geometry (next answer) (following answer)) :
    Refines geometry (program >>= next) fun queue => following (operation queue).1 (operation queue).2 := by
  intro ring queue represents
  exact (first ring queue represents).bind (second _ · _)

/-- A program may give its answer in another form. -/
theorem map (refines : Refines geometry program operation) (form : α → β) :
    Refines geometry (do return form (← program)) fun queue =>
      (form (operation queue).1, (operation queue).2) :=
  refines.bind fun answer => .pure (form answer)

variable [Inhabited α] {ring : PacketRing geometry} {queue : PacketQueue}

/-- A program that refines an operation leaves a ring of the queue after it. -/
theorem runs (refines : Refines geometry program operation) (represents : Represents ring queue) :
    ∃ after, ring.run program = ((operation queue).1, after) ∧ Represents after (operation queue).2 := by
  obtain ⟨after, accesses, ran, represented⟩ := refines _ _ represents
  exact ⟨after, by simp only [run, ran], represented⟩

theorem answer_eq (refines : Refines geometry program operation) (represents : Represents ring queue) :
    ring.answer program = (operation queue).1 := by
  obtain ⟨after, ran, _⟩ := refines.runs represents
  rw [answer, ran]

theorem after_represents (refines : Refines geometry program operation)
    (represents : Represents ring queue) :
    Represents (ring.after program) (operation queue).2 := by
  obtain ⟨after, ran, represented⟩ := refines.runs represents
  rw [PacketRing.after, ran]
  exact represented

end Refines

end PacketRing

end FramedLine
