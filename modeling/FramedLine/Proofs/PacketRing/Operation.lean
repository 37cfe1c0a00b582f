import FramedLine.Proofs.PacketRing.Reading
import FramedLine.Proofs.PacketRing.Writing

/-!
The operations of both ends of a packet ring as data, so that runs of them can be told. Each one is a
program on rings and an operation on queues, and the program refines the operation.
-/

namespace FramedLine

namespace PacketRing

variable {geometry : Geometry}

/-- An operation of the writing end. -/
inductive Writing where
  | push (byte : UInt8)
  | pushAll (data : Bytes)
  | trim (length : Nat)
  | commit
  | discard
  deriving DecidableEq, Repr

/-- An operation of the reading end. -/
inductive Reading where
  | takeByte
  | copyInto (destination : Bytes)
  | release
  | overwriteUnread (byte : UInt8)
  deriving DecidableEq, Repr

/-- An operation of either end. -/
inductive Operation where
  | write (operation : Writing)
  | read (operation : Reading)
  deriving DecidableEq, Repr

/-- What an operation gives back. -/
inductive Answer where
  | done
  | accepted (all : Bool)
  | byte (value : UInt8)
  /-- The length of the whole packet, and the destination with the bytes that were copied to it. -/
  | copied (total : Nat) (destination : Bytes)
  deriving DecidableEq, Repr, Inhabited

def Writing.program : Writing → Program geometry Answer
  | .push byte => do return .accepted (← Writer.push byte)
  | .pushAll data => do return .accepted (← Writer.pushAll data)
  | .trim length => do return .accepted (← Writer.trim length)
  | .commit => do return .accepted (← Writer.commit)
  | .discard => do Writer.discard; return .done

def Reading.program : Reading → Program geometry Answer
  | .takeByte => do return .byte (← Reader.takeByte)
  | .copyInto destination => do
    let (total, contents) ← Reader.copyInto destination
    return .copied total contents
  | .release => do Reader.release; return .done
  | .overwriteUnread byte => do Reader.overwriteUnread byte; return .done

def Operation.program : Operation → Program geometry Answer
  | .write operation => operation.program
  | .read operation => operation.program

end PacketRing

namespace PacketQueue

open PacketRing

def write (geometry : Geometry) (queue : PacketQueue) : Writing → Answer × PacketQueue
  | .push byte =>
    let (all, after) := queue.push geometry byte
    (.accepted all, after)
  | .pushAll data =>
    let (all, after) := queue.pushAll geometry data
    (.accepted all, after)
  | .trim length =>
    let (all, after) := queue.trim length
    (.accepted all, after)
  | .commit =>
    let (all, after) := queue.commit geometry
    (.accepted all, after)
  | .discard => (.done, queue.discard)

def read (queue : PacketQueue) : Reading → Answer × PacketQueue
  | .takeByte =>
    let (byte, after) := queue.takeByte
    (.byte byte, after)
  | .copyInto destination =>
    let ((total, contents), after) := queue.copyInto destination
    (.copied total contents, after)
  | .release => (.done, queue.release)
  | .overwriteUnread byte => (.done, queue.overwriteUnread byte)

def perform (geometry : Geometry) (queue : PacketQueue) : Operation → Answer × PacketQueue
  | .write operation => queue.write geometry operation
  | .read operation => queue.read operation

section Reading

variable (queue : PacketQueue) (operation : Reading)

/-- Reading leaves the packet in progress to the writer. -/
theorem tentative_read : (queue.read operation).2.tentative = queue.tentative := by
  cases operation with
  | takeByte =>
    simp only [read, takeByte]
    split <;> rfl
  | copyInto destination => rfl
  | release => rfl
  | overwriteUnread byte =>
    simp only [read, overwriteUnread]
    split <;> rfl

/-- Reading never makes the queue longer. -/
theorem length_read_le : (queue.read operation).2.packets.length ≤ queue.packets.length := by
  cases operation with
  | takeByte =>
    simp only [read, takeByte]
    split <;> exact Nat.le_refl _
  | copyInto destination => exact Nat.le_refl _
  | release => simp [read, release]
  | overwriteUnread byte =>
    simp only [read, overwriteUnread]
    split
    · exact Nat.le_refl _
    next found => simp [found]

/-- Reading never leaves more to read. -/
theorem unread_read_le :
    (queue.read operation).2.unread.flatten.length ≤ queue.unread.flatten.length := by
  cases found : queue.packets with
  | nil =>
    cases operation <;>
      simp [read, takeByte, copyInto, release, overwriteUnread, unread, front, oldest, found]
  | cons packet rest =>
    cases operation with
    | takeByte =>
      simp only [read, takeByte]
      split
      · exact Nat.le_refl _
      · simp [unread, found]
        omega
    | copyInto destination =>
      simp [read, copyInto, unread, found]
      omega
    | release =>
      cases rest with
      | nil => simp [read, release, unread, found]
      | cons next later => simp [read, release, unread, found]
    | overwriteUnread byte => simp [read, overwriteUnread, unread, found]

variable (geometry : Geometry)

theorem freeBytes_read_le : queue.freeBytes geometry ≤ (queue.read operation).2.freeBytes geometry := by
  have less := queue.unread_read_le operation
  unfold freeBytes
  rw [tentative_read]
  omega

theorem canCommit_read (slot : queue.canCommit geometry = true) :
    (queue.read operation).2.canCommit geometry = true := by
  have fewer := queue.length_read_le operation
  unfold canCommit at slot ⊢
  exact decide_eq_true (Nat.lt_of_le_of_lt fewer (of_decide_eq_true slot))

end Reading

end PacketQueue

namespace PacketRing

variable {geometry : Geometry}

theorem refines_write (operation : Writing) :
    Refines geometry operation.program fun queue => queue.write geometry operation := by
  cases operation with
  | push byte => exact (refines_push byte).map Answer.accepted
  | pushAll data => exact (refines_pushAll data).map Answer.accepted
  | trim length => exact (refines_trim length).map Answer.accepted
  | commit => exact refines_commit.map Answer.accepted
  | discard => exact refines_discard.map fun _ => Answer.done

theorem refines_read (operation : Reading) :
    Refines geometry operation.program fun queue => queue.read operation := by
  cases operation with
  | takeByte => exact refines_takeByte.map Answer.byte
  | copyInto destination =>
    exact (refines_copyInto destination).map fun (total, contents) => Answer.copied total contents
  | release => exact refines_release.map fun _ => Answer.done
  | overwriteUnread byte => exact (refines_overwriteUnread byte).map fun _ => Answer.done

theorem refines_perform (operation : Operation) :
    Refines geometry operation.program fun queue => queue.perform geometry operation := by
  cases operation with
  | write operation => exact refines_write operation
  | read operation => exact refines_read operation

/-- The rings that the two ends can come to, whatever they do in whatever order. -/
inductive Reachable : PacketRing geometry → Prop where
  | fresh {ring : PacketRing geometry} (handed : (PacketRing.fresh geometry).split = .ok ring) :
    Reachable ring
  | step {ring : PacketRing geometry} {outcome : Outcome geometry Answer} (reachable : Reachable ring)
    (operation : Operation) (ran : operation.program.execute ring = .ok outcome) :
    Reachable outcome.ring

theorem Reachable.represents {ring : PacketRing geometry} (reachable : Reachable ring) :
    ∃ queue, Represents ring queue := by
  induction reachable with
  | fresh handed =>
    obtain rfl := Except.ok.inj handed
    exact ⟨_, represents_fresh geometry true⟩
  | step reachable operation ran inductionHypothesis =>
    obtain ⟨queue, represents⟩ := inductionHypothesis
    obtain ⟨after, accesses, executed, represented⟩ := refines_perform operation _ _ represents
    obtain rfl := Except.ok.inj (ran.symm.trans executed)
    exact ⟨_, represented⟩

/-- No operation on such a ring ends in a fault. -/
theorem Reachable.after {ring : PacketRing geometry} (reachable : Reachable ring)
    (operation : Operation) : Reachable (ring.after operation.program) := by
  obtain ⟨queue, represents⟩ := reachable.represents
  obtain ⟨after, accesses, executed, -⟩ := refines_perform operation _ _ represents
  have stepped := reachable.step operation executed
  rw [PacketRing.after, run, executed]
  exact stepped

end PacketRing

end FramedLine
