import FramedLine.Circular
import FramedLine.Checksum
import FramedLine.PacketRing.Basic

/-!
Programs over the memory of a packet ring.

The writer and the reader run side by side, so it matters which locations an operation touches and not
only what it leaves behind. An operation is therefore a program: each load and store is checked against
the size of its array and listed in the outcome. A program that leaves an array, or computes an index
that leaves its word, ends in a `Fault`.
-/

namespace FramedLine.PacketRing

variable {geometry : Geometry} {α β : Type}

/-- One location of the memory that both ends can reach. -/
inductive Location where
  | head
  | tail
  | mark (slot : Nat)
  | byte (offset : Nat)
  deriving DecidableEq, Repr

inductive Access where
  | load (location : Location)
  | store (location : Location)
  deriving DecidableEq, Repr

inductive Fault where
  /-- An index computation left its word. -/
  | arithmetic (overflow : Overflow)
  /-- An array has no such slot. -/
  | outside (location : Location)
  /-- An index does not fit the byte that it was to be stored in. -/
  | truncated (value : UInt64)
  deriving DecidableEq, Repr

/-- What a program leaves: its answer, the ring after it and its accesses in their order. -/
structure Outcome (geometry : Geometry) (α : Type) where
  answer : α
  ring : PacketRing geometry
  accesses : List Access

/-- The outcome of a program that made some accesses before. -/
def Outcome.precededBy (outcome : Outcome geometry α) (accesses : List Access) :
    Outcome geometry α :=
  { outcome with accesses := accesses ++ outcome.accesses }

structure Program (geometry : Geometry) (α : Type) where
  execute : PacketRing geometry → Except Fault (Outcome geometry α)

namespace Program

protected def pure (answer : α) : Program geometry α :=
  ⟨fun ring => .ok ⟨answer, ring, []⟩⟩

protected def bind (first : Program geometry α) (next : α → Program geometry β) :
    Program geometry β :=
  ⟨fun ring =>
    match first.execute ring with
    | .error fault => .error fault
    | .ok before =>
      ((next before.answer).execute before.ring).map (·.precededBy before.accesses)⟩

instance : Monad (Program geometry) where
  pure := Program.pure
  bind := Program.bind

@[simp] theorem execute_pure (answer : α) (ring : PacketRing geometry) :
    (pure answer : Program geometry α).execute ring = .ok ⟨answer, ring, []⟩ := rfl

theorem execute_bind (first : Program geometry α) (next : α → Program geometry β)
    (ring : PacketRing geometry) :
    (first >>= next).execute ring =
      match first.execute ring with
      | .error fault => .error fault
      | .ok before =>
        ((next before.answer).execute before.ring).map (·.precededBy before.accesses) := rfl

/-- An index computation touches no memory. -/
def compute (result : Circular.Checked α) : Program geometry α :=
  ⟨fun ring =>
    match result with
    | .error overflow => .error (.arithmetic overflow)
    | .ok answer => .ok ⟨answer, ring, []⟩⟩

/-- Narrows an index to the byte in which it is kept. -/
def narrow (value : UInt64) : Program geometry UInt8 :=
  ⟨fun ring =>
    if value < 256 then .ok ⟨value.toUInt8, ring, []⟩ else .error (.truncated value)⟩

def loadHead : Program geometry UInt64 :=
  ⟨fun ring => .ok ⟨ring.head.toUInt64, ring, [.load .head]⟩⟩

def loadTail : Program geometry UInt64 :=
  ⟨fun ring => .ok ⟨ring.tail.toUInt64, ring, [.load .tail]⟩⟩

def storeHead (slot : UInt64) : Program geometry Unit := do
  let value ← narrow slot
  ⟨fun ring => .ok ⟨(), { ring with head := value }, [.store .head]⟩⟩

def storeTail (slot : UInt64) : Program geometry Unit := do
  let value ← narrow slot
  ⟨fun ring => .ok ⟨(), { ring with tail := value }, [.store .tail]⟩⟩

def loadMark (slot : UInt64) : Program geometry UInt64 :=
  ⟨fun ring =>
    if inside : slot.toNat < geometry.marks.slots then
      .ok ⟨ring.marks[slot.toNat].toUInt64, ring, [.load (.mark slot.toNat)]⟩
    else
      .error (.outside (.mark slot.toNat))⟩

def storeMark (slot offset : UInt64) : Program geometry Unit := do
  let value ← narrow offset
  ⟨fun ring =>
    if inside : slot.toNat < geometry.marks.slots then
      .ok ⟨(), { ring with marks := ring.marks.set slot.toNat value },
        [.store (.mark slot.toNat)]⟩
    else
      .error (.outside (.mark slot.toNat))⟩

def loadByte (offset : Nat) : Program geometry UInt8 :=
  ⟨fun ring =>
    if inside : offset < geometry.bytes.slots then
      .ok ⟨ring.bytes[offset], ring, [.load (.byte offset)]⟩
    else
      .error (.outside (.byte offset))⟩

def storeByte (offset : Nat) (value : UInt8) : Program geometry Unit :=
  ⟨fun ring =>
    if inside : offset < geometry.bytes.slots then
      .ok ⟨(), { ring with bytes := ring.bytes.set offset value }, [.store (.byte offset)]⟩
    else
      .error (.outside (.byte offset))⟩

/-- Loads `count` bytes that lie side by side. -/
def loadBlock (offset : Nat) : Nat → Program geometry Bytes
  | 0 => pure []
  | count + 1 => do
    let byte ← loadByte offset
    let rest ← loadBlock (offset + 1) count
    return byte :: rest

/-- Stores bytes side by side. -/
def storeBlock (offset : Nat) : Bytes → Program geometry Unit
  | [] => pure ()
  | byte :: rest => do
    storeByte offset byte
    storeBlock (offset + 1) rest

/-- Loads a block in two pieces, the second of which starts over at the front of the array. -/
def loadWrapping (offset toEnd count : Nat) : Program geometry Bytes := do
  let first ← loadBlock offset toEnd
  let second ← loadBlock 0 (count - toEnd)
  return first ++ second

/-- Stores a block in two pieces, the second of which starts over at the front of the array. -/
def storeWrapping (offset toEnd : Nat) (data : Bytes) : Program geometry Unit := do
  storeBlock offset (data.take toEnd)
  storeBlock 0 (data.drop toEnd)

def loadConsumed : Program geometry Nat :=
  ⟨fun ring => .ok ⟨ring.consumed, ring, []⟩⟩

/-- Sets the reader's own count, which is not in the shared memory. -/
def storeConsumed (count : Nat) : Program geometry Unit :=
  ⟨fun ring => .ok ⟨(), { ring with consumed := count }, []⟩⟩

end Program

/-- Runs a program. One that ends in a fault has no answer to give and leaves the ring alone. -/
def run [Inhabited α] (ring : PacketRing geometry) (program : Program geometry α) :
    α × PacketRing geometry :=
  match program.execute ring with
  | .ok outcome => (outcome.answer, outcome.ring)
  | .error _ => (default, ring)

/-- What a program answers. -/
def answer [Inhabited α] (ring : PacketRing geometry) (program : Program geometry α) : α :=
  (ring.run program).1

/-- The ring that a program leaves. -/
def after [Inhabited α] (ring : PacketRing geometry) (program : Program geometry α) :
    PacketRing geometry :=
  (ring.run program).2

/-- Runs one more program after some whose answers are listed, the newest first. -/
def runNext [Inhabited α] (done : List α × PacketRing geometry) (program : Program geometry α) :
    List α × PacketRing geometry :=
  let (answer, ring) := done.2.run program
  (answer :: done.1, ring)

/-- Runs programs one after the other and lists their answers. -/
def runEach [Inhabited α] (ring : PacketRing geometry) (programs : List (Program geometry α)) :
    List α × PacketRing geometry :=
  let (answers, ring) := programs.foldl runNext ([], ring)
  (answers.reverse, ring)

theorem foldl_runNext [Inhabited α] (programs : List (Program geometry α)) (answers : List α)
    (ring : PacketRing geometry) :
    programs.foldl runNext (answers, ring) =
      ((programs.foldl runNext ([], ring)).1 ++ answers,
        (programs.foldl runNext ([], ring)).2) := by
  induction programs generalizing answers ring with
  | nil => rfl
  | cons program rest inductionHypothesis =>
    simp only [List.foldl_cons, runNext]
    rw [inductionHypothesis ((ring.run program).1 :: answers),
      inductionHypothesis [(ring.run program).1]]
    simp

theorem runEach_cons [Inhabited α] (ring : PacketRing geometry) (program : Program geometry α)
    (rest : List (Program geometry α)) :
    ring.runEach (program :: rest) =
      ((ring.run program).1 :: ((ring.run program).2.runEach rest).1,
        ((ring.run program).2.runEach rest).2) := by
  simp only [runEach, List.foldl_cons, runNext]
  rw [foldl_runNext]
  simp

/-- The committed part of the ring, as either end sees it. -/
def snapshot : Program geometry Snapshot := do
  let head ← Program.loadHead
  let tail ← Program.loadTail
  let packets ← Program.compute (Circular.count head tail geometry.marks.word)
  let last ← Program.loadMark head
  let first ← Program.loadMark tail
  let bytes ← Program.compute (Circular.count last first geometry.bytes.word)
  return ⟨head.toUInt8, tail.toUInt8, packets.toUInt8, bytes.toUInt8⟩

end FramedLine.PacketRing
