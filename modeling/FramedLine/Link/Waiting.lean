import FramedLine.Link.Basic

/-!
Waiting for packets. A wait is polled by the task that wants a packet; between two polls the line feeds
the link. A wait that is dropped while it is pending leaves no trace but the registered waker.
-/

namespace FramedLine.Link

open PacketRing

variable {geometry : Geometry}

/-- One poll of a wait for packets: the number of packets, once there is one. -/
def pollPacket (link : Link geometry) : Option Nat × Link geometry :=
  let link := { link with inbound := { link.inbound with waker := link.inbound.waker.register } }
  match link.inbound.ring.answer Reader.packetCount with
  | 0 => (none, link)
  | count => (some count, link)

/-- How far a waiting receive has come: it looks for a packet at its first poll, and from then on it
waits for one. -/
inductive Receiving where
  | starting
  | waiting
  deriving DecidableEq, Repr

/-- One poll of a receive: while it is pending, it has not touched `destination`. -/
def pollTake (link : Link geometry) (destination : Bytes) :
    Receiving → Option (Except Failure Nat) × Bytes × Link geometry
  | .starting =>
    match link.take destination with
    | (.error failure, copied, link) => (some (.error failure), copied, link)
    | (.ok (some length), copied, link) => (some (.ok length), copied, link)
    | (.ok none, copied, link) =>
      let (_, link) := link.pollPacket
      (none, copied, link)
  | .waiting =>
    match link.pollPacket with
    | (none, link) => (none, destination, link)
    | (some _, link) =>
      match link.take destination with
      | (.error failure, copied, link) => (some (.error failure), copied, link)
      | (.ok (some length), copied, link) => (some (.ok length), copied, link)
      | (.ok none, copied, link) => (none, copied, link)

/-- What came of a wait that was dropped after the last of its chunks. -/
structure Waited (α : Type) where
  /-- The result, unless the wait was still pending. -/
  result : Option α
  /-- How many chunks the line had fed by then. -/
  fed : Nat
  deriving Repr

/-- The line feeds a chunk of bytes without errors. -/
def feed (link : Link geometry) (chunk : Bytes) : Link geometry :=
  { link with inbound := link.inbound.receiveAll chunk .ok }

/-- Waits for packets while the line feeds `chunks`, one after each poll that finds none. -/
def waitPacket (link : Link geometry) : List Bytes → Waited Nat × Link geometry
  | [] =>
    let (count, link) := link.pollPacket
    (⟨count, 0⟩, link)
  | chunk :: chunks =>
    match link.pollPacket with
    | (some count, link) => (⟨some count, 0⟩, link)
    | (none, link) =>
      let (waited, link) := (link.feed chunk).waitPacket chunks
      (⟨waited.result, waited.fed + 1⟩, link)

/-- Receives a packet while the line feeds `chunks`, one after each poll that finds none. -/
def waitTake (link : Link geometry) (destination : Bytes) (progress : Receiving) :
    List Bytes → Waited (Except Failure Nat) × Bytes × Link geometry
  | [] =>
    let (result, copied, link) := link.pollTake destination progress
    (⟨result, 0⟩, copied, link)
  | chunk :: chunks =>
    match link.pollTake destination progress with
    | (some result, copied, link) => (⟨some result, 0⟩, copied, link)
    | (none, copied, link) =>
      let (waited, copied, link) := (link.feed chunk).waitTake copied .waiting chunks
      (⟨waited.result, waited.fed + 1⟩, copied, link)

end FramedLine.Link
