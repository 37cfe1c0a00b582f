import FramedLine.Link.Service
import FramedLine.Link.Waiting
import FramedLine.Proofs.Link.Delivery
import FramedLine.Proofs.Outbound.Reachable

/-!
Everything that can happen to a link, and the links that come of it. Of the sending direction only the
application's calls, the driver of the line and the notification change anything; whoever reads packets or waits
for them leaves it as it is.
-/

namespace FramedLine

open PacketRing

variable {geometry : Geometry}

namespace Link

variable {link : Link geometry} {device failure : Type} [SerialDevice device failure]

section Outbound

theorem outbound_receiveFrom (link : Link geometry) (state : device) :
    (link.receiveFrom state).2.1.outbound = link.outbound := by
  fun_induction receiveFrom with
  | case1 => rfl
  | case2 => rfl
  | case3 link state byte status after read inductionHypothesis => exact inductionHypothesis

theorem sendUpTo_keeps {property : Outbound geometry → Prop}
    (keeps : ∀ outbound, property outbound → property outbound.nextByte.2)
    (holds : property link.outbound) (state : device) (wrote : Bool) (limit : Nat) :
    property (link.sendUpTo state wrote limit).2.1.outbound := by
  induction limit generalizing link state wrote with
  | zero => exact holds
  | succ limit inductionHypothesis =>
    have next : property link.nextByte.2.outbound := keeps _ holds
    simp only [sendUpTo]
    split
    · exact holds
    split
    · exact holds
    next state ready =>
      cases taken : link.nextByte with
      | mk byte after =>
        rw [taken] at next
        cases byte with
        | none => exact next
        | some byte =>
          simp only
          split
          · exact next
          next state written => exact inductionHypothesis next state true

/-- A service changes the sending direction only by taking bytes from it, whatever the device does. -/
theorem service_keeps {property : Outbound geometry → Prop}
    (keeps : ∀ outbound, property outbound → property outbound.nextByte.2)
    (holds : property link.outbound) (state : device) :
    property (link.service state).2.1.outbound := by
  have same := link.outbound_receiveFrom state
  simp only [service]
  cases received : link.receiveFrom state with
  | mk result rest =>
    rw [received] at same
    rw [← same] at holds
    cases result with
    | error reason => exact holds
    | ok =>
      have sent := sendUpTo_keeps keeps holds rest.2 false (lineBound geometry)
      change property (sendTo rest.1 rest.2).2.1.outbound at sent
      simp only
      split
      next found => rw [found] at sent; exact sent
      next found => rw [found] at sent; exact sent
      next found => rw [found] at sent; exact sent

theorem outbound_take (link : Link geometry) (destination : Bytes) :
    (link.take destination).2.2.outbound = link.outbound := by
  simp only [take]
  split <;> rfl

theorem outbound_use (link : Link geometry) (use : Use) : (link.use use).outbound = link.outbound := by
  cases use with
  | take destination => exact link.outbound_take destination
  | _ => rfl

theorem outbound_pollPacket (link : Link geometry) : link.pollPacket.2.outbound = link.outbound := by
  simp only [pollPacket]
  split <;> rfl

theorem outbound_pollTake (link : Link geometry) (destination : Bytes) (progress : Receiving) :
    (link.pollTake destination progress).2.2.outbound = link.outbound := by
  cases progress with
  | starting =>
    have same := link.outbound_take destination
    simp only [pollTake]
    rcases taken : link.take destination with ⟨failure | _ | length, copied, after⟩
    all_goals rw [taken] at same
    · exact same
    · exact after.outbound_pollPacket.trans same
    · exact same
  | waiting =>
    have same := link.outbound_pollPacket
    simp only [pollTake]
    rcases polled : link.pollPacket with ⟨_ | count, between⟩
    all_goals rw [polled] at same
    · exact same
    · have kept := between.outbound_take destination
      dsimp only
      rcases taken : between.take destination with ⟨failure | _ | length, copied, after⟩
      all_goals
        rw [taken] at kept
        exact kept.trans same

end Outbound

/-- What happens to a link: the application makes a call, reads, or polls a wait for packets; the line asks for a
byte or brings one; a device is serviced; or someone else masks the notification or unmasks it. A service that is
interrupted by one of the others counts as the bytes that it moved until then and those that it moves
afterwards. -/
inductive Event : Type 1 where
  | call (call : Outbound.Call)
  | use (use : Use)
  | pollPacket
  | pollTake (destination : Bytes) (progress : Receiving)
  | nextByte
  | receive (byte : UInt8) (status : Status)
  | service {device failure : Type} [SerialDevice device failure] (state : device)
  | mask
  | unmask

def next (link : Link geometry) : Event → Link geometry
  | .call call => { link with outbound := (call.perform link.outbound).2 }
  | .use use => link.use use
  | .pollPacket => link.pollPacket.2
  | .pollTake destination progress => (link.pollTake destination progress).2.2
  | .nextByte => link.nextByte.2
  | .receive byte status => link.receiveByte byte status
  | @Event.service _ _ _ state => (link.service state).2.1
  | .mask => { link with outbound := link.outbound.disarm }
  | .unmask => { link with outbound := link.outbound.arm }

/-- Whether an event has to do with the sending direction. -/
def Event.sends : Event → Bool
  | .use _ | .pollPacket | .pollTake _ _ | .receive _ _ => false
  | _ => true

theorem outbound_next (link : Link geometry) {event : Event} (receives : event.sends = false) :
    (link.next event).outbound = link.outbound := by
  cases event with
  | use use => exact link.outbound_use use
  | pollPacket => exact link.outbound_pollPacket
  | pollTake destination progress => exact link.outbound_pollTake destination progress
  | receive byte status => rfl
  | _ => cases receives

/-- The links that can come about. -/
inductive Reachable : Link geometry → Prop where
  | opened {link : Link geometry} {config : Config} (ready : opened geometry config = .ok link) :
    Reachable link
  | next {link : Link geometry} (reachable : Reachable link) (event : Event) : Reachable (link.next event)

theorem Reachable.outbound {link : Link geometry} (reachable : link.Reachable) :
    link.outbound.Reachable := by
  induction reachable with
  | @opened link config ready =>
    obtain rfl := Except.ok.inj ((opened_eq geometry config).symm.trans ready)
    exact .attach rfl
  | @next link reachable event inductionHypothesis =>
    cases event with
    | call call => exact inductionHypothesis.call call
    | nextByte => exact inductionHypothesis.nextByte
    | service state =>
      exact service_keeps (fun _ reachable => Outbound.Reachable.nextByte reachable)
        inductionHypothesis state
    | mask => exact inductionHypothesis.notify false
    | unmask => exact inductionHypothesis.notify true
    | _ =>
      rw [link.outbound_next rfl]
      exact inductionHypothesis

end Link

end FramedLine
