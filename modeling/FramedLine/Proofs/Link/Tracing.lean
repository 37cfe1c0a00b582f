import FramedLine.Proofs.Link.Taking
import Mathlib.Data.List.Forall2

/-!
Which of the packets that one link queued are the ones that the other link commits. A packet that is committed
gets the number of the frame that brought it; no number is there twice, and a receive that comes to the packet
yields what was queued under its number, whatever happened to the packets before it.
-/

namespace FramedLine

open PacketRing

variable {source target : Geometry}

/-- A packet of which nothing was taken is unread as a whole. -/
theorem PacketQueue.getElem?_unread {queue : PacketQueue} {place : Nat}
    (untouched : place = 0 → queue.offset = 0) : queue.unread[place]? = queue.packets[place]? := by
  unfold unread
  cases queue.packets with
  | nil => rfl
  | cons oldest rest =>
    cases place with
    | zero => simp [untouched rfl]
    | succ place => rfl

/-- A buffer that is long enough gets the whole packet. -/
theorem Link.receipt_of_le {unread destination : Bytes} (fits : unread.length ≤ destination.length) :
    receipt unread destination =
      (.ok (some unread.length), unread ++ destination.drop unread.length) := by
  rw [receipt, if_neg (Nat.not_lt.mpr fits), List.take_of_length_le fits]

namespace Delivery

variable {delivery : Delivery source target} {transmission : Transmission} {reception : Reception}

theorem queued_next (delivery : Delivery source target) (event : Event) :
    delivery.sender.queued <+: (delivery.next event).sender.queued := by
  cases event with
  | call call => exact (delivery.sender.next_prefix (.call call)).2
  | send => exact (delivery.sender.next_prefix .nextByte).2
  | arrive status =>
    simp only [next]
    split
    · exact List.prefix_refl _
    · split
      · exact List.prefix_refl _
      · exact List.prefix_refl _
  | abort status => exact List.prefix_refl _
  | use use => exact List.prefix_refl _

/-- What was queued once stays queued. -/
theorem queued_run (delivery : Delivery source target) (events : List Event) :
    delivery.sender.queued <+: (delivery.run events).sender.queued := by
  induction events generalizing delivery with
  | nil => exact List.prefix_refl _
  | cons event later inductionHypothesis =>
    exact (delivery.queued_next event).trans (inductionHypothesis (delivery.next event))

/-- What an event commits: nothing, or the payload of the frame that it completes. -/
inductive Commits (before after : Delivery source target) : Prop where
  | nothing (committed : after.committed = before.committed)
    (verdicts : before.verdicts <+: after.verdicts)
  | payload (payload : Bytes) (committed : after.committed = before.committed ++ [payload])
    (verdicts : ∃ verdict, after.verdicts = before.verdicts ++ [verdict])
    (queued : after.sender.queued[before.verdicts.length]? = some payload)

theorem Carries.commits_arrive (carries : delivery.Carries transmission reception) (status : Status) :
    Commits delivery (delivery.next (.arrive status)) := by
  cases next : delivery.wire with
  | nil =>
    simp only [Delivery.next, next]
    exact .nothing rfl (List.prefix_refl _)
  | cons byte wire =>
    obtain ⟨part, received, frame, payload, found, queued, step⟩ := carries.advances next status
    have committed := committed_receive byte status carries.sound
    have closes := closes_iff byte received found
    simp only [Delivery.next, next]
    by_cases complete : part ++ [byte] = frame
    · rw [if_pos complete] at step
      rw [if_pos (closes.mpr complete)]
      rcases step.2.1 with none | some
      · rw [none] at committed
        exact .nothing (committed.trans (List.append_nil _)) (List.prefix_append _ _)
      · rw [some] at committed
        exact .payload payload committed ⟨_, rfl⟩ queued
    · rw [if_neg complete] at step
      rw [if_neg fun whole => complete (closes.mp whole)]
      rw [step.2] at committed
      exact .nothing (committed.trans (List.append_nil _)) (List.prefix_refl _)

theorem Carries.commits (carries : delivery.Carries transmission reception) (event : Event) :
    Commits delivery (delivery.next event) := by
  cases event with
  | call call => exact .nothing rfl (List.prefix_refl _)
  | send => exact .nothing rfl (List.prefix_refl _)
  | arrive status => exact carries.commits_arrive status
  | abort status =>
    obtain ⟨part, received, follows⟩ := carries.follows
    obtain ⟨-, none⟩ := follows.abort target delivery.receiver.inbound.dropOn status
    have committed := committed_receive Stuffing.reset status carries.sound
    rw [none] at committed
    exact .nothing (committed.trans (List.append_nil _)) (List.prefix_refl _)
  | use use => exact .nothing rfl (List.prefix_refl _)

end Delivery

/-- A delivery, with the number of the frame that brought each of the committed packets. -/
structure Traced (source target : Geometry) where
  delivery : Delivery source target
  numbers : List Nat := []

namespace Traced

open Delivery (Event)

/-- A packet that an event commits comes out of the frame that was arriving. -/
def next (traced : Traced source target) (event : Event) : Traced source target :=
  let after := traced.delivery.next event
  let count := after.committed.length - traced.delivery.committed.length
  { delivery := after
    numbers := traced.numbers ++ List.replicate count traced.delivery.verdicts.length }

def run (traced : Traced source target) (events : List Event) : Traced source target :=
  events.foldl next traced

/-- Nothing happened yet between two links. -/
def between (sender : Link source) (receiver : Link target) : Traced source target where
  delivery := .between sender receiver

/-- How many of the committed packets were released. -/
def released (traced : Traced source target) : Nat :=
  traced.delivery.committed.length -
    traced.delivery.receiver.inbound.ring.answer Reader.packetCount

/-- Whether a packet is still in the ring with all its bytes. -/
def Untouched (traced : Traced source target) (position : Nat) : Prop :=
  traced.released ≤ position ∧
    (traced.released = position → traced.delivery.receiver.inbound.ring.consumed = 0)

/-- The committed packets are the ones that were queued under their numbers, and no number is there twice. -/
structure Numbered (traced : Traced source target) : Prop where
  matched : List.Forall₂ (fun number packet => traced.delivery.sender.queued[number]? = some packet)
    traced.numbers traced.delivery.committed
  increasing : traced.numbers.Pairwise (· < ·)
  arrived : ∀ number ∈ traced.numbers, number < traced.delivery.verdicts.length

variable {traced : Traced source target} {transmission : Transmission} {reception : Reception}

theorem delivery_next (traced : Traced source target) (event : Event) :
    (traced.next event).delivery = traced.delivery.next event := rfl

theorem delivery_run (traced : Traced source target) (events : List Event) :
    (traced.run events).delivery = traced.delivery.run events := by
  induction events generalizing traced with
  | nil => rfl
  | cons event later inductionHypothesis => exact inductionHypothesis (traced.next event)

theorem numbered_between (sender : Link source) (receiver : Link target) :
    (between sender receiver).Numbered where
  matched := .nil
  increasing := .nil
  arrived number found := by cases found

theorem Numbered.next (numbered : traced.Numbered)
    (carries : traced.delivery.Carries transmission reception) (event : Event) :
    (traced.next event).Numbered := by
  have longer := traced.delivery.queued_next event
  have kept := numbered.matched.imp fun number packet found => Reception.getElem?_longer longer found
  cases carries.commits event with
  | nothing committed verdicts =>
    have numbers : (traced.next event).numbers = traced.numbers := by
      simp only [Traced.next, committed, Nat.sub_self, List.replicate_zero, List.append_nil]
    constructor
    case matched =>
      rw [numbers, delivery_next, committed]
      exact kept
    case increasing =>
      rw [numbers]
      exact numbered.increasing
    case arrived =>
      rw [numbers]
      exact fun number found => Nat.lt_of_lt_of_le (numbered.arrived number found) verdicts.length_le
  | payload payload committed verdicts queued =>
    obtain ⟨verdict, verdicts⟩ := verdicts
    have numbers : (traced.next event).numbers =
        traced.numbers ++ [traced.delivery.verdicts.length] := by
      simp [Traced.next, committed]
    constructor
    case matched =>
      rw [numbers, delivery_next, committed]
      exact List.rel_append kept (.cons queued .nil)
    case increasing =>
      rw [numbers, List.pairwise_append]
      refine ⟨numbered.increasing, List.pairwise_singleton _ _, ?_⟩
      intro number found other last
      rw [List.mem_singleton.mp last]
      exact numbered.arrived number found
    case arrived =>
      -- The frame counts as arrived from now on, so that no later packet gets this number again.
      rw [numbers, delivery_next, verdicts, List.length_append, List.length_singleton]
      intro number found
      rcases List.mem_append.mp found with earlier | last
      · exact Nat.lt_succ_of_lt (numbered.arrived number earlier)
      · rw [List.mem_singleton.mp last]
        exact Nat.lt_succ_self _

/-- Whatever happens on the line, the numbers tell which packets were committed. -/
theorem Numbered.run (numbered : traced.Numbered)
    (carries : traced.delivery.Carries transmission reception) (events : List Event) :
    (traced.run events).Numbered ∧
      ∃ after reception, (traced.run events).delivery.Carries after reception := by
  induction events generalizing traced transmission reception with
  | nil => exact ⟨numbered, transmission, reception, carries⟩
  | cons event later inductionHypothesis =>
    obtain ⟨after, reception, carried⟩ := carries.next event
    exact inductionHypothesis (numbered.next carries event) carried

/-- The packet at a position in what was committed is what was queued under its number. -/
theorem Numbered.committed_eq (numbered : traced.Numbered) {position number : Nat}
    (found : traced.numbers[position]? = some number) :
    traced.delivery.committed[position]? = traced.delivery.sender.queued[number]? := by
  obtain ⟨inside, rfl⟩ := List.getElem?_eq_some_iff.mp found
  have bound : position < traced.delivery.committed.length := by
    rw [← numbered.matched.length_eq]
    exact inside
  rw [List.getElem?_eq_getElem bound]
  exact (numbered.matched.get inside bound).symm

/-- The packets that were not released are in the ring, in the order in which they were committed. -/
theorem contents_of_untouched (carries : traced.delivery.Carries transmission reception)
    {position : Nat} (untouched : traced.Untouched position) :
    traced.delivery.receiver.inbound.ring.contents[position - traced.released]? =
      traced.delivery.committed[position]? := by
  obtain ⟨gone, present⟩ := carries.present
  have represents := carries.sound.represents
  have released : traced.released = gone.length := by
    rw [released, observes_packetCount.answer_eq represents, ← present, List.length_append,
      Nat.add_sub_cancel]
  obtain ⟨reached, start⟩ := untouched
  rw [released] at reached start ⊢
  rw [represents.contents_eq, PacketQueue.getElem?_unread, ← present,
    List.getElem?_append_right reached]
  intro first
  rw [← represents.consumed]
  exact start (Nat.le_antisymm reached (Nat.sub_eq_zero_iff_le.mp first))

/-- Receives that come to an untouched packet yield what was queued under its number. -/
theorem Numbered.receives (numbered : traced.Numbered)
    (carries : traced.delivery.Carries transmission reception) {position number : Nat}
    {payload destination : Bytes} {others : List Bytes}
    (found : traced.numbers[position]? = some number)
    (queued : traced.delivery.sender.queued[number]? = some payload)
    (untouched : traced.Untouched position) (before : others.length = position - traced.released)
    (fits : payload.length ≤ destination.length) :
    (traced.delivery.receiver.takeEach (others ++ [destination])).1[others.length]? =
      some (.ok (some payload.length), payload ++ destination.drop payload.length) := by
  have present := contents_of_untouched carries untouched
  rw [numbered.committed_eq found, queued, ← before] at present
  obtain ⟨inside, -⟩ := List.getElem?_eq_some_iff.mp present
  have enough : (others ++ [destination]).length ≤
      traced.delivery.receiver.inbound.ring.contents.length := by
    rw [List.length_append]
    exact inside
  rw [(Link.takeEach_eq carries.sound _ enough).1, List.getElem?_zipWith, present,
    List.getElem?_concat_length]
  exact congrArg some (Link.receipt_of_le fits)

end Traced

end FramedLine
