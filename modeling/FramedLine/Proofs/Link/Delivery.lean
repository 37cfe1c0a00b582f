import FramedLine.Link.Basic
import FramedLine.Proofs.Inbound.Following
import FramedLine.Proofs.Outbound.Line

/-!
Two links on one line: what one of them queues, the other one commits. Line errors and aborts that
someone injects cost packets, and so does a lack of room; but what arrives is what was sent, and arrives
in order.
-/

namespace FramedLine

open PacketRing

variable {source target : Geometry}

namespace Inbound

/-- Whether the ring has room for a byte from the line, which delimiters and markers do not need. -/
def hasRoom (inbound : Inbound target) (byte : UInt8) : Bool :=
  byte == Stuffing.start || byte == Stuffing.escape ||
    decide (0 < inbound.ring.answer Writer.freeBytes)

variable {inbound : Inbound target} {reception : Reception}

theorem Sound.hasRoom_eq (sound : Sound inbound reception) (byte : UInt8) :
    inbound.hasRoom byte = reception.hasRoom target byte := by
  rw [hasRoom, (observes_freeBytes target).answer_eq sound.represents, Reception.hasRoom]

end Inbound

namespace Link

/-- What an application does with the packets that its link received. -/
inductive Use where
  | takeByte
  | copyInto (destination : Bytes)
  | release
  | take (destination : Bytes)
  deriving DecidableEq, Repr

def use (link : Link target) : Use → Link target
  | .takeByte => (link.read Reader.takeByte).2
  | .copyInto destination => (link.read (Reader.copyInto destination)).2
  | .release => (link.read Reader.release).2
  | .take destination => (link.take destination).2.2

theorem opened_eq (geometry : Geometry) (config : Config) :
    opened geometry config = .ok {
      inbound := .attach { PacketRing.fresh geometry with taken := true } config.dropOn
      outbound := .attach { PacketRing.fresh geometry with taken := true } } := rfl

section Uses

variable {link : Link target} {reception : Reception}

theorem sound_copyInto (sound : Inbound.Sound link.inbound reception) (destination : Bytes) :
    Inbound.Sound (link.read (Reader.copyInto destination)).2.inbound
      (reception.read (.copyInto destination)) :=
  sound.read (.copyInto destination) ((refines_copyInto destination).after_represents sound.represents)

theorem sound_release (sound : Inbound.Sound link.inbound reception) :
    Inbound.Sound (link.read Reader.release).2.inbound (reception.read .release) :=
  sound.read .release (refines_release.after_represents sound.represents)

/-- An application reads the packets, whatever it does with them. -/
theorem sound_use (sound : Inbound.Sound link.inbound reception) (use : Use) :
    ∃ after, Inbound.Sound (link.use use).inbound after ∧ reception.Reads after := by
  cases use with
  | takeByte =>
    exact ⟨_, sound.read .takeByte (refines_takeByte.after_represents sound.represents),
      Reception.reads_takeByte _⟩
  | copyInto destination => exact ⟨_, sound_copyInto sound destination, Reception.reads_copyInto _ _⟩
  | release => exact ⟨_, sound_release sound, Reception.reads_release _⟩
  | take destination =>
    simp only [Link.use, take]
    split
    · exact ⟨_, sound, rfl, rfl, rfl, List.suffix_refl _⟩
    · exact ⟨_, sound_release (sound_copyInto sound destination), rfl, rfl, rfl, List.tail_suffix _⟩

end Uses

end Link

/-- A link that sends and a link that receives, with what happened on the line between them. -/
structure Delivery (source target : Geometry) where
  sender : Outbound.Record source
  receiver : Link target
  /-- The bytes that were sent and did not arrive yet. -/
  wire : Bytes := []
  /-- The bytes that arrived. -/
  received : Bytes := []
  /-- The packets that the receiver committed. -/
  committed : List Bytes := []
  /-- Whether there was room for each byte of the frame that is arriving. -/
  room : Bool := true
  /-- Whether no byte came with a line error that counts, and no abort was injected. -/
  clean : Bool := true
  /-- For each frame that arrived whole, whether there was room for its bytes and for its packet. -/
  verdicts : List Bool := []

namespace Delivery

/-- What happens to the two links: the application of the first one makes a call, a byte enters the
line, a byte leaves it with a status, someone injects an abort, or the application of the second one
reads. -/
inductive Event where
  | call (call : Outbound.Call)
  | send
  | arrive (status : Status)
  | abort (status : Status)
  | use (use : Link.Use)
  deriving DecidableEq

/-- The receiving link takes a byte. What its ring holds more than before was committed. -/
def receive (delivery : Delivery source target) (byte : UInt8) (status : Status) :
    Delivery source target :=
  let before := delivery.receiver.inbound
  let receiver := delivery.receiver.receiveByte byte status
  { delivery with
    receiver
    committed := delivery.committed ++ receiver.inbound.ring.contents.drop before.ring.contents.length
    clean := delivery.clean && !status.intersects before.dropOn }

def next (delivery : Delivery source target) : Event → Delivery source target
  | .call call => { delivery with sender := delivery.sender.next (.call call) }
  | .send =>
    { delivery with
      sender := delivery.sender.next .nextByte
      wire := delivery.wire ++ delivery.sender.outbound.nextByte.1.toList }
  | .arrive status =>
    match delivery.wire with
    | [] => delivery
    | byte :: wire =>
      let after := delivery.receive byte status
      let received := delivery.received ++ [byte]
      if received = (delivery.sender.frames.take (delivery.verdicts.length + 1)).flatten then
        let slot := delivery.receiver.inbound.ring.answer Writer.canCommit
        { after with wire, received, room := true, verdicts := delivery.verdicts ++ [delivery.room && slot] }
      else
        { after with wire, received, room := delivery.room && delivery.receiver.inbound.hasRoom byte }
  | .abort status => { delivery.receive Stuffing.reset status with clean := false }
  | .use use => { delivery with receiver := delivery.receiver.use use }

def run (delivery : Delivery source target) (events : List Event) : Delivery source target :=
  events.foldl next delivery

/-- Nothing happened yet between two links. -/
def between (sender : Link source) (receiver : Link target) : Delivery source target where
  sender := .mk sender.outbound [] [] [] []
  receiver := receiver

/-- The payloads of the frames that arrived whole. -/
def arrived (delivery : Delivery source target) : List Bytes :=
  delivery.sender.queued.take delivery.verdicts.length

/-- The packets for which there was room. -/
def kept (packets : List Bytes) (verdicts : List Bool) : List Bytes :=
  ((packets.zip verdicts).filter Prod.snd).map Prod.fst

section Kept

variable {packets : List Bytes} {verdicts : List Bool}

theorem kept_concat (length : packets.length = verdicts.length) (packet : Bytes) (verdict : Bool) :
    kept (packets ++ [packet]) (verdicts ++ [verdict]) =
      kept packets verdicts ++ if verdict then [packet] else [] := by
  rw [kept, List.zip_append length, List.filter_append, List.map_append]
  cases verdict <;> rfl

/-- With room for each packet, all of them are kept. -/
theorem kept_of_all (length : packets.length = verdicts.length)
    (all : ∀ verdict ∈ verdicts, verdict = true) : kept packets verdicts = packets := by
  have every : ∀ pair ∈ packets.zip verdicts, pair.2 = true :=
    fun pair found => all _ (List.of_mem_zip found).2
  rw [kept, List.filter_eq_self.mpr every, List.map_fst_zip (Nat.le_of_eq length)]

end Kept

/-- The receiver follows the line, what it committed are packets that arrived, and what it has not
released of them is in its ring. -/
structure Carries (delivery : Delivery source target) (transmission : Transmission)
    (reception : Reception) : Prop where
  truthful : delivery.sender.Matches transmission
  sound : Inbound.Sound delivery.receiver.inbound reception
  line : delivery.sender.line = delivery.received ++ delivery.wire
  follows : ∃ part,
    delivery.received = (delivery.sender.frames.take delivery.verdicts.length).flatten ++ part ∧
      reception.Follows delivery.sender.frames delivery.sender.queued delivery.verdicts.length
        delivery.room delivery.clean part
  count : delivery.verdicts.length ≤ delivery.sender.frames.length
  ordered : delivery.committed.Sublist delivery.arrived
  complete : delivery.clean = true → delivery.committed = kept delivery.arrived delivery.verdicts
  present : reception.queue.packets <:+ delivery.committed

variable {delivery : Delivery source target} {transmission : Transmission} {reception : Reception}

/-- The frames of a true record are frames of what was queued. -/
theorem framed_of_matches {record : Outbound.Record source} (truthful : record.Matches transmission) :
    Framed record.frames record.queued := by
  intro count frame found
  obtain ⟨shared, payload, handover, queued, made⟩ := List.getElem?_zipWith_eq_some.mp found
  refine ⟨payload, queued, truthful.filled payload (List.mem_of_getElem? queued), ?_⟩
  rw [← made, Outbound.Record.frame, Frame.encoding_eq]
  cases shared with
  | false => exact .inl rfl
  | true =>
    refine .inr ⟨Nat.pos_of_ne_zero fun first => ?_, rfl⟩
    rw [first] at handover
    cases handover

theorem Carries.length_arrived (carries : delivery.Carries transmission reception) :
    delivery.arrived.length = delivery.verdicts.length := by
  rw [arrived, List.length_take]
  exact Nat.min_eq_left (Nat.le_trans carries.count delivery.sender.length_frames_le)

/-- Whatever the sender does, what arrived of its line stays as it is. -/
theorem Carries.advance (carries : delivery.Carries transmission reception)
    {action : Outbound.Action} {wire : Bytes} {after : Transmission}
    (truthful : (delivery.sender.next action).Matches after)
    (line : (delivery.sender.next action).line = delivery.received ++ wire) :
    Carries { delivery with sender := delivery.sender.next action, wire } after reception := by
  obtain ⟨handovers, queued⟩ := delivery.sender.next_prefix action
  have frames := delivery.sender.frames_prefix handovers queued
  obtain ⟨part, received, follows⟩ := carries.follows
  have same : arrived { delivery with sender := delivery.sender.next action, wire } =
      delivery.arrived := by
    obtain ⟨added, longer⟩ := queued
    simp only [arrived]
    rw [← longer]
    exact List.take_append_of_le_length (Nat.le_trans carries.count delivery.sender.length_frames_le)
  refine ⟨truthful, carries.sound, line, ⟨part, ?_, follows.grow frames queued⟩,
    Nat.le_trans carries.count frames.length_le, ?_, ?_, carries.present⟩
  · obtain ⟨added, longer⟩ := frames
    rw [received]
    dsimp only
    rw [← longer, List.take_append_of_le_length carries.count]
  · rw [same]
    exact carries.ordered
  · rw [same]
    exact carries.complete

section Receive

variable (byte : UInt8) (status : Status)

theorem committed_receive (sound : Inbound.Sound delivery.receiver.inbound reception) :
    (delivery.receive byte status).committed = delivery.committed ++
      (reception.appended target delivery.receiver.inbound.dropOn byte status).toList := by
  obtain ⟨contents, -⟩ := sound.contents_receive_eq byte status
  change delivery.committed ++ (delivery.receiver.inbound.receive byte status).ring.contents.drop _ = _
  rw [contents, List.drop_left]

/-- What a byte appends to the ring is committed. -/
theorem Carries.present_receive (carries : delivery.Carries transmission reception) :
    (reception.receive target delivery.receiver.inbound.dropOn byte status).queue.packets <:+
      (delivery.receive byte status).committed := by
  obtain ⟨tentative, queue⟩ :=
    reception.receive_queue target delivery.receiver.inbound.dropOn byte status
  obtain ⟨released, present⟩ := carries.present
  refine ⟨released, ?_⟩
  rw [committed_receive byte status carries.sound, queue, ← present, List.append_assoc]

end Receive

section Arrive

variable {byte : UInt8} {wire part frame payload : Bytes} {status : Status}

/-- The byte that arrives next goes on with the frame that is arriving. -/
theorem Carries.coming (carries : delivery.Carries transmission reception)
    (next : delivery.wire = byte :: wire)
    (received : delivery.received =
      (delivery.sender.frames.take delivery.verdicts.length).flatten ++ part) :
    ∃ more, (delivery.sender.frames.drop delivery.verdicts.length).flatten = part ++ byte :: more := by
  obtain ⟨later, frames⟩ := carries.truthful.line_prefix
  rw [carries.line, next, received] at frames
  refine ⟨wire ++ later, ?_⟩
  rw [delivery.sender.split_frames delivery.verdicts.length, List.append_assoc, List.append_assoc,
    List.append_cancel_left_eq] at frames
  exact frames.symm

theorem Carries.line_receive (carries : delivery.Carries transmission reception)
    (next : delivery.wire = byte :: wire) :
    delivery.sender.line = delivery.received ++ [byte] ++ wire := by
  rw [carries.line, next, List.append_assoc]
  rfl

/-- A byte within a frame commits nothing. -/
theorem Carries.go_on (carries : delivery.Carries transmission reception)
    (next : delivery.wire = byte :: wire)
    (received : delivery.received =
      (delivery.sender.frames.take delivery.verdicts.length).flatten ++ part)
    (follows : (reception.receive target delivery.receiver.inbound.dropOn byte status).Follows
      delivery.sender.frames delivery.sender.queued delivery.verdicts.length
      (delivery.room && reception.hasRoom target byte)
      (delivery.clean && !status.intersects delivery.receiver.inbound.dropOn) (part ++ [byte]))
    (none : reception.appended target delivery.receiver.inbound.dropOn byte status = none) :
    Carries { delivery.receive byte status with
        wire
        received := delivery.received ++ [byte]
        room := delivery.room && delivery.receiver.inbound.hasRoom byte } transmission
      (reception.receive target delivery.receiver.inbound.dropOn byte status) := by
  have committed : (delivery.receive byte status).committed = delivery.committed := by
    rw [committed_receive byte status carries.sound, none]
    exact List.append_nil _
  exact {
    truthful := carries.truthful
    sound := carries.sound.receive byte status
    line := carries.line_receive next
    follows := by
      refine ⟨part ++ [byte], ?_, ?_⟩
      · rw [received, List.append_assoc]
        rfl
      · rw [carries.sound.hasRoom_eq]
        exact follows
    count := carries.count
    ordered := by
      dsimp only
      rw [committed]
      exact carries.ordered
    complete := by
      intro quiet
      dsimp only
      rw [committed]
      exact carries.complete (Bool.and_eq_true_iff.mp quiet).1
    present := carries.present_receive byte status }

/-- The last byte of a frame commits its payload or nothing, and on a clean line what there was room
for. -/
theorem Carries.finish (carries : delivery.Carries transmission reception)
    (next : delivery.wire = byte :: wire)
    (received : delivery.received ++ [byte] =
      (delivery.sender.frames.take (delivery.verdicts.length + 1)).flatten)
    (found : delivery.sender.frames[delivery.verdicts.length]? = some frame)
    (queued : delivery.sender.queued[delivery.verdicts.length]? = some payload)
    (follows : (reception.receive target delivery.receiver.inbound.dropOn byte status).Follows
      delivery.sender.frames delivery.sender.queued (delivery.verdicts.length + 1) true
      (delivery.clean && !status.intersects delivery.receiver.inbound.dropOn) [])
    (appended : reception.appended target delivery.receiver.inbound.dropOn byte status = none ∨
      reception.appended target delivery.receiver.inbound.dropOn byte status = some payload)
    (quiet : (delivery.clean && !status.intersects delivery.receiver.inbound.dropOn) = true →
      reception.appended target delivery.receiver.inbound.dropOn byte status =
        if delivery.room && reception.queue.canCommit target then some payload else none) :
    Carries { delivery.receive byte status with
        wire
        received := delivery.received ++ [byte]
        room := true
        verdicts := delivery.verdicts ++
          [delivery.room && delivery.receiver.inbound.ring.answer Writer.canCommit] } transmission
      (reception.receive target delivery.receiver.inbound.dropOn byte status) := by
  have slot : delivery.receiver.inbound.ring.answer Writer.canCommit =
      reception.queue.canCommit target :=
    (observes_canCommit target).answer_eq carries.sound.represents
  have committed := committed_receive byte status carries.sound
  have arrived : delivery.sender.queued.take (delivery.verdicts.length + 1) =
      delivery.arrived ++ [payload] := by
    rw [List.take_add_one, queued]
    rfl
  obtain ⟨inside, -⟩ := List.getElem?_eq_some_iff.mp found
  exact {
    truthful := carries.truthful
    sound := carries.sound.receive byte status
    line := carries.line_receive next
    follows := by
      refine ⟨[], ?_, ?_⟩
      · dsimp only
        rw [received, List.length_append, List.append_nil]
        rfl
      · dsimp only
        rw [List.length_append]
        exact follows
    count := by
      dsimp only
      rw [List.length_append]
      exact inside
    ordered := by
      change (delivery.receive byte status).committed.Sublist
        (delivery.sender.queued.take (delivery.verdicts ++ [_]).length)
      rw [committed, List.length_append, List.length_singleton, arrived]
      refine carries.ordered.append ?_
      rcases appended with none | some
      · rw [none]
        exact List.nil_sublist _
      · rw [some]
        exact List.Sublist.refl _
    complete := by
      intro clean
      change (delivery.receive byte status).committed =
        kept (delivery.sender.queued.take (delivery.verdicts ++ [_]).length) (delivery.verdicts ++ [_])
      rw [committed, List.length_append, List.length_singleton, arrived,
        kept_concat carries.length_arrived, carries.complete (Bool.and_eq_true_iff.mp clean).1,
        quiet clean, slot]
      split <;> rfl
    present := carries.present_receive byte status }

/-- The receiver advances by the byte that arrives next. -/
theorem Carries.advances (carries : delivery.Carries transmission reception)
    (next : delivery.wire = byte :: wire) (status : Status) :
    ∃ part,
      delivery.received =
        (delivery.sender.frames.take delivery.verdicts.length).flatten ++ part ∧
      reception.Advances target delivery.receiver.inbound.dropOn delivery.sender.frames
        delivery.sender.queued delivery.verdicts.length delivery.room delivery.clean part byte status := by
  obtain ⟨part, received, follows⟩ := carries.follows
  obtain ⟨more, coming⟩ := carries.coming next received
  exact ⟨part, received, follows.receive target _ (framed_of_matches carries.truthful) coming status⟩

/-- What arrived consists of whole frames again once the frame that is arriving is whole. -/
theorem closes_iff (byte : UInt8)
    (received : delivery.received =
      (delivery.sender.frames.take delivery.verdicts.length).flatten ++ part)
    (found : delivery.sender.frames[delivery.verdicts.length]? = some frame) :
    delivery.received ++ [byte] =
        (delivery.sender.frames.take (delivery.verdicts.length + 1)).flatten ↔
      part ++ [byte] = frame := by
  rw [List.take_add_one, found, received, List.flatten_append, List.append_assoc,
    List.append_cancel_left_eq]
  simp

/-- A byte that arrives finishes a frame or goes on with it. -/
theorem Carries.arrive (carries : delivery.Carries transmission reception) (status : Status) :
    ∃ after, (delivery.next (.arrive status)).Carries transmission after := by
  cases next : delivery.wire with
  | nil =>
    refine ⟨reception, ?_⟩
    simp only [Delivery.next, next]
    exact carries
  | cons byte wire =>
    obtain ⟨part, received, frame, payload, found, queued, step⟩ := carries.advances next status
    have closes := closes_iff byte received found
    refine ⟨reception.receive target delivery.receiver.inbound.dropOn byte status, ?_⟩
    simp only [Delivery.next, next]
    by_cases complete : part ++ [byte] = frame
    · rw [if_pos complete] at step
      obtain ⟨after, appended, quiet⟩ := step
      rw [if_pos (closes.mpr complete)]
      exact carries.finish next (closes.mpr complete) found queued after appended quiet
    · rw [if_neg complete] at step
      obtain ⟨after, none⟩ := step
      rw [if_neg fun whole => complete (closes.mp whole)]
      exact carries.go_on next received after none

end Arrive

/-- An injected abort commits nothing. -/
theorem Carries.abort (carries : delivery.Carries transmission reception) (status : Status) :
    ∃ after, (delivery.next (.abort status)).Carries transmission after := by
  obtain ⟨part, received, follows⟩ := carries.follows
  obtain ⟨after, none⟩ := follows.abort target delivery.receiver.inbound.dropOn status
  have committed : (delivery.receive Stuffing.reset status).committed = delivery.committed := by
    rw [committed_receive _ status carries.sound, none]
    exact List.append_nil _
  exact ⟨_, {
    truthful := carries.truthful
    sound := carries.sound.receive Stuffing.reset status
    line := carries.line
    follows := ⟨part, received, after⟩
    count := carries.count
    ordered := by
      simp only [Delivery.next, committed]
      exact carries.ordered
    complete := fun clean => by cases clean
    present := carries.present_receive Stuffing.reset status }⟩

theorem Carries.use (carries : delivery.Carries transmission reception) (use : Link.Use) :
    ∃ after, (delivery.next (.use use)).Carries transmission after := by
  obtain ⟨after, sound, reads⟩ := Link.sound_use carries.sound use
  obtain ⟨part, received, follows⟩ := carries.follows
  exact ⟨after, {
    truthful := carries.truthful
    sound
    line := carries.line
    follows := ⟨part, received, follows.reads reads⟩
    count := carries.count
    ordered := carries.ordered
    complete := carries.complete
    present := reads.packets.trans carries.present }⟩

theorem Carries.next (carries : delivery.Carries transmission reception) (event : Event) :
    ∃ after reception, (delivery.next event).Carries after reception := by
  cases event with
  | call call => exact ⟨_, _, carries.advance (carries.truthful.call call) carries.line⟩
  | send =>
    refine ⟨_, _, carries.advance carries.truthful.nextByte ?_⟩
    rw [← List.append_assoc, ← carries.line]
    rfl
  | arrive status => exact ⟨_, carries.arrive status⟩
  | abort status => exact ⟨_, carries.abort status⟩
  | use use => exact ⟨_, carries.use use⟩

/-- Whatever happens to the two links in whatever order. -/
theorem Carries.run (carries : delivery.Carries transmission reception) (events : List Event) :
    ∃ after reception, (delivery.run events).Carries after reception := by
  induction events generalizing delivery transmission reception with
  | nil => exact ⟨transmission, reception, carries⟩
  | cons event rest inductionHypothesis =>
    obtain ⟨after, reception, carries⟩ := carries.next event
    exact inductionHypothesis carries

/-- How far the line has come: each frame before the one that is arriving is whole. -/
theorem Carries.received_eq (carries : delivery.Carries transmission reception) :
    ∃ part rest,
      delivery.received = (delivery.sender.frames.take delivery.verdicts.length).flatten ++ part ∧
      delivery.sender.frames[delivery.verdicts.length]?.getD [] = part ++ rest ∧
      (rest = [] ↔ delivery.verdicts.length = delivery.sender.frames.length) := by
  obtain ⟨part, received, follows⟩ := carries.follows
  have count := carries.count
  have inside : ∀ frame, delivery.sender.frames[delivery.verdicts.length]? = some frame →
      delivery.verdicts.length ≠ delivery.sender.frames.length := by
    intro frame found
    obtain ⟨inside, -⟩ := List.getElem?_eq_some_iff.mp found
    exact Nat.ne_of_lt inside
  cases follows with
  | between idle fresh =>
    refine ⟨[], delivery.sender.frames[delivery.verdicts.length]?.getD [], received, rfl, ?_⟩
    cases found : delivery.sender.frames[delivery.verdicts.length]? with
    | none =>
      have final := List.getElem?_eq_none_iff.mp found
      exact ⟨fun _ => Nat.le_antisymm count final, fun _ => rfl⟩
    | some frame =>
      obtain ⟨payload, -, -, whole⟩ := framed_of_matches carries.truthful _ _ found
      refine ⟨fun empty => ?_, fun same => absurd same (inside _ found)⟩
      rw [Option.getD_some] at empty
      rcases whole with opening | ⟨-, body⟩
      · rw [opening] at empty
        cases empty
      · rw [body] at empty
        exact absurd empty (by simp [Frame.body])
  | @within part left payload framing =>
    refine ⟨part, left ++ [Stuffing.start], received, ?_, ?_⟩
    · rw [framing.frame]
      rfl
    · exact ⟨fun empty => absurd empty (by simp), fun same => absurd same (inside _ framing.frame)⟩

/-- The ring of the receiving link holds the end of what was committed, less what was read of it. -/
theorem Carries.contents_eq (carries : delivery.Carries transmission reception) :
    ∃ packets, packets <:+ delivery.committed ∧
      delivery.receiver.inbound.ring.contents =
        PacketQueue.unread { packets, offset := delivery.receiver.inbound.ring.consumed } := by
  refine ⟨reception.queue.packets, carries.present, ?_⟩
  rw [carries.sound.represents.contents_eq, carries.sound.represents.consumed]
  rfl

theorem carries_opened {settings config : Config} {sender : Link source} {receiver : Link target}
    (sending : Link.opened source settings = .ok sender)
    (receiving : Link.opened target config = .ok receiver) :
    (between sender receiver).Carries { queue := .empty } { queue := .empty } := by
  rw [Link.opened_eq] at sending receiving
  obtain rfl := Except.ok.inj sending
  obtain rfl := Except.ok.inj receiving
  exact {
    truthful := Outbound.Record.matches_fresh source
    sound := Inbound.sound_attach config.dropOn {} true
    line := rfl
    follows := ⟨[], rfl, .between ⟨rfl, rfl⟩ fun _ => ⟨rfl, fun later => by cases later⟩⟩
    count := Nat.zero_le _
    ordered := List.Sublist.refl _
    complete := fun _ => rfl
    present := List.suffix_refl _ }

/-- Whatever happens on the line, the receiving link commits a part of what arrived, in order, and
invents nothing. If nothing happens on the line, it commits exactly what it has room for. -/
theorem committed_sublist (source target : Geometry) (settings config : Config) (events : List Event) :
    ∃ sender receiver,
      Link.opened source settings = .ok sender ∧
      Link.opened target config = .ok receiver ∧
      let delivery := (between sender receiver).run events
      let ring := delivery.receiver.inbound.ring
      delivery.committed.Sublist delivery.arrived ∧
      (delivery.clean = true → delivery.committed = kept delivery.arrived delivery.verdicts) ∧
      (delivery.clean = true → (∀ verdict ∈ delivery.verdicts, verdict = true) →
        delivery.committed = delivery.arrived) ∧
      (∃ part rest,
        delivery.received =
          (delivery.sender.frames.take delivery.verdicts.length).flatten ++ part ∧
        delivery.sender.frames[delivery.verdicts.length]?.getD [] = part ++ rest ∧
        (rest = [] ↔ delivery.verdicts.length = delivery.sender.frames.length)) ∧
      ∃ packets, packets <:+ delivery.committed ∧
        ring.contents = PacketQueue.unread { packets, offset := ring.consumed } := by
  refine ⟨_, _, Link.opened_eq source settings, Link.opened_eq target config, ?_⟩
  have carries := carries_opened (Link.opened_eq source settings) (Link.opened_eq target config)
  obtain ⟨transmission, reception, carries⟩ := carries.run events
  refine ⟨carries.ordered, carries.complete, fun clean all => ?_, carries.received_eq,
    carries.contents_eq⟩
  rw [carries.complete clean, kept_of_all carries.length_arrived all]

/-- Two packets that share a delimiter both arrive. -/
example :
    let size : RingSize := { exponent := 4 }
    let link := Link.fresh ⟨size, size⟩ {}
    let calls := [Event.call (.send [1]), .call (.send [2])]
    let bytes := (List.replicate 9 [Event.send, .arrive .ok]).flatten
    let delivery := (between link link).run (calls ++ bytes)
    (delivery.committed, delivery.verdicts, delivery.clean) = ([[1], [2]], [true, true], true) := by
  decide +kernel

end Delivery

end FramedLine
