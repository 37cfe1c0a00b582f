import FramedLine.Proofs.Inbound.Reception

/-!
Which packets a receiver accepts. It decides byte by byte, and what it decides can be told from the
stretch of the line between two delimiters: a packet is what the stretch decodes to, if nothing spoiled
the stretch and its checksum is right.
-/

namespace FramedLine

open PacketRing Stuffing

/-- A byte as it came from the line, and how many bytes the ring could take when it came. -/
structure Arrival where
  byte : UInt8
  status : Status
  free : Nat
  deriving DecidableEq, Repr

namespace Arrival

section DropOn

variable (dropOn : Status) (arrival : Arrival)

/-- A delimiter without a line error that counts. -/
def delimits : Bool :=
  arrival.byte == start && !arrival.status.intersects dropOn

/-- A byte after which the rest of a stretch is noise: one with a line error that counts, an abort, or a
data byte for which there is no room. -/
def spoils : Bool :=
  arrival.status.intersects dropOn || arrival.byte == reset ||
    (arrival.byte != escape && arrival.free == 0)

end DropOn

/-- The arrivals since the last delimiter, if there was one. -/
def stretch (dropOn : Status) : List Arrival → Option (List Arrival)
  | [] => none
  | arrival :: later =>
    match stretch dropOn later with
    | some arrivals => some arrivals
    | none => if arrival.delimits dropOn then some later else none

/-- The arrivals since the last delimiter, if there was one and nothing spoiled what came since. -/
def inProgress (dropOn : Status) (history : List Arrival) : Option (List Arrival) :=
  (stretch dropOn history).filter fun arrivals => arrivals.all fun arrival => !arrival.spoils dropOn

/-- The packet that an arrival appends to the queue, if it does, by the arrivals before it and by whether
there is a slot for a packet. -/
def accepted (dropOn : Status) (history : List Arrival) (arrival : Arrival) (slot : Bool) :
    Option Bytes :=
  if arrival.delimits dropOn && slot then
    (inProgress dropOn history).bind fun arrivals => Checksum.unseal? (decode false (arrivals.map byte))
  else
    none

section Stretch

variable {dropOn : Status} {arrival : Arrival}

theorem stretch_append (history : List Arrival) :
    stretch dropOn (history ++ [arrival]) =
      if arrival.delimits dropOn then some []
      else (stretch dropOn history).map (· ++ [arrival]) := by
  induction history with
  | nil => rfl
  | cons earlier later inductionHypothesis =>
    rw [List.cons_append, stretch, inductionHypothesis, stretch]
    by_cases delimits : arrival.delimits dropOn = true
    · rw [if_pos delimits, if_pos delimits]
    · rw [if_neg delimits, if_neg delimits]
      cases stretch dropOn later with
      | none => cases earlier.delimits dropOn <;> rfl
      | some arrivals => rfl

/-- A stretch goes on until something spoils it, and another one begins at each delimiter. -/
theorem inProgress_append (history : List Arrival) :
    inProgress dropOn (history ++ [arrival]) =
      if arrival.delimits dropOn then some []
      else if arrival.spoils dropOn then none
      else (inProgress dropOn history).map (· ++ [arrival]) := by
  unfold inProgress
  rw [stretch_append]
  by_cases delimits : arrival.delimits dropOn = true
  · rw [if_pos delimits, if_pos delimits]
    rfl
  · rw [if_neg delimits, if_neg delimits]
    cases stretch dropOn history with
    | none => split <;> rfl
    | some arrivals =>
      cases spoils : arrival.spoils dropOn <;> simp [Option.filter_some, spoils]

end Stretch

end Arrival

namespace Reception

/-- The packet in progress is what the arrivals since the last delimiter decode to. -/
structure Tracks (dropOn : Status) (history : List Arrival) (reception : Reception) : Prop where
  started : reception.started = (Arrival.inProgress dropOn history).isSome
  tentative : reception.queue.tentative =
    decode false (((Arrival.inProgress dropOn history).getD []).map (·.byte))
  escaped : reception.escaped =
    dangling false (((Arrival.inProgress dropOn history).getD []).map (·.byte))

variable {geometry : Geometry} {dropOn : Status} {history : List Arrival} {reception : Reception}

theorem tracks_drop {arrival : Arrival} (other : arrival.delimits dropOn = false)
    (spoils : arrival.spoils dropOn = true) :
    reception.drop.Tracks dropOn (history ++ [arrival]) := by
  have none : Arrival.inProgress dropOn (history ++ [arrival]) = none := by
    simp [Arrival.inProgress_append, other, spoils]
  constructor <;> rw [none] <;> rfl

/-- What is no delimiter and spoils nothing joins the stretch. -/
theorem tracks_join {arrival : Arrival} (tracks : reception.Tracks dropOn history)
    (other : arrival.delimits dropOn = false) (sound : arrival.spoils dropOn = false)
    (active : reception.started = true) {after : Reception} (started : after.started = true)
    (tentative : after.queue.tentative =
      reception.queue.tentative ++ decode reception.escaped [arrival.byte])
    (escaped : after.escaped = dangling reception.escaped [arrival.byte]) :
    after.Tracks dropOn (history ++ [arrival]) := by
  obtain ⟨arrivals, found⟩ := Option.isSome_iff_exists.mp (tracks.started.symm.trans active)
  have longer : Arrival.inProgress dropOn (history ++ [arrival]) = some (arrivals ++ [arrival]) := by
    simp [Arrival.inProgress_append, other, sound, found]
  have content := tracks.tentative
  have marker := tracks.escaped
  rw [found, Option.getD_some] at content marker
  constructor
  · rw [longer, started]
    rfl
  · rw [longer, tentative, content, marker, Option.getD_some, List.map_append, decode_append]
    rfl
  · rw [longer, escaped, marker, Option.getD_some, List.map_append, dangling_append]
    rfl

/-- A receiver goes on tracking the line. -/
theorem Tracks.receive (geometry : Geometry) (tracks : reception.Tracks dropOn history) (byte : UInt8)
    (status : Status) :
    (reception.receive geometry dropOn byte status).Tracks dropOn
      (history ++ [⟨byte, status, reception.queue.freeBytes geometry⟩]) := by
  cases spoiled : status.intersects dropOn with
  | true =>
    rw [receive_spoiled spoiled]
    exact tracks_drop (by simp [Arrival.delimits, spoiled]) (by simp [Arrival.spoils, spoiled])
  | false =>
    by_cases delimiter : byte = Stuffing.start
    · have begins : Arrival.inProgress dropOn
          (history ++ [⟨byte, status, reception.queue.freeBytes geometry⟩]) = some [] := by
        simp [Arrival.inProgress_append, Arrival.delimits, delimiter, spoiled]
      rw [delimiter, receive_start spoiled, ← delimiter]
      constructor <;> rw [begins] <;> rfl
    have other : Arrival.delimits dropOn ⟨byte, status, reception.queue.freeBytes geometry⟩ = false := by
      simp [Arrival.delimits, delimiter]
    cases active : reception.started with
    | false =>
      have nothing : Arrival.inProgress dropOn history = none :=
        Option.isSome_eq_false_iff.mp (tracks.started.symm.trans active) |> Option.isNone_iff_eq_none.mp
      have still : Arrival.inProgress dropOn
          (history ++ [⟨byte, status, reception.queue.freeBytes geometry⟩]) =
            Arrival.inProgress dropOn history := by
        rw [Arrival.inProgress_append, nothing, other]
        simp
      rw [receive_noise spoiled delimiter active]
      constructor
      · rw [still, tracks.started]
      · rw [still, tracks.tentative]
      · rw [still, tracks.escaped]
    | true =>
      rw [receive_active spoiled delimiter active]
      by_cases aborts : byte = Stuffing.reset
      · rw [if_pos aborts]
        exact tracks_drop other (by simp [Arrival.spoils, aborts])
      rw [if_neg aborts]
      by_cases marker : byte = Stuffing.escape
      · rw [if_pos marker]
        refine tracks_join tracks other ?_ active active ?_ ?_
        · simp [Arrival.spoils, spoiled, marker, Stuffing.escape, Stuffing.reset]
        · simp [marker]
        · rw [marker]
          rfl
      rw [if_neg marker, store_eq]
      by_cases room : 0 < reception.queue.freeBytes geometry
      · rw [if_pos room]
        refine tracks_join tracks other ?_ active active ?_ ?_
        · simp [Arrival.spoils, spoiled, aborts, Nat.ne_of_gt room]
        · rw [decode_data _ marker]
        · rw [dangling_data _ marker]
      · rw [if_neg room]
        exact tracks_drop other (by simp [Arrival.spoils, marker, Nat.eq_zero_of_not_pos room])

/-- What a delimiter appends is the packet that the stretch holds. -/
theorem Tracks.closing (tracks : reception.Tracks dropOn history) :
    reception.queue.closing geometry =
      if reception.queue.canCommit geometry then
        (Arrival.inProgress dropOn history).bind fun arrivals =>
          Checksum.unseal? (decode false (arrivals.map (·.byte)))
      else none := by
  unfold PacketQueue.closing
  rw [tracks.tentative]
  cases Arrival.inProgress dropOn history with
  | none => rfl
  | some arrivals => rfl

/-- A receiver appends what is accepted. -/
theorem Tracks.appended_eq (tracks : reception.Tracks dropOn history) (byte : UInt8) (status : Status)
    (free : Nat) :
    reception.appended geometry dropOn byte status =
      Arrival.accepted dropOn history ⟨byte, status, free⟩ (reception.queue.canCommit geometry) := by
  unfold appended
  rw [tracks.closing, Arrival.accepted]
  by_cases clean : byte = Stuffing.start ∧ status.intersects dropOn = false
  · rw [if_pos clean]
    simp [Arrival.delimits, clean.1, clean.2]
  · have other : Arrival.delimits dropOn ⟨byte, status, free⟩ = false := by
      simpa [Arrival.delimits] using clean
    rw [if_neg clean, other]
    rfl

end Reception

namespace Inbound

variable {geometry : Geometry}

/-- What happens to a receiver and its ring: a byte comes from the line, or the reader does something. -/
inductive Event where
  | line (byte : UInt8) (status : Status)
  | read (operation : Reading)
  deriving DecidableEq, Repr

/-- A receiver, and what came from the line so far. -/
structure Log (geometry : Geometry) where
  history : List Arrival := []
  inbound : Inbound geometry

namespace Log

def arrival (log : Log geometry) (byte : UInt8) (status : Status) : Arrival where
  byte := byte
  status := status
  free := log.inbound.ring.answer Writer.freeBytes

def next (log : Log geometry) : Event → Log geometry
  | .line byte status => {
      history := log.history ++ [log.arrival byte status]
      inbound := log.inbound.receive byte status }
  | .read operation =>
    { log with inbound.ring := log.inbound.ring.after operation.program }

def run (log : Log geometry) (events : List Event) : Log geometry :=
  events.foldl next log

end Log

/-- A log is true of the receiver that it tells of. -/
structure Log.Truthful (log : Log geometry) (dropOn : Status) (reception : Reception) : Prop where
  sound : Sound log.inbound reception
  tracks : reception.Tracks dropOn log.history
  dropOn : log.inbound.dropOn = dropOn

/-- A receiver over a fresh ring has seen nothing. -/
theorem Log.truthful_fresh (geometry : Geometry) (dropOn : Status) (waker : Waker) :
    (Log.mk [] { attach { PacketRing.fresh geometry with taken := true } dropOn with
      waker }).Truthful dropOn { queue := .empty } where
  sound := sound_attach dropOn waker true
  tracks := ⟨rfl, rfl, rfl⟩
  dropOn := rfl

theorem Log.truthful_next {log : Log geometry} {dropOn : Status} {reception : Reception}
    (truthful : log.Truthful dropOn reception) (event : Event) :
    ∃ after, (log.next event).Truthful dropOn after := by
  cases event with
  | line byte status =>
    have free := (observes_freeBytes geometry).answer_eq truthful.sound.represents
    have sound := truthful.sound.receive byte status
    have tracks := truthful.tracks.receive geometry byte status
    rw [truthful.dropOn] at sound
    refine ⟨_, sound, ?_, ?_⟩
    · simpa only [Log.next, Log.arrival, free] using tracks
    · rw [← truthful.dropOn]
      exact receive_dropOn _ _ _
  | read operation =>
    have represents := (refines_read operation).after_represents truthful.sound.represents
    refine ⟨_, truthful.sound.read operation represents, ?_, truthful.dropOn⟩
    have kept := reception.queue.tentative_read operation
    exact {
      started := truthful.tracks.started
      tentative := kept.trans truthful.tracks.tentative
      escaped := truthful.tracks.escaped }

/-- A log stays true however long it gets. -/
theorem Log.truthful_run {log : Log geometry} {dropOn : Status} {reception : Reception}
    (truthful : log.Truthful dropOn reception) (events : List Event) :
    ∃ after, (log.run events).Truthful dropOn after := by
  induction events generalizing log reception with
  | nil => exact ⟨reception, truthful⟩
  | cons event rest inductionHypothesis =>
    obtain ⟨after, truthful⟩ := truthful_next truthful event
    exact inductionHypothesis truthful

/-- Whatever came before, an arrival appends the packet that the stretch before it holds, and nothing
else; the packets that are already there stay as they are. -/
theorem contents_receive (geometry : Geometry) (dropOn : Status) (waker : Waker)
    (events : List Event) (byte : UInt8) (status : Status) :
    ∃ ring, (PacketRing.fresh geometry).split = .ok ring ∧
      let log := (Log.mk [] { attach ring dropOn with waker }).run events
      let after := (log.inbound.receive byte status).ring
      after.contents = log.inbound.ring.contents ++
        (Arrival.accepted dropOn log.history (log.arrival byte status)
          (log.inbound.ring.answer Writer.canCommit)).toList ∧
      after.consumed = log.inbound.ring.consumed := by
  refine ⟨_, rfl, ?_⟩
  obtain ⟨reception, truthful⟩ := Log.truthful_run (Log.truthful_fresh geometry dropOn waker) events
  intro log after
  have slot := (observes_canCommit geometry).answer_eq truthful.sound.represents
  have received := truthful.sound.contents_receive_eq byte status
  rw [truthful.dropOn, truthful.tracks.appended_eq byte status
    (log.inbound.ring.answer Writer.freeBytes)] at received
  rw [slot]
  exact received

end Inbound

end FramedLine
