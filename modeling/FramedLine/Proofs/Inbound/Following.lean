import FramedLine.Proofs.Frame
import FramedLine.Proofs.Inbound.Reception

/-!
A receiver at the end of a line of frames. Wherever in the line it is and whatever it dropped, what it
holds of a packet and what the line still has of it are the packet together, so that bytes of two packets
never meet. Without line errors it only drops packets for which it has no room.
-/

namespace FramedLine

open PacketRing Stuffing

/-- Each of the frames is that of its payload, and all but the first one may lack the opening delimiter. -/
def Framed (frames payloads : List Bytes) : Prop :=
  ∀ count frame, frames[count]? = some frame →
    ∃ payload, payloads[count]? = some payload ∧ payload ≠ [] ∧
      (frame = Frame.whole payload ∨ (0 < count ∧ frame = Frame.body payload))

namespace Reception

/-- What the reader of the packets leaves of a receiver: it releases some of them at most. -/
structure Reads (before after : Reception) : Prop where
  started : after.started = before.started
  escaped : after.escaped = before.escaped
  tentative : after.queue.tentative = before.queue.tentative
  packets : after.queue.packets <:+ before.queue.packets

theorem reads_takeByte (reception : Reception) : reception.Reads (reception.read .takeByte) := by
  refine ⟨rfl, rfl, reception.queue.tentative_read _, ?_⟩
  simp only [Reception.read, PacketQueue.read, PacketQueue.takeByte]
  split <;> exact List.suffix_refl _

theorem reads_copyInto (reception : Reception) (destination : Bytes) :
    reception.Reads (reception.read (.copyInto destination)) :=
  ⟨rfl, rfl, rfl, List.suffix_refl _⟩

theorem reads_release (reception : Reception) : reception.Reads (reception.read .release) :=
  ⟨rfl, rfl, rfl, List.tail_suffix _⟩

/-- Whether a receiver has room for a byte of a frame. -/
def hasRoom (geometry : Geometry) (reception : Reception) (byte : UInt8) : Bool :=
  byte == Stuffing.start || byte == Stuffing.escape || decide (0 < reception.queue.freeBytes geometry)

/-- A receiver that got `part` of the frame of a payload. What is `left` of the frame comes before its
closing delimiter. Of the packet the receiver has dropped everything, or nothing; it has done the latter
if the line is `clean` and there was `room` for each byte. -/
structure Within (frames payloads : List Bytes) (count : Nat) (room clean : Bool) (reception : Reception)
    (part left payload : Bytes) : Prop where
  frame : frames[count]? = some (part ++ (left ++ [Stuffing.start]))
  queued : payloads[count]? = some payload
  filled : payload ≠ []
  plain : ∀ byte ∈ left, byte ≠ Stuffing.start ∧ byte ≠ Stuffing.reset
  idle : reception.started = false → reception.queue.tentative = [] ∧ reception.escaped = false
  holds : reception.started = true →
    reception.queue.tentative ++ decode reception.escaped left = Checksum.sealed payload
  fresh : clean = true → reception.started = room

/-- A receiver that got `count` frames of a line whole, and `part` of the next one. -/
inductive Follows (frames payloads : List Bytes) (count : Nat) (room clean : Bool) (reception : Reception) :
    (part : Bytes) → Prop where
  | between (idle : reception.queue.tentative = [] ∧ reception.escaped = false)
    (fresh : clean = true → room = true ∧ (0 < count → reception.started = true)) :
    Follows frames payloads count room clean reception []
  | within {part left payload : Bytes}
    (inside : reception.Within frames payloads count room clean part left payload) :
    Follows frames payloads count room clean reception part

variable {geometry : Geometry} {dropOn : Status} {frames payloads : List Bytes} {count : Nat}
  {room clean : Bool} {reception : Reception} {part left payload : Bytes}

/-- A receiver that drops its part of a packet holds nothing of it. -/
theorem within_drop (frame : frames[count]? = some (part ++ (left ++ [Stuffing.start])))
    (queued : payloads[count]? = some payload) (filled : payload ≠ [])
    (plain : ∀ byte ∈ left, byte ≠ Stuffing.start ∧ byte ≠ Stuffing.reset)
    (spoiled : clean = true → room = false) :
    reception.drop.Within frames payloads count room clean part left payload where
  frame := frame
  queued := queued
  filled := filled
  plain := plain
  idle _ := ⟨rfl, rfl⟩
  holds active := by cases active
  fresh quiet := (spoiled quiet).symm

section Steps

variable (geometry) (dropOn)

/-- The opening delimiter of a frame finds nothing to close. -/
theorem within_opening (frame : frames[count]? = some (Frame.whole payload))
    (queued : payloads[count]? = some payload) (filled : payload ≠ [])
    (empty : reception.queue.tentative = []) (fresh : clean = true → room = true) (status : Status) :
    (reception.receive geometry dropOn Stuffing.start status).Within frames payloads count room
        (clean && !status.intersects dropOn) [Stuffing.start] (stuffAll (Checksum.sealed payload))
        payload ∧
      reception.appended geometry dropOn Stuffing.start status = none := by
  have nothing : reception.queue.closing geometry = none := by
    rw [PacketQueue.closing, empty]
    exact ite_self _
  cases spoiled : status.intersects dropOn with
  | true =>
    rw [receive_spoiled spoiled, appended, if_neg (by simp [spoiled])]
    exact ⟨within_drop frame queued filled (plain_stuffAll _) (fun quiet => by simp at quiet), rfl⟩
  | false =>
    rw [receive_start spoiled, appended, if_pos ⟨rfl, spoiled⟩, nothing]
    exact ⟨{
      frame
      queued
      filled
      plain := plain_stuffAll _
      idle := fun inactive => by cases inactive
      holds := fun _ => decode_stuffAll _
      fresh := fun quiet => (fresh (by simpa using quiet)).symm }, rfl⟩

variable {byte : UInt8}

/-- A byte inside of a frame moves from what the line has of the packet to what the receiver has of it,
or the receiver drops its part. -/
theorem Within.receive
    (inside : reception.Within frames payloads count room clean part (byte :: left) payload)
    (status : Status) :
    (reception.receive geometry dropOn byte status).Within frames payloads count
        (room && reception.hasRoom geometry byte) (clean && !status.intersects dropOn)
        (part ++ [byte]) left payload ∧
      reception.appended geometry dropOn byte status = none := by
  obtain ⟨notStart, notReset⟩ := inside.plain byte (List.mem_cons_self ..)
  have plain : ∀ other ∈ left, other ≠ Stuffing.start ∧ other ≠ Stuffing.reset :=
    fun other found => inside.plain other (List.mem_cons_of_mem _ found)
  have frame : frames[count]? = some (part ++ [byte] ++ (left ++ [Stuffing.start])) := by
    rw [inside.frame, List.append_assoc]
    rfl
  refine ⟨?_, if_neg (by simp [notStart])⟩
  cases spoiled : status.intersects dropOn with
  | true =>
    rw [receive_spoiled spoiled]
    exact within_drop frame inside.queued inside.filled plain (fun quiet => by simp at quiet)
  | false =>
    cases active : reception.started with
    | false =>
      rw [receive_noise spoiled notStart active]
      apply Within.mk frame inside.queued inside.filled plain inside.idle
      · intro running
        cases active.symm.trans running
      · intro quiet
        rw [active, ← inside.fresh (by simpa using quiet), active]
        rfl
    | true =>
      have held := inside.holds active
      rw [receive_active spoiled notStart active, if_neg notReset]
      by_cases marker : byte = Stuffing.escape
      · have ready : reception.hasRoom geometry byte = true := by simp [hasRoom, marker]
        rw [decode, if_pos marker] at held
        rw [if_pos marker, ready, Bool.and_true]
        apply Within.mk frame inside.queued inside.filled plain
        · intro inactive
          cases active.symm.trans inactive
        · intro _
          exact held
        · intro quiet
          exact inside.fresh (by simpa using quiet)
      · rw [decode, if_neg marker] at held
        rw [if_neg marker, store_eq]
        by_cases free : 0 < reception.queue.freeBytes geometry
        · have ready : reception.hasRoom geometry byte = true := by simp [hasRoom, free]
          rw [if_pos free, ready, Bool.and_true]
          apply Within.mk frame inside.queued inside.filled plain
          · intro inactive
            cases active.symm.trans inactive
          · intro _
            rw [← held]
            exact List.append_assoc _ _ _
          · intro quiet
            exact inside.fresh (by simpa using quiet)
        · have full : reception.hasRoom geometry byte = false := by
            simp [hasRoom, notStart, marker, Nat.not_lt.mp free]
          rw [if_neg free, full, Bool.and_false]
          exact within_drop frame inside.queued inside.filled plain (fun _ => rfl)

/-- The closing delimiter of a frame completes the packet, if the receiver did not drop it. -/
theorem Within.receive_closing
    (inside : reception.Within frames payloads count room clean part [] payload) (status : Status) :
    (reception.receive geometry dropOn Stuffing.start status).Follows frames payloads (count + 1) true
        (clean && !status.intersects dropOn) [] ∧
      (reception.appended geometry dropOn Stuffing.start status = none ∨
        reception.appended geometry dropOn Stuffing.start status = some payload) ∧
      ((clean && !status.intersects dropOn) = true →
        reception.appended geometry dropOn Stuffing.start status =
          if room && reception.queue.canCommit geometry then some payload else none) := by
  have holds : reception.started = true → reception.queue.tentative = Checksum.sealed payload :=
    fun active => (List.append_nil _).symm.trans (inside.holds active)
  have opened := Checksum.unseal?_sealed payload inside.filled
  cases spoiled : status.intersects dropOn with
  | true =>
    rw [receive_spoiled spoiled, appended, if_neg (by simp [spoiled])]
    exact ⟨.between ⟨rfl, rfl⟩ (fun quiet => by simp at quiet), .inl rfl, fun quiet => by simp at quiet⟩
  | false =>
    rw [receive_start spoiled, appended, if_pos ⟨rfl, spoiled⟩, PacketQueue.closing]
    refine ⟨.between ⟨rfl, rfl⟩ (fun _ => ⟨rfl, fun _ => rfl⟩), ?_, ?_⟩
    · split
      · cases active : reception.started with
        | false =>
          rw [(inside.idle active).1]
          exact .inl rfl
        | true =>
          rw [holds active]
          exact .inr opened
      · exact .inl rfl
    · intro quiet
      have running := inside.fresh (by simpa using quiet)
      cases active : reception.started with
      | false =>
        rw [← running, active, (inside.idle active).1]
        exact ite_self _
      | true => rw [← running, active, Bool.true_and, holds active, opened]

end Steps

/-- A string goes on with the first of its pieces that is not complete. -/
theorem exists_next {byte : UInt8} {more : Bytes}
    (coming : (frames.drop count).flatten = part ++ byte :: more) :
    ∃ frame, frames[count]? = some frame ∧
      frame ++ (frames.drop (count + 1)).flatten = part ++ byte :: more := by
  by_cases inside : count < frames.length
  · rw [List.drop_eq_getElem_cons inside, List.flatten_cons] at coming
    exact ⟨frames[count], List.getElem?_eq_getElem inside, coming⟩
  · rw [List.drop_eq_nil_of_le (Nat.not_lt.mp inside)] at coming
    exact absurd (congrArg List.length coming) (by simp)

section Receive

variable (geometry) (dropOn) {byte : UInt8} {more : Bytes}

/-- What a byte from the line leaves of a receiver that follows it, and what it appends: nothing, or the
payload of the frame that it completes. -/
def Advances (frames payloads : List Bytes) (count : Nat) (room clean : Bool) (reception : Reception)
    (part : Bytes) (byte : UInt8) (status : Status) : Prop :=
  let after := reception.receive geometry dropOn byte status
  let appended := reception.appended geometry dropOn byte status
  let quiet := clean && !status.intersects dropOn
  ∃ frame payload, frames[count]? = some frame ∧ payloads[count]? = some payload ∧
    if part ++ [byte] = frame then
      after.Follows frames payloads (count + 1) true quiet [] ∧
        (appended = none ∨ appended = some payload) ∧
        (quiet = true →
          appended = if room && reception.queue.canCommit geometry then some payload else none)
    else
      after.Follows frames payloads count (room && reception.hasRoom geometry byte) quiet
          (part ++ [byte]) ∧
        appended = none

/-- Within a frame, a receiver advances by a byte of it. -/
theorem Within.advances
    (inside : reception.Within frames payloads count room clean part left payload)
    (coming : (frames.drop count).flatten = part ++ byte :: more) (status : Status) :
    Advances geometry dropOn frames payloads count room clean reception part byte status := by
  refine ⟨_, _, inside.frame, inside.queued, ?_⟩
  obtain ⟨next, found, coming⟩ := exists_next coming
  rw [← Option.some.inj (inside.frame.symm.trans found), List.append_assoc,
    List.append_cancel_left_eq] at coming
  cases left with
  | nil =>
    obtain ⟨rfl, -⟩ := List.cons.inj coming
    rw [if_pos (by rfl)]
    exact inside.receive_closing geometry dropOn status
  | cons first later =>
    obtain ⟨rfl, -⟩ := List.cons.inj coming
    obtain ⟨after, none⟩ := inside.receive geometry dropOn status
    rw [if_neg (by simp)]
    exact ⟨.within after, none⟩

/-- A receiver advances by each byte of the line. -/
theorem Follows.receive (framed : Framed frames payloads)
    (follows : reception.Follows frames payloads count room clean part)
    (coming : (frames.drop count).flatten = part ++ byte :: more) (status : Status) :
    Advances geometry dropOn frames payloads count room clean reception part byte status := by
  cases follows with
  | between idle fresh =>
    obtain ⟨frame, found, next⟩ := exists_next coming
    obtain ⟨payload, queued, filled, opening | ⟨later, body⟩⟩ := framed count frame found
    · rw [opening] at found next
      obtain ⟨rfl, -⟩ := List.cons.inj next
      obtain ⟨after, none⟩ := within_opening geometry dropOn found queued filled idle.1
        (fun quiet => (fresh quiet).1) status
      refine ⟨_, _, found, queued, ?_⟩
      rw [if_neg (by simp [Frame.whole, Frame.body])]
      have ready : reception.hasRoom geometry Stuffing.start = true := by simp [hasRoom]
      rw [ready, Bool.and_true]
      exact ⟨.within after, none⟩
    · rw [body] at found
      have inside : reception.Within frames payloads count room clean []
          (stuffAll (Checksum.sealed payload)) payload := {
        frame := found
        queued
        filled
        plain := plain_stuffAll _
        idle := fun _ => idle
        holds := by
          intro _
          rw [idle.1, idle.2, List.nil_append, decode_stuffAll]
        fresh := by
          intro quiet
          rw [(fresh quiet).1, (fresh quiet).2 later] }
      exact inside.advances geometry dropOn coming status
  | within inside => exact inside.advances geometry dropOn coming status

end Receive

/-- Reading what was received does not change where a receiver is in the line. -/
theorem Follows.reads {after : Reception}
    (follows : reception.Follows frames payloads count room clean part)
    (reads : reception.Reads after) : after.Follows frames payloads count room clean part := by
  have escaped := reads.escaped
  have tentative := reads.tentative
  cases follows with
  | between idle fresh =>
    apply Follows.between ⟨tentative.trans idle.1, escaped.trans idle.2⟩
    rw [reads.started]
    exact fresh
  | within inside =>
    apply Follows.within
    apply Within.mk inside.frame inside.queued inside.filled inside.plain
    · rw [reads.started, tentative, escaped]
      exact inside.idle
    · rw [reads.started, tentative, escaped]
      exact inside.holds
    · rw [reads.started]
      exact inside.fresh

theorem getElem?_longer {strings longer : List Bytes} {place : Nat} {string : Bytes}
    (same : strings <+: longer) (found : strings[place]? = some string) :
    longer[place]? = some string := by
  obtain ⟨added, rfl⟩ := same
  obtain ⟨inside, -⟩ := List.getElem?_eq_some_iff.mp found
  rw [List.getElem?_append_left inside, found]

/-- A line that goes on changes nothing of what came. -/
theorem Follows.grow {longer more : List Bytes}
    (follows : reception.Follows frames payloads count room clean part)
    (frames_le : frames <+: longer) (payloads_le : payloads <+: more) :
    reception.Follows longer more count room clean part := by
  cases follows with
  | between idle fresh => exact .between idle fresh
  | within inside =>
    exact .within {
      inside with
      frame := getElem?_longer frames_le inside.frame
      queued := getElem?_longer payloads_le inside.queued }

/-- On a line that is not clean any more, nothing is known of the room that there was. -/
theorem Follows.spoil (follows : reception.Follows frames payloads count room clean part) :
    reception.Follows frames payloads count room false part := by
  cases follows with
  | between idle fresh => exact .between idle (fun quiet => by cases quiet)
  | within inside => exact .within { inside with fresh := fun quiet => by cases quiet }

/-- A receiver can drop its part of a packet at any time, but not on a clean line. -/
theorem Follows.drop (follows : reception.Follows frames payloads count room clean part) :
    reception.drop.Follows frames payloads count room false part := by
  cases follows with
  | between idle fresh => exact .between ⟨rfl, rfl⟩ (fun quiet => by cases quiet)
  | within inside =>
    exact .within (within_drop inside.frame inside.queued inside.filled inside.plain
      (fun quiet => by cases quiet))

/-- An abort that is no part of the line makes a receiver drop what it has, at most. -/
theorem Follows.abort (geometry : Geometry) (dropOn : Status)
    (follows : reception.Follows frames payloads count room clean part) (status : Status) :
    (reception.receive geometry dropOn Stuffing.reset status).Follows frames payloads count room false
        part ∧
      reception.appended geometry dropOn Stuffing.reset status = none := by
  refine ⟨?_, if_neg fun found => by cases found.1⟩
  cases spoiled : status.intersects dropOn with
  | true =>
    rw [receive_spoiled spoiled]
    exact follows.drop
  | false =>
    cases active : reception.started with
    | true =>
      rw [receive_active spoiled (by decide) active, if_pos rfl]
      exact follows.drop
    | false =>
      rw [receive_noise spoiled (by decide) active]
      exact follows.spoil

end Reception

end FramedLine
