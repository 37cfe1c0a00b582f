import FramedLine.Proofs.Frame
import FramedLine.Proofs.Outbound.Call

/-!
What a sender puts on the line. The driver stuffs in place, byte by byte, while packets come and go;
what it has sent at any time is what the encoder of whole frames makes of the queued payloads, where one
delimiter does for two packets if the second one was there in time.
-/

namespace FramedLine

open PacketRing Stuffing

namespace Transmission

/-- What is still to be sent of the oldest packet. -/
def rest (transmission : Transmission) : Bytes :=
  if transmission.queue.packets.isEmpty then
    []
  else
    (if transmission.opened then [] else [Stuffing.start]) ++
      (stuffAll transmission.queue.front ++ [Stuffing.start])

variable {transmission after : Transmission} {byte : Option UInt8}

theorem rest_of_empty (empty : transmission.queue.packets = []) : transmission.rest = [] := by
  simp [rest, empty]

theorem present_of_rest {first : UInt8} {more : Bytes} (left : transmission.rest = first :: more) :
    transmission.queue.packets ≠ [] := by
  intro empty
  rw [rest_of_empty empty] at left
  cases left

theorem rest_of_closed (present : transmission.queue.packets ≠ []) (closed : transmission.opened = false) :
    transmission.rest = Stuffing.start :: (stuffAll transmission.queue.front ++ [Stuffing.start]) := by
  simp [rest, present, closed]

theorem rest_of_opened (present : transmission.queue.packets ≠ []) (opened : transmission.opened = true) :
    transmission.rest = stuffAll transmission.queue.front ++ [Stuffing.start] := by
  simp [rest, present, opened]

/-- A packet whose length does not change stays there. -/
theorem present_of_length {queue other : PacketQueue} (present : queue.packets ≠ [])
    (length : other.packets.length = queue.packets.length) : other.packets ≠ [] := by
  intro empty
  rw [empty] at length
  exact present (List.length_eq_zero_iff.mp length.symm)

/-- A call of the driver takes the first byte of what is still to be sent. It releases the oldest packet
if this byte is the only one, and keeps it otherwise. -/
theorem Step.rest_eq (step : transmission.Step byte after) :
    byte = transmission.rest.head? ∧
      if transmission.rest = [Stuffing.start] then
        after = { transmission with
          queue := transmission.queue.release
          opened := !transmission.queue.packets.tail.isEmpty }
      else
        transmission.rest = byte.toList ++ after.rest ∧
          after.queue.packets.length = transmission.queue.packets.length ∧
          after.queue.packets.tail = transmission.queue.packets.tail := by
  cases step with
  | quiet empty =>
    have still : { transmission with opened := false }.rest = [] := rest_of_empty empty
    rw [rest_of_empty empty, still]
    exact ⟨rfl, rfl, rfl, rfl⟩
  | opening present closed =>
    have remaining : { transmission with opened := true }.rest =
        stuffAll transmission.queue.front ++ [Stuffing.start] := rest_of_opened present rfl
    rw [rest_of_closed present closed, remaining, if_neg (by simp)]
    exact ⟨rfl, rfl, rfl, rfl⟩
  | @body byte queue present opened stuffed length behind tentative =>
    have remaining : { transmission with queue }.rest = stuffAll queue.front ++ [Stuffing.start] :=
      rest_of_opened (present_of_length present length) opened
    rw [rest_of_opened present opened, stuffed, remaining, if_neg (by simp)]
    exact ⟨rfl, rfl, length, behind⟩
  | closing present opened done =>
    rw [rest_of_opened present opened, done, stuffAll_nil, List.nil_append, if_pos rfl]
    exact ⟨rfl, rfl⟩

/-- The driver does not meddle with the open packet. -/
theorem Step.drafts (step : transmission.Step byte after) {draft : Bytes}
    (drafts : transmission.Drafts draft) : after.Drafts draft := by
  cases step with
  | quiet empty => exact drafts
  | opening present closed => exact drafts
  | body present opened stuffed length behind tentative =>
    intro active
    exact tentative.trans (drafts active)
  | closing present opened done => exact drafts

/-- Without a packet, no frame is open. -/
theorem Step.closed (step : transmission.Step byte after) (empty : after.queue.packets = []) :
    after.opened = false := by
  cases step with
  | quiet none => rfl
  | opening present closed => exact absurd empty present
  | body present opened stuffed length behind tentative =>
    exact absurd empty (present_of_length present length)
  | closing present opened done =>
    change transmission.queue.packets.tail = [] at empty
    simp [empty]

/-- The packet behind the one that is released is to be sent without its opening delimiter. -/
theorem rest_release {payloads : List Bytes}
    (behind : transmission.queue.packets.tail = payloads.map Checksum.sealed) :
    rest { transmission with
      queue := transmission.queue.release
      opened := !transmission.queue.packets.tail.isEmpty } =
        (payloads.head?.map Frame.body).getD [] := by
  cases payloads with
  | nil => exact rest_of_empty behind
  | cons payload later =>
    have packets : transmission.queue.release.packets =
        Checksum.sealed payload :: later.map Checksum.sealed := behind
    have front : transmission.queue.release.front = Checksum.sealed payload := by
      rw [PacketQueue.front_of_cons packets]
      rfl
    rw [rest_of_opened]
    · simp only [front]
      rfl
    · simp [packets]
    · simp [behind]

section Calls

variable {before : Transmission} {accepted : Bool} {payload draft : Bytes}

/-- A packet that joins the queue does not touch the oldest one. -/
theorem Effect.rest_eq (effect : before.Effect accepted payload draft after)
    (present : before.queue.packets ≠ []) : after.rest = before.rest := by
  obtain ⟨oldest, others, found⟩ := List.exists_cons_of_ne_nil present
  have packets := effect.packets
  rw [found, List.cons_append] at packets
  have front : after.queue.front = before.queue.front := by
    rw [PacketQueue.front_of_cons packets, PacketQueue.front_of_cons found, effect.offset]
  simp only [rest, packets, found, List.isEmpty_cons, effect.opened, front]

/-- A packet that joins an empty queue is to be sent whole. -/
theorem Effect.rest_first (effect : before.Effect true payload draft after)
    (empty : before.queue.packets = []) (within : before.queue.WithinOldest)
    (closed : before.opened = false) : after.rest = Frame.whole payload := by
  have packets := effect.packets
  rw [empty, List.nil_append] at packets
  rw [PacketQueue.WithinOldest, PacketQueue.oldest_of_nil empty] at within
  have front : after.queue.front = Checksum.sealed payload := by
    rw [PacketQueue.front_of_cons packets, effect.offset, Nat.le_zero.mp within, List.drop_zero]
  have present : after.queue.packets ≠ [] := by
    rw [packets]
    exact List.cons_ne_nil _ _
  rw [rest_of_closed present (effect.opened.trans closed), front]
  rfl

end Calls

end Transmission

namespace Outbound

variable {geometry : Geometry}

/-- How many packets wait in the ring, the one that is being sent included. -/
def waiting (outbound : Outbound geometry) : Nat :=
  outbound.ring.answer Reader.packetCount

theorem Sound.waiting_eq {outbound : Outbound geometry} {transmission : Transmission}
    (sound : Sound outbound transmission) :
    outbound.waiting = transmission.queue.packets.length :=
  observes_packetCount.answer_eq sound.represents

/-- What happens to a sending direction: the application makes a call, or the line asks for a byte. -/
inductive Action where
  | call (call : Call)
  | nextByte
  deriving DecidableEq

/-- A sending direction, with what was queued and sent so far. -/
structure Record (geometry : Geometry) where
  outbound : Outbound geometry
  /-- What was appended since the last packet was begun. -/
  draft : Bytes := []
  /-- The payloads that were queued. -/
  queued : List Bytes := []
  /-- The bytes that were sent. -/
  line : Bytes := []
  /-- For each packet that was released, whether the packet behind it was queued by then. -/
  handovers : List Bool := []

namespace Record

def next (record : Record geometry) : Action → Record geometry
  | .call call =>
    let (accepted, outbound) := call.perform record.outbound
    { record with
      outbound
      draft := call.draft record.draft
      queued := if accepted then record.queued ++ [call.payload record.draft] else record.queued }
  | .nextByte =>
    let (byte, outbound) := record.outbound.nextByte
    let released := decide (outbound.waiting < record.outbound.waiting)
    let handover := decide (record.handovers.length + 1 < record.queued.length)
    { record with
      outbound
      line := record.line ++ byte.toList
      handovers := if released then record.handovers ++ [handover] else record.handovers }

def run (record : Record geometry) (actions : List Action) : Record geometry :=
  actions.foldl next record

/-- The frame of a packet, without its opening delimiter where that of the packet before it does. -/
def frame (shared : Bool) (payload : Bytes) : Bytes :=
  if shared then (Frame.encoding payload).tail else Frame.encoding payload

/-- The frames of the released packets, and of the packet behind them if it is queued. -/
def frames (record : Record geometry) : List Bytes :=
  List.zipWith frame (false :: record.handovers) record.queued

section Frames

variable (record : Record geometry)

/-- Whether the packet behind the released ones shares its opening delimiter. -/
def shared : Bool :=
  record.handovers.getLast?.getD false

theorem length_frames_le : record.frames.length ≤ record.queued.length := by
  rw [frames, List.length_zipWith]
  exact Nat.min_le_right _ _

theorem split_frames (count : Nat) : record.frames.flatten =
    (record.frames.take count).flatten ++ (record.frames.drop count).flatten := by
  rw [← List.flatten_append, List.take_append_drop]

theorem getElem?_frames : record.frames[record.handovers.length]? =
    record.queued[record.handovers.length]?.map (frame record.shared) := by
  have last : (false :: record.handovers)[record.handovers.length]? = some record.shared := by
    rw [shared, ← List.getLast?_cons, List.getLast?_eq_getElem?]
    rfl
  rw [frames, List.getElem?_zipWith, last]
  cases record.queued[record.handovers.length]? <;> rfl

/-- What was released stays as it is when more is queued. -/
theorem take_frames_queued {after : Record geometry} {added : List Bytes}
    (released : record.handovers.length ≤ record.queued.length)
    (handovers : after.handovers = record.handovers) (queued : after.queued = record.queued ++ added) :
    after.frames.take record.handovers.length = record.frames.take record.handovers.length := by
  rw [frames, frames, handovers, queued, List.take_zipWith, List.take_zipWith,
    List.take_append_of_le_length released]

/-- A packet that is released joins those that were released before. -/
theorem take_frames_released {after : Record geometry} {handover : Bool}
    (handovers : after.handovers = record.handovers ++ [handover]) (queued : after.queued = record.queued) :
    after.frames.take (record.handovers.length + 1) =
      record.frames.take record.handovers.length ++
        record.frames[record.handovers.length]?.toList := by
  rw [← List.take_add_one, frames, frames, handovers, queued, List.take_zipWith, List.take_zipWith,
    List.take_succ_cons, List.take_succ_cons, List.take_left, List.take_length]

/-- Frames stay as they are when more is queued or released. -/
theorem frames_prefix {after : Record geometry} (handovers : record.handovers <+: after.handovers)
    (queued : record.queued <+: after.queued) : record.frames <+: after.frames := by
  obtain ⟨released, handovers⟩ := handovers
  obtain ⟨added, queued⟩ := queued
  have shorter : record.frames.length ≤ (false :: record.handovers).length := by
    rw [frames, List.length_zipWith]
    exact Nat.min_le_left _ _
  have longer : after.frames =
      List.zipWith frame (false :: record.handovers ++ released) (record.queued ++ added) := by
    rw [frames, ← handovers, ← queued]
    rfl
  rw [List.prefix_iff_eq_take, longer, List.take_zipWith, List.take_append_of_le_length shorter,
    List.take_append_of_le_length record.length_frames_le, ← List.take_zipWith]
  exact List.take_length.symm

theorem next_prefix (action : Action) :
    record.handovers <+: (record.next action).handovers ∧ record.queued <+: (record.next action).queued := by
  cases action with
  | call call =>
    simp only [next]
    refine ⟨List.prefix_refl _, ?_⟩
    split
    · exact List.prefix_append _ _
    · exact List.prefix_refl _
  | nextByte =>
    simp only [next]
    refine ⟨?_, List.prefix_refl _⟩
    split
    · exact List.prefix_append _ _
    · exact List.prefix_refl _

end Frames

/-- A record is true of the sender over a queue: the packets in the queue are the ones that were not
released, and what is still to be sent of the oldest one completes its frame. -/
structure Matches (record : Record geometry) (transmission : Transmission) : Prop where
  sound : Sound record.outbound transmission
  drafts : transmission.Drafts record.draft
  filled : ∀ payload ∈ record.queued, payload ≠ []
  count : record.handovers.length + transmission.queue.packets.length = record.queued.length
  behind : transmission.queue.packets.tail =
    (record.queued.drop (record.handovers.length + 1)).map Checksum.sealed
  idle : transmission.queue.packets = [] → transmission.opened = false ∧ record.shared = false
  line : ∃ sent, record.line = (record.frames.take record.handovers.length).flatten ++ sent ∧
    record.frames[record.handovers.length]?.getD [] = sent ++ transmission.rest

variable {record : Record geometry} {transmission : Transmission}

section Effects

variable {outbound : Outbound geometry} {after : Transmission} {payload draft : Bytes}

/-- A call that queues nothing keeps a record true. -/
theorem Matches.refuse (truthful : record.Matches transmission) (sound : Sound outbound after)
    (effect : transmission.Effect false payload draft after) :
    Matches { record with outbound, draft } after := by
  have packets : after.queue.packets = transmission.queue.packets :=
    effect.packets.trans (List.append_nil _)
  have rest : after.rest = transmission.rest := by
    by_cases empty : transmission.queue.packets = []
    · rw [Transmission.rest_of_empty empty, Transmission.rest_of_empty (packets.trans empty)]
    · exact effect.rest_eq empty
  exact {
    sound
    drafts := effect.drafts
    filled := truthful.filled
    count := by
      rw [packets]
      exact truthful.count
    behind := by
      rw [packets]
      exact truthful.behind
    idle := by
      rw [packets, effect.opened]
      exact truthful.idle
    line := by
      rw [rest]
      exact truthful.line }

/-- A call that queues a packet keeps a record true. -/
theorem Matches.accept (truthful : record.Matches transmission) (sound : Sound outbound after)
    (effect : transmission.Effect true payload draft after) :
    Matches { record with outbound, draft, queued := record.queued ++ [payload] } after := by
  obtain ⟨sent, line, completes⟩ := truthful.line
  have count := truthful.count
  have packets : after.queue.packets = transmission.queue.packets ++ [Checksum.sealed payload] :=
    effect.packets
  have taken : (frames { record with outbound, draft, queued := record.queued ++ [payload] }).take
      record.handovers.length = record.frames.take record.handovers.length :=
    record.take_frames_queued (by omega) rfl rfl
  have pending : (frames { record with
      outbound, draft, queued := record.queued ++ [payload] })[record.handovers.length]? =
        (record.queued ++ [payload])[record.handovers.length]?.map (frame record.shared) :=
    getElem?_frames _
  refine ⟨sound, effect.drafts, ?_, ?_, ?_, ?_, sent, ?_, ?_⟩
  · intro earlier found
    rcases List.mem_append.mp found with old | new
    · exact truthful.filled earlier old
    · rw [List.mem_singleton.mp new]
      exact effect.filled rfl
  · dsimp only
    rw [packets, List.length_append, List.length_append, List.length_singleton, List.length_singleton]
    omega
  · dsimp only
    rw [packets]
    by_cases empty : transmission.queue.packets = []
    · rw [empty] at count ⊢
      rw [List.drop_eq_nil_of_le]
      · rfl
      · rw [List.length_append, List.length_singleton]
        exact Nat.succ_le_succ (Nat.le_of_eq count.symm)
    · have positive := List.length_pos_iff.mpr empty
      rw [List.tail_append_of_ne_nil empty, truthful.behind, List.drop_append_of_le_length (by omega),
        List.map_append]
      rfl
  · rw [packets]
    intro empty
    exact absurd empty (by simp)
  · rw [line]
    exact congrArg (·.flatten ++ sent) taken.symm
  · dsimp only
    rw [pending]
    by_cases empty : transmission.queue.packets = []
    · obtain ⟨closed, unshared⟩ := truthful.idle empty
      rw [empty, List.length_nil, Nat.add_zero] at count
      have first := effect.rest_first empty truthful.sound.represents.within closed
      have nothing : sent = [] := by
        rw [getElem?_frames, count, List.getElem?_eq_none (Nat.le_refl _)] at completes
        exact (List.append_eq_nil_iff.mp completes.symm).1
      rw [count, List.getElem?_concat_length, nothing, first, unshared, ← Frame.encoding_eq]
      rfl
    · have positive := List.length_pos_iff.mpr empty
      rw [List.getElem?_append_left (by omega), effect.rest_eq empty, ← completes]
      exact congrArg (·.getD []) record.getElem?_frames.symm

end Effects

theorem Matches.call (truthful : record.Matches transmission) (call : Call) :
    (record.next (.call call)).Matches (transmission.perform geometry call).2 := by
  obtain ⟨same, sound⟩ := truthful.sound.perform call
  have effect := Transmission.effect_perform geometry truthful.drafts call
  rcases performed : call.perform record.outbound with ⟨accepted, outbound⟩
  rw [performed] at same sound
  rw [← same] at effect
  simp only [next, performed]
  cases accepted with
  | false => exact truthful.refuse sound effect
  | true => exact truthful.accept sound effect

section Bytes

variable {outbound : Outbound geometry} {after : Transmission} {byte : Option UInt8}

/-- A byte that is not the last one of a packet keeps a record true. -/
theorem Matches.keep (truthful : record.Matches transmission) (sound : Sound outbound after)
    (step : transmission.Step byte after) (rest : transmission.rest = byte.toList ++ after.rest)
    (length : after.queue.packets.length = transmission.queue.packets.length)
    (behind : after.queue.packets.tail = transmission.queue.packets.tail) :
    Matches { record with outbound, line := record.line ++ byte.toList } after where
  sound := sound
  drafts := step.drafts truthful.drafts
  filled := truthful.filled
  count := by
    rw [length]
    exact truthful.count
  behind := by
    rw [behind]
    exact truthful.behind
  idle := by
    intro empty
    have none : transmission.queue.packets = [] :=
      List.length_eq_zero_iff.mp (length.symm.trans (List.length_eq_zero_iff.mpr empty))
    exact ⟨step.closed empty, (truthful.idle none).2⟩
  line := by
    obtain ⟨sent, line, completes⟩ := truthful.line
    refine ⟨sent ++ byte.toList, ?_, ?_⟩
    · rw [line, List.append_assoc]
      rfl
    · rw [List.append_assoc, ← rest]
      exact completes

/-- The last byte of a packet hands the line over to the packet behind it, if there is one. -/
theorem Matches.release (truthful : record.Matches transmission) (sound : Sound outbound after)
    (step : transmission.Step byte after) (last : transmission.rest = [Stuffing.start])
    (released : after = { transmission with
      queue := transmission.queue.release
      opened := !transmission.queue.packets.tail.isEmpty }) :
    Matches { record with
      outbound
      line := record.line ++ [Stuffing.start]
      handovers := record.handovers ++
        [decide (record.handovers.length + 1 < record.queued.length)] } after := by
  obtain ⟨sent, line, completes⟩ := truthful.line
  have count := truthful.count
  have positive := List.length_pos_iff.mpr (Transmission.present_of_rest last)
  have left : after.queue.packets = transmission.queue.packets.tail := by
    rw [released]
    rfl
  refine ⟨sound, step.drafts truthful.drafts, truthful.filled, ?_, ?_, ?_, [], ?_, ?_⟩
  · dsimp only
    rw [left, List.length_append, List.length_tail, List.length_singleton]
    omega
  · dsimp only
    rw [left, truthful.behind, List.length_append, List.length_singleton, ← List.map_tail,
      List.tail_drop]
  · intro empty
    have single : transmission.queue.packets.length = 1 := by
      rw [left] at empty
      have none := congrArg List.length empty
      rw [List.length_tail, List.length_nil] at none
      omega
    have final : ¬record.handovers.length + 1 < record.queued.length := by omega
    rw [shared, List.getLast?_concat, decide_eq_false final]
    exact ⟨step.closed empty, rfl⟩
  · obtain ⟨complete, found⟩ : ∃ complete, record.frames[record.handovers.length]? = some complete := by
      rw [getElem?_frames, List.getElem?_eq_getElem (show _ < record.queued.length by omega)]
      exact ⟨_, rfl⟩
    have frames : (frames { record with
        outbound
        line := record.line ++ [Stuffing.start]
        handovers := record.handovers ++
          [decide (record.handovers.length + 1 < record.queued.length)] }).take
            (record.handovers.length + 1) = record.frames.take record.handovers.length ++
              record.frames[record.handovers.length]?.toList :=
      record.take_frames_released rfl rfl
    rw [found, Option.getD_some, last] at completes
    dsimp only
    rw [List.length_append, List.length_singleton, frames, found, completes, line]
    simp
  · rw [getElem?_frames, released, Transmission.rest_release truthful.behind, List.head?_drop, shared,
      List.getLast?_concat, List.length_append, List.length_singleton]
    cases next : record.queued[record.handovers.length + 1]? with
    | none => rfl
    | some payload =>
      obtain ⟨inside, _⟩ := List.getElem?_eq_some_iff.mp next
      rw [decide_eq_true inside]
      simp only [Option.map_some, Option.getD_some, frame, if_true, Frame.encoding_eq]
      rfl

end Bytes

/-- The driver keeps a record true. -/
theorem Matches.nextByte (truthful : record.Matches transmission) :
    (record.next .nextByte).Matches transmission.nextByte.2 := by
  obtain ⟨same, sound⟩ := truthful.sound.nextByte
  have called := transmission.step_nextByte
  obtain ⟨first, step⟩ := called.rest_eq
  have before := truthful.sound.waiting_eq
  rcases taken : record.outbound.nextByte with ⟨byte, outbound⟩
  rw [taken] at same sound
  rw [← show byte = transmission.nextByte.1 from same] at called first step
  have behind := sound.waiting_eq
  simp only [next, taken, before, behind]
  by_cases last : transmission.rest = [Stuffing.start]
  · rw [if_pos last] at step
    have positive := List.length_pos_iff.mpr (Transmission.present_of_rest last)
    have left : transmission.nextByte.2.queue.packets = transmission.queue.packets.tail := by
      rw [step]
      rfl
    rw [last] at first
    rw [left, List.length_tail, decide_eq_true (Nat.sub_lt positive Nat.one_pos), if_pos rfl, first]
    exact truthful.release sound called last step
  · rw [if_neg last] at step
    obtain ⟨rest, length, tail⟩ := step
    rw [length, decide_eq_false (Nat.lt_irrefl _), if_neg Bool.false_ne_true]
    exact truthful.keep sound called rest length tail

theorem Matches.run (truthful : record.Matches transmission) (actions : List Action) :
    ∃ after, (record.run actions).Matches after := by
  induction actions generalizing record transmission with
  | nil => exact ⟨transmission, truthful⟩
  | cons action later inductionHypothesis =>
    cases action with
    | call call => exact inductionHypothesis (truthful.call call)
    | nextByte => exact inductionHypothesis truthful.nextByte

/-- What a true record tells of the line so far and of the next byte for it. -/
theorem Matches.tells (truthful : record.Matches transmission) :
    record.handovers.length + record.outbound.waiting = record.queued.length ∧
    ∃ sent rest,
      record.line = (record.frames.take record.handovers.length).flatten ++ sent ∧
      record.frames[record.handovers.length]?.getD [] = sent ++ rest ∧
      (rest = [] ↔ record.handovers.length = record.queued.length) ∧
      record.outbound.nextByte.1 = rest.head? ∧
      (record.outbound.nextByte.1 = none ↔ record.outbound.waiting = 0) ∧
      record.outbound.nextByte.2.waiting =
        record.outbound.waiting - if rest = [Stuffing.start] then 1 else 0 := by
  obtain ⟨sent, line, completes⟩ := truthful.line
  obtain ⟨same, sound⟩ := truthful.sound.nextByte
  obtain ⟨first, step⟩ := transmission.step_nextByte.rest_eq
  have before := truthful.sound.waiting_eq
  have count := truthful.count
  have behind := sound.waiting_eq
  have empty : transmission.rest = [] ↔ transmission.queue.packets.length = 0 := by
    rw [Transmission.rest]
    cases transmission.queue.packets <;> simp
  refine ⟨by omega, sent, transmission.rest, line, completes, ?_, same.trans first, ?_, ?_⟩
  · rw [empty]
    omega
  · rw [before, ← empty, same, first, List.head?_eq_none_iff]
  · rw [before, behind]
    by_cases last : transmission.rest = [Stuffing.start]
    · rw [if_pos last] at step ⊢
      rw [step]
      exact List.length_tail
    · rw [if_neg last] at step ⊢
      exact step.2.1

/-- What was sent is a part of the frames. -/
theorem Matches.line_prefix (truthful : record.Matches transmission) :
    record.line <+: record.frames.flatten := by
  obtain ⟨sent, line, completes⟩ := truthful.line
  rw [line, record.split_frames record.handovers.length, List.prefix_append_right_inj]
  cases found : record.frames[record.handovers.length]? with
  | none =>
    rw [found] at completes
    rw [(List.append_eq_nil_iff.mp completes.symm).1]
    exact List.nil_prefix
  | some frame =>
    rw [found, Option.getD_some] at completes
    obtain ⟨inside, same⟩ := List.getElem?_eq_some_iff.mp found
    rw [List.drop_eq_getElem_cons inside, same, List.flatten_cons, completes]
    exact (List.prefix_append _ _).trans (List.prefix_append _ _)

/-- Nothing was queued or sent over a fresh ring. -/
theorem matches_fresh (geometry : Geometry) :
    (Record.mk (attach { PacketRing.fresh geometry with taken := true }) [] [] [] []).Matches
      { queue := .empty } where
  sound := sound_attach geometry true
  drafts active := by cases active
  filled payload found := by cases found
  count := rfl
  behind := rfl
  idle _ := ⟨rfl, rfl⟩
  line := ⟨[], rfl, rfl⟩

end Record

/-- Whatever the application and the line do, the line has got the frames of the released packets and a
part of the next one, which lacks at least one byte. The next byte is the first one that it lacks, and the
packet is released with the last one. -/
theorem line_eq (geometry : Geometry) (actions : List Action) :
    ∃ ring, (PacketRing.fresh geometry).split = .ok ring ∧
      let record := (Record.mk (attach ring) [] [] [] []).run actions
      let released := record.handovers.length
      let byte := record.outbound.nextByte.1
      let after := record.outbound.nextByte.2
      released + record.outbound.waiting = record.queued.length ∧
      ∃ sent rest,
        record.line = (record.frames.take released).flatten ++ sent ∧
        record.frames[released]?.getD [] = sent ++ rest ∧
        (rest = [] ↔ released = record.queued.length) ∧
        byte = rest.head? ∧
        (byte = none ↔ record.outbound.waiting = 0) ∧
        after.waiting = record.outbound.waiting - if rest = [Stuffing.start] then 1 else 0 := by
  obtain ⟨transmission, truthful⟩ := (Record.matches_fresh geometry).run actions
  exact ⟨_, rfl, truthful.tells⟩

end Outbound

end FramedLine
