import FramedLine.Proofs.Link.Ledger

/-!
Waits for packets, of which a receive is one. A wait ends with the first poll that finds a packet, as if it had
begun there; before that it may be dropped at any time, and nothing is lost.
-/

namespace FramedLine

open PacketRing

variable {geometry : Geometry}

namespace Link

/-- A poll of a wait for packets, which keeps nothing for the next one. -/
def packetPoll (_ : Unit) (link : Link geometry) : Option Nat × Unit × Link geometry :=
  let (count, link) := link.pollPacket
  (count, (), link)

/-- A poll of a receive, which keeps the buffer. From the first one on it waits. -/
def takePoll (kept : Bytes × Receiving) (link : Link geometry) :
    Option (Except Failure Nat) × (Bytes × Receiving) × Link geometry :=
  let (result, copied, link) := link.pollTake kept.1 kept.2
  (result, (copied, .waiting), link)

/-- Waits for packets while the line brings a stretch after each poll that finds none. -/
def awaitPacket (link : Link geometry) (stretches : List (List (UInt8 × Status))) :
    Waited Nat × Link geometry :=
  let (waited, _, after) := link.await packetPoll () stretches
  (waited, after)

/-- Receives a packet while the line brings a stretch after each poll that finds none. -/
def awaitTake (link : Link geometry) (destination : Bytes) (stretches : List (List (UInt8 × Status))) :
    Waited (Except Failure Nat) × Bytes × Link geometry :=
  let (waited, kept, after) := link.await takePoll (destination, .starting) stretches
  (waited, kept.1, after)

/-- A chunk that arrives without errors. -/
def arriving (chunk : Bytes) : List (UInt8 × Status) :=
  chunk.map fun byte => (byte, .ok)

variable {link : Link geometry} {reception : Reception}

section Chunks

theorem feed_eq (link : Link geometry) (chunk : Bytes) : link.feed chunk = link.bring (arriving chunk) := by
  rw [feed, bring, arriving, Inbound.receiveAll, Inbound.receiveLine, List.foldl_map]

theorem waitPacket_eq (link : Link geometry) (chunks : List Bytes) :
    link.waitPacket chunks = link.awaitPacket (chunks.map arriving) := by
  induction chunks generalizing link with
  | nil => rfl
  | cons chunk later inductionHypothesis =>
    rw [awaitPacket, List.map_cons, await, waitPacket, packetPoll]
    rcases link.pollPacket with ⟨count, after⟩
    cases count with
    | none => simp only [inductionHypothesis, feed_eq, awaitPacket]
    | some count => rfl

theorem waitTake_eq_await (link : Link geometry) (destination : Bytes) (progress : Receiving)
    (chunks : List Bytes) :
    link.waitTake destination progress chunks =
      let (waited, kept, after) := link.await takePoll (destination, progress) (chunks.map arriving)
      (waited, kept.1, after) := by
  induction chunks generalizing link destination progress with
  | nil => rfl
  | cons chunk later inductionHypothesis =>
    rw [List.map_cons, await, waitTake, takePoll]
    rcases link.pollTake destination progress with ⟨result, copied, after⟩
    cases result with
    | none => simp only [inductionHypothesis, feed_eq]
    | some result => rfl

end Chunks

section Delays

/-- A wait that polls on asked to be woken. -/
theorem registered_polled (sound : Inbound.Sound link.inbound reception)
    {stretches : List (List (UInt8 × Status))}
    (asked : link.inbound.waker.registered = true ∨ stretches ≠ []) :
    (link.polled stretches).inbound.waker.registered = true := by
  induction stretches generalizing link reception with
  | nil => exact asked.resolve_right fun more => more rfl
  | cons stretch later inductionHypothesis =>
    obtain ⟨after, between⟩ := sound_bring (sound_watched sound) stretch
    have registered := registered_bring (sound_watched sound) stretch
    exact inductionHypothesis between (.inl registered)

/-- The first poll of a receive does not ask to be woken before it looks, and the later ones asked before. -/
theorem looked_polled (sound : Inbound.Sound link.inbound reception)
    {stretches : List (List (UInt8 × Status))} {count : Nat} (within : count ≤ stretches.length) :
    (link.polled (stretches.take count)).looked (if count = 0 then .starting else .waiting) =
      link.polled (stretches.take count) := by
  by_cases first : count = 0
  · rw [if_pos first, looked]
  · rw [if_neg first, looked]
    apply watched_of_registered
    apply registered_polled sound
    right
    intro none
    rcases List.take_eq_nil_iff.mp none with zero | empty
    · exact first zero
    · rw [empty] at within
      exact first (Nat.le_zero.mp within)

theorem pends_packetPoll : @Pends geometry _ _ packetPoll () () := by
  intro link reception sound empty
  rw [packetPoll, pollPacket_empty sound empty]

theorem pends_takePoll (destination : Bytes) (progress : Receiving) :
    @Pends geometry _ _ takePoll (destination, progress) (destination, .waiting) := by
  intro link reception sound empty
  rw [takePoll, pollTake_empty sound empty]

variable (sound : Inbound.Sound link.inbound reception) {stretches : List (List (UInt8 × Status))}
  {count : Nat} (within : count ≤ stretches.length)
  (waiting : ∀ earlier < count, (link.polled (stretches.take earlier)).inbound.ring.contents = [])
include sound

/-- A wait that finds no packet has only asked to be woken. -/
theorem await_pending
    (empty : ∀ count ≤ stretches.length,
      (link.polled (stretches.take count)).inbound.ring.contents = [])
    (destination : Bytes) :
    link.awaitTake destination stretches =
        (⟨none, stretches.length⟩, destination, (link.polled stretches).watched) ∧
      link.awaitPacket stretches = (⟨none, stretches.length⟩, (link.polled stretches).watched) := by
  have earlier : ∀ earlier < stretches.length,
      (link.polled (stretches.take earlier)).inbound.ring.contents = [] :=
    fun earlier before => empty earlier (Nat.le_of_lt before)
  obtain ⟨after, last⟩ := sound_polled sound (stretches.take stretches.length)
  have nothing := empty stretches.length (Nat.le_refl _)
  have polled := pends_packetPoll _ _ last nothing
  have took := await_eq (pends_takePoll destination .starting) (pends_takePoll destination .waiting)
    sound (Nat.le_refl _) earlier
    (by split <;> exact pends_takePoll destination _ _ _ last nothing) (.inr rfl)
  have counted := await_eq pends_packetPoll pends_packetPoll sound (Nat.le_refl _) earlier
    (by rw [ite_self, polled]) (.inr rfl)
  rw [List.take_length] at took counted
  simp only [awaitTake, awaitPacket, took, counted, and_self]

include within waiting

/-- A wait for packets counts the packets of the first poll that finds one. -/
theorem awaitPacket_ready
    (found : (link.polled (stretches.take count)).inbound.ring.contents ≠ []) :
    link.awaitPacket stretches =
      (⟨some (link.polled (stretches.take count)).inbound.ring.contents.length, count⟩,
        (link.polled (stretches.take count)).watched) := by
  obtain ⟨after, last⟩ := sound_polled sound (stretches.take count)
  have polled := pollPacket_found last found
  have counted := await_eq pends_packetPoll pends_packetPoll sound within waiting
    (by rw [ite_self, packetPoll, polled]) (.inl rfl)
  simp only [awaitPacket, counted]

/-- A receive takes the packet that the first poll finds. -/
theorem awaitTake_ready
    (found : (link.polled (stretches.take count)).inbound.ring.contents ≠ []) (destination : Bytes) :
    ∃ result,
      ((link.polled (stretches.take count)).take destination).1 = Except.map some result ∧
      link.awaitTake destination stretches =
        (⟨some result, count⟩, ((link.polled (stretches.take count)).take destination).2) := by
  obtain ⟨after, last⟩ := sound_polled sound (stretches.take count)
  have looked := looked_polled sound within
  obtain ⟨result, took, polled⟩ := pollTake_found last found destination
    (if count = 0 then .starting else .waiting)
  rw [looked] at took polled
  refine ⟨result, took, ?_⟩
  have start : (if count = 0 then (destination, Receiving.starting) else (destination, .waiting)) =
      (destination, if count = 0 then .starting else .waiting) := by
    split <;> rfl
  have ended := await_eq (pends_takePoll destination .starting) (pends_takePoll destination .waiting)
    sound within waiting (by rw [start, takePoll, polled]) (.inl rfl)
  simp only [awaitTake, ended]

end Delays

/-- What a link owes to the tasks that wait for its packets, whatever the line brings between their polls. -/
structure Delays (link : Link geometry) : Prop where
  /-- A wait that was dropped leaves the buffer and the link as the line alone would have left them. -/
  pending : ∀ destination stretches,
    (∀ count ≤ stretches.length,
      (link.bring (stretches.take count).flatten).inbound.ring.contents = []) →
    ∃ after,
      link.awaitTake destination stretches = (⟨none, stretches.length⟩, destination, after) ∧
      link.awaitPacket stretches = (⟨none, stretches.length⟩, after) ∧
      after.unwatched = (link.bring stretches.flatten).unwatched
  /-- The first poll that finds a packet ends a wait, and what it finds is what the line has left. -/
  ready : ∀ destination stretches, ∀ count ≤ stretches.length,
    (∀ earlier < count,
      (link.bring (stretches.take earlier).flatten).inbound.ring.contents = []) →
    (link.bring (stretches.take count).flatten).inbound.ring.contents ≠ [] →
    let state := link.polled (stretches.take count)
    state.unwatched = (link.bring (stretches.take count).flatten).unwatched ∧
      (∃ result, (state.take destination).1 = Except.map some result ∧
        link.awaitTake destination stretches = (⟨some result, count⟩, (state.take destination).2)) ∧
      link.awaitPacket stretches =
        (⟨some (state.inbound.ring.answer Reader.packetCount), count⟩, state.watched)

theorem delays_of_sound (sound : Inbound.Sound link.inbound reception) : link.Delays where
  pending destination stretches empty := by
    simp only [← contents_polled] at empty
    obtain ⟨took, counted⟩ := await_pending sound empty destination
    exact ⟨_, took, counted, link.unwatched_polled stretches⟩
  ready destination stretches count within waiting found := by
    simp only [← contents_polled] at waiting found
    obtain ⟨after, last⟩ := sound_polled sound (stretches.take count)
    refine ⟨link.unwatched_polled _, awaitTake_ready sound within waiting found destination, ?_⟩
    rw [packetCount_eq last]
    exact awaitPacket_ready sound within waiting found

/-- A byte from the line wakes the task that asked if and only if it appends a packet. -/
theorem wakes_receiveByte (sound : Inbound.Sound link.inbound reception) (byte : UInt8)
    (status : Status) :
    ∃ packet : Option Bytes,
      (link.receiveByte byte status).inbound.ring.contents =
        link.inbound.ring.contents ++ packet.toList ∧
      (link.receiveByte byte status).inbound.waker =
        if packet.isSome then link.inbound.waker.wake else link.inbound.waker := by
  obtain ⟨contents, -⟩ := sound.contents_receive_eq byte status
  refine ⟨_, contents, ?_⟩
  refine (sound.waker_receive byte status).trans ?_
  cases reception.appended geometry link.inbound.dropOn byte status with
  | none => exact link.inbound.waker.wakeTimes_zero
  | some packet => exact link.inbound.waker.wakeTimes_one

end Link

namespace Ledger

/-- Whatever happened to a link, a receive that waits is a receive at the first poll that finds a packet, and a
wait that is dropped before it leaves no trace. A task that asked to be woken was woken once for each packet
that was committed since, and for nothing else. -/
theorem receive_delayed (geometry : Geometry) (config : Config) (events : List Link.Event) :
    ∃ link, Link.opened geometry config = .ok link ∧
      let ledger := run { link } events
      ledger.link.Delays ∧
      ledger.link.inbound.waker = ⟨ledger.asked, ledger.announced.length⟩ ∧
      (∀ byte status, ∃ packet : Option Bytes,
        (ledger.link.receiveByte byte status).inbound.ring.contents =
          ledger.link.inbound.ring.contents ++ packet.toList ∧
        (ledger.link.receiveByte byte status).inbound.waker =
          if packet.isSome then ledger.link.inbound.waker.wake else ledger.link.inbound.waker) ∧
      ∀ destination chunks,
        ledger.link.waitTake destination .starting chunks =
            ledger.link.awaitTake destination (chunks.map Link.arriving) ∧
          ledger.link.waitPacket chunks = ledger.link.awaitPacket (chunks.map Link.arriving) := by
  refine ⟨_, Link.opened_eq geometry config, ?_⟩
  obtain ⟨reception, kept⟩ := (kept_opened (Link.opened_eq geometry config)).run events
  refine ⟨Link.delays_of_sound kept.sound, kept.waker, Link.wakes_receiveByte kept.sound, ?_⟩
  intro destination chunks
  exact ⟨Link.waitTake_eq_await _ destination .starting chunks, Link.waitPacket_eq _ chunks⟩

/-- The third chunk ends the packet, and the task that waited for it is woken. -/
example :
    let link := Link.fresh .standard {}
    let frame := Frame.encoding [1, 2]
    let chunks := [frame.take 2, (frame.drop 2).take 3, frame.drop 5, frame]
    let waited := link.waitTake [0, 0, 0] .starting chunks
    (waited.1.result.bind Except.toOption, waited.1.fed, waited.2.1, waited.2.2.inbound.waker) =
      (some 2, 3, [1, 2, 0], ⟨true, 1⟩) := by
  decide +kernel

end Ledger

end FramedLine
