import FramedLine.Proofs.Link.Polling
import FramedLine.Proofs.Link.Servicing

/-!
The packets of a link, with what its application has read of them and with the task that waits for them.
Whatever happens to the link, what was read of the oldest packet and what is left of it are that packet, and a
task that asked to be woken was woken once for each packet since.
-/

namespace FramedLine

open PacketRing

variable {geometry : Geometry}

namespace PacketQueue

/-- Bytes that are read join those that were read before. -/
theorem take_offset (queue : PacketQueue) (limit : Nat) :
    queue.oldest.take (queue.offset + (queue.front.take limit).length) =
      queue.oldest.take queue.offset ++ queue.front.take limit := by
  rw [List.take_add, List.length_take]
  change _ ++ queue.front.take (min limit queue.front.length) = _
  rw [← List.take_eq_take_min]

theorem takeByte_eq (queue : PacketQueue) :
    queue.takeByte.2 = { queue with offset := queue.offset + (queue.front.take 1).length } ∧
      [queue.takeByte.1].take queue.front.length = queue.front.take 1 := by
  unfold takeByte
  cases queue.front with
  | nil => exact ⟨rfl, rfl⟩
  | cons byte more => exact ⟨rfl, congrArg (List.cons byte) List.take_nil⟩

theorem copyInto_eq (queue : PacketQueue) (destination : Bytes) :
    (queue.copyInto destination).1.2.take (min destination.length queue.front.length) =
      queue.front.take destination.length := by
  have length := queue.front.length_take (i := destination.length)
  rw [copyInto, ← length]
  exact List.take_left

/-- Packets that join the queue are not read. -/
theorem take_oldest_append {queue : PacketQueue} (within : queue.WithinOldest) (added : List Bytes)
    (tentative : Bytes) :
    (oldest { queue with packets := queue.packets ++ added, tentative }).take queue.offset =
      queue.oldest.take queue.offset := by
  cases found : queue.packets with
  | nil =>
    -- The first packet that joins is the oldest one from now on, so it matters that the offset is zero.
    have none : queue.offset = 0 := by simpa [WithinOldest, oldest, found] using within
    rw [none, List.take_zero, List.take_zero]
  | cons packet rest => rw [queue.oldest_of_cons found, oldest, List.cons_append, List.headD_cons]

end PacketQueue

namespace Link

/-- Whether an event releases the oldest packet, if there is one. -/
def Event.releases : Event → Bool
  | .use .release => true
  | .use (.take _) => true
  | .pollTake _ _ => true
  | _ => false

/-- The bytes of the oldest packet that an event reads and does not release. The zero that stands for a byte
past the end of the packet is none of them. -/
def gains (link : Link geometry) : Event → Bytes
  | .use .takeByte =>
    [(link.read Reader.takeByte).1].take (link.inbound.ring.answer Reader.remaining)
  | .use (.copyInto destination) =>
    (link.read (Reader.copyInto destination)).1.2.take
      (min destination.length (link.inbound.ring.answer Reader.remaining))
  | _ => []

/-- Whether an event asks to be woken. A receive that starts does so only if it finds no packet, and from
then on it waits. -/
def asks (link : Link geometry) : Event → Bool
  | .pollPacket => true
  | .pollTake _ .starting => link.inbound.ring.contents.isEmpty
  | .pollTake _ .waiting => true
  | _ => false

/-- A service is a line of arrivals to the receiver. -/
theorem inbound_service {device failure : Type} [SerialDevice device failure] (link : Link geometry)
    (state : device) : ∃ line, (link.service state).2.1.inbound = link.inbound.receiveLine line := by
  obtain ⟨contacts, result, after, final, serves, plain, -⟩ := link.serves_service state
  rw [plain]
  cases serves with
  | unread receives => exact ⟨_, receives.received⟩
  | served receives sends closes => exact ⟨_, receives.received⟩

end Link

open Link (Event)

/-- A link, with what its application owns of the packets. -/
structure Ledger (geometry : Geometry) where
  link : Link geometry
  /-- The packets that were committed and not released, with what was already read of them. -/
  packets : List Bytes := []
  /-- The bytes of the oldest packet that were read. -/
  obtained : Bytes := []
  /-- Whether a task asked to be woken. -/
  asked : Bool := false
  /-- The packets that were committed since. -/
  announced : List Bytes := []

namespace Ledger

/-- What the ring holds more than before was committed. -/
def next (ledger : Ledger geometry) (event : Event) : Ledger geometry :=
  let link := ledger.link.next event
  let arrivals := link.inbound.ring.contents.drop ledger.link.inbound.ring.contents.length
  let asked := ledger.asked || ledger.link.asks event
  { link
    packets := (if event.releases then ledger.packets.tail else ledger.packets) ++ arrivals
    obtained := if event.releases then [] else ledger.obtained ++ ledger.link.gains event
    asked
    announced := ledger.announced ++ if asked then arrivals else [] }

def run (ledger : Ledger geometry) (events : List Event) : Ledger geometry :=
  events.foldl next ledger

/-- A ledger tells of the link what is so. -/
structure Kept (ledger : Ledger geometry) (reception : Reception) : Prop where
  sound : Inbound.Sound ledger.link.inbound reception
  packets : ledger.packets = reception.queue.packets
  obtained : ledger.obtained = reception.queue.oldest.take reception.queue.offset
  waker : ledger.link.inbound.waker = ⟨ledger.asked, ledger.announced.length⟩

variable {ledger : Ledger geometry} {reception : Reception}

theorem kept_opened {config : Config} {link : Link geometry}
    (ready : Link.opened geometry config = .ok link) : Kept { link } { queue := .empty } := by
  obtain rfl := Except.ok.inj ((Link.opened_eq geometry config).symm.trans ready)
  exact ⟨Inbound.sound_attach config.dropOn {} true, rfl, rfl, rfl⟩

/-- The line appends packets and wakes the task that asked, once for each. -/
theorem Kept.line (kept : ledger.Kept reception) {event : Event} {line : List (UInt8 × Status)}
    (brought : (ledger.link.next event).inbound = ledger.link.inbound.receiveLine line)
    (keeps : event.releases = false) (leaves : ledger.link.gains event = [])
    (silent : ledger.link.asks event = false) : ∃ after, (ledger.next event).Kept after := by
  obtain ⟨added, tentative, queue, appends⟩ := kept.sound.receiveLine_appends line
  have received := kept.sound.receiveLine line
  rw [← brought] at appends received
  have arrivals : (ledger.link.next event).inbound.ring.contents.drop
      ledger.link.inbound.ring.contents.length = added := by
    rw [appends.contents, List.drop_left]
  exact ⟨_, {
    sound := received
    packets := by
      rw [queue]
      simp only [next, arrivals, keeps, kept.packets]
      rfl
    obtained := by
      rw [queue]
      simp only [next, keeps, leaves, kept.obtained, List.append_nil]
      exact (PacketQueue.take_oldest_append kept.sound.represents.within added tentative).symm
    waker := by
      simp only [next, arrivals, silent, Bool.or_false, appends.waker, kept.waker]
      cases ledger.asked with
      | false =>
        rw [if_neg Bool.false_ne_true, List.append_nil]
        rfl
      | true =>
        rw [if_pos rfl, List.length_append]
        rfl }⟩

section Quiet

variable {event : Event} (kept : ledger.Kept reception)
  (waker : (ledger.link.next event).inbound.waker =
    ⟨ledger.asked || ledger.link.asks event, ledger.announced.length⟩)
include kept waker

/-- An event of the application brings nothing. -/
theorem Kept.quiet {after : Reception}
    (sound : Inbound.Sound (ledger.link.next event).inbound after)
    (packets : after.queue.packets =
      if event.releases then reception.queue.packets.tail else reception.queue.packets)
    (obtained : after.queue.oldest.take after.queue.offset =
      if event.releases then [] else ledger.obtained ++ ledger.link.gains event) :
    (ledger.next event).Kept after := by
  have shorter : after.queue.packets.length ≤ reception.queue.packets.length := by
    rw [packets]
    split
    · exact (List.tail_suffix _).length_le
    · exact Nat.le_refl _
  have nothing : (ledger.link.next event).inbound.ring.contents.drop
      ledger.link.inbound.ring.contents.length = [] := by
    rw [sound.represents.contents_eq, kept.sound.represents.contents_eq, List.drop_eq_nil_iff,
      PacketQueue.length_unread, PacketQueue.length_unread]
    exact shorter
  exact {
    sound
    packets := by
      simp only [next, nothing, List.append_nil, kept.packets]
      exact packets.symm
    obtained := obtained.symm
    waker := by
      simp only [next, nothing, ite_self, List.append_nil]
      exact waker }

/-- What an event reads of the oldest packet joins what was read before. -/
theorem Kept.reads {limit : Nat}
    (sound : Inbound.Sound (ledger.link.next event).inbound
      { reception with queue := { reception.queue with
          offset := reception.queue.offset + (reception.queue.front.take limit).length } })
    (keeps : event.releases = false)
    (gains : ledger.link.gains event = reception.queue.front.take limit) :
    ∃ after, (ledger.next event).Kept after := by
  refine ⟨_, kept.quiet waker sound ?_ ?_⟩
  · rw [keeps]
    rfl
  · rw [keeps, gains, kept.obtained]
    exact reception.queue.take_offset limit

/-- Without the oldest packet, nothing of the next one was read. -/
theorem Kept.releases
    (sound : Inbound.Sound (ledger.link.next event).inbound (reception.read .release))
    (releases : event.releases = true) : ∃ after, (ledger.next event).Kept after := by
  refine ⟨_, kept.quiet waker sound ?_ ?_⟩
  · rw [releases]
    rfl
  · rw [releases]
    exact List.take_zero

/-- Without a packet there is nothing to release. -/
theorem Kept.still
    (sound : Inbound.Sound (ledger.link.next event).inbound reception)
    (leaves : ledger.link.gains event = [])
    (empty : event.releases = true → reception.queue.packets = []) :
    ∃ after, (ledger.next event).Kept after := by
  refine ⟨reception, kept.quiet waker sound ?_ ?_⟩
  · split
    next releases => rw [empty releases, List.tail_nil]
    next => rfl
  · split
    next releases => rw [PacketQueue.oldest_of_nil (empty releases), List.take_nil]
    next => rw [leaves, List.append_nil, kept.obtained]

end Quiet

/-- An event that does not ask leaves it at what was asked. -/
theorem Kept.unasked (kept : ledger.Kept reception) :
    ledger.link.inbound.waker = ⟨ledger.asked || false, ledger.announced.length⟩ := by
  rw [Bool.or_false]
  exact kept.waker

theorem Kept.watched (kept : ledger.Kept reception) :
    ledger.link.watched.inbound.waker = ⟨ledger.asked || true, ledger.announced.length⟩ := by
  rw [Bool.or_true]
  exact congrArg Waker.register kept.waker

/-- A use of the packets reads the oldest one or releases it. -/
theorem Kept.use (kept : ledger.Kept reception) (use : Link.Use) :
    ∃ after, (ledger.next (.use use)).Kept after := by
  have represents := kept.sound.represents
  have remaining := observes_remaining.answer_eq represents
  cases use with
  | takeByte =>
    obtain ⟨moved, byte⟩ := reception.queue.takeByte_eq
    obtain ⟨ring, ran, -⟩ := refines_takeByte.runs represents
    have gains : ledger.link.gains (.use .takeByte) = reception.queue.front.take 1 := by
      rw [Link.gains, Link.read, ran, remaining]
      exact byte
    have sound := kept.sound.read .takeByte (refines_takeByte.after_represents represents)
    have read : reception.read .takeByte = { reception with queue := _ } :=
      congrArg (fun queue => { reception with queue }) moved
    rw [read] at sound
    exact kept.reads kept.unasked sound rfl gains
  | copyInto destination =>
    obtain ⟨ring, ran, -⟩ := (refines_copyInto destination).runs represents
    have gains : ledger.link.gains (.use (.copyInto destination)) =
        reception.queue.front.take destination.length := by
      rw [Link.gains, Link.read, ran, remaining]
      exact reception.queue.copyInto_eq destination
    exact kept.reads kept.unasked (Link.sound_copyInto kept.sound destination) rfl gains
  | release => exact kept.releases kept.unasked (Link.sound_release kept.sound) rfl
  | take destination =>
    cases found : ledger.link.inbound.ring.contents with
    | nil =>
      have same : ledger.link.next (.use (.take destination)) = ledger.link :=
        congrArg (fun taken => taken.2.2) (Link.take_empty kept.sound found destination)
      rw [kept.sound.represents.contents_eq, PacketQueue.unread_eq_nil] at found
      apply kept.still
      · rw [same]
        exact kept.unasked
      · rw [same]
        exact kept.sound
      · rfl
      · exact fun _ => found
    | cons unread later =>
      obtain ⟨after, taken, sound, releases⟩ := Link.take_oldest kept.sound found destination
      have same : ledger.link.next (.use (.take destination)) = after :=
        congrArg (fun taken => taken.2.2) taken
      exact kept.releases (same ▸ releases.waker.trans kept.unasked) (same ▸ sound) rfl

/-- A poll of a receive asks to be woken or releases a packet, and from its second poll on it does both. -/
theorem Kept.pollTake (kept : ledger.Kept reception) (destination : Bytes) (progress : Link.Receiving) :
    ∃ after, (ledger.next (.pollTake destination progress)).Kept after := by
  cases found : ledger.link.inbound.ring.contents with
  | nil =>
    have same : ledger.link.next (.pollTake destination progress) = ledger.link.watched :=
      congrArg (fun polled => polled.2.2) (Link.pollTake_empty kept.sound found destination progress)
    have asks : ledger.link.asks (.pollTake destination progress) = true := by
      cases progress with
      | starting => rw [Link.asks, found, List.isEmpty_nil]
      | waiting => rfl
    rw [kept.sound.represents.contents_eq, PacketQueue.unread_eq_nil] at found
    exact kept.still (same ▸ asks ▸ kept.watched) (same ▸ Link.sound_watched kept.sound) rfl
      fun _ => found
  | cons unread later =>
    obtain ⟨result, -, polled⟩ := Link.pollTake_found kept.sound (found ▸ List.cons_ne_nil _ _)
      destination progress
    rw [← ledger.link.contents_looked progress] at found
    obtain ⟨after, taken, sound, releases⟩ :=
      Link.take_oldest (Link.sound_looked kept.sound progress) found destination
    have same : ledger.link.next (.pollTake destination progress) = after := by
      rw [Link.next, polled, taken]
    refine kept.releases (same ▸ releases.waker.trans ?_) (same ▸ sound) rfl
    cases progress with
    | starting =>
      have silent : ledger.link.asks (.pollTake destination .starting) = false := by
        rw [Link.asks, ← ledger.link.contents_looked .starting, found, List.isEmpty_cons]
      rw [silent]
      exact kept.unasked
    | waiting => exact kept.watched

theorem Kept.next (kept : ledger.Kept reception) (event : Event) :
    ∃ after, (ledger.next event).Kept after := by
  cases event with
  | use use => exact kept.use use
  | pollPacket =>
    have same : ledger.link.next .pollPacket = ledger.link.watched :=
      congrArg Prod.snd (Link.pollPacket_eq kept.sound)
    exact kept.still (same ▸ kept.watched) (same ▸ Link.sound_watched kept.sound) rfl nofun
  | pollTake destination progress => exact kept.pollTake destination progress
  | receive byte status => exact @Kept.line _ _ _ kept _ [(byte, status)] rfl rfl rfl rfl
  | service state =>
    obtain ⟨line, brought⟩ := ledger.link.inbound_service state
    exact kept.line brought rfl rfl rfl
  -- The sending direction has nothing to do with the packets that were received.
  | _ => exact kept.still kept.unasked kept.sound rfl nofun

/-- Whatever happens to a link in whatever order. -/
theorem Kept.run (kept : ledger.Kept reception) (events : List Event) :
    ∃ after, (ledger.run events).Kept after := by
  induction events generalizing ledger reception with
  | nil => exact ⟨reception, kept⟩
  | cons event later inductionHypothesis =>
    obtain ⟨after, kept⟩ := kept.next event
    exact inductionHypothesis kept

/-- What was read of the oldest packet and what is left of it are that packet. -/
theorem Kept.packets_eq (kept : ledger.Kept reception) {unread : Bytes} {later : List Bytes}
    (found : ledger.link.inbound.ring.contents = unread :: later) :
    ledger.packets = (ledger.obtained ++ unread) :: later := by
  rw [kept.sound.represents.contents_eq] at found
  obtain ⟨packets, left⟩ := PacketQueue.packets_of_unread found
  rw [kept.packets, packets, kept.obtained, ← left]
  exact congrArg (fun oldest => oldest :: later) (List.take_append_drop _ _).symm

theorem Kept.contents_eq_nil (kept : ledger.Kept reception) :
    ledger.link.inbound.ring.contents = [] ↔ ledger.packets = [] := by
  rw [kept.sound.represents.contents_eq, PacketQueue.unread_eq_nil, kept.packets]

/-- Whatever was read of it before, a receive takes what is left of the oldest packet, and releases it whether
it fits the buffer or not. The packets behind it are whole, and as many receives as there are packets take each
of them, in order. -/
theorem take_completes (geometry : Geometry) (config : Config) (events : List Event) :
    ∃ link, Link.opened geometry config = .ok link ∧
      let ledger := run { link } events
      ledger.link.Yields ∧
      (ledger.link.inbound.ring.contents = [] ↔ ledger.packets = []) ∧
      (∀ unread later, ledger.link.inbound.ring.contents = unread :: later →
        ledger.packets = (ledger.obtained ++ unread) :: later) ∧
      ∀ destination length, (ledger.link.take destination).1 = .ok (some length) →
        ∃ later,
          ledger.packets =
            (ledger.obtained ++ (ledger.link.take destination).2.1.take length) :: later ∧
          Link.Releases ledger.link (ledger.link.take destination).2.2 later := by
  refine ⟨_, Link.opened_eq geometry config, ?_⟩
  obtain ⟨reception, kept⟩ := (kept_opened (Link.opened_eq geometry config)).run events
  refine ⟨Link.yields_of_sound kept.sound, kept.contents_eq_nil, fun _ _ => kept.packets_eq, ?_⟩
  intro destination length fits
  cases found : (run _ events).link.inbound.ring.contents with
  | nil =>
    rw [Link.take_empty kept.sound found] at fits
    cases fits
  | cons unread later =>
    obtain ⟨after, taken, -, releases⟩ := Link.take_oldest kept.sound found destination
    rw [taken] at fits
    refine ⟨later, ?_, taken ▸ releases⟩
    rw [taken, kept.packets_eq found]
    dsimp only
    rw [Link.take_receipt fits]

end Ledger

end FramedLine
