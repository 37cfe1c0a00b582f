import FramedLine.Link.Waiting
import FramedLine.Proofs.Inbound.Waking
import FramedLine.Proofs.Link.Taking

/-!
The polls of a wait, one after the other, while the line brings more. A poll that finds no packet asks to be
woken and does nothing else; the first poll that finds one ends the wait.
-/

namespace FramedLine.Link

open PacketRing

variable {geometry : Geometry}

/-- A link whose waiting task asked to be woken. -/
def watched (link : Link geometry) : Link geometry :=
  { link with inbound := { link.inbound with waker := link.inbound.waker.register } }

/-- A link without the task that waits for it. -/
def unwatched (link : Link geometry) : Link geometry :=
  { link with inbound := link.inbound.unwatched }

/-- The line brings bytes, each with the errors that came with it. -/
def bring (link : Link geometry) (line : List (UInt8 × Status)) : Link geometry :=
  { link with inbound := link.inbound.receiveLine line }

/-- A link at the poll that comes after the stretches, each of which came after a poll that found nothing. -/
def polled (link : Link geometry) (stretches : List (List (UInt8 × Status))) : Link geometry :=
  stretches.foldl (fun state stretch => state.watched.bring stretch) link

/-- Where a poll of a receive looks for a packet. A task that waits asks to be woken before it looks. -/
def looked (link : Link geometry) : Receiving → Link geometry
  | .starting => link
  | .waiting => link.watched

variable {link : Link geometry} {reception : Reception}

theorem watched_of_registered (asked : link.inbound.waker.registered = true) : link.watched = link := by
  have same : link.inbound.waker.register = link.inbound.waker := by
    rw [Waker.register, ← asked]
  rw [watched, same]

theorem sound_watched (sound : Inbound.Sound link.inbound reception) :
    Inbound.Sound link.watched.inbound reception :=
  ⟨sound.represents, sound.checksum, sound.started, sound.decoder, sound.idle⟩

theorem sound_looked (sound : Inbound.Sound link.inbound reception) (progress : Receiving) :
    Inbound.Sound (link.looked progress).inbound reception := by
  cases progress with
  | starting => exact sound
  | waiting => exact sound_watched sound

theorem contents_looked (link : Link geometry) (progress : Receiving) :
    (link.looked progress).inbound.ring.contents = link.inbound.ring.contents := by
  cases progress <;> rfl

section Polls

/-- A wait for packets asks to be woken, and counts the packets. -/
theorem pollPacket_eq (sound : Inbound.Sound link.inbound reception) :
    link.pollPacket =
      (if link.inbound.ring.contents = [] then none else some link.inbound.ring.contents.length,
        link.watched) := by
  have count := packetCount_eq sound
  simp only [pollPacket, count]
  cases link.inbound.ring.contents with
  | nil => rfl
  | cons unread later => rfl

theorem pollPacket_empty (sound : Inbound.Sound link.inbound reception)
    (empty : link.inbound.ring.contents = []) : link.pollPacket = (none, link.watched) := by
  rw [pollPacket_eq sound, if_pos empty]

theorem pollPacket_found (sound : Inbound.Sound link.inbound reception)
    (found : link.inbound.ring.contents ≠ []) :
    link.pollPacket = (some link.inbound.ring.contents.length, link.watched) := by
  rw [pollPacket_eq sound, if_neg found]

/-- A receive that finds no packet asks to be woken. -/
theorem pollTake_empty (sound : Inbound.Sound link.inbound reception)
    (empty : link.inbound.ring.contents = []) (destination : Bytes) (progress : Receiving) :
    link.pollTake destination progress = (none, destination, link.watched) := by
  cases progress with
  | starting => simp only [pollTake, take_empty sound empty, pollPacket_empty sound empty]
  | waiting => simp only [pollTake, pollPacket_empty sound empty]

theorem receipt_some (unread destination : Bytes) :
    ∃ result, (receipt unread destination).1 = Except.map some result := by
  unfold receipt
  split
  · exact ⟨.error .destinationTooShort, rfl⟩
  · exact ⟨.ok unread.length, rfl⟩

/-- A receive that finds a packet takes it. -/
theorem pollTake_found (sound : Inbound.Sound link.inbound reception)
    (found : link.inbound.ring.contents ≠ []) (destination : Bytes) (progress : Receiving) :
    ∃ result, ((link.looked progress).take destination).1 = Except.map some result ∧
      link.pollTake destination progress =
        (some result, ((link.looked progress).take destination).2) := by
  obtain ⟨unread, later, packets⟩ := List.exists_cons_of_ne_nil found
  rw [← link.contents_looked progress] at packets
  obtain ⟨after, taken, -, -⟩ := take_oldest (sound_looked sound progress) packets destination
  obtain ⟨result, told⟩ := receipt_some unread destination
  rw [told] at taken
  refine ⟨result, by rw [taken], ?_⟩
  cases progress with
  | starting =>
    rw [looked] at taken ⊢
    cases result with
    | error failure => simp only [pollTake, taken, Except.map]
    | ok length => simp only [pollTake, taken, Except.map]
  | waiting =>
    rw [looked] at taken ⊢
    cases result with
    | error failure => simp only [pollTake, pollPacket_found sound found, taken, Except.map]
    | ok length => simp only [pollTake, pollPacket_found sound found, taken, Except.map]

end Polls

section Lines

theorem sound_bring (sound : Inbound.Sound link.inbound reception) (line : List (UInt8 × Status)) :
    ∃ after, Inbound.Sound (link.bring line).inbound after :=
  ⟨_, sound.receiveLine line⟩

theorem sound_polled (sound : Inbound.Sound link.inbound reception)
    (stretches : List (List (UInt8 × Status))) :
    ∃ after, Inbound.Sound (link.polled stretches).inbound after := by
  induction stretches generalizing link reception with
  | nil => exact ⟨reception, sound⟩
  | cons stretch later inductionHypothesis =>
    obtain ⟨after, between⟩ := sound_bring (sound_watched sound) stretch
    exact inductionHypothesis between

/-- The line does not use up what a task asked for. -/
theorem registered_bring (sound : Inbound.Sound link.inbound reception) (line : List (UInt8 × Status)) :
    (link.bring line).inbound.waker.registered = link.inbound.waker.registered := by
  obtain ⟨added, tentative, -, appends⟩ := sound.receiveLine_appends line
  exact (congrArg Waker.registered appends.waker).trans (link.inbound.waker.registered_wakeTimes _)

/-- The line brings the same to a link whether a task waits for it or not. -/
theorem unwatched_bring {first second : Link geometry} (same : first.unwatched = second.unwatched)
    (line : List (UInt8 × Status)) : (first.bring line).unwatched = (second.bring line).unwatched := by
  obtain ⟨inbound, outbound⟩ := Link.mk.inj same
  have brought : (first.inbound.receiveLine line).unwatched =
      (second.inbound.receiveLine line).unwatched := by
    rw [← first.inbound.unwatched_receiveLine line, inbound, second.inbound.unwatched_receiveLine line]
  simp only [bring, unwatched, brought, outbound]

/-- Polls that find nothing leave the link as the line alone would have left it. -/
theorem unwatched_polled (link : Link geometry) (stretches : List (List (UInt8 × Status))) :
    (link.polled stretches).unwatched = (link.bring stretches.flatten).unwatched := by
  suffices general : ∀ state : Link geometry, ∀ before, state.unwatched = (link.bring before).unwatched →
      (state.polled stretches).unwatched = (link.bring (before ++ stretches.flatten)).unwatched from
    general link [] rfl
  induction stretches with
  | nil =>
    intro state before same
    rw [List.flatten_nil, List.append_nil]
    exact same
  | cons stretch later inductionHypothesis =>
    intro state before same
    have joined : (link.bring before).bring stretch = link.bring (before ++ stretch) := by
      simp only [bring, Inbound.receiveLine, List.foldl_append]
    rw [List.flatten_cons, ← List.append_assoc]
    have started : state.watched.unwatched = (link.bring before).unwatched := same
    apply inductionHypothesis
    rw [← joined]
    exact unwatched_bring started stretch

theorem contents_polled (link : Link geometry) (stretches : List (List (UInt8 × Status))) :
    (link.polled stretches).inbound.ring.contents =
      (link.bring stretches.flatten).inbound.ring.contents := by
  obtain ⟨inbound, -⟩ := Link.mk.inj (link.unwatched_polled stretches)
  obtain ⟨ring, -⟩ := Inbound.mk.inj inbound
  rw [ring]

end Lines

section Waits

variable {answer memory : Type}

/-- Polls a wait until it has a result, while the line brings a stretch after each poll that is pending. A wait
may keep something from one poll to the next. -/
def await (poll : memory → Link geometry → Option answer × memory × Link geometry) (kept : memory)
    (link : Link geometry) : List (List (UInt8 × Status)) → Waited answer × memory × Link geometry
  | [] =>
    let (result, kept, link) := poll kept link
    (⟨result, 0⟩, kept, link)
  | stretch :: stretches =>
    match poll kept link with
    | (some result, kept, link) => (⟨some result, 0⟩, kept, link)
    | (none, kept, link) =>
      let (waited, kept, link) := await poll kept (link.bring stretch) stretches
      (⟨waited.result, waited.fed + 1⟩, kept, link)

/-- Without a packet a poll only asks to be woken. -/
def Pends (poll : memory → Link geometry → Option answer × memory × Link geometry)
    (kept later : memory) : Prop :=
  ∀ (link : Link geometry) (reception : Reception), Inbound.Sound link.inbound reception →
    link.inbound.ring.contents = [] → poll kept link = (none, later, link.watched)

variable {poll : memory → Link geometry → Option answer × memory × Link geometry}
  {first later : memory}

/-- A wait ends with the poll that comes after its last stretch, or with the first one that finds a packet. -/
theorem await_eq (starts : Pends poll first later) (stays : Pends poll later later)
    (sound : Inbound.Sound link.inbound reception) {stretches : List (List (UInt8 × Status))}
    {count : Nat} (within : count ≤ stretches.length)
    (waiting : ∀ earlier < count, (link.polled (stretches.take earlier)).inbound.ring.contents = [])
    {result : Option answer} {kept : memory} {after : Link geometry}
    (last : poll (if count = 0 then first else later) (link.polled (stretches.take count)) =
      (result, kept, after))
    (ends : result.isSome ∨ count = stretches.length) :
    link.await poll first stretches = (⟨result, count⟩, kept, after) := by
  -- On the number of polls that find nothing: the first of them takes the wait from `first` to `later`, where it
  -- stays, so that the rest is a wait that begins at `later`.
  induction count generalizing link reception first stretches with
  | zero =>
    rw [List.take_zero, if_pos rfl] at last
    change poll first link = _ at last
    cases stretches with
    | nil => simp only [await, last]
    | cons stretch stretches =>
      obtain ⟨answer, rfl⟩ := Option.isSome_iff_exists.mp (ends.resolve_right (Nat.zero_ne_add_one _))
      simp only [await, last]
  | succ count inductionHypothesis =>
    cases stretches with
    | nil => cases within
    | cons stretch stretches =>
      have pending := starts link reception sound (waiting 0 (Nat.zero_lt_succ _))
      obtain ⟨between, sound⟩ := sound_bring (sound_watched sound) stretch
      have rest := inductionHypothesis stays sound (Nat.le_of_succ_le_succ within)
        (fun earlier before => waiting (earlier + 1) (Nat.succ_lt_succ before))
        (by rw [ite_self]; exact last) (ends.imp id Nat.succ.inj)
      simp only [await, pending, rest]

end Waits

end FramedLine.Link
