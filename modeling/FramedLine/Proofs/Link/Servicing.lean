import FramedLine.Proofs.Inbound.RoundTrip
import FramedLine.Proofs.Link.Notification
import FramedLine.Proofs.Link.Recording
import FramedLine.Proofs.Outbound.Pending

/-!
A service moves bytes and nothing else. Whatever the device answers, the receiver gets each byte that was
taken from it, and the bytes that are offered to it are the next ones of the line, of which a failure costs
one at most.
-/

namespace FramedLine

open PacketRing

variable {geometry : Geometry} {failure : Type}

open Contact (Ends)

namespace Receives

variable {inbound after : Inbound geometry} {contacts : List (Contact failure)}
  {result : Except failure Unit}

/-- The receiver gets the bytes that were taken, in their order. -/
theorem received (receives : Receives inbound contacts result after) :
    after = inbound.receiveLine (contacts.filterMap Contact.taken?) := by
  induction receives with
  | done => rfl
  | failed reason => rfl
  | took byte status later inductionHypothesis => exact inductionHypothesis

theorem reads (receives : Receives inbound contacts result after) :
    ∀ contact ∈ contacts, contact.isRead = true := by
  induction receives with
  | done => simp [Contact.isRead]
  | failed reason => simp [Contact.isRead]
  | took byte status later inductionHypothesis =>
    exact List.forall_mem_cons.mpr ⟨rfl, inductionHypothesis⟩

/-- The device is read in any case, and reading goes on until it has nothing more or fails. -/
theorem reading (receives : Receives inbound contacts result after) :
    ∃ arrivals : List (UInt8 × Status),
      contacts = arrivals.map Contact.arrival ++ [.read (result.map fun _ => none)] := by
  induction receives with
  | done => exact ⟨[], rfl⟩
  | failed reason => exact ⟨[], rfl⟩
  | took byte status later inductionHypothesis =>
    obtain ⟨arrivals, rfl⟩ := inductionHypothesis
    exact ⟨(byte, status) :: arrivals, rfl⟩

theorem ends (receives : Receives inbound contacts result after) : Ends contacts result := by
  induction receives with
  | done => exact List.forall_mem_singleton.mpr rfl
  | failed reason => exact Contact.ends_singleton rfl
  | took byte status later inductionHypothesis => exact inductionHypothesis.cons rfl

end Receives

namespace Sends

variable {outbound after : Outbound geometry} {wrote : Bool} {limit : Nat}
  {contacts : List (Contact failure)} {result : Except failure Bool}

/-- The device is offered what the driver gives the line, a byte each time that it is ready. -/
theorem offered (sends : Sends outbound wrote limit contacts result after) :
    ∃ dry, outbound.takeLine (contacts.countP Contact.isReady) =
      (⟨contacts.filterMap Contact.offered?, dry⟩, after) := by
  induction sends with
  | cut => exact ⟨false, rfl⟩
  | masked masked => exact ⟨false, rfl⟩
  | unready armed => exact ⟨false, rfl⟩
  | dry armed dry =>
    refine ⟨true, ?_⟩
    change Outbound.takeLine _ 1 = _
    rw [Outbound.takeLine, dry]
    rfl
  | lost armed next reason =>
    refine ⟨false, ?_⟩
    change Outbound.takeLine _ 1 = _
    rw [Outbound.takeLine, next]
    rfl
  | written armed next later inductionHypothesis =>
    obtain ⟨dry, taken⟩ := inductionHypothesis
    refine ⟨dry, ?_⟩
    rw [List.countP_cons_of_pos rfl, List.countP_cons_of_neg (by simp [Contact.isReady]),
      Outbound.takeLine, next]
    simp only [taken]
    rfl

/-- Each byte that is offered is accepted, but for the one with which sending fails. -/
theorem accepted (sends : Sends outbound wrote limit contacts result after) :
    contacts.filterMap Contact.offered? =
        contacts.filterMap Contact.accepted? ++ contacts.filterMap Contact.lost? ∧
      (contacts.filterMap Contact.lost?).length = if result.isOk then 0 else 1 := by
  induction sends with
  | cut => exact ⟨rfl, rfl⟩
  | masked masked => exact ⟨rfl, rfl⟩
  | unready armed => exact ⟨rfl, rfl⟩
  | dry armed dry => exact ⟨rfl, rfl⟩
  | lost armed next reason => exact ⟨rfl, rfl⟩
  | written armed next later inductionHypothesis =>
    obtain ⟨offered, lost⟩ := inductionHypothesis
    exact ⟨congrArg _ offered, lost⟩

/-- Nothing is read or flushed in between. -/
theorem others (sends : Sends outbound wrote limit contacts result after) :
    ∀ contact ∈ contacts, contact.isRead = false ∧ contact.isFlush = false := by
  induction sends with
  | cut => exact fun _ found => absurd found List.not_mem_nil
  | masked masked => exact fun _ found => absurd found List.not_mem_nil
  | unready armed => exact List.forall_mem_singleton.mpr ⟨rfl, rfl⟩
  | dry armed dry => exact List.forall_mem_singleton.mpr ⟨rfl, rfl⟩
  | lost armed next reason =>
    exact List.forall_mem_cons.mpr ⟨⟨rfl, rfl⟩, List.forall_mem_singleton.mpr ⟨rfl, rfl⟩⟩
  | written armed next later inductionHypothesis =>
    exact List.forall_mem_cons.mpr ⟨⟨rfl, rfl⟩, List.forall_mem_cons.mpr ⟨⟨rfl, rfl⟩, inductionHypothesis⟩⟩

/-- The answer tells whether a byte was accepted. -/
theorem answer (sends : Sends outbound wrote limit contacts result after) (flag : Bool)
    (well : result = .ok flag) :
    flag = (wrote || !(contacts.filterMap Contact.accepted?).isEmpty) := by
  induction sends with
  | cut => cases well; simp
  | masked masked => cases well; simp
  | unready armed => cases well; simp [Contact.accepted?]
  | dry armed dry => cases well; simp [Contact.accepted?]
  | lost armed next reason => cases well
  | written armed next later inductionHypothesis =>
    rw [inductionHypothesis well, Bool.true_or]
    simp [Contact.accepted?]

/-- The device has something to flush if it accepted a byte and none was lost. -/
theorem flushable (sends : Sends outbound false limit contacts result after) :
    result.toOption = some true ↔
      contacts.filterMap Contact.accepted? ≠ [] ∧ contacts.filterMap Contact.lost? = [] := by
  have lost := sends.accepted.2
  cases result with
  | error reason =>
    constructor
    · intro none
      cases none
    · rintro ⟨-, none⟩
      rw [none] at lost
      cases lost
  | ok flag =>
    have none := List.length_eq_zero_iff.mp lost
    rw [and_iff_left none, sends.answer flag rfl, Bool.false_or]
    simp [Except.toOption]

theorem ends (sends : Sends outbound wrote limit contacts result after) : Ends contacts result := by
  induction sends with
  | cut => exact fun _ found => absurd found List.not_mem_nil
  | masked masked => exact fun _ found => absurd found List.not_mem_nil
  | unready armed => exact List.forall_mem_singleton.mpr rfl
  | dry armed dry => exact List.forall_mem_singleton.mpr rfl
  | lost armed next reason => exact (Contact.ends_singleton rfl).cons rfl
  | written armed next later inductionHypothesis => exact (inductionHypothesis.cons rfl).cons rfl

/-- A masked notification keeps the device from being asked. -/
theorem idle (sends : Sends outbound wrote limit contacts result after)
    (masked : outbound.armed = false) : contacts = [] ∧ result = .ok wrote ∧ after = outbound := by
  cases sends with
  | cut => exact ⟨rfl, rfl, rfl⟩
  | masked _ => exact ⟨rfl, rfl, rfl⟩
  | unready armed => cases armed.symm.trans masked
  | dry armed => cases armed.symm.trans masked
  | lost armed => cases armed.symm.trans masked
  | written armed => cases armed.symm.trans masked

section Drain

variable {transmission : Transmission} {byte : UInt8} {between : Outbound geometry}

/-- A byte that goes to the line leaves less that is pending. -/
theorem shrinks (sound : outbound.Sound transmission) (next : outbound.nextByte = (some byte, between))
    (enough : transmission.pending.length < limit + 1) :
    between.Sound transmission.nextByte.2 ∧ transmission.nextByte.2.pending.length < limit := by
  have behind := sound.nextByte.2
  have pending := sound.pending_nextByte
  rw [next] at behind pending
  refine ⟨behind, ?_⟩
  rw [pending, List.length_append] at enough
  exact Nat.lt_of_succ_lt_succ (Nat.lt_of_le_of_lt (Nat.le_of_eq (Nat.add_comm _ 1)) enough)

/-- Sending stops when the notification is masked, when the device is not ready or when it fails, and not
because of the limit. -/
theorem stops (sends : Sends outbound wrote limit contacts result after)
    (sound : outbound.Sound transmission) (enough : transmission.pending.length < limit) (flag : Bool)
    (well : result = .ok flag) (armed : after.armed = true) :
    ∃ contact ∈ contacts, contact.isRefusal = true := by
  induction sends generalizing transmission with
  | cut => exact absurd enough (Nat.not_lt_zero _)
  | masked masked => cases armed.symm.trans masked
  | unready _ => exact ⟨_, List.mem_singleton_self _, rfl⟩
  | dry _ dry =>
    have masked := (sound.dry (congrArg Prod.fst dry)).2
    rw [dry] at masked
    cases armed.symm.trans masked
  | lost => cases well
  | written _ next later inductionHypothesis =>
    obtain ⟨behind, less⟩ := shrinks sound next enough
    obtain ⟨contact, found, refusal⟩ := inductionHypothesis behind less well armed
    exact ⟨contact, List.mem_cons_of_mem _ (List.mem_cons_of_mem _ found), refusal⟩

/-- A device that is always ready and does not fail takes everything. -/
theorem drains (sends : Sends outbound wrote limit contacts result after)
    (sound : outbound.Sound transmission) (enough : transmission.pending.length < limit)
    (quiet : outbound.armed = false → outbound.waiting = 0)
    (eager : ∀ contact ∈ contacts, contact.failure? = none ∧ contact.isRefusal = false) :
    after.waiting = 0 ∧ after.armed = false := by
  induction sends generalizing transmission with
  | cut => exact absurd enough (Nat.not_lt_zero _)
  | masked masked => exact ⟨quiet masked, masked⟩
  | unready _ => cases (eager _ (List.mem_singleton_self _)).2
  | dry _ dry =>
    have drained := sound.dry (congrArg Prod.fst dry)
    rw [dry] at drained
    exact drained
  | lost => cases (eager _ (List.mem_cons_of_mem _ (List.mem_singleton_self _))).1
  | written armed next later inductionHypothesis =>
    obtain ⟨behind, less⟩ := shrinks sound next enough
    apply inductionHypothesis behind less
    · have masked := sound.masked armed
      rw [next] at masked
      exact masked
    · intro contact found
      exact eager contact (List.mem_cons_of_mem _ (List.mem_cons_of_mem _ found))

end Drain

end Sends

namespace Closes

variable {sent : Except failure Bool} {writes closing : List (Contact failure)}
  {result : Except failure Unit}

theorem ends (closes : Closes sent closing result) (ends : Ends writes sent) :
    Ends (writes ++ closing) result := by
  cases closes with
  | failed reason =>
    rw [List.append_nil]
    exact ends
  | idle =>
    rw [List.append_nil]
    exact ends
  | flushed =>
    apply Ends.append ends
    cases result with
    | ok => exact List.forall_mem_singleton.mpr rfl
    | error reason => exact Contact.ends_singleton rfl

/-- The end of a service moves no byte. -/
theorem still (closes : Closes sent closing result) : Contact.Still closing := by
  cases closes <;> exact ⟨rfl, rfl, rfl, rfl⟩

theorem others (closes : Closes sent closing result) :
    ∀ contact ∈ closing, contact.isRead = false ∧ contact.isFlush = true := by
  cases closes with
  | failed reason => exact fun _ found => absurd found List.not_mem_nil
  | idle => exact fun _ found => absurd found List.not_mem_nil
  | flushed answer => exact List.forall_mem_singleton.mpr ⟨rfl, rfl⟩

theorem well (closes : Closes sent closing result) (well : result = .ok ()) :
    ∃ flag, sent = .ok flag := by
  cases closes with
  | failed reason => cases well
  | idle => exact ⟨false, rfl⟩
  | flushed => exact ⟨true, rfl⟩

theorem flushes (closes : Closes sent closing result) :
    closing.countP Contact.isFlush = if sent.toOption = some true then 1 else 0 := by
  cases closes <;> rfl

end Closes

/-- What a service does, told by its contacts with the device. -/
structure Moves (link : Link geometry) (contacts : List (Contact failure))
    (result : Except failure Unit) (after : Link geometry) : Prop where
  /-- The device is read in any case, byte after byte, until it has nothing more or fails. If it fails, that is
  the end; otherwise it is asked and offered bytes, and flushed last. -/
  ordered : ∃ (arrivals : List (UInt8 × Status)) (reading : Except failure (Option (UInt8 × Status)))
    (writes closing : List (Contact failure)),
    contacts = arrivals.map Contact.arrival ++ .read reading :: (writes ++ closing) ∧
    (∀ contact ∈ writes, contact.isRead = false ∧ contact.isFlush = false) ∧
    (∀ contact ∈ closing, contact.isFlush = true) ∧
    (reading = .ok none ∨
      ∃ reason, reading = .error reason ∧ result = .error reason ∧ writes = [] ∧ closing = [])
  received : after.inbound = link.inbound.receiveLine (contacts.filterMap Contact.taken?)
  /-- A byte is taken from the driver each time that the device is ready, and offered if there is one. -/
  offered : ∃ dry, link.outbound.takeLine (contacts.countP Contact.isReady) =
    (⟨contacts.filterMap Contact.offered?, dry⟩, after.outbound)
  accepted : contacts.filterMap Contact.offered? =
    contacts.filterMap Contact.accepted? ++ contacts.filterMap Contact.lost?
  lost : (contacts.filterMap Contact.lost?).length ≤ 1
  ends : Ends contacts result
  unread : ∀ reason, .read (.error reason) ∈ contacts →
    after.outbound = link.outbound ∧ ∀ contact ∈ contacts, contact.isRead = true
  flushed : contacts.countP Contact.isFlush =
    if contacts.filterMap Contact.accepted? ≠ [] ∧ contacts.filterMap Contact.lost? = [] then 1 else 0
  masked : link.outbound.armed = false →
    after.outbound = link.outbound ∧ ∀ contact ∈ contacts, contact.isRead = true
  stops : result = .ok () → after.outbound.armed = true → ∃ contact ∈ contacts, contact.isRefusal = true
  drains : link.outbound.armed = true →
    (∀ contact ∈ contacts, contact.failure? = none ∧ contact.isRefusal = false) →
    result = .ok () ∧ after.outbound.waiting = 0 ∧ after.outbound.armed = false

/-- What the contacts of a service come to is told by its parts. -/
structure Told (contacts reads writes closing : List (Contact failure)) : Prop where
  taken : contacts.filterMap Contact.taken? = reads.filterMap Contact.taken?
  offered : contacts.filterMap Contact.offered? = writes.filterMap Contact.offered?
  accepted : contacts.filterMap Contact.accepted? = writes.filterMap Contact.accepted?
  lost : contacts.filterMap Contact.lost? = writes.filterMap Contact.lost?
  ready : contacts.countP Contact.isReady = writes.countP Contact.isReady
  flushes : contacts.countP Contact.isFlush = closing.countP Contact.isFlush

theorem told_served {reads writes closing : List (Contact failure)}
    (first : ∀ contact ∈ reads, contact.isRead = true)
    (second : ∀ contact ∈ writes, contact.isRead = false ∧ contact.isFlush = false)
    (third : ∀ contact ∈ closing, contact.isRead = false) (still : Contact.Still closing) :
    Told (reads ++ (writes ++ closing)) reads writes closing := by
  have before := Contact.still_of_reads first
  have written : writes.countP Contact.isFlush = 0 :=
    List.countP_eq_zero.mpr fun contact found flushed => by simp [second contact found] at flushed
  have taken := Contact.taken_of_others fun contact found => (second contact found).1
  constructor
  · simp only [List.filterMap_append, taken, Contact.taken_of_others third, List.append_nil]
  · simp only [List.filterMap_append, before.offered, still.offered, List.nil_append, List.append_nil]
  · simp only [List.filterMap_append, before.accepted, still.accepted, List.nil_append, List.append_nil]
  · simp only [List.filterMap_append, before.lost, still.lost, List.nil_append, List.append_nil]
  · simp only [List.countP_append, before.ready, still.ready, Nat.zero_add, Nat.add_zero]
  · simp only [List.countP_append, Contact.flushes_of_reads first, written, Nat.zero_add]

variable {link after : Link geometry} {contacts : List (Contact failure)} {result : Except failure Unit}
  {transmission : Transmission}

/-- The bytes of a full ring are not too many for one service. -/
theorem Outbound.Sound.length_pending_lt {outbound : Outbound geometry}
    (sound : outbound.Sound transmission) : transmission.pending.length < Link.lineBound geometry := by
  obtain ⟨marks, bytes⟩ := sound.represents.bounds
  have pending := transmission.length_pending_le
  rw [Link.lineBound]
  omega

theorem Receives.moves {inbound : Inbound geometry} {reason : failure}
    (receives : Receives link.inbound contacts (.error reason) inbound) :
    Moves link contacts (.error reason) { link with inbound } := by
  have reads := receives.reads
  have still := Contact.still_of_reads reads
  obtain ⟨arrivals, reading⟩ := receives.reading
  exact {
    ordered := ⟨arrivals, .error reason, [], [], reading, fun _ found => absurd found List.not_mem_nil,
      fun _ found => absurd found List.not_mem_nil, .inr ⟨reason, rfl, rfl, rfl, rfl⟩⟩
    received := receives.received
    offered := ⟨false, by rw [still.offered, still.ready]; rfl⟩
    accepted := by rw [still.offered, still.accepted, still.lost]; rfl
    lost := by rw [still.lost]; exact Nat.zero_le _
    ends := receives.ends
    unread := fun _ _ => ⟨rfl, reads⟩
    flushed := by rw [Contact.flushes_of_reads reads, still.accepted, if_neg fun filled => filled.1 rfl]
    masked := fun _ => ⟨rfl, reads⟩
    stops := fun well => by cases well
    drains := fun _ eager => by
      obtain ⟨_, well⟩ := receives.ends.well fun contact found => (eager contact found).1
      cases well }

theorem Serves.moves (serves : Serves link contacts result after)
    (sound : link.outbound.Sound transmission) : Moves link contacts result after := by
  cases serves with
  | unread receives => exact receives.moves
  | @served inbound outbound reads writes closing sent result receives sends closes =>
    have first := receives.reads
    have last : ∀ contact ∈ closing, contact.isRead = false := fun contact found =>
      (closes.others contact found).1
    have told := told_served first sends.others last closes.still
    have others : ∀ contact ∈ writes ++ closing, contact.isRead = false := by
      intro contact found
      exact (List.mem_append.mp found).elim (fun early => (sends.others contact early).1) (last contact)
    have ends : Ends (reads ++ (writes ++ closing)) result :=
      Ends.append receives.ends (closes.ends sends.ends)
    have asked : ∀ contact ∈ writes, contact ∈ reads ++ (writes ++ closing) :=
      fun contact found => List.mem_append_right _ (List.mem_append_left _ found)
    exact {
      ordered := by
        obtain ⟨arrivals, reading⟩ := receives.reading
        refine ⟨arrivals, .ok none, writes, closing, ?_, sends.others,
          fun contact found => (closes.others contact found).2, .inl rfl⟩
        rw [reading, List.append_assoc]
        rfl
      received := by
        rw [told.taken]
        exact receives.received
      offered := by
        rw [told.ready, told.offered]
        exact sends.offered
      accepted := by
        rw [told.offered, told.accepted, told.lost]
        exact sends.accepted.1
      lost := by
        rw [told.lost, sends.accepted.2]
        split <;> decide
      ends
      unread := by
        intro reason found
        rcases List.mem_append.mp found with early | late
        · cases receives.ends _ early
        · cases others _ late
      flushed := by
        rw [told.flushes, told.accepted, told.lost, closes.flushes]
        simp only [sends.flushable]
      masked := by
        intro masked
        obtain ⟨rfl, rfl, same⟩ := sends.idle masked
        cases closes
        exact ⟨same, by simpa using first⟩
      stops := by
        intro well armed
        obtain ⟨flag, well⟩ := closes.well well
        obtain ⟨contact, found, refusal⟩ := sends.stops sound sound.length_pending_lt flag well armed
        exact ⟨contact, asked contact found, refusal⟩
      drains := by
        intro armed eager
        obtain ⟨_, well⟩ := ends.well fun contact found => (eager contact found).1
        refine ⟨well, ?_⟩
        apply sends.drains sound sound.length_pending_lt
        · intro masked
          cases armed.symm.trans masked
        · exact fun contact found => eager contact (asked contact found) }

end FramedLine
