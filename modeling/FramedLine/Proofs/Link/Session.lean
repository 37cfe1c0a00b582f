import FramedLine.Device.Scripted
import FramedLine.Proofs.Link.Servicing

/-!
Services one after the other, and among everything else that happens to a link. They put the bytes on the
line that the driver would have put there if it had been asked byte by byte.
-/

namespace FramedLine

open PacketRing

variable {geometry : Geometry}

namespace Link

/-- Whether a device is serviced. -/
def Event.IsService : Event → Prop
  | @Event.service _ _ _ _ => True
  | _ => False

/-- The bytes that a link moves, one at a time, when a device is serviced. -/
def Event.unroll (link : Link geometry) : Event → List Event
  | @Event.service device failure _ state =>
    let contacts := (link.service (⟨state, []⟩ : Recording device failure)).2.2.contacts
    (contacts.filterMap Contact.taken?).map (fun received => .receive received.1 received.2) ++
      List.replicate (contacts.countP Contact.isReady) .nextByte
  | event => [event]

theorem Event.plain_unroll (link : Link geometry) (event : Event) :
    ∀ plain ∈ event.unroll link, ¬plain.IsService := by
  intro plain found
  cases event with
  | service state =>
    rcases List.mem_append.mp found with received | sent
    · obtain ⟨received, -, rfl⟩ := List.mem_map.mp received
      exact not_false
    · rw [List.eq_of_mem_replicate sent]
      exact not_false
  | _ =>
    rw [List.mem_singleton.mp found]
    exact not_false

end Link

open Link (Event)

/-- A link, with the bytes that its line was given or offered. -/
structure Session (geometry : Geometry) where
  link : Link geometry
  line : Bytes := []

namespace Session

def next (session : Session geometry) : Event → Session geometry
  | .nextByte =>
    let (byte, link) := session.link.nextByte
    ⟨link, session.line ++ byte.toList⟩
  | @Event.service device failure _ state =>
    let (_, link, recording) := session.link.service (⟨state, []⟩ : Recording device failure)
    ⟨link, session.line ++ recording.contacts.filterMap Contact.offered?⟩
  | event => ⟨session.link.next event, session.line⟩

def run (session : Session geometry) (events : List Event) : Session geometry :=
  events.foldl next session

/-- The events of a session with each service replaced by the bytes that it moved. -/
def unroll (session : Session geometry) : List Event → List Event
  | [] => []
  | event :: later => event.unroll session.link ++ (session.next event).unroll later

variable (session : Session geometry)

theorem link_next (event : Event) : (session.next event).link = session.link.next event := by
  cases event with
  | service state =>
    obtain ⟨contacts, result, after, final, -, plain, recorded⟩ :=
      session.link.serves_service state
    simp only [next, Link.next, plain, recorded]
  | _ => rfl

theorem reachable_next (reachable : session.link.Reachable) (event : Event) :
    (session.next event).link.Reachable := by
  rw [link_next]
  exact reachable.next event

theorem link_run (events : List Event) :
    (session.run events).link = events.foldl Link.next session.link := by
  induction events generalizing session with
  | nil => rfl
  | cons event later inductionHypothesis =>
    rw [List.foldl_cons, ← session.link_next event]
    exact inductionHypothesis (session.next event)

theorem run_receives (received : List (UInt8 × Status)) :
    session.run (received.map fun arrival => .receive arrival.1 arrival.2) =
      ⟨{ session.link with inbound := session.link.inbound.receiveLine received }, session.line⟩ := by
  induction received generalizing session with
  | nil => rfl
  | cons arrival later inductionHypothesis =>
    exact inductionHypothesis (session.next (.receive arrival.1 arrival.2))

/-- A line that asks for bytes gets a stretch of them. -/
theorem run_nextBytes (limit : Nat) :
    session.run (List.replicate limit .nextByte) =
      ⟨{ session.link with outbound := (session.link.outbound.takeLine limit).2 },
        session.line ++ (session.link.outbound.takeLine limit).1.bytes⟩ := by
  induction limit generalizing session with
  | zero =>
    rw [Outbound.takeLine, List.append_nil]
    rfl
  | succ limit inductionHypothesis =>
    rw [List.replicate_succ]
    refine (inductionHypothesis (session.next .nextByte)).trans ?_
    rw [next, Link.nextByte, Outbound.takeLine]
    rcases taken : session.link.outbound.nextByte with ⟨byte, after⟩
    cases byte with
    | none =>
      obtain ⟨nothing, same⟩ := Outbound.takeLine_of_dry (Outbound.nextByte_of_dry taken) limit
      simp [nothing, same]
    | some byte => simp

theorem run_append (first second : List Event) :
    session.run (first ++ second) = (session.run first).run second :=
  List.foldl_append

variable {session} {transmission : Transmission}

/-- A service is the bytes that it moved. -/
theorem run_service (sound : session.link.outbound.Sound transmission) (event : Event) :
    session.run (event.unroll session.link) = session.next event := by
  cases event with
  | @service device failure serial state =>
    obtain ⟨contacts, result, after, final, serves, -, recorded⟩ :=
      session.link.serves_service state
    have moves := serves.moves sound
    obtain ⟨dry, line⟩ := moves.offered
    rw [Event.unroll, next, run_append, run_receives, run_nextBytes, recorded]
    dsimp only
    rw [line, ← moves.received]
  | _ => rfl

theorem run_unroll (reachable : session.link.Reachable) (events : List Event) :
    session.run (session.unroll events) = session.run events := by
  induction events generalizing session with
  | nil => rfl
  | cons event later inductionHypothesis =>
    obtain ⟨transmission, sound⟩ := reachable.outbound.sound
    have behind := session.reachable_next reachable event
    rw [unroll, run_append, run_service sound, inductionHypothesis behind]
    rfl

theorem plain_unroll (events : List Event) :
    ∀ event ∈ session.unroll events, ¬event.IsService := by
  induction events generalizing session with
  | nil => exact fun _ found => absurd found List.not_mem_nil
  | cons event later inductionHypothesis =>
    intro plain found
    rcases List.mem_append.mp found with first | behind
    · exact event.plain_unroll session.link plain first
    · exact inductionHypothesis plain behind

/-- A service gives the line a stretch. -/
theorem next_service (sound : session.link.outbound.Sound transmission) (event : Event)
    (service : event.IsService) :
    ∃ limit,
      (session.next event).line = session.line ++ (session.link.outbound.takeLine limit).1.bytes ∧
      (session.next event).link.outbound = (session.link.outbound.takeLine limit).2 := by
  cases event with
  | @service device failure serial state =>
    obtain ⟨contacts, result, after, final, serves, -, recorded⟩ :=
      session.link.serves_service state
    obtain ⟨dry, line⟩ := (serves.moves sound).offered
    refine ⟨contacts.countP Contact.isReady, ?_⟩
    simp only [next, recorded, line, and_self]
  | _ => exact service.elim

/-- Services in a row give the line one stretch. -/
theorem run_services (reachable : session.link.Reachable) (events : List Event)
    (services : ∀ event ∈ events, event.IsService) :
    ∃ limit,
      (session.run events).line = session.line ++ (session.link.outbound.takeLine limit).1.bytes ∧
      (session.run events).link.outbound = (session.link.outbound.takeLine limit).2 := by
  induction events generalizing session with
  | nil => exact ⟨0, (List.append_nil _).symm, rfl⟩
  | cons event later inductionHypothesis =>
    obtain ⟨service, others⟩ := List.forall_mem_cons.mp services
    obtain ⟨transmission, sound⟩ := reachable.outbound.sound
    obtain ⟨first, line, between⟩ := next_service sound event service
    obtain ⟨second, bytes, final⟩ :=
      inductionHypothesis (session.reachable_next reachable event) others
    obtain ⟨joined, same⟩ := session.link.outbound.takeLine_add first second
    rw [between] at bytes final
    refine ⟨first + second, ?_, ?_⟩
    · rw [joined, ← List.append_assoc, ← line]
      exact bytes
    · rw [same]
      exact final

end Session

namespace Link

/-- Whatever devices a link is serviced with, the bytes go the way they should. -/
structure Faithful (link : Link geometry) : Prop where
  /-- A device that keeps a record is serviced like one that does not. -/
  moves : ∀ {device failure : Type} [SerialDevice device failure] (state : device),
    ∃ contacts result after final,
      link.service state = (result, after, final) ∧
      link.service (⟨state, []⟩ : Recording device failure) = (result, after, ⟨final, contacts⟩) ∧
      Moves link contacts result after
  /-- What services in a row offer to their devices is what the driver gives in one stretch. -/
  stream : ∀ events, (∀ event ∈ events, Event.IsService event) →
    ∃ limit, (Session.run ⟨link, []⟩ events).line = (link.outbound.takeLine limit).1.bytes ∧
      (Session.run ⟨link, []⟩ events).link.outbound = (link.outbound.takeLine limit).2
  /-- Among other events, a service is as good as the bytes that it moves, one at a time. -/
  unrolls : ∀ events, (Session.run ⟨link, []⟩ events).link = events.foldl Link.next link ∧
    Session.run ⟨link, []⟩ (Session.unroll ⟨link, []⟩ events) = Session.run ⟨link, []⟩ events ∧
    ∀ event ∈ Session.unroll ⟨link, []⟩ events, ¬event.IsService

/-- Services move bytes without loss, duplication or reordering, but for a byte that a device fails to
take, from each state that a link can come to. -/
theorem Reachable.service_faithful {link : Link geometry} (reachable : link.Reachable) :
    link.Faithful where
  moves state := by
    obtain ⟨transmission, sound⟩ := reachable.outbound.sound
    obtain ⟨contacts, result, after, final, serves, plain, recorded⟩ := link.serves_service state
    exact ⟨contacts, result, after, final, plain, recorded, serves.moves sound⟩
  stream := @Session.run_services geometry ⟨link, []⟩ reachable
  unrolls events :=
    ⟨Session.link_run ⟨link, []⟩ events, Session.run_unroll reachable events, Session.plain_unroll events⟩

/-- A device brings a byte and fails at the third one that it is offered, which is lost. The application has
asked for a packet before and waits. -/
theorem service_faithful_of_failure :
    let device : ScriptedDevice := { incoming := [(69, .ok)], writes := some 2 }
    ∃ link, opened .standard {} = .ok link ∧
      let polled := link.next (.pollTake [0, 0] .starting)
      let queued := polled.next (.call (.send [17, 18]))
      let served := queued.service device
      queued.inbound.waker.registered = true ∧
        served.1.isOk = false ∧ served.2.2.output = [Stuffing.start, 17] ∧
        served.2.1.outbound.ring.contents = [Checksum.trailer (Checksum.ofBytes [17, 18])] ∧
        queued.Faithful := by
  intro device
  refine ⟨_, opened_eq .standard {}, ?_⟩
  intro polled queued served
  have reachable : polled.Reachable := (Reachable.opened (opened_eq .standard {})).next _
  exact ⟨by decide +kernel, by decide +kernel, by decide +kernel, by decide +kernel,
    Reachable.service_faithful (reachable.next (.call (.send [17, 18])))⟩

end Link

end FramedLine
