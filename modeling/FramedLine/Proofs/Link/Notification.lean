import FramedLine.Proofs.Link.Event

/-!
The transmit notification of a link. It is armed when a packet is queued and masked when the driver of the
line runs dry, so that a packet is never left waiting on a line that does not ask for it.
-/

namespace FramedLine

open PacketRing

variable {geometry : Geometry}

namespace Outbound

variable {outbound : Outbound geometry} {transmission : Transmission}

/-- The notification is armed only while a packet waits, unless someone else unmasks it. It is armed whenever a
packet waits, unless someone else masks it. -/
structure Alert (outbound : Outbound geometry) (unraised undisturbed : Prop)
    (transmission : Transmission) : Prop where
  sound : Sound outbound transmission
  waits : unraised → outbound.armed = true → transmission.queue.packets ≠ []
  armed : undisturbed → transmission.queue.packets ≠ [] → outbound.armed = true

namespace Alert

variable {unraised undisturbed : Prop}

theorem attach (unraised undisturbed : Prop) (geometry : Geometry) (taken : Bool) :
    Alert (attach { PacketRing.fresh geometry with taken }) unraised undisturbed { queue := .empty } where
  sound := sound_attach geometry taken
  waits _ armed := by cases armed
  armed _ present := absurd rfl present

/-- Someone else masks the notification. -/
theorem disarm (alert : Alert outbound unraised undisturbed transmission) :
    Alert outbound.disarm unraised False transmission where
  sound := { alert.sound with }
  waits _ armed := by cases armed
  armed disturbed := disturbed.elim

/-- Someone else unmasks it. -/
theorem arm (alert : Alert outbound unraised undisturbed transmission) :
    Alert outbound.arm False undisturbed transmission where
  sound := { alert.sound with }
  waits raised := raised.elim
  armed _ _ := rfl

theorem imp {calm still : Prop} (alert : Alert outbound unraised undisturbed transmission)
    (lower : calm → unraised) (quiet : still → undisturbed) : Alert outbound calm still transmission where
  sound := alert.sound
  waits calm := alert.waits (lower calm)
  armed still := alert.armed (quiet still)

theorem call (alert : Alert outbound unraised undisturbed transmission) (call : Call) :
    Alert (call.perform outbound).2 unraised undisturbed (transmission.perform geometry call).2 := by
  obtain ⟨accepted, sound⟩ := alert.sound.perform call
  have armed := outbound.armed_perform call
  obtain ⟨payload, packets⟩ := transmission.packets_perform geometry call
  rw [accepted] at armed
  cases queued : (transmission.perform geometry call).1 with
  | true =>
    rw [queued, Bool.or_true] at armed
    rw [queued, if_pos rfl] at packets
    have present : (transmission.perform geometry call).2.queue.packets ≠ [] := by
      rw [packets]
      exact List.append_ne_nil_of_right_ne_nil _ (List.cons_ne_nil _ _)
    exact ⟨sound, fun _ _ => present, fun _ _ => armed⟩
  | false =>
    rw [queued, Bool.or_false] at armed
    rw [queued, if_neg (by decide), List.append_nil] at packets
    refine ⟨sound, ?_, ?_⟩
    · rw [armed, packets]
      exact alert.waits
    · rw [armed, packets]
      exact alert.armed

theorem nextByte (alert : Alert outbound unraised undisturbed transmission) :
    Alert outbound.nextByte.2 unraised undisturbed transmission.nextByte.2 := by
  have armed := alert.sound.armed_nextByte
  refine ⟨alert.sound.nextByte.2, ?_, ?_⟩
  · intro _ left empty
    rw [armed, empty] at left
    simp at left
  · intro calm present
    have before : transmission.queue.packets ≠ [] := by
      intro empty
      have fewer := transmission.length_nextByte_le
      rw [empty] at fewer
      exact present (List.length_eq_zero_iff.mp (Nat.le_zero.mp fewer))
    rw [armed, alert.armed calm before]
    simpa using present

end Alert

end Outbound

namespace Link

variable {link : Link geometry} {device failure : Type} [SerialDevice device failure]

theorem alert_next {unraised undisturbed : Prop} {transmission : Transmission}
    (alert : link.outbound.Alert unraised undisturbed transmission) (event : Event) :
    ∃ after, (link.next event).outbound.Alert (unraised ∧ event ≠ .unmask) (undisturbed ∧ event ≠ .mask)
      after := by
  cases event with
  | call call => exact ⟨_, (alert.call call).imp And.left And.left⟩
  | nextByte => exact ⟨_, alert.nextByte.imp And.left And.left⟩
  | service state =>
    have keeps : ∀ outbound : Outbound geometry,
        (∃ transmission, outbound.Alert unraised undisturbed transmission) →
          ∃ after, outbound.nextByte.2.Alert unraised undisturbed after := by
      rintro outbound ⟨transmission, alert⟩
      exact ⟨_, alert.nextByte⟩
    obtain ⟨after, kept⟩ := service_keeps keeps ⟨transmission, alert⟩ state
    exact ⟨after, kept.imp And.left And.left⟩
  | mask => exact ⟨transmission, alert.disarm.imp And.left fun calm => calm.2 rfl⟩
  | unmask => exact ⟨transmission, alert.arm.imp (fun calm => calm.2 rfl) And.left⟩
  | _ =>
    rw [link.outbound_next rfl]
    exact ⟨transmission, alert.imp And.left And.left⟩

theorem alert_opened (config : Config) (ready : opened geometry config = .ok link) :
    link.outbound.Alert True True { queue := .empty } := by
  obtain rfl := Except.ok.inj ((opened_eq geometry config).symm.trans ready)
  exact .attach True True geometry true

theorem alert_run {unraised undisturbed : Prop} {transmission : Transmission}
    (alert : link.outbound.Alert unraised undisturbed transmission) (events : List Event) :
    ∃ after, (events.foldl next link).outbound.Alert (unraised ∧ Event.unmask ∉ events)
      (undisturbed ∧ Event.mask ∉ events) after := by
  induction events generalizing link unraised undisturbed transmission with
  | nil => exact ⟨transmission, alert.imp And.left And.left⟩
  | cons event rest inductionHypothesis =>
    obtain ⟨between, stepped⟩ := alert_next alert event
    obtain ⟨after, kept⟩ := inductionHypothesis stepped
    refine ⟨after, kept.imp ?_ ?_⟩
    · rintro ⟨low, unraised⟩
      rw [List.mem_cons, not_or] at unraised
      exact ⟨⟨low, Ne.symm unraised.1⟩, unraised.2⟩
    · rintro ⟨calm, unmasked⟩
      rw [List.mem_cons, not_or] at unmasked
      exact ⟨⟨calm, Ne.symm unmasked.1⟩, unmasked.2⟩

/-- A service adds no packet. -/
theorem waiting_service_le {transmission : Transmission} (sound : link.outbound.Sound transmission)
    (state : device) : (link.service state).2.1.outbound.waiting ≤ link.outbound.waiting := by
  have keeps : ∀ outbound : Outbound geometry,
      (∃ after, outbound.Sound after ∧ outbound.waiting ≤ link.outbound.waiting) →
        ∃ after, outbound.nextByte.2.Sound after ∧
          outbound.nextByte.2.waiting ≤ link.outbound.waiting := by
    rintro outbound ⟨transmission, sound, fewer⟩
    exact ⟨_, sound.nextByte.2, Nat.le_trans sound.waiting_nextByte_le fewer⟩
  obtain ⟨after, -, fewer⟩ := service_keeps keeps ⟨transmission, sound, Nat.le_refl _⟩ state
  exact fewer

/-- Only a call adds a packet to those that wait, and it arms the notification with it. -/
theorem armed_of_queued {transmission : Transmission} (sound : link.outbound.Sound transmission)
    (event : Event) (queued : link.outbound.waiting < (link.next event).outbound.waiting) :
    (link.next event).outbound.armed = true := by
  cases event with
  | call call =>
    obtain ⟨accepted, behind⟩ := sound.perform call
    obtain ⟨payload, packets⟩ := transmission.packets_perform geometry call
    change link.outbound.waiting < (call.perform link.outbound).2.waiting at queued
    change (call.perform link.outbound).2.armed = true
    rw [sound.waiting_eq, behind.waiting_eq, packets, ← accepted] at queued
    cases answer : (call.perform link.outbound).1 with
    | true => rw [link.outbound.armed_perform, answer, Bool.or_true]
    | false => simp [answer] at queued
  | nextByte => exact absurd sound.waiting_nextByte_le (Nat.not_le_of_lt queued)
  | service state => exact absurd (waiting_service_le sound state) (Nat.not_le_of_lt queued)
  | mask => exact absurd queued (Nat.lt_irrefl _)
  | unmask => rfl
  | _ =>
    rw [link.outbound_next rfl] at queued
    exact absurd queued (Nat.lt_irrefl _)

/-- No queued packet is stranded. As long as nobody else masks or unmasks the notification, it is armed exactly
while a packet waits. If somebody masks it, it is still armed only while a packet waits, and the next packet
that is queued arms it. -/
theorem notification (geometry : Geometry) (config : Config) :
    ∃ link, opened geometry config = .ok link ∧ ∀ events : List Event,
      let reached := events.foldl next link
      (Event.unmask ∉ events → Event.mask ∉ events →
        (reached.outbound.armed = true ↔ reached.outbound.waiting ≠ 0)) ∧
      (Event.unmask ∉ events → reached.outbound.armed = true → reached.outbound.waiting ≠ 0) ∧
      (Event.mask ∉ events → reached.outbound.waiting ≠ 0 → reached.outbound.armed = true) ∧
      (∀ call : Outbound.Call, (call.perform reached.outbound).1 = true →
        (reached.next (.call call)).outbound.armed = true) ∧
      ∀ event, reached.outbound.waiting < (reached.next event).outbound.waiting →
        (reached.next event).outbound.armed = true := by
  refine ⟨_, opened_eq geometry config, ?_⟩
  intro events reached
  obtain ⟨transmission, alert⟩ := alert_run (alert_opened config (opened_eq geometry config)) events
  have present : reached.outbound.waiting ≠ 0 ↔ transmission.queue.packets ≠ [] := by
    rw [alert.sound.waiting_eq, ne_eq, List.length_eq_zero_iff]
  have waits (unraised : Event.unmask ∉ events) := alert.waits ⟨trivial, unraised⟩
  have armed (unmasked : Event.mask ∉ events) := alert.armed ⟨trivial, unmasked⟩
  rw [present]
  refine ⟨fun unraised unmasked => ⟨waits unraised, armed unmasked⟩, waits, armed, ?_,
    fun event => armed_of_queued alert.sound event⟩
  intro call accepted
  change (call.perform reached.outbound).2.armed = true
  rw [reached.outbound.armed_perform, accepted, Bool.or_true]

end Link

end FramedLine
