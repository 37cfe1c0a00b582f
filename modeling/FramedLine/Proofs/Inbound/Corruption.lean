import FramedLine.Proofs.Detection
import FramedLine.Proofs.Inbound.RoundTrip

/-!
A frame of which one byte was misread on the line. Whether the byte was data or part of the checksum, masked
or not, the receiver drops the packet at the closing delimiter and is ready for the next frame.
-/

namespace FramedLine

open PacketRing Stuffing

variable {geometry : Geometry}

namespace Stuffing

theorem unmask_injective (escaped : Bool) : Function.Injective (unmask escaped) := by
  intro first second same
  cases escaped with
  | false => exact same
  | true =>
    have masked : first ^^^ escapeMask = second ^^^ escapeMask := same
    exact (UInt8.xor_left_inj escapeMask).mp masked

/-- A byte that is no marker stands for one byte of data. -/
theorem decode_through (escaped : Bool) {byte : UInt8} (data : byte ≠ escape) (front back : Bytes) :
    decode escaped (front ++ byte :: back) =
      decode escaped front ++ unmask (dangling escaped front) byte :: decode false back := by
  rw [decode_append, decode, if_neg data]

/-- A sealed string is no longer sealed when one of its stuffed bytes is decoded as another one. -/
theorem unseal?_of_misread {payload front back : Bytes} {old value : UInt8}
    (stuffed : stuffAll (Checksum.sealed payload) = front ++ old :: back) (data : old ≠ escape)
    (plain : value ≠ escape) (different : old ≠ value) :
    Checksum.unseal? (decode false (front ++ value :: back)) = none := by
  have original := decode_stuffAll (Checksum.sealed payload)
  rw [stuffed, decode_through false data] at original
  rw [decode_through false plain]
  have outside := Checksum.agreeOutside_replace (decode false front) (decode false back)
    (unmask (dangling false front) value) (unmask (dangling false front) old)
  rw [original] at outside
  apply outside.unseal?_eq_none
  rw [← original]
  intro same
  have heads := (List.cons.inj (List.append_cancel_left same)).1
  exact different (unmask_injective _ heads).symm

end Stuffing

namespace Frame

/-- The byte at `place` can be read as `value` without a change of the framing: it is neither a delimiter of the
frame nor a marker, and `value` is another byte that has no meaning of its own. -/
structure Misreads (frame : Bytes) (place : Nat) (value : UInt8) : Prop where
  opened : 0 < place
  closed : place + 1 < frame.length
  data : frame[place]? ≠ some escape
  different : frame[place]? ≠ some value
  plain : value ≠ start ∧ value ≠ reset ∧ value ≠ escape

/-- Between its delimiters a misread frame holds the stuffed bytes but for one. -/
theorem Misreads.between {payload : Bytes} {place : Nat} {value : UInt8}
    (misreads : Misreads (whole payload) place value) :
    ∃ front old back, stuffAll (Checksum.sealed payload) = front ++ old :: back ∧
      (whole payload).set place value = start :: (front ++ value :: back ++ [start]) ∧
      old ≠ escape ∧ old ≠ value := by
  obtain ⟨opened, closed, data, different, -⟩ := misreads
  obtain ⟨index, rfl⟩ := Nat.exists_eq_add_of_lt opened
  rw [Nat.zero_add] at closed data different ⊢
  have inside : index < (stuffAll (Checksum.sealed payload)).length := by
    rw [whole, body, List.length_cons, List.length_append, List.length_singleton] at closed
    omega
  have found : (whole payload)[index + 1]? = some (stuffAll (Checksum.sealed payload))[index] := by
    rw [whole, body, List.getElem?_cons_succ, List.getElem?_append_left inside,
      List.getElem?_eq_getElem inside]
  obtain ⟨front, back, parts, -, replaced⟩ := @List.exists_of_set _ _ value _ inside
  refine ⟨front, _, back, parts, ?_, ?_, ?_⟩
  · rw [whole, body, List.set_cons_succ, List.set_append_left _ _ inside, replaced]
  · intro marker
    exact data (found.trans (congrArg some marker))
  · intro same
    exact different (found.trans (congrArg some same))

end Frame

namespace Reception

variable {dropOn : Status} {reception : Reception} {line : List (UInt8 × Status)} {payload : Bytes}

/-- What is left of a misread frame behind its opening delimiter costs the packet in progress only. -/
theorem receiveLine_misread (ready : reception.Ready) {front back : Bytes} {old value : UInt8}
    (stuffed : stuffAll (Checksum.sealed payload) = front ++ old :: back) (data : old ≠ escape)
    (different : old ≠ value) (plain : value ≠ start ∧ value ≠ reset ∧ value ≠ escape)
    (brings : Brings dropOn line (front ++ value :: back ++ [start])) :
    reception.receiveLine geometry dropOn line =
      { queue := { reception.queue with tentative := [] }, started := true } := by
  obtain ⟨stretch, status, rfl, bytes, clean, closes⟩ := brings.closing
  have harmless : ∀ arrival ∈ stretch, arrival.1 ≠ start ∧ arrival.1 ≠ reset := by
    intro arrival found
    have among : arrival.1 ∈ front ++ value :: back := bytes ▸ List.mem_map_of_mem found
    have others := plain_stuffAll (Checksum.sealed payload)
    rw [stuffed] at others
    rcases List.mem_append.mp among with before | behind
    · exact others _ (List.mem_append_left _ before)
    rcases List.mem_cons.mp behind with here | later
    · rw [here]
      exact ⟨plain.1, plain.2.1⟩
    · exact others _ (List.mem_append_right _ (List.mem_cons_of_mem _ later))
  have nothing : PacketQueue.closing geometry
      { reception.queue with tentative := decode false (front ++ value :: back) } = none := by
    have unsealed := unseal?_of_misread stuffed data plain.2.2 different
    rw [PacketQueue.closing, unsealed, ite_self]
  rw [receiveLine_segment ready clean harmless closes, bytes, nothing, Option.toList_none, ite_self,
    List.append_nil]

end Reception

namespace Inbound

variable {inbound : Inbound geometry} {reception : Reception}

/-- A packet that is dropped leaves the ring as it looked before. -/
theorem Sound.dropped (sound : Sound inbound reception) {line : List (UInt8 × Status)}
    (drops : reception.receiveLine geometry inbound.dropOn line =
      { queue := { reception.queue with tentative := [] }, started := true }) :
    (inbound.receiveLine line).ring.answer snapshot = inbound.ring.answer snapshot ∧
      (inbound.receiveLine line).ring.contents = inbound.ring.contents ∧
      Sound (inbound.receiveLine line)
        { queue := { reception.queue with tentative := [] }, started := true } := by
  have received := sound.receiveLine line
  rw [drops] at received
  have represented : Represents _ { reception.queue with tentative := [] } := received.represents
  refine ⟨sound.represents.snapshot_eq represented (tail_receiveLine sound line), ?_, received⟩
  rw [represented.contents_eq, sound.represents.contents_eq]
  rfl

/-- An opening delimiter brings a receiver in step with the line, whatever it was doing. -/
theorem sound_opened (dropOn : Status) (waker : Waker) (events : List Event) {status : Status}
    (clean : status.intersects dropOn = false) :
    let ring := { PacketRing.fresh geometry with taken := true }
    let receiver := ((Log.mk [] { attach ring dropOn with waker }).run events).inbound
    let opened := receiver.receive Stuffing.start status
    opened.dropOn = dropOn ∧ ∃ reception, Sound opened reception ∧ reception.Ready := by
  intro ring receiver opened
  obtain ⟨reception, truthful⟩ := Log.truthful_run (Log.truthful_fresh geometry dropOn waker) events
  have received := truthful.sound.receive Stuffing.start status
  rw [truthful.dropOn, Reception.receive_start clean] at received
  exact ⟨(receive_dropOn _ _ _).trans truthful.dropOn, _, received, rfl, rfl, rfl⟩

/-- Two strings of one length that are apart at two neighbouring bytes at most have not both a clear register.
So a frame of which one byte was misread leaves no packet, whatever the receiver was doing before it, and
the receiver takes the next frame. -/
theorem corruption_discarded :
    (∀ (data damaged : Bytes) (place : Nat), Checksum.fold Checksum.initial data = 0 →
      Checksum.AgreeOutside place damaged data → damaged ≠ data →
        Checksum.fold Checksum.initial damaged ≠ 0) ∧
    ∀ (geometry : Geometry) (dropOn : Status) (waker : Waker) (events : List Event)
      (payload frame : Bytes) (place : Nat) (value : UInt8) (line : List (UInt8 × Status)),
      Frame.Encodes payload frame → Frame.Misreads frame place value →
      Brings dropOn line (frame.set place value) →
      ∃ ring, (PacketRing.fresh geometry).split = .ok ring ∧
        let receiver := ((Log.mk [] { attach ring dropOn with waker }).run events).inbound
        let opened := receiver.receiveLine (line.take 1)
        let closed := receiver.receiveLine line
        opened.Ready ∧ closed.ring.answer snapshot = opened.ring.answer snapshot ∧
        closed.ring.contents = opened.ring.contents ∧ closed.Ready ∧
        ∀ following next later, Frame.Encodes following next →
          Brings dropOn later next ∨ Brings dropOn later next.tail →
            closed.Takes following (closed.receiveLine later) := by
  constructor
  · intro data damaged place clear outside different damagedClear
    exact different (outside.eq_of_fold_eq (damagedClear.trans clear.symm))
  intro geometry dropOn waker events payload frame place value line encodes misreads brings
  refine ⟨_, rfl, ?_⟩
  intro receiver opened closed
  obtain rfl := encodes.eq_whole
  obtain ⟨front, old, back, stuffed, damaged, data, different⟩ := misreads.between
  rw [damaged] at brings
  obtain ⟨status, rest, rfl, clean, behind⟩ := brings.opening
  obtain ⟨told, reception, sound, ready⟩ : opened.dropOn = dropOn ∧
    ∃ reception, Sound opened reception ∧ reception.Ready := sound_opened dropOn waker events clean
  have misread : reception.receiveLine geometry opened.dropOn rest = _ :=
    Reception.receiveLine_misread ready stuffed data different misreads.plain (told.symm ▸ behind)
  obtain ⟨look, contents, received⟩ := sound.dropped misread
  refine ⟨sound.ready ready, look, contents, received.ready ⟨rfl, rfl, rfl⟩, ?_⟩
  intro following next later encodes brings
  obtain rfl := encodes.eq_whole
  apply received.takes_frame ⟨rfl, rfl, rfl⟩
  rw [receiveLine_dropOn, told]
  exact brings

/-- Two bytes of a sealed string are overwritten; and a masked byte of a frame is misread, after which the next
frame comes through. -/
theorem corruption_discarded_of_masked :
    let payload : Bytes := [17, Stuffing.start]
    let frame := Frame.encoding payload
    let line := (frame.set 3 18).map fun byte => (byte, Status.parity)
    let noise : List Event := [.line Stuffing.start .ok, .line 66 .ok, .line Stuffing.escape .ok]
    Checksum.fold Checksum.initial (((Checksum.sealed payload).set 1 0).set 2 0) ≠ 0 ∧
    Frame.Encodes payload frame ∧ Frame.Misreads frame 3 18 ∧ Brings .framing line (frame.set 3 18) ∧
      ∃ ring, (PacketRing.fresh .standard).split = .ok ring ∧
        let receiver := ((Log.mk [] { attach ring .framing with waker := {} }).run noise).inbound
        (receiver.receiveLine line).ring.answer snapshot = ⟨0, 0, 0, 0⟩ ∧
          (receiver.receiveLine line).Takes payload
            ((receiver.receiveLine line).receiveLine (frame.map fun byte => (byte, Status.ok))) := by
  intro payload frame line noise
  have encodes : Frame.Encodes payload frame := Frame.encodes_encoding payload
  have misreads : Frame.Misreads frame 3 18 :=
    ⟨by decide, by decide +kernel, by decide +kernel, by decide +kernel, by decide⟩
  have brings : Brings .framing line (frame.set 3 18) := ⟨by decide +kernel, by decide +kernel⟩
  obtain ⟨ring, handed, -, look, -, -, next⟩ := corruption_discarded.2 .standard .framing {} noise
    payload frame 3 18 line encodes misreads brings
  obtain rfl := Except.ok.inj handed
  have neighbours : Checksum.AgreeOutside 1 (((Checksum.sealed payload).set 1 0).set 2 0)
      (Checksum.sealed payload) := by
    refine ⟨by rw [List.length_set, List.length_set], fun index first second => ?_⟩
    rw [List.getElem?_set_ne second.symm, List.getElem?_set_ne first.symm]
  refine ⟨corruption_discarded.1 _ _ 1 (Checksum.fold_sealed payload) neighbours (by decide +kernel),
    encodes, misreads, brings, _, rfl, look.trans (by decide +kernel), ?_⟩
  exact next payload frame _ encodes (.inl ⟨by decide +kernel, by decide +kernel⟩)

end Inbound

end FramedLine
