import FramedLine.Proofs.Frame
import FramedLine.Proofs.Inbound.Grammar
import FramedLine.Proofs.PacketRing.Snapshot

/-!
A whole frame on its way to a receiver. Its opening delimiter brings the receiver in step with the line,
whatever it was doing, and then the frame either appends its payload or leaves nothing behind.
-/

namespace FramedLine

open PacketRing Stuffing

variable {geometry : Geometry}

namespace Frame

/-- The encoder puts the frame of a payload to some buffer that is long enough for it. -/
def Encodes (payload frame : Bytes) : Prop :=
  ∃ buffer length contents, encodeInto payload buffer = (.ok length, contents) ∧
    frame = contents.take length

theorem Encodes.eq_whole {payload frame : Bytes} (encodes : Encodes payload frame) :
    frame = whole payload := by
  obtain ⟨buffer, length, contents, encoded, rfl⟩ := encodes
  rw [encodeInto_eq] at encoded
  by_cases fits : (whole payload).length ≤ buffer.length
  · rw [if_pos fits, Prod.mk.injEq] at encoded
    obtain ⟨told, rfl⟩ := encoded
    obtain rfl := Except.ok.inj told
    rw [List.take_of_length_le fits, List.take_left]
  · rw [if_neg fits, Prod.mk.injEq] at encoded
    cases encoded.1

/-- Every payload has a frame. -/
theorem encodes_encoding (payload : Bytes) : Encodes payload (encoding payload) := by
  have fits := encoding_eq payload
  refine ⟨whole payload, (whole payload).length, whole payload, ?_, ?_⟩
  · rw [encodeInto_eq, if_pos (Nat.le_refl _), List.take_length, List.drop_length, List.append_nil]
  · rw [fits, List.take_length]

end Frame

/-- These bytes came from the line, none of them with a line error that counts. -/
structure Brings (dropOn : Status) (line : List (UInt8 × Status)) (bytes : Bytes) : Prop where
  bytes : line.map Prod.fst = bytes
  clean : ∀ arrival ∈ line, arrival.2.intersects dropOn = false

/-- What begins with a delimiter is that delimiter and what is left behind it. -/
theorem Brings.opening {dropOn : Status} {line : List (UInt8 × Status)} {bytes : Bytes}
    (brings : Brings dropOn line (Stuffing.start :: bytes)) :
    ∃ status rest, line = (Stuffing.start, status) :: rest ∧ status.intersects dropOn = false ∧
      Brings dropOn rest bytes := by
  obtain ⟨brought, clean⟩ := brings
  obtain ⟨⟨first, status⟩, rest, rfl, opens, body⟩ := List.map_eq_cons_iff.mp brought
  obtain rfl : first = Stuffing.start := opens
  rw [List.forall_mem_cons] at clean
  exact ⟨status, rest, rfl, clean.1, body, clean.2⟩

/-- What ends in a delimiter is a stretch and that delimiter. -/
theorem Brings.closing {dropOn : Status} {line : List (UInt8 × Status)} {bytes : Bytes}
    (brings : Brings dropOn line (bytes ++ [Stuffing.start])) :
    ∃ stretch status, line = stretch ++ [(Stuffing.start, status)] ∧ stretch.map Prod.fst = bytes ∧
      (∀ arrival ∈ stretch, arrival.2.intersects dropOn = false) ∧
        status.intersects dropOn = false := by
  obtain ⟨brought, clean⟩ := brings
  obtain ⟨stretch, last, rfl, before, closes⟩ := List.map_eq_append_iff.mp brought
  obtain ⟨⟨byte, status⟩, rfl, delimiter⟩ := List.map_eq_singleton_iff.mp closes
  obtain rfl : byte = Stuffing.start := delimiter
  rw [List.forall_mem_append, List.forall_mem_singleton] at clean
  exact ⟨stretch, status, rfl, before, clean⟩

namespace Reception

/-- Takes bytes from the line, one after the other. -/
def receiveLine (geometry : Geometry) (dropOn : Status) (reception : Reception)
    (line : List (UInt8 × Status)) : Reception :=
  line.foldl (fun before arrival => before.receive geometry dropOn arrival.1 arrival.2) reception

section Stretch

variable {dropOn : Status} {reception : Reception} {line : List (UInt8 × Status)}
  (clean : ∀ arrival ∈ line, arrival.2.intersects dropOn = false)
  (plain : ∀ arrival ∈ line, arrival.1 ≠ Stuffing.start ∧ arrival.1 ≠ Stuffing.reset)
include clean plain

/-- Between packets a stretch without a delimiter is noise. -/
theorem receiveLine_noise (idle : reception.started = false) :
    reception.receiveLine geometry dropOn line = reception := by
  induction line with
  | nil => rfl
  | cons arrival later inductionHypothesis =>
    rw [List.forall_mem_cons] at clean plain
    rw [receiveLine, List.foldl_cons, receive_noise clean.1 plain.1.1 idle]
    exact inductionHypothesis clean.2 plain.2

/-- A stretch without a delimiter or an abort adds what it decodes to, if there is room for all of it, and
otherwise costs the packet. -/
theorem receiveLine_stretch (active : reception.started = true) :
    reception.receiveLine geometry dropOn line =
      if (decode reception.escaped (line.map Prod.fst)).length ≤ reception.queue.freeBytes geometry then
        { reception with
          queue := { reception.queue with
            tentative := reception.queue.tentative ++
              decode reception.escaped (line.map Prod.fst) }
          escaped := dangling reception.escaped (line.map Prod.fst) }
      else reception.drop := by
  induction line generalizing reception with
  | nil => simp [receiveLine, decode, dangling]
  | cons arrival later inductionHypothesis =>
    rw [List.forall_mem_cons] at clean plain
    have joins := fun between : Reception => @inductionHypothesis between clean.2 plain.2
    rw [receiveLine, List.foldl_cons, receive_active clean.1 plain.1.1 active, if_neg plain.1.2,
      List.map_cons, decode, dangling]
    change receiveLine geometry dropOn _ later = _
    by_cases marker : arrival.1 = Stuffing.escape
    · rw [if_pos marker, if_pos marker, joins, beq_iff_eq.mpr marker]
      · rfl
      · exact active
    rw [if_neg marker, if_neg marker, store_eq, beq_false_of_ne marker]
    by_cases room : 0 < reception.queue.freeBytes geometry
    · rw [if_pos room, joins]
      · rw [PacketQueue.freeBytes_append]
        simp only [List.length_cons, List.length_nil, List.append_assoc, List.singleton_append,
          Nat.le_sub_one_iff_lt room, Nat.lt_iff_add_one_le]
        rfl
      · exact active
    · rw [if_neg room, if_neg (by rw [List.length_cons]; omega)]
      exact receiveLine_noise clean.2 plain.2 rfl

end Stretch

/-- A receiver that has seen an opening delimiter and nothing behind it. -/
structure Ready (reception : Reception) : Prop where
  started : reception.started = true
  escaped : reception.escaped = false
  empty : reception.queue.tentative = []

variable {dropOn : Status} {reception : Reception} {line : List (UInt8 × Status)} {payload : Bytes}

/-- A sealed payload is appended by the delimiter behind it. -/
theorem closing_sealed (queue : PacketQueue) (payload : Bytes) :
    PacketQueue.closing geometry { queue with tentative := Checksum.sealed payload } =
      if payload ≠ [] ∧ queue.canCommit geometry = true then some payload else none := by
  have slot : PacketQueue.canCommit geometry { queue with tentative := Checksum.sealed payload } =
    queue.canCommit geometry := rfl
  unfold PacketQueue.closing
  rw [slot]
  by_cases filled : payload = []
  · have short : Checksum.unseal? (Checksum.sealed payload) = none :=
      Checksum.unseal?_of_short _ (by rw [filled]; exact Nat.le_refl _)
    rw [if_neg (not_and.mpr fun other => absurd filled other), short, ite_self]
  · simp only [Checksum.unseal?_sealed payload filled, ne_eq, filled, not_false_eq_true, true_and]

/-- A stretch between two delimiters appends the packet that it seals, if there is room for all of it. -/
theorem receiveLine_segment (ready : reception.Ready) {status : Status}
    (clean : ∀ arrival ∈ line, arrival.2.intersects dropOn = false)
    (plain : ∀ arrival ∈ line, arrival.1 ≠ Stuffing.start ∧ arrival.1 ≠ Stuffing.reset)
    (closes : status.intersects dropOn = false) :
    reception.receiveLine geometry dropOn (line ++ [(Stuffing.start, status)]) =
      { queue := { reception.queue with
          packets := reception.queue.packets ++
            if (decode false (line.map Prod.fst)).length ≤ reception.queue.freeBytes geometry then
              (PacketQueue.closing geometry
                { reception.queue with tentative := decode false (line.map Prod.fst) }).toList
            else []
          tentative := [] },
        started := true } := by
  have stretched : reception.receiveLine geometry dropOn line = _ :=
    receiveLine_stretch clean plain ready.started
  rw [ready.escaped, ready.empty, List.nil_append] at stretched
  rw [receiveLine, List.foldl_append]
  change receive geometry dropOn (reception.receiveLine geometry dropOn line) Stuffing.start status = _
  rw [receive_start closes, stretched]
  by_cases room : (decode false (line.map Prod.fst)).length ≤ reception.queue.freeBytes geometry
  · rw [if_pos room, if_pos room]
    rfl
  · have nothing : reception.drop.queue.closing geometry = none := by
      have short := Checksum.unseal?_of_short reception.drop.queue.tentative (Nat.zero_le _)
      rw [PacketQueue.closing, short, ite_self]
    rw [if_neg room, if_neg room, PacketQueue.close, nothing]
    rfl

/-- What is left of a frame behind its opening delimiter appends its payload or nothing. -/
theorem receiveLine_body (ready : reception.Ready)
    (brings : Brings dropOn line (Frame.body payload)) :
    reception.receiveLine geometry dropOn line =
      { queue := { reception.queue with
          packets := reception.queue.packets ++
            if payload ≠ [] ∧ payload.length + Checksum.width ≤ reception.queue.freeBytes geometry ∧
              reception.queue.canCommit geometry = true then [payload] else []
          tentative := [] },
        started := true } := by
  obtain ⟨stretch, status, rfl, stuffed, clean, closes⟩ := brings.closing
  have plain : ∀ arrival ∈ stretch, arrival.1 ≠ Stuffing.start ∧ arrival.1 ≠ Stuffing.reset := by
    intro arrival found
    apply plain_stuffAll (Checksum.sealed payload)
    rw [← stuffed]
    exact List.mem_map_of_mem found
  rw [receiveLine_segment ready clean plain closes, stuffed, decode_stuffAll, Checksum.length_sealed,
    closing_sealed]
  by_cases room : payload.length + Checksum.width ≤ reception.queue.freeBytes geometry
  · rw [if_pos room]
    by_cases appends : payload ≠ [] ∧ reception.queue.canCommit geometry = true
    · rw [if_pos appends, if_pos ⟨appends.1, room, appends.2⟩, Option.toList_some]
    · rw [if_neg appends, if_neg fun fits => appends ⟨fits.1, fits.2.2⟩, Option.toList_none]
  · rw [if_neg room, if_neg fun fits => room fits.2.1]

end Reception

namespace Inbound

/-- Takes bytes from the line, one after the other. -/
def receiveLine (inbound : Inbound geometry) (line : List (UInt8 × Status)) : Inbound geometry :=
  line.foldl (fun before arrival => before.receive arrival.1 arrival.2) inbound

variable {inbound : Inbound geometry} {reception : Reception}

theorem Sound.receiveLine (sound : Sound inbound reception) (line : List (UInt8 × Status)) :
    Sound (inbound.receiveLine line) (reception.receiveLine geometry inbound.dropOn line) := by
  induction line generalizing inbound reception with
  | nil => exact sound
  | cons arrival later inductionHypothesis =>
    have next := inductionHypothesis (sound.receive arrival.1 arrival.2)
    rw [receive_dropOn] at next
    exact next

theorem receiveLine_dropOn (inbound : Inbound geometry) (line : List (UInt8 × Status)) :
    (inbound.receiveLine line).dropOn = inbound.dropOn := by
  induction line generalizing inbound with
  | nil => rfl
  | cons arrival later inductionHypothesis =>
    exact (inductionHypothesis _).trans (receive_dropOn inbound arrival.1 arrival.2)

section Writing

variable {property : PacketRing geometry → Prop}
  (keeps : ∀ (ring : PacketRing geometry) (operation : Writing), property ring →
    property (ring.after operation.program)) (holds : property inbound.ring)
include keeps holds

theorem closePacket_keeps : property inbound.closePacket.ring := by
  have trims := keeps _ (.trim Checksum.width) holds
  have commits := fun ring => keeps ring .commit
  have discards := keeps _ .discard holds
  simp only [Writing.program, after_map] at trims commits discards
  simp only [closePacket]
  split
  · exact holds
  split
  · exact discards
  split
  · exact commits _ trims
  · exact trims

theorem store_keeps (byte : UInt8) : property (inbound.store byte).ring := by
  have pushes := keeps _ (.push byte) holds
  have discards := fun ring => keeps ring .discard
  simp only [Writing.program, after_map] at pushes discards
  simp only [Inbound.store]
  split
  · exact pushes
  · exact discards _ pushes

/-- A receiver changes its ring only as a writer. -/
theorem receive_keeps (byte : UInt8) (status : Status) :
    property (inbound.receive byte status).ring := by
  have discards := keeps _ .discard holds
  simp only [Writing.program, after_map] at discards
  simp only [receive]
  split
  · exact discards
  split
  · exact holds
  rcases inbound.decoder.feed byte with ⟨token, decoder⟩
  have fed : property { inbound with decoder }.ring := holds
  cases token with
  | start => exact closePacket_keeps keeps fed
  | reset => exact discards
  | pending => exact holds
  | data value => exact store_keeps keeps fed value

end Writing

theorem tail_receive (sound : Sound inbound reception) (byte : UInt8) (status : Status) :
    (inbound.receive byte status).ring.tail = inbound.ring.tail :=
  (receive_keeps (tail_keeps _) ⟨⟨_, sound.represents⟩, rfl⟩ byte status).2

theorem tail_receiveLine (sound : Sound inbound reception) (line : List (UInt8 × Status)) :
    (inbound.receiveLine line).ring.tail = inbound.ring.tail := by
  induction line generalizing inbound reception with
  | nil => rfl
  | cons arrival later inductionHypothesis =>
    exact (inductionHypothesis (sound.receive arrival.1 arrival.2)).trans (tail_receive sound _ _)

/-- A receiver that has seen an opening delimiter and nothing behind it. -/
structure Ready (inbound : Inbound geometry) : Prop where
  started : inbound.started = true
  decoder : inbound.decoder = {}
  empty : inbound.ring.answer Writer.tentativeLength = 0
  checksum : inbound.checksum = Checksum.initial

/-- Whether a receiver that is ready can append a payload. -/
def Fits (inbound : Inbound geometry) (payload : Bytes) : Prop :=
  payload ≠ [] ∧ payload.length + Checksum.width ≤ inbound.ring.answer Writer.freeBytes ∧
    inbound.ring.answer Writer.canCommit = true

/-- What a frame makes of a receiver that is ready for it: it appends the payload if it fits, and leaves the
packets as they are if not. The receiver is then ready for the next frame. -/
structure Takes (before : Inbound geometry) (payload : Bytes) (after : Inbound geometry) : Prop where
  fits : before.Fits payload → after.ring.contents = before.ring.contents ++ [payload]
  refuses : ¬before.Fits payload → after.ring.contents = before.ring.contents ∧
    after.ring.answer snapshot = before.ring.answer snapshot
  consumed : after.ring.consumed = before.ring.consumed
  ready : after.Ready

theorem Sound.ready (sound : Sound inbound reception) (ready : reception.Ready) : inbound.Ready where
  started := sound.started.trans ready.started
  decoder := by rw [sound.decoder, ready.escaped]
  empty := ((observes_tentativeLength geometry).answer_eq sound.represents).trans
    (congrArg List.length ready.empty)
  checksum := by rw [sound.checksum, ready.empty, Checksum.fold_nil]

theorem Sound.fits_iff (sound : Sound inbound reception) (payload : Bytes) :
    inbound.Fits payload ↔ payload ≠ [] ∧
      payload.length + Checksum.width ≤ reception.queue.freeBytes geometry ∧
      reception.queue.canCommit geometry = true := by
  rw [Fits, (observes_freeBytes geometry).answer_eq sound.represents,
    (observes_canCommit geometry).answer_eq sound.represents]

/-- An empty ring has room for all payloads but those that fill it together with their checksum. -/
theorem Sound.fits_of_empty (sound : Sound inbound reception) (ready : reception.Ready)
    {payload : Bytes} (empty : inbound.ring.contents = []) (slots : 2 < geometry.marks.slots)
    (filled : payload ≠ []) (short : payload.length + 3 ≤ geometry.bytes.slots) :
    inbound.Fits payload := by
  have nothing := sound.represents.contents_eq.symm.trans empty
  have none := reception.queue.length_unread
  have free : reception.queue.freeBytes geometry = geometry.bytes.slots - 1 := by
    rw [PacketQueue.freeBytes, nothing, ready.empty]
    rfl
  refine (sound.fits_iff payload).mpr ⟨filled, ?_, decide_eq_true ?_⟩
  · rw [free, Checksum.width]
    omega
  · rw [← none, nothing, List.length_nil]
    omega

/-- What is left of a frame behind its opening delimiter meets a receiver that is ready for it. -/
theorem Sound.takes (sound : Sound inbound reception) (ready : reception.Ready)
    {line : List (UInt8 × Status)} {payload : Bytes}
    (brings : Brings inbound.dropOn line (Frame.body payload)) :
    inbound.Takes payload (inbound.receiveLine line) := by
  have received := sound.receiveLine line
  rw [Reception.receiveLine_body ready brings] at received
  have told := sound.fits_iff payload
  have within := sound.represents.within
  refine ⟨?_, ?_, received.represents.consumed.trans sound.represents.consumed.symm,
    received.ready ⟨rfl, rfl, rfl⟩⟩
  · intro fits
    rw [if_pos (told.mp fits)] at received
    rw [received.represents.contents_eq, sound.represents.contents_eq]
    exact reception.queue.unread_append within [payload] []
  · intro refuses
    rw [if_neg (mt told.mpr refuses), List.append_nil] at received
    have represented : Represents _ { reception.queue with tentative := [] } := received.represents
    refine ⟨?_, sound.represents.snapshot_eq represented (tail_receiveLine sound line)⟩
    rw [represented.contents_eq, sound.represents.contents_eq]
    rfl

/-- Another delimiter makes no difference to a receiver that is ready. -/
theorem Ready.receive_start (ready : inbound.Ready) {status : Status}
    (clean : status.intersects inbound.dropOn = false) :
    inbound.receive Stuffing.start status = inbound := by
  obtain ⟨started, decoder, empty, checksum⟩ := ready
  have marked : inbound.decoder.feed Stuffing.start = (.start, {}) := by
    rw [decoder]
    exact Decoder.feed_start false
  have unspoiled : ¬status.intersects inbound.dropOn = true := by rw [clean]; exact Bool.false_ne_true
  rw [receive, if_neg unspoiled, if_neg fun noise => noise.1 rfl, marked]
  simp only [closePacket, empty, if_true]
  rw [← started, ← decoder, ← checksum]

/-- A receiver that is ready takes a frame with or without the opening delimiter. -/
theorem Sound.takes_frame (sound : Sound inbound reception) (ready : reception.Ready)
    {line : List (UInt8 × Status)} {payload : Bytes}
    (brings : Brings inbound.dropOn line (Frame.whole payload) ∨
      Brings inbound.dropOn line (Frame.body payload)) :
    inbound.Takes payload (inbound.receiveLine line) := by
  rcases brings with whole | body
  · obtain ⟨status, rest, rfl, clean, body⟩ := whole.opening
    rw [Inbound.receiveLine, List.foldl_cons, (sound.ready ready).receive_start clean]
    exact sound.takes ready body
  · exact sound.takes ready body

/-- Whatever a receiver was doing, a frame brings it in step with the line. -/
theorem round_trip (geometry : Geometry) (dropOn : Status) (waker : Waker) (events : List Event)
    {payload frame : Bytes} (encodes : Frame.Encodes payload frame) {line : List (UInt8 × Status)}
    (brings : Brings dropOn line frame) :
    ∃ ring, (PacketRing.fresh geometry).split = .ok ring ∧
      let receiver := ((Log.mk [] { attach ring dropOn with waker }).run events).inbound
      let opened := receiver.receiveLine (line.take 1)
      let closed := receiver.receiveLine line
      opened.Ready ∧ opened.Takes payload closed ∧
      (opened.ring.contents = [] → 2 < geometry.marks.slots → payload ≠ [] →
        payload.length + 3 ≤ geometry.bytes.slots → closed.ring.contents = [payload]) ∧
      ∀ following next later, Frame.Encodes following next →
        Brings dropOn later next ∨ Brings dropOn later next.tail →
          closed.Takes following (closed.receiveLine later) := by
  refine ⟨_, rfl, ?_⟩
  obtain ⟨reception, truthful⟩ := Log.truthful_run (Log.truthful_fresh geometry dropOn waker) events
  intro receiver opened closed
  obtain rfl := encodes.eq_whole
  obtain ⟨status, rest, rfl, clean, body⟩ := brings.opening
  have told : opened.dropOn = dropOn := (receive_dropOn _ _ _).trans truthful.dropOn
  have sound : Sound opened { queue := reception.queue.close geometry, started := true } := by
    have received := truthful.sound.receive Stuffing.start status
    rw [truthful.dropOn, Reception.receive_start clean] at received
    exact received
  have takes : opened.Takes payload closed := sound.takes ⟨rfl, rfl, rfl⟩ (told.symm ▸ body)
  refine ⟨sound.ready ⟨rfl, rfl, rfl⟩, takes, ?_, ?_⟩
  · intro empty slots filled short
    rw [takes.fits (sound.fits_of_empty ⟨rfl, rfl, rfl⟩ empty slots filled short), empty,
      List.nil_append]
  · intro following next later encodes brings
    obtain rfl := encodes.eq_whole
    rw [← (receiveLine_dropOn opened rest).trans told] at brings
    have behind := sound.receiveLine rest
    rw [Reception.receiveLine_body ⟨rfl, rfl, rfl⟩ (told.symm ▸ body)] at behind
    exact behind.takes_frame ⟨rfl, rfl, rfl⟩ brings

/-- A frame comes through after noise and an unfinished packet that ends in a marker. -/
theorem round_trip_after_noise :
    let payload : Bytes := [17, Stuffing.start]
    let frame := Frame.encoding payload
    let line := frame.map fun byte => (byte, Status.overrun)
    let noise : List Event := [.line 66 .ok, .line Stuffing.start .ok, .line 66 .ok,
      .line Stuffing.escape .ok]
    Frame.Encodes payload frame ∧ Brings .framing line frame ∧
      ∃ ring, (PacketRing.fresh .standard).split = .ok ring ∧
        let receiver := ((Log.mk [] { attach ring .framing with waker := {} }).run noise).inbound
        (receiver.receiveLine line).ring.contents = [payload] := by
  intro payload frame line noise
  have encodes : Frame.Encodes payload frame := Frame.encodes_encoding payload
  have brings : Brings .framing line frame := ⟨by decide +kernel, by decide +kernel⟩
  obtain ⟨ring, handed, -, -, through, -⟩ := round_trip .standard .framing {} noise encodes brings
  obtain rfl := Except.ok.inj handed
  exact ⟨encodes, brings, _, rfl,
    through (by decide +kernel) (by decide +kernel) (by decide) (by decide +kernel)⟩

end Inbound

end FramedLine
