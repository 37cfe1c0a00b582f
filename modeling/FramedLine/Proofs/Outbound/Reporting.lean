import FramedLine.Proofs.Outbound.Admission

/-!
What the answer to a diagnostic report tells of the ring. A failure tells that the ring could never hold a
report, which is decided by its bytes alone. A ring of two marks has no slot for a packet either, and all
the same each report is refused there as if there were only no room at the moment.
-/

namespace FramedLine

open PacketRing

theorem Diagnostic.toBytes_ne_nil (report : Diagnostic) : report.toBytes ≠ [] :=
  List.cons_ne_nil _ _

namespace Outbound

variable {geometry : Geometry} {outbound : Outbound geometry} {transmission : Transmission}

/-- Some sender over a ring of the given sizes queues a packet with this payload. -/
def Queueable (geometry : Geometry) (payload : Bytes) : Prop :=
  ∃ (outbound : Outbound geometry) (call : Call), outbound.Reachable ∧
    (call.perform outbound).1 = true ∧
    (call.perform outbound).2.ring.contents = outbound.ring.contents ++ [Checksum.sealed payload]

/-- A step of whoever has the reading end of the ring: the driver of the line takes a byte, or the ring is
read otherwise. -/
inductive Consumption where
  | nextByte
  | read (operation : Reading)
  deriving DecidableEq

def Consumption.perform (outbound : Outbound geometry) : Consumption → Outbound geometry
  | nextByte => outbound.nextByte.2
  | read operation => { outbound with ring := outbound.ring.after operation.program }

def consume (outbound : Outbound geometry) (steps : List Consumption) : Outbound geometry :=
  steps.foldl Consumption.perform outbound

theorem Reachable.consume (reachable : outbound.Reachable) (steps : List Consumption) :
    (outbound.consume steps).Reachable := by
  induction steps generalizing outbound with
  | nil => exact reachable
  | cons step later inductionHypothesis =>
    apply inductionHypothesis
    cases step with
    | nextByte => exact reachable.nextByte
    | read operation => exact reachable.read operation

section Empty

theorem Sound.contents_of_waiting (sound : Sound outbound transmission) (none : outbound.waiting = 0) :
    outbound.ring.contents = [] := by
  rw [sound.waiting_eq, List.length_eq_zero_iff] at none
  rw [sound.represents.contents_eq, PacketQueue.unread_eq_nil, none]

/-- Where no packet waits, a payload is refused only if it could never be queued. -/
theorem Sound.send_of_empty (sound : Sound outbound transmission) (none : outbound.waiting = 0)
    {data : Bytes} (filled : data ≠ []) :
    (outbound.send data).1 = true ↔
      data.length + Checksum.width ≤ geometry.bytes.slots - 1 ∧ 2 < geometry.marks.slots := by
  rw [sound.send_eq_true_iff, sound.contents_of_waiting none, none, Nat.sub_pos_iff_lt]
  exact and_iff_right filled

theorem Sound.waiting_release (sound : Sound outbound transmission) :
    (Consumption.perform outbound (.read .release)).waiting = outbound.waiting - 1 := by
  have represents := (refines_read .release).after_represents sound.represents
  have behind := sound.read .release represents outbound.armed outbound.opened
  rw [sound.waiting_eq]
  exact behind.waiting_eq.trans List.length_tail

/-- A reader can release every packet that waits. -/
theorem Reachable.waiting_releases (reachable : outbound.Reachable) :
    (outbound.consume (List.replicate outbound.waiting (.read .release))).waiting = 0 := by
  generalize waits : outbound.waiting = count
  induction count generalizing outbound with
  | zero => exact waits
  | succ count inductionHypothesis =>
    obtain ⟨transmission, sound⟩ := reachable.sound
    have released := sound.waiting_release
    rw [waits, Nat.add_sub_cancel] at released
    exact inductionHypothesis (reachable.read .release) released

end Empty

/-- A packet fits if there is room for it, its checksum and its mark in a ring without others. -/
theorem queueable_iff {payload : Bytes} (filled : payload ≠ []) :
    Queueable geometry payload ↔
      payload.length + Checksum.width ≤ geometry.bytes.slots - 1 ∧ 2 < geometry.marks.slots := by
  constructor
  · -- What bounds the ring after the call bounds the packet that it then holds.
    rintro ⟨outbound, call, reachable, -, contents⟩
    obtain ⟨transmission, sound⟩ := (reachable.call call).sound
    obtain ⟨marks, bytes⟩ := sound.represents.bounds
    rw [sound.represents.contents_eq] at contents
    have packets := congrArg List.length contents
    have longer := congrArg (List.length ∘ List.flatten) contents
    simp only [PacketQueue.length_unread, List.length_append, List.length_singleton] at packets
    simp only [Function.comp_apply, List.flatten_append, List.length_append, List.flatten_singleton,
      Checksum.length_sealed] at longer
    omega
  · intro fits
    have reachable : (attach { PacketRing.fresh geometry with taken := true }).Reachable := .attach rfl
    have sound := sound_attach geometry true
    have accepted := (sound.send_of_empty sound.waiting_eq filled).mpr fits
    have drafts : Transmission.Drafts { queue := .empty } [] := fun _ => rfl
    exact ⟨_, .send payload, reachable, accepted, (sound.queued drafts (.send payload) accepted).1⟩

/-- A payload that is refused costs an open packet and nothing else. -/
theorem Sound.send_refused (sound : Sound outbound transmission) {data : Bytes}
    (refused : (outbound.send data).1 = false) :
    (outbound.send data).2 = if outbound.building then outbound.abandon else outbound := by
  have idle := sound.makeWay
  simp only [Outbound.send] at refused ⊢
  generalize (if outbound.building then outbound.abandon else outbound) = start at idle refused ⊢
  split
  next => rfl
  next filled =>
    split
    next => rfl
    next admitted =>
      rw [if_neg filled, if_neg admitted] at refused
      rw [(observes_freeBytes geometry).answer_eq idle.represents,
        (observes_canCommit geometry).answer_eq idle.represents] at admitted
      obtain ⟨enough, slot⟩ := not_or.mp admitted
      have queued := idle.queue_eq rfl (Nat.not_lt.mp enough) (by simpa using slot)
      cases refused.symm.trans queued.1

section Reports

variable {report : Diagnostic}

theorem sendDiagnostic_short (short : geometry.bytes.slots - 1 < Diagnostic.size + Checksum.width) :
    outbound.sendDiagnostic report = (.error .packetTooLong, outbound) :=
  if_pos short

theorem sendDiagnostic_fits (fits : Diagnostic.size + Checksum.width ≤ geometry.bytes.slots - 1) :
    outbound.sendDiagnostic report =
      (.ok (outbound.send report.toBytes).1, (outbound.send report.toBytes).2) :=
  if_neg (Nat.not_lt.mpr fits)

theorem sendDiagnostic_error_iff {failure : Failure} :
    (outbound.sendDiagnostic report).1 = .error failure ↔
      geometry.bytes.slots - 1 < Diagnostic.size + Checksum.width ∧ failure = .packetTooLong := by
  rcases Nat.lt_or_ge (geometry.bytes.slots - 1) (Diagnostic.size + Checksum.width) with short | fits
  · rw [sendDiagnostic_short short, Except.error.injEq, eq_comm]
    exact (and_iff_right short).symm
  · rw [sendDiagnostic_fits fits]
    constructor
    · intro failed
      cases failed
    · rintro ⟨short, -⟩
      exact absurd fits (Nat.not_le.mpr short)

theorem fits_of_sendDiagnostic_ok {accepted : Bool}
    (answered : (outbound.sendDiagnostic report).1 = .ok accepted) :
    Diagnostic.size + Checksum.width ≤ geometry.bytes.slots - 1 := by
  apply Nat.not_lt.mp
  intro short
  rw [sendDiagnostic_short short] at answered
  cases answered

theorem queueable_report_iff :
    Queueable geometry report.toBytes ↔
      Diagnostic.size + Checksum.width ≤ geometry.bytes.slots - 1 ∧ 2 < geometry.marks.slots := by
  rw [queueable_iff report.toBytes_ne_nil, report.length_toBytes]

/-- Two marks leave no slot for a packet, whatever room there is for its bytes. -/
theorem Sound.sendDiagnostic_slotless (sound : Sound outbound transmission)
    (slotless : geometry.marks.slots = 2)
    (fits : Diagnostic.size + Checksum.width ≤ geometry.bytes.slots - 1) :
    (outbound.sendDiagnostic report).1 = .ok false := by
  rw [sendDiagnostic_fits fits]
  apply congrArg Except.ok
  apply Bool.eq_false_iff.mpr
  intro accepted
  obtain ⟨-, -, slot⟩ := (sound.send_eq_true_iff report.toBytes).mp accepted
  rw [slotless] at slot
  exact absurd slot (Nat.not_lt_zero _)

theorem Sound.sendDiagnostic_refused (sound : Sound outbound transmission)
    (refused : (outbound.sendDiagnostic report).1 = .ok false) :
    (outbound.sendDiagnostic report).2 = if outbound.building then outbound.abandon else outbound := by
  have fits := fits_of_sendDiagnostic_ok refused
  rw [sendDiagnostic_fits fits] at refused ⊢
  exact sound.send_refused (Except.ok.inj refused)

theorem Sound.sendDiagnostic_of_empty (sound : Sound outbound transmission)
    (empty : outbound.waiting = 0) (slot : 2 < geometry.marks.slots)
    (fits : Diagnostic.size + Checksum.width ≤ geometry.bytes.slots - 1) :
    (outbound.sendDiagnostic report).1 = .ok true := by
  rw [sendDiagnostic_fits fits]
  apply congrArg Except.ok
  rw [sound.send_of_empty empty report.toBytes_ne_nil, report.length_toBytes]
  exact ⟨fits, slot⟩

end Reports

/-- What a sender answers to a report, and what is then left. -/
structure Reports (outbound : Outbound geometry) (report : Diagnostic) : Prop where
  queueable : Queueable geometry report.toBytes ↔
    Diagnostic.size + Checksum.width ≤ geometry.bytes.slots - 1 ∧ 2 < geometry.marks.slots
  fails : (outbound.sendDiagnostic report).1 = .error .packetTooLong ↔
    geometry.bytes.slots - 1 < Diagnostic.size + Checksum.width
  /-- Where the marks leave a slot for a packet, a failure tells that no report could ever be queued. -/
  never : 2 < geometry.marks.slots →
    ((outbound.sendDiagnostic report).1 = .error .packetTooLong ↔ ¬Queueable geometry report.toBytes)
  /-- Where they leave none, a report is refused for the moment, and at every other moment as well. -/
  slotless : geometry.marks.slots = 2 →
    Diagnostic.size + Checksum.width ≤ geometry.bytes.slots - 1 →
    (outbound.sendDiagnostic report).1 = .ok false ∧ ¬Queueable geometry report.toBytes
  failed : ∀ failure, (outbound.sendDiagnostic report).1 = .error failure →
    failure = .packetTooLong ∧ (outbound.sendDiagnostic report).2 = outbound
  refused : (outbound.sendDiagnostic report).1 = .ok false → (outbound.sendDiagnostic report).2 =
    if outbound.building then outbound.abandon else outbound
  /-- A report that is refused for the moment is queued once no packet waits, however it came to that. -/
  retried : 2 < geometry.marks.slots → (outbound.sendDiagnostic report).1 = .ok false →
    ∀ steps, ((outbound.sendDiagnostic report).2.consume steps).waiting = 0 →
      (((outbound.sendDiagnostic report).2.consume steps).sendDiagnostic report).1 = .ok true
  released : ((outbound.sendDiagnostic report).2.consume
    (List.replicate (outbound.sendDiagnostic report).2.waiting (.read .release))).waiting = 0

theorem Reachable.reports (reachable : outbound.Reachable) (report : Diagnostic) :
    outbound.Reports report := by
  obtain ⟨transmission, sound⟩ := reachable.sound
  have behind : (outbound.sendDiagnostic report).2.Reachable := reachable.call (.sendDiagnostic report)
  constructor
  case queueable => exact queueable_report_iff
  case fails => rw [sendDiagnostic_error_iff, and_iff_left rfl]
  case never =>
    intro slot
    rw [sendDiagnostic_error_iff, and_iff_left rfl, queueable_report_iff, and_iff_left slot, Nat.not_le]
  case slotless =>
    intro slotless fits
    refine ⟨sound.sendDiagnostic_slotless slotless fits, ?_⟩
    rw [queueable_report_iff, slotless]
    exact fun queueable => absurd queueable.2 (Nat.lt_irrefl 2)
  case failed =>
    intro failure failed
    exact ⟨(sendDiagnostic_error_iff.mp failed).2, sendDiagnostic_error failed⟩
  case refused => exact sound.sendDiagnostic_refused
  case retried =>
    intro slot refused steps empty
    obtain ⟨later, sound⟩ := (behind.consume steps).sound
    exact sound.sendDiagnostic_of_empty empty slot (fits_of_sendDiagnostic_ok refused)
  case released => exact behind.waiting_releases

/-- Two reports leave too little room for a third one, which costs a packet that is open. -/
theorem reports_of_full :
    let outbound := attach { PacketRing.fresh .standard with taken := true }
    let report := Diagnostic.ofSource 3 300 "src/motor.rs"
    let call := Call.sendDiagnostic report
    let full := (Call.beginPacket.perform (call.perform (call.perform outbound).2).2).2
    full.building = true ∧ full.waiting = 2 ∧ (full.sendDiagnostic report).1 = .ok false ∧
      full.Reports report := by
  intro outbound report call full
  have reachable : outbound.Reachable := .attach rfl
  refine ⟨by decide +kernel, by decide +kernel, ?_, ?_⟩
  · rw [sendDiagnostic_fits (by decide)]
    exact congrArg Except.ok (by decide +kernel)
  · exact Reachable.reports (((reachable.call call).call call).call .beginPacket) report

/-- Nothing waits in a ring of sixteen bytes and two marks, nothing can ever wait there, and still a report
is refused as if there were room for it later. -/
theorem refused_for_ever :
    let geometry : Geometry := ⟨⟨4, by decide, by decide⟩, ⟨1, by decide, by decide⟩⟩
    let outbound : Outbound geometry := attach { PacketRing.fresh geometry with taken := true }
    let report := Diagnostic.ofSource 3 300 "src/motor.rs"
    outbound.Reachable ∧ outbound.waiting = 0 ∧ (outbound.sendDiagnostic report).1 = .ok false ∧
      ¬Queueable geometry report.toBytes := by
  intro geometry outbound report
  refine ⟨.attach rfl, by decide +kernel, ?_, ?_⟩
  · rw [sendDiagnostic_fits (by decide)]
    exact congrArg Except.ok (by decide +kernel)
  · rw [queueable_report_iff]
    decide

end Outbound

end FramedLine
