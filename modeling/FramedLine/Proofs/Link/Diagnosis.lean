import FramedLine.Proofs.Diagnostic
import FramedLine.Proofs.Link.Tracing
import FramedLine.Proofs.Outbound.Reporting

/-!
A report on its way from one link to another. The far link may lose it, but what it commits under the number of
a report is read back as the report, however many of its bytes have a meaning of their own on the line.
-/

namespace FramedLine

open PacketRing
open Delivery (Event)

variable {source target : Geometry}

namespace Traced

variable {traced : Traced source target} {report : Diagnostic}

/-- A report that is accepted gets the next number, and keeps it. -/
theorem queued_of_accepted
    (accepted : (traced.delivery.sender.outbound.sendDiagnostic report).1 = .ok true)
    (later : List Event) :
    (traced.run (.call (.sendDiagnostic report) :: later)).delivery.sender.queued[
      traced.delivery.sender.queued.length]? = some report.toBytes := by
  have queued : (traced.delivery.sender.next (.call (.sendDiagnostic report))).queued =
      traced.delivery.sender.queued ++ [report.toBytes] := by
    simp only [Outbound.Record.next, Outbound.Call.perform, accepted]
    rfl
  have kept := (traced.delivery.next (.call (.sendDiagnostic report))).queued_run later
  rw [delivery_run]
  apply Reception.getElem?_longer kept
  change (traced.delivery.sender.next _).queued[_]? = _
  rw [queued]
  exact List.getElem?_concat_length

/-- Receives that come to a report yield ten bytes, which are read back as the report. -/
def YieldsReport (traced : Traced source target) (position : Nat) (report : Diagnostic) : Prop :=
  ∀ others destination, others.length = position - traced.released →
    Diagnostic.size ≤ destination.length →
    ∃ copied,
      (traced.delivery.receiver.takeEach (others ++ [destination])).1[others.length]? =
        some (.ok (some Diagnostic.size), copied) ∧
      Diagnostic.ofBytes? (copied.take Diagnostic.size) = some report

theorem Numbered.yieldsReport {transmission : Transmission} {reception : Reception} {position number : Nat}
    (numbered : traced.Numbered) (carries : traced.delivery.Carries transmission reception)
    (found : traced.numbers[position]? = some number)
    (queued : traced.delivery.sender.queued[number]? = some report.toBytes)
    (untouched : traced.Untouched position) : traced.YieldsReport position report := by
  intro others destination before fits
  rw [← report.length_toBytes] at fits ⊢
  refine ⟨_, numbered.receives carries found queued untouched before fits, ?_⟩
  rw [List.take_left]
  exact report.ofBytes?_toBytes

end Traced

namespace Diagnostic

/-- The bytes of a report are read back as the report, a string is read as a report if its length and kind are
right, and then it is the bytes of what was read. So a report that one link accepted and another one committed
is received as it was sent, whatever happened to either link and to the line before and after. -/
theorem codec_exact :
    (∀ number line path,
      let report := ofSource number line path
      report.toBytes.length = 10 ∧ ofBytes? report.toBytes = some report ∧
        report.Describes number line path) ∧
    (∀ payload,
      ((ofBytes? payload).isSome ↔ payload.length = 10 ∧ payload.head? = some kind) ∧
        ∀ report, ofBytes? payload = some report → report.toBytes = payload) ∧
    ∀ (source target : Geometry) (settings config : Config) (before later : List Event)
      (number : UInt8) (line : UInt16) (path : String),
      ∃ sender receiver,
        Link.opened source settings = .ok sender ∧
        Link.opened target config = .ok receiver ∧
        let report := ofSource number line path
        let waiting := (Traced.between sender receiver).run before
        let traced := waiting.run (.call (.sendDiagnostic report) :: later)
        (waiting.delivery.sender.outbound.sendDiagnostic report).1 = .ok true →
          ∀ position, traced.numbers[position]? = some waiting.delivery.sender.queued.length →
            traced.delivery.committed[position]? = some report.toBytes ∧
              (traced.Untouched position → traced.YieldsReport position report) := by
  refine ⟨?_, ?_, ?_⟩
  · intro number line path
    exact ⟨length_toBytes _, ofBytes?_toBytes _, describes_ofSource number line path⟩
  · intro payload
    exact ⟨isSome_ofBytes?_iff, fun report => toBytes_of_ofBytes?⟩
  · intro source target settings config before later number line path
    refine ⟨_, _, Link.opened_eq source settings, Link.opened_eq target config, ?_⟩
    have carries := Delivery.carries_opened (Link.opened_eq source settings)
      (Link.opened_eq target config)
    intro report waiting traced accepted position found
    obtain ⟨numbered, _, _, carries⟩ := (Traced.numbered_between _ _).run carries before
    obtain ⟨numbered, _, _, carries⟩ :=
      numbered.run carries (.call (.sendDiagnostic report) :: later)
    have queued := Traced.queued_of_accepted accepted later
    exact ⟨(numbered.committed_eq found).trans queued, numbered.yieldsReport carries found queued⟩

/-- A report in which each delimiter and marker of the line occurs is received behind another packet. -/
theorem codec_exact_of_marks :
    ∃ link, Link.opened .standard {} = .ok link ∧
      let report := ofSource 0x7E 0x7D7F "src/~\x7d\x7f.rs"
      let bytes := (List.replicate 30 [Event.send, .arrive .ok]).flatten
      let waiting := (Traced.between link link).run [.call (.send [1])]
      let traced := waiting.run (.call (.sendDiagnostic report) :: bytes)
      (waiting.delivery.sender.outbound.sendDiagnostic report).1 = .ok true ∧
        traced.numbers = [0, 1] ∧ traced.delivery.committed = [[1], report.toBytes] ∧
        traced.Untouched 1 ∧ traced.YieldsReport 1 report := by
  obtain ⟨sender, receiver, sending, receiving, arrives⟩ :=
    codec_exact.2.2 .standard .standard {} {} [.call (.send [1])]
      (List.replicate 30 [Event.send, .arrive .ok]).flatten 0x7E 0x7D7F "src/~\x7d\x7f.rs"
  obtain rfl := Except.ok.inj ((Link.opened_eq _ _).symm.trans sending)
  obtain rfl := Except.ok.inj ((Link.opened_eq _ _).symm.trans receiving)
  refine ⟨_, Link.opened_eq .standard {}, ?_⟩
  intro report bytes waiting traced
  have accepted : (waiting.delivery.sender.outbound.sendDiagnostic report).1 = .ok true := by
    rw [Outbound.sendDiagnostic_fits (by decide)]
    exact congrArg Except.ok (by decide +kernel)
  have numbers : traced.numbers = [0, 1] := by decide +kernel
  have untouched : traced.Untouched 1 := ⟨by decide +kernel, fun gone => absurd gone (by decide +kernel)⟩
  have number : traced.numbers[1]? = some waiting.delivery.sender.queued.length := by
    rw [numbers]
    decide +kernel
  exact ⟨accepted, numbers, by decide +kernel, untouched, (arrives accepted 1 number).2 untouched⟩

end Diagnostic

end FramedLine
