import FramedLine.Device.Stream
import FramedLine.Link.Waiting
import FramedLine.Proofs.Link.Session
import Mathlib.Data.List.Forall2

/-!
A link that is served by a pair of byte streams. What the streams are going to answer is a script, of which
a service uses up a stretch. An interruption ends the reading, while a write that is interrupted is made
again.
-/

namespace FramedLine

/-- The byte that a read brings. -/
def ReadOutcome.data? : ReadOutcome → Option UInt8
  | .data byte => some byte
  | _ => none

/-- The reason for which a read fails, and not only stops. -/
def ReadOutcome.failure? : ReadOutcome → Option StreamFailure
  | .failed reason => if StreamDevice.isTransient reason then none else some reason
  | _ => none

/-- The reason for which a byte is refused. -/
def WriteOutcome.refusal? : WriteOutcome → Option StreamFailure
  | .accepted => none
  | .nothing => some .writeZero
  | .failed reason => some reason

/-- A script is used up to the first outcome that is not passed over, and that one is used as well. -/
structure Uses {outcome : Type} (passes : outcome → Prop) (script passed : List outcome)
    (ending : Option outcome) (left : List outcome) : Prop where
  script : script = passed ++ (ending.toList ++ left)
  passed : ∀ earlier ∈ passed, passes earlier
  stops : ∀ last, ending = some last → ¬passes last
  exhausted : ending = none → left = []

namespace Uses

variable {outcome : Type} {passes : outcome → Prop} {first : outcome} {script passed left : List outcome}
  {ending : Option outcome}

theorem nil (passes : outcome → Prop) : Uses passes [] [] none [] where
  script := rfl
  passed _ found := absurd found List.not_mem_nil
  stops _ last := by cases last
  exhausted _ := rfl

theorem stop (stops : ¬passes first) : Uses passes (first :: script) [] (some first) script where
  script := rfl
  passed _ found := absurd found List.not_mem_nil
  stops _ last := Option.some.inj last ▸ stops
  exhausted none := by cases none

theorem cons (passing : passes first) (uses : Uses passes script passed ending left) :
    Uses passes (first :: script) (first :: passed) ending left where
  script := congrArg (first :: ·) uses.script
  passed := List.forall_mem_cons.mpr ⟨passing, uses.passed⟩
  stops := uses.stops
  exhausted := uses.exhausted

end Uses

/-- A script of reads is used up to the first outcome that is not data, with which reading fails or only
stops. -/
def Reads (script : List ReadOutcome) (data : Bytes) (failure : Option StreamFailure)
    (left : List ReadOutcome) : Prop :=
  ∃ ending, Uses (fun outcome => outcome.data?.isSome) script (data.map .data) ending left ∧
    ending.bind ReadOutcome.failure? = failure

/-- A byte is offered again after each interruption, until it is accepted or refused. -/
def Attempts (script : List WriteOutcome) (refusal : Option StreamFailure)
    (left : List WriteOutcome) : Prop :=
  ∃ interruptions ending, Uses (· = .failed .interrupted) script
    (List.replicate interruptions (.failed .interrupted)) ending left ∧
    ending.bind WriteOutcome.refusal? = refusal

/-- A script of writes is used for a number of bytes that are accepted, and for one more if it is refused. -/
inductive Writes : List WriteOutcome → Nat → Option StreamFailure → List WriteOutcome → Prop where
  | done (script : List WriteOutcome) : Writes script 0 none script
  | refused {script left : List WriteOutcome} {reason : StreamFailure}
    (attempts : Attempts script (some reason) left) : Writes script 0 (some reason) left
  | accepted {script between left : List WriteOutcome} {count : Nat} {refusal : Option StreamFailure}
    (attempts : Attempts script none between) (later : Writes between count refusal left) :
    Writes script (count + 1) refusal left

namespace Reads

variable {script left : List ReadOutcome} {data : Bytes} {failure : Option StreamFailure}

theorem cons (byte : UInt8) (reads : Reads script data failure left) :
    Reads (.data byte :: script) (byte :: data) failure left := by
  obtain ⟨ending, uses, failed⟩ := reads
  exact ⟨ending, uses.cons rfl, failed⟩

/-- What was used of the script has brought the data. -/
theorem used (reads : Reads script data failure left) :
    ∃ used, script = used ++ left ∧ used.filterMap ReadOutcome.data? = data := by
  obtain ⟨ending, uses, -⟩ := reads
  refine ⟨data.map .data ++ ending.toList, by rw [List.append_assoc, uses.script], ?_⟩
  have last : ending.toList.filterMap ReadOutcome.data? = [] := by
    cases ending with
    | none => rfl
    | some last =>
      have stops := uses.stops last rfl
      rw [Option.not_isSome_iff_eq_none] at stops
      exact List.filterMap_cons_none stops
  rw [List.filterMap_append, last, List.append_nil, List.filterMap_map]
  exact List.filterMap_some

end Reads

namespace StreamDevice

/-- The answer of a device that may have failed. -/
def answer (failure : Option StreamFailure) : Except StreamFailure Unit :=
  failure.elim (.ok ()) .error

theorem attempt_eq (script : List WriteOutcome) :
    ∃ refusal left, Attempts script refusal left ∧ attempt script = (answer refusal, left) := by
  induction script with
  | nil => exact ⟨none, [], ⟨0, none, .nil _, rfl⟩, rfl⟩
  | cons first rest inductionHypothesis =>
    by_cases interrupted : first = .failed .interrupted
    · subst interrupted
      obtain ⟨refusal, left, ⟨interruptions, ending, uses, refused⟩, attempted⟩ := inductionHypothesis
      exact ⟨refusal, left, ⟨interruptions + 1, ending, uses.cons rfl, refused⟩, attempted⟩
    · refine ⟨first.refusal?, rest, ⟨0, some first, .stop interrupted, rfl⟩, ?_⟩
      cases first with
      | accepted => rfl
      | nothing => rfl
      | failed reason =>
        rw [attempt, if_neg fun same => interrupted (congrArg _ same)]
        rfl

theorem writeByte_eq (device : StreamDevice) (byte : UInt8) :
    ∃ refusal left, Attempts device.writes refusal left ∧
      SerialDevice.writeByte device byte = match refusal with
        | none => (.ok (), { device with writes := left, output := device.output ++ [byte] })
        | some reason => (.error reason, { device with writes := left }) := by
  obtain ⟨refusal, left, attempts, attempted⟩ := attempt_eq device.writes
  refine ⟨refusal, left, attempts, ?_⟩
  change device.writeByte byte = _
  rw [writeByte, attempted]
  cases refusal <;> rfl

theorem flush_eq (device : StreamDevice) :
    SerialDevice.flush device =
      (answer device.flushFailure, { device with flushes := device.flushes + 1 }) := by
  change device.flush = _
  rw [flush]
  cases device.flushFailure <;> rfl

end StreamDevice

variable {geometry : Geometry}

namespace Link

open StreamDevice (answer)

/-- Reading a stream feeds the link what the stream brings. -/
theorem receiveFrom_stream (link : Link geometry) (device : StreamDevice) :
    ∃ data failure left, Reads device.reads data failure left ∧
      link.receiveFrom device = (answer failure, link.feed data, { device with reads := left }) := by
  obtain ⟨script, writes, flushFailure, output, flushes⟩ := device
  induction script generalizing link with
  | nil => exact ⟨[], none, [], ⟨none, .nil _, rfl⟩, receiveFrom_done link rfl⟩
  | cons first rest inductionHypothesis =>
    cases first with
    | data byte =>
      obtain ⟨data, failure, left, reads, received⟩ := inductionHypothesis (link.receiveByte byte .ok)
      refine ⟨byte :: data, failure, left, reads.cons byte, ?_⟩
      exact (receiveFrom_took link rfl).trans received
    | atEnd => exact ⟨[], none, rest, ⟨_, .stop Bool.false_ne_true, rfl⟩, receiveFrom_done link rfl⟩
    | failed reason =>
      refine ⟨[], _, rest, ⟨_, .stop Bool.false_ne_true, rfl⟩, ?_⟩
      simp only [Option.bind_some, ReadOutcome.failure?]
      cases transient : StreamDevice.isTransient reason with
      | true =>
        apply receiveFrom_done
        change StreamDevice.readByte _ = _
        simp only [StreamDevice.readByte, transient, if_true]
      | false =>
        apply receiveFrom_failed
        change StreamDevice.readByte _ = _
        simp only [StreamDevice.readByte, transient, Bool.false_eq_true, if_false]

end Link

/-- How far a sender gets with a writer: the bytes that the writer accepts are the next ones of the line. -/
inductive Feeds (outbound : Outbound geometry) (script : List WriteOutcome) (accepted : Bytes) :
    Option StreamFailure → Outbound geometry → List WriteOutcome → Prop where
  /-- The byte that is refused is the only one that is lost. -/
  | refused {after : Outbound geometry} {left : List WriteOutcome} {reason : StreamFailure}
    (writes : Writes script accepted.length (some reason) left) (lost : UInt8)
    (taken : outbound.takeLine (accepted.length + 1) = (⟨accepted ++ [lost], false⟩, after)) :
    Feeds outbound script accepted (some reason) after left
  /-- Sending goes on until the notification is masked. -/
  | drained {after : Outbound geometry} {left : List WriteOutcome}
    (writes : Writes script accepted.length none left) (limit : Nat) (dry : Bool)
    (taken : outbound.takeLine limit = (⟨accepted, dry⟩, after)) (masked : after.armed = false) :
    Feeds outbound script accepted none after left

namespace Feeds

variable {outbound between after : Outbound geometry} {script others left : List WriteOutcome}
  {accepted : Bytes} {refusal : Option StreamFailure} {byte : UInt8}

theorem cons (next : outbound.nextByte = (some byte, between)) (attempts : Attempts script none others)
    (later : Feeds between others accepted refusal after left) :
    Feeds outbound script (byte :: accepted) refusal after left := by
  cases later with
  | refused writes lost taken =>
    apply Feeds.refused (.accepted attempts writes) lost
    rw [List.length_cons, Outbound.takeLine, next]
    simp only [taken]
    rfl
  | drained writes limit dry taken masked =>
    apply Feeds.drained (.accepted attempts writes) (limit + 1) dry _ masked
    rw [Outbound.takeLine, next]
    simp only [taken]

/-- A writer that is offered nothing is left alone. -/
theorem untouched (feeds : Feeds outbound script [] none after left) : left = script := by
  cases feeds with
  | drained writes =>
    cases writes
    rfl

end Feeds

namespace Link

/-- A link with something to send gives a writer the next bytes of the line until one is refused or none is
left. -/
theorem sendUpTo_stream (link : Link geometry) (device : StreamDevice) (wrote : Bool) {limit : Nat}
    {transmission : Transmission} (sound : link.outbound.Sound transmission)
    (enough : transmission.pending.length < limit) :
    ∃ accepted refusal outbound left, Feeds link.outbound device.writes accepted refusal outbound left ∧
      link.sendUpTo device wrote limit =
        (refusal.elim (.ok (wrote || !accepted.isEmpty)) .error, { link with outbound },
          { device with writes := left, output := device.output ++ accepted }) := by
  -- Each byte that goes out leaves one less pending, so that the limit never ends the sending.
  induction limit generalizing link device wrote transmission with
  | zero => exact absurd enough (Nat.not_lt_zero _)
  | succ limit inductionHypothesis =>
    simp only [sendUpTo]
    cases armed : link.outbound.armed with
    | false =>
      refine ⟨[], none, link.outbound, device.writes, .drained (.done _) 0 false rfl armed, ?_⟩
      simp
    | true =>
      rcases next : link.outbound.nextByte with ⟨taken, between⟩
      have moved : link.nextByte = (taken, { link with outbound := between }) := by
        rw [Link.nextByte, next]
      have ready : SerialDevice.writeReady device = (true, device) := rfl
      rw [ready, moved]
      cases taken with
      | none =>
        have masked := (sound.dry (congrArg Prod.fst next)).2
        rw [next] at masked
        refine ⟨[], none, between, device.writes, .drained (.done _) 1 true ?_ masked, ?_⟩
        · rw [Outbound.takeLine, next]
        · simp
      | some byte =>
        obtain ⟨refusal, others, attempts, written⟩ := device.writeByte_eq byte
        dsimp only
        rw [written]
        cases refusal with
        | some reason =>
          refine ⟨[], some reason, between, others, .refused (.refused attempts) byte ?_, ?_⟩
          · rw [List.length_nil, Outbound.takeLine, next]
            rfl
          · simp
        | none =>
          obtain ⟨behind, less⟩ := Sends.shrinks sound next enough
          obtain ⟨accepted, refusal, outbound, left, feeds, sent⟩ := inductionHypothesis
            { link with outbound := between }
            { device with writes := others, output := device.output ++ [byte] } true behind less
          refine ⟨byte :: accepted, refusal, outbound, left, .cons next attempts feeds, ?_⟩
          refine sent.trans ?_
          simp

end Link

/-- How a link is served by a pair of streams. -/
inductive Transfers (link : Link geometry) (device : StreamDevice) :
    Except Failure Unit → Link geometry → StreamDevice → Prop where
  /-- A read that fails ends the service before anything is written. -/
  | unread {data : Bytes} {reason : StreamFailure} {left : List ReadOutcome}
    (reads : Reads device.reads data (some reason) left) :
    Transfers link device (.error (.stream reason)) (link.feed data) { device with reads := left }
  /-- A write that fails ends the service without a flush. -/
  | unwritten {data accepted : Bytes} {reason : StreamFailure} {outbound : Outbound geometry}
    {left : List ReadOutcome} {others : List WriteOutcome} (reads : Reads device.reads data none left)
    (feeds : Feeds link.outbound device.writes accepted (some reason) outbound others) :
    Transfers link device (.error (.stream reason)) { link.feed data with outbound }
      { device with reads := left, writes := others, output := device.output ++ accepted }
  | idle {data : Bytes} {outbound : Outbound geometry} {left : List ReadOutcome}
    (reads : Reads device.reads data none left)
    (feeds : Feeds link.outbound device.writes [] none outbound device.writes) :
    Transfers link device (.ok ()) { link.feed data with outbound } { device with reads := left }
  /-- Only what the writer has accepted is flushed, and only when none of it was refused. -/
  | flushed {data accepted : Bytes} {outbound : Outbound geometry} {left : List ReadOutcome}
    {others : List WriteOutcome} (reads : Reads device.reads data none left)
    (feeds : Feeds link.outbound device.writes accepted none outbound others) (wrote : accepted ≠ []) :
    Transfers link device ((StreamDevice.answer device.flushFailure).mapError .stream)
      { link.feed data with outbound }
      { device with
        reads := left
        writes := others
        output := device.output ++ accepted
        flushes := device.flushes + 1 }

section Transfers

variable {link after : Link geometry} {device final : StreamDevice} {result : Except Failure Unit}

/-- What is fed to a link is what a stretch of the script has brought. -/
theorem Reads.fed {script left : List ReadOutcome} {data : Bytes} {failure : Option StreamFailure}
    (reads : Reads script data failure left) (link : Link geometry) :
    ∃ used, script = used ++ left ∧
      (link.feed data).inbound = link.inbound.receiveAll (used.filterMap ReadOutcome.data?) .ok := by
  obtain ⟨used, cut, rfl⟩ := reads.used
  exact ⟨used, cut, rfl⟩

/-- A service feeds the receiver what it reads, whatever else comes of it. -/
theorem Transfers.fed (transfers : Transfers link device result after final) :
    ∃ used, device.reads = used ++ final.reads ∧
      after.inbound = link.inbound.receiveAll (used.filterMap ReadOutcome.data?) .ok := by
  cases transfers with
  | unread reads => exact reads.fed link
  | unwritten reads => exact reads.fed link
  | idle reads => exact reads.fed link
  | flushed reads => exact reads.fed link

end Transfers

/-- What becomes of a link before it is served once more by the same reader, and the streams of that
service. They go on reading where the service before has stopped. -/
structure Turn (geometry : Geometry) where
  meanwhile : Link geometry → Link geometry
  keeps : ∀ {link : Link geometry}, link.Reachable → (meanwhile link).Reachable
  device : StreamDevice

namespace Link

theorem service_stream {link : Link geometry} {transmission : Transmission}
    (sound : link.outbound.Sound transmission) (device : StreamDevice) :
    ∃ result after final, link.service device = (result, after, final) ∧
      Transfers link device (result.mapError .stream) after final := by
  obtain ⟨data, failure, left, reads, received⟩ := link.receiveFrom_stream device
  rw [service, received]
  cases failure with
  | some reason => exact ⟨_, _, _, rfl, .unread reads⟩
  | none =>
    obtain ⟨accepted, refusal, outbound, others, feeds, sent⟩ :=
      (link.feed data).sendUpTo_stream { device with reads := left } false sound sound.length_pending_lt
    simp only [StreamDevice.answer, Option.elim_none, sendTo, sent]
    cases refusal with
    | some reason => exact ⟨_, _, _, rfl, .unwritten reads feeds⟩
    | none =>
      cases accepted with
      | nil =>
        obtain rfl := feeds.untouched
        refine ⟨_, _, _, rfl, ?_⟩
        rw [List.append_nil]
        exact .idle reads feeds
      | cons byte accepted =>
        simp only [Option.elim_none, StreamDevice.flush_eq]
        exact ⟨_, _, _, rfl, .flushed reads feeds (List.cons_ne_nil byte accepted)⟩

/-- Serves a link time after time with one reader. The links before and after each service are told, and
what is left to read. -/
def serveAll (link : Link geometry) (script : List ReadOutcome) :
    List (Turn geometry) → List (Link geometry × Link geometry) × List ReadOutcome
  | [] => ([], script)
  | turn :: later =>
    let before := turn.meanwhile link
    let (_, after, device) := before.service { turn.device with reads := script }
    let (others, left) := after.serveAll device.reads later
    ((before, after) :: others, left)

/-- Each service feeds the receiver the data of its stretch of the script. -/
theorem serveAll_fed {link : Link geometry} (reachable : link.Reachable) (script : List ReadOutcome)
    (turns : List (Turn geometry)) :
    ∃ stretches : List (List ReadOutcome), script = stretches.flatten ++ (link.serveAll script turns).2 ∧
      (link.serveAll script turns).1.Forall₂ (fun served stretch => served.2.inbound =
        served.1.inbound.receiveAll (stretch.filterMap ReadOutcome.data?) .ok) stretches := by
  induction turns generalizing link script with
  | nil => exact ⟨[], rfl, .nil⟩
  | cons turn later inductionHypothesis =>
    have before := turn.keeps reachable
    obtain ⟨transmission, sound⟩ := before.outbound.sound
    obtain ⟨result, after, final, served, transfers⟩ :=
      service_stream sound { turn.device with reads := script }
    obtain ⟨used, cut, fed⟩ := transfers.fed
    have behind : after.Reachable := by
      have next := before.next (.service { turn.device with reads := script })
      rw [Link.next, served] at next
      exact next
    obtain ⟨stretches, left, feeds⟩ := inductionHypothesis behind final.reads
    simp only [serveAll, served]
    refine ⟨used :: stretches, ?_, .cons fed feeds⟩
    rw [List.flatten_cons, List.append_assoc, ← left]
    exact cut

/-- Whatever a pair of streams answers, the bytes go the way they should. -/
structure Streams (link : Link geometry) : Prop where
  serves : ∀ device : StreamDevice, ∃ result after final, link.service device = (result, after, final) ∧
    Transfers link device (result.mapError .stream) after final
  /-- No byte of the reader is lost or fed twice over the services that it takes part in, whichever way
  they end. -/
  feeds : ∀ (script : List ReadOutcome) (turns : List (Turn geometry)),
    ∃ stretches : List (List ReadOutcome), script = stretches.flatten ++ (link.serveAll script turns).2 ∧
      (link.serveAll script turns).1.Forall₂ (fun served stretch => served.2.inbound =
        served.1.inbound.receiveAll (stretch.filterMap ReadOutcome.data?) .ok) stretches

/-- Streams may answer anything at any time: the receiver gets what was read, the line what was accepted,
and the result tells the first failure. -/
theorem Reachable.streams {link : Link geometry} (reachable : link.Reachable) : link.Streams where
  serves device := by
    obtain ⟨transmission, sound⟩ := reachable.outbound.sound
    exact service_stream sound device
  feeds := serveAll_fed reachable

/-- An interruption ends the reading before the second byte, and does not keep a byte from being offered
again until it is refused. The next service of the link, whose application waits for a packet, begins with the
second byte, and offers nothing when the reader fails. -/
theorem streams_of_interruptions :
    let device : StreamDevice := {
      reads := [.data 69, .failed .interrupted, .data 70, .failed (.unlisted "connection refused")]
      writes := [.failed .interrupted, .accepted, .failed .interrupted, .nothing, .accepted] }
    ∃ link, opened .standard {} = .ok link ∧
      let queued := (link.next .pollPacket).next (.call (.send [17, 18]))
      let served := queued.service device
      let again := served.2.1.service served.2.2
      (queued.inbound.waker.registered = true ∧
        served.1.mapError Failure.stream = .error (.stream .writeZero) ∧
        served.2.2.reads = [.data 70, .failed (.unlisted "connection refused")] ∧
        served.2.2.output = [Stuffing.start] ∧ served.2.2.flushes = 0 ∧
        again.1.mapError Failure.stream = .error (.stream (.unlisted "connection refused")) ∧
        again.2.2.reads = [] ∧ again.2.2.writes = [.accepted]) ∧ queued.Streams := by
  intro device
  refine ⟨_, opened_eq .standard {}, ?_⟩
  intro queued served again
  have opened : Reachable _ := .opened (opened_eq .standard {})
  refine ⟨by decide +kernel, ?_⟩
  exact Reachable.streams ((opened.next .pollPacket).next (.call (.send [17, 18])))

end Link

end FramedLine
