import FramedLine.Link.Service

/-!
What passes between a link and a device during a service. A device that records the calls that are made of
it serves the link as it would without the record, and the record tells which way the service went.
-/

namespace FramedLine

/-- A call of a device, and its answer. -/
inductive Contact (failure : Type) where
  | read (answer : Except failure (Option (UInt8 × Status)))
  | ready (answer : Bool)
  | write (byte : UInt8) (answer : Except failure Unit)
  | flush (answer : Except failure Unit)

namespace Contact

variable {failure : Type}

/-- A read that brings a byte. -/
def arrival (received : UInt8 × Status) : Contact failure :=
  .read (.ok (some received))

/-- The byte that was taken from the device. -/
def taken? : Contact failure → Option (UInt8 × Status)
  | read (.ok received) => received
  | _ => none

/-- The byte that was offered to the device. -/
def offered? : Contact failure → Option UInt8
  | write byte _ => some byte
  | _ => none

def accepted? : Contact failure → Option UInt8
  | write byte (.ok ()) => some byte
  | _ => none

/-- The byte that was offered to the device in vain. -/
def lost? : Contact failure → Option UInt8
  | write byte (.error _) => some byte
  | _ => none

def failure? : Contact failure → Option failure
  | read (.error reason) | write _ (.error reason) | flush (.error reason) => some reason
  | _ => none

def isRead : Contact failure → Bool
  | read _ => true
  | _ => false

/-- Whether the device was ready for a byte. -/
def isReady : Contact failure → Bool
  | ready answer => answer
  | _ => false

/-- Whether the device was asked and not ready. -/
def isRefusal : Contact failure → Bool
  | ready answer => !answer
  | _ => false

def isFlush : Contact failure → Bool
  | flush _ => true
  | _ => false

/-- A failure is the last contact, and the result tells of it. -/
def Ends {α : Type} (contacts : List (Contact failure)) : Except failure α → Prop
  | .ok _ => ∀ contact ∈ contacts, contact.failure? = none
  | .error reason => ∃ before last, contacts = before ++ [last] ∧ last.failure? = some reason ∧
      ∀ contact ∈ before, contact.failure? = none

section Ends

variable {α : Type} {first : Contact failure} {before contacts : List (Contact failure)}
  {result : Except failure α}

theorem Ends.append (smooth : ∀ contact ∈ before, contact.failure? = none) (ends : Ends contacts result) :
    Ends (before ++ contacts) result := by
  cases result with
  | ok value =>
    intro contact found
    rcases List.mem_append.mp found with early | late
    · exact smooth contact early
    · exact ends contact late
  | error reason =>
    obtain ⟨middle, last, rfl, failed, quiet⟩ := ends
    refine ⟨before ++ middle, last, by rw [List.append_assoc], failed, ?_⟩
    intro contact found
    rcases List.mem_append.mp found with early | late
    · exact smooth contact early
    · exact quiet contact late

theorem Ends.cons (smooth : first.failure? = none) (ends : Ends contacts result) :
    Ends (first :: contacts) result :=
  Ends.append (List.forall_mem_singleton.mpr smooth) ends

/-- Without a failure there is a result. -/
theorem Ends.well (ends : Ends contacts result)
    (smooth : ∀ contact ∈ contacts, contact.failure? = none) : ∃ value, result = .ok value := by
  cases result with
  | ok value => exact ⟨value, rfl⟩
  | error reason =>
    obtain ⟨before, last, rfl, failed, -⟩ := ends
    cases failed.symm.trans (smooth last List.mem_concat_self)

theorem ends_singleton {reason : failure} (failed : first.failure? = some reason) :
    Ends [first] (.error reason : Except failure α) :=
  ⟨[], first, rfl, failed, fun _ found => absurd found List.not_mem_nil⟩

end Ends

/-- Contacts that offer nothing to the device. -/
structure Still (contacts : List (Contact failure)) : Prop where
  offered : contacts.filterMap offered? = []
  accepted : contacts.filterMap accepted? = []
  lost : contacts.filterMap lost? = []
  ready : contacts.countP isReady = 0

section Kinds

variable {contacts : List (Contact failure)}

theorem still_of_reads (reads : ∀ contact ∈ contacts, contact.isRead = true) : Still contacts := by
  induction contacts with
  | nil => exact ⟨rfl, rfl, rfl, rfl⟩
  | cons contact later inductionHypothesis =>
    obtain ⟨first, others⟩ := List.forall_mem_cons.mp reads
    obtain ⟨offered, accepted, lost, ready⟩ := inductionHypothesis others
    cases contact with
    | read answer => exact ⟨offered, accepted, lost, ready⟩
    | ready answer => cases first
    | write byte answer => cases first
    | flush answer => cases first

theorem flushes_of_reads (reads : ∀ contact ∈ contacts, contact.isRead = true) :
    contacts.countP isFlush = 0 := by
  apply List.countP_eq_zero.mpr
  intro contact found flushed
  have read := reads contact found
  cases contact with
  | read answer => cases flushed
  | ready answer => cases flushed
  | write byte answer => cases flushed
  | flush answer => cases read

/-- Bytes are taken by reading only. -/
theorem taken_of_others (others : ∀ contact ∈ contacts, contact.isRead = false) :
    contacts.filterMap taken? = [] := by
  apply List.filterMap_eq_nil_iff.mpr
  intro contact found
  have other := others contact found
  cases contact with
  | read answer => cases other
  | ready answer => rfl
  | write byte answer => rfl
  | flush answer => rfl

end Kinds

end Contact

/-- A device with a record of the calls that were made of it, the latest one last. -/
structure Recording (device failure : Type) where
  state : device
  contacts : List (Contact failure) := []

namespace Recording

variable {device failure : Type} [SerialDevice device failure]

def readByte (recording : Recording device failure) :
    Except failure (Option (UInt8 × Status)) × Recording device failure :=
  let (answer, state) := SerialDevice.readByte recording.state
  (answer, ⟨state, recording.contacts ++ [.read answer]⟩)

def writeReady (recording : Recording device failure) : Bool × Recording device failure :=
  let (answer, state) := SerialDevice.writeReady recording.state
  (answer, ⟨state, recording.contacts ++ [.ready answer]⟩)

def writeByte (recording : Recording device failure) (byte : UInt8) :
    Except failure Unit × Recording device failure :=
  let (answer, state) := SerialDevice.writeByte recording.state byte
  (answer, ⟨state, recording.contacts ++ [.write byte answer]⟩)

def flush (recording : Recording device failure) : Except failure Unit × Recording device failure :=
  let (answer, state) := SerialDevice.flush recording.state
  (answer, ⟨state, recording.contacts ++ [.flush answer]⟩)

instance : SerialDevice (Recording device failure) failure where
  readByte := readByte
  writeReady := writeReady
  writeByte := writeByte
  flush := flush
  waiting recording := SerialDevice.waiting recording.state
  waiting_lt read := by
    obtain ⟨answered, rfl⟩ := Prod.mk.inj read
    exact SerialDevice.waiting_lt (Prod.ext answered rfl)

section Equations

variable {state after : device} (earlier : List (Contact failure))

theorem readByte_eq {answer : Except failure (Option (UInt8 × Status))}
    (read : SerialDevice.readByte state = (answer, after)) :
    SerialDevice.readByte (⟨state, earlier⟩ : Recording device failure) =
      (answer, ⟨after, earlier ++ [.read answer]⟩) := by
  change readByte ⟨state, earlier⟩ = _
  rw [readByte, read]

theorem writeReady_eq {answer : Bool} (asked : SerialDevice.writeReady state = (answer, after)) :
    SerialDevice.writeReady (⟨state, earlier⟩ : Recording device failure) =
      (answer, ⟨after, earlier ++ [.ready answer]⟩) := by
  change writeReady ⟨state, earlier⟩ = _
  rw [writeReady, asked]

theorem writeByte_eq {byte : UInt8} {answer : Except failure Unit}
    (offered : SerialDevice.writeByte state byte = (answer, after)) :
    SerialDevice.writeByte (⟨state, earlier⟩ : Recording device failure) byte =
      (answer, ⟨after, earlier ++ [.write byte answer]⟩) := by
  change writeByte ⟨state, earlier⟩ byte = _
  rw [writeByte, offered]

theorem flush_eq {answer : Except failure Unit} (flushed : SerialDevice.flush state = (answer, after)) :
    SerialDevice.flush (⟨state, earlier⟩ : Recording device failure) =
      (answer, ⟨after, earlier ++ [.flush answer]⟩) := by
  change flush ⟨state, earlier⟩ = _
  rw [flush, flushed]

end Equations

end Recording

variable {geometry : Geometry}

/-- How a link takes what a device has received: byte after byte, until there is none or a read fails. -/
inductive Receives {failure : Type} : Inbound geometry → List (Contact failure) → Except failure Unit →
    Inbound geometry → Prop where
  | done {inbound : Inbound geometry} : Receives inbound [.read (.ok none)] (.ok ()) inbound
  | failed {inbound : Inbound geometry} (reason : failure) :
    Receives inbound [.read (.error reason)] (.error reason) inbound
  | took {inbound after : Inbound geometry} {contacts : List (Contact failure)}
    {result : Except failure Unit} (byte : UInt8) (status : Status)
    (later : Receives (inbound.receive byte status) contacts result after) :
    Receives inbound (.read (.ok (some (byte, status))) :: contacts) result after

/-- How a link gives a device bytes, at most a given number of them: a byte for each time that the device
is ready. The answer tells whether a byte was written, by then or before. -/
inductive Sends {failure : Type} : Outbound geometry → Bool → Nat → List (Contact failure) →
    Except failure Bool → Outbound geometry → Prop where
  /-- The limit is used up, which happens with no sound sender: a full ring has fewer bytes for the line. -/
  | cut {outbound : Outbound geometry} {wrote : Bool} : Sends outbound wrote 0 [] (.ok wrote) outbound
  | masked {outbound : Outbound geometry} {wrote : Bool} {limit : Nat}
    (masked : outbound.armed = false) : Sends outbound wrote limit [] (.ok wrote) outbound
  | unready {outbound : Outbound geometry} {wrote : Bool} {limit : Nat}
    (armed : outbound.armed = true) :
    Sends outbound wrote (limit + 1) [.ready false] (.ok wrote) outbound
  | dry {outbound after : Outbound geometry} {wrote : Bool} {limit : Nat}
    (armed : outbound.armed = true) (dry : outbound.nextByte = (none, after)) :
    Sends outbound wrote (limit + 1) [.ready true] (.ok wrote) after
  | lost {outbound after : Outbound geometry} {wrote : Bool} {limit : Nat} {byte : UInt8}
    (armed : outbound.armed = true) (next : outbound.nextByte = (some byte, after)) (reason : failure) :
    Sends outbound wrote (limit + 1) [.ready true, .write byte (.error reason)] (.error reason) after
  | written {outbound between after : Outbound geometry} {wrote : Bool} {limit : Nat} {byte : UInt8}
    {contacts : List (Contact failure)} {result : Except failure Bool}
    (armed : outbound.armed = true) (next : outbound.nextByte = (some byte, between))
    (later : Sends between true limit contacts result after) :
    Sends outbound wrote (limit + 1) (.ready true :: .write byte (.ok ()) :: contacts) result after

/-- How a service ends once nothing more is sent: the device is flushed if a byte was written and no write
failed. -/
inductive Closes {failure : Type} : Except failure Bool → List (Contact failure) →
    Except failure Unit → Prop where
  | failed (reason : failure) : Closes (.error reason) [] (.error reason)
  | idle : Closes (.ok false) [] (.ok ())
  | flushed (answer : Except failure Unit) : Closes (.ok true) [.flush answer] answer

/-- How a link is served: a read that fails ends the service before anything is sent. -/
inductive Serves {failure : Type} (link : Link geometry) : List (Contact failure) →
    Except failure Unit → Link geometry → Prop where
  | unread {inbound : Inbound geometry} {reads : List (Contact failure)} {reason : failure}
    (receives : Receives link.inbound reads (.error reason) inbound) :
    Serves link reads (.error reason) { link with inbound }
  | served {inbound : Inbound geometry} {outbound : Outbound geometry}
    {reads writes closing : List (Contact failure)} {sent : Except failure Bool}
    {result : Except failure Unit} (receives : Receives link.inbound reads (.ok ()) inbound)
    (sends : Sends link.outbound false (Link.lineBound geometry) writes sent outbound)
    (closes : Closes sent closing result) :
    Serves link (reads ++ (writes ++ closing)) result ⟨inbound, outbound⟩

namespace Link

variable {device failure : Type} [SerialDevice device failure]

section Receive

variable {state after : device} (link : Link geometry)

theorem receiveFrom_failed {reason : failure}
    (read : SerialDevice.readByte state = (.error reason, after)) :
    link.receiveFrom state = (.error reason, link, after) := by
  rw [receiveFrom]
  split <;> simp_all

theorem receiveFrom_done (read : SerialDevice.readByte state = (.ok none, after)) :
    link.receiveFrom state = (.ok (), link, after) := by
  rw [receiveFrom]
  split <;> simp_all

theorem receiveFrom_took {byte : UInt8} {status : Status}
    (read : SerialDevice.readByte state = (.ok (some (byte, status)), after)) :
    link.receiveFrom state = (link.receiveByte byte status).receiveFrom after := by
  rw [receiveFrom]
  split <;> simp_all

/-- A record of what is received does not change it. -/
theorem receives_receiveFrom (state : device) (earlier : List (Contact failure)) :
    ∃ contacts result inbound final, Receives link.inbound contacts result inbound ∧
      link.receiveFrom state = (result, { link with inbound }, final) ∧
      link.receiveFrom (⟨state, earlier⟩ : Recording device failure) =
        (result, { link with inbound }, ⟨final, earlier ++ contacts⟩) := by
  fun_induction receiveFrom link state generalizing earlier with
  | case1 link state reason after read =>
    refine ⟨_, _, _, after, .failed reason, rfl, ?_⟩
    exact receiveFrom_failed link (Recording.readByte_eq earlier read)
  | case2 link state after read =>
    refine ⟨_, _, _, after, .done, rfl, ?_⟩
    exact receiveFrom_done link (Recording.readByte_eq earlier read)
  | case3 link state byte status after read inductionHypothesis =>
    obtain ⟨contacts, result, inbound, final, later, plain, recorded⟩ :=
      inductionHypothesis (earlier ++ [.read (.ok (some (byte, status)))])
    refine ⟨_, result, inbound, final, .took byte status later, plain, ?_⟩
    rw [receiveFrom_took link (Recording.readByte_eq earlier read), recorded, List.append_assoc]
    rfl

end Receive

/-- A record of what is sent does not change it. -/
theorem sends_sendUpTo (link : Link geometry) (state : device) (earlier : List (Contact failure))
    (wrote : Bool) (limit : Nat) :
    ∃ contacts result outbound final, Sends link.outbound wrote limit contacts result outbound ∧
      link.sendUpTo state wrote limit = (result, { link with outbound }, final) ∧
      link.sendUpTo (⟨state, earlier⟩ : Recording device failure) wrote limit =
        (result, { link with outbound }, ⟨final, earlier ++ contacts⟩) := by
  induction limit generalizing link state earlier wrote with
  | zero => exact ⟨_, _, _, state, .cut, rfl, by rw [List.append_nil]; rfl⟩
  | succ limit inductionHypothesis =>
    simp only [sendUpTo]
    cases armed : link.outbound.armed with
    | false => exact ⟨_, _, _, state, .masked armed, rfl, by rw [List.append_nil]; rfl⟩
    | true =>
      rcases asked : SerialDevice.writeReady state with ⟨ready, waited⟩
      rw [Recording.writeReady_eq earlier asked]
      cases ready with
      | false => exact ⟨_, _, _, waited, .unready armed, rfl, rfl⟩
      | true =>
        rcases taken : link.outbound.nextByte with ⟨next, outbound⟩
        have moved : link.nextByte = (next, { link with outbound }) := by
          rw [Link.nextByte, taken]
        rw [moved]
        cases next with
        | none => exact ⟨_, _, _, waited, .dry armed taken, rfl, rfl⟩
        | some byte =>
          rcases offered : SerialDevice.writeByte waited byte with ⟨answer, after⟩
          have noted := Recording.writeByte_eq (earlier ++ [.ready true]) offered
          dsimp only
          rw [offered, noted]
          cases answer with
          | error reason =>
            refine ⟨_, _, _, after, .lost armed taken reason, rfl, ?_⟩
            rw [List.append_assoc]
            rfl
          | ok =>
            obtain ⟨contacts, result, final, device, later, plain, recorded⟩ :=
              inductionHypothesis { link with outbound } after
                (earlier ++ [.ready true] ++ [.write byte (.ok ())]) true
            refine ⟨_, result, final, device, .written armed taken later, plain, ?_⟩
            refine recorded.trans ?_
            rw [List.append_assoc, List.append_assoc]
            rfl

/-- A service does with a device that keeps a record what it does without, and the record tells which way
it went. -/
theorem serves_service (link : Link geometry) (state : device) :
    ∃ contacts result after final, Serves link contacts result after ∧
      link.service state = (result, after, final) ∧
      link.service (⟨state, []⟩ : Recording device failure) = (result, after, ⟨final, contacts⟩) := by
  obtain ⟨reads, received, inbound, read, receives, plain, recorded⟩ :=
    receives_receiveFrom link state []
  rw [List.nil_append] at recorded
  rw [service, service, plain, recorded]
  cases received with
  | error reason => exact ⟨_, _, _, read, .unread receives, rfl, rfl⟩
  | ok =>
    obtain ⟨writes, sent, outbound, written, sends, plain, recorded⟩ :=
      sends_sendUpTo { link with inbound } read reads false (lineBound geometry)
    simp only [sendTo, plain, recorded]
    cases sent with
    | error reason =>
      exact ⟨_, _, _, written, .served receives sends (.failed reason), rfl, by rw [List.append_nil]⟩
    | ok wrote =>
      cases wrote with
      | false => exact ⟨_, _, _, written, .served receives sends .idle, rfl, by rw [List.append_nil]⟩
      | true =>
        rcases flushed : SerialDevice.flush written with ⟨answer, final⟩
        refine ⟨_, answer, _, final, .served receives sends (.flushed answer), ?_, ?_⟩
        · simp only [flushed]
        · simp only [Recording.flush_eq _ flushed, List.append_assoc]

end Link

end FramedLine
