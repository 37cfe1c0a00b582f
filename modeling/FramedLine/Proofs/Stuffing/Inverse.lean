import FramedLine.Proofs.Stuffing

/-!
Stuffing and decoding as inverses, on a line that comes in pieces. What was stuffed is decoded to what it was,
byte by byte. What was decoded is stuffed to what it was if each marker on the line announces a byte that needs
one; a line can hold others, and these are decoded too, but not as the line form of what comes out.
-/

namespace FramedLine.Stuffing

def Token.data? : Token → Option UInt8
  | .data byte => some byte
  | _ => none

/-- The data bytes among what a line means. -/
def delivered (tokens : List Token) : Bytes :=
  tokens.filterMap Token.data?

/-- What the bytes of a cell mean, one after the other. -/
def meaning (byte : UInt8) : List Token :=
  if needsEscape byte then [.pending, .data byte] else [.data byte]

namespace Decoder

/-- What each byte of a stretch means, and the decoder after it. -/
def read (decoder : Decoder) (line : Bytes) : List Token × Decoder :=
  ((decoder.feedAll line).1.map Prod.fst, (decoder.feedAll line).2)

/-- Reads one piece of a line after the other. -/
def readPieces (decoder : Decoder) : List Bytes → List Token × Decoder
  | [] => ([], decoder)
  | piece :: later =>
    let (first, between) := decoder.read piece
    let (rest, final) := between.readPieces later
    (first ++ rest, final)

theorem read_cons (decoder : Decoder) (byte : UInt8) (rest : Bytes) :
    decoder.read (byte :: rest) =
      ((decoder.feed byte).1 :: ((decoder.feed byte).2.read rest).1,
        ((decoder.feed byte).2.read rest).2) := rfl

theorem read_append (decoder : Decoder) (first second : Bytes) :
    decoder.read (first ++ second) =
      ((decoder.read first).1 ++ ((decoder.read first).2.read second).1,
        ((decoder.read first).2.read second).2) := by
  induction first generalizing decoder with
  | nil => rfl
  | cons byte rest inductionHypothesis =>
    rw [List.cons_append, read_cons, read_cons, inductionHypothesis]
    rfl

/-- It makes no difference where a line is cut. -/
theorem readPieces_eq (decoder : Decoder) (pieces : List Bytes) :
    decoder.readPieces pieces = decoder.read pieces.flatten := by
  induction pieces generalizing decoder with
  | nil => rfl
  | cons piece later inductionHypothesis =>
    rw [List.flatten_cons, read_append, ← inductionHypothesis]
    rfl

/-- A delimiter and an abort make a decoder forget what came before. -/
theorem feed_of_control (first second : Decoder) {byte : UInt8} (control : byte = start ∨ byte = reset) :
    first.feed byte = second.feed byte := by
  rcases control with rfl | rfl
  · rfl
  · rfl

end Decoder

section Reading

/-- A cell is read as the byte that it stands for. -/
theorem read_stuff (byte : UInt8) :
    Decoder.read ⟨false⟩ (stuff byte).bytes = (meaning byte, ⟨false⟩) := by
  unfold meaning
  cases special : needsEscape byte with
  | false =>
    obtain ⟨notStart, notReset, notEscape⟩ := ne_of_plain special
    rw [stuff_of_plain special, Decoder.read_cons, Decoder.feed_data false notStart notReset notEscape]
    rfl
  | true =>
    obtain ⟨notStart, notReset, notEscape⟩ := ne_of_plain (needsEscape_mask byte special)
    rw [stuff_of_special special, Decoder.read_cons, Decoder.feed_escape, Decoder.read_cons,
      Decoder.feed_data true notStart notReset notEscape, unmask_mask]
    rfl

theorem read_stuffAll (data : Bytes) :
    Decoder.read ⟨false⟩ (stuffAll data) = (data.flatMap meaning, ⟨false⟩) := by
  induction data with
  | nil => rfl
  | cons byte rest inductionHypothesis =>
    rw [stuffAll_cons, Decoder.read_append, read_stuff, inductionHypothesis]
    rfl

/-- A stretch without delimiters and aborts delivers what it is decoded to. -/
theorem delivered_read {line : Bytes} (plain : ∀ byte ∈ line, byte ≠ start ∧ byte ≠ reset)
    (escaped : Bool) : delivered (Decoder.read ⟨escaped⟩ line).1 = decode escaped line := by
  induction line generalizing escaped with
  | nil => rfl
  | cons byte rest inductionHypothesis =>
    rw [List.forall_mem_cons] at plain
    obtain ⟨⟨notStart, notReset⟩, plain⟩ := plain
    rw [Decoder.read_cons, decode]
    by_cases marker : byte = escape
    · rw [marker, Decoder.feed_escape, if_pos rfl, ← inductionHypothesis plain]
      rfl
    · rw [Decoder.feed_data escaped notStart notReset marker, if_neg marker, ← inductionHypothesis plain]
      rfl

end Reading

section Meaning

theorem delivered_meaning (data : Bytes) : delivered (data.flatMap meaning) = data := by
  rw [delivered, List.filterMap_flatMap]
  have each (byte : UInt8) : (meaning byte).filterMap Token.data? = [byte] := by
    unfold meaning
    split <;> rfl
  simp only [each, List.flatMap_singleton']

/-- Each byte that needs a marker is announced once. -/
theorem count_pending_meaning (data : Bytes) :
    (data.flatMap meaning).count .pending = data.countP needsEscape := by
  induction data with
  | nil => rfl
  | cons byte rest inductionHypothesis =>
    rw [List.flatMap_cons, List.count_append, inductionHypothesis, List.countP_cons, Nat.add_comm]
    congr 1
    unfold meaning
    split <;> rfl

theorem mem_meaning {data : Bytes} {token : Token} (found : token ∈ data.flatMap meaning) :
    token = .pending ∨ ∃ byte, token = .data byte := by
  obtain ⟨byte, -, found⟩ := List.mem_flatMap.mp found
  unfold meaning at found
  split at found
  · rcases List.mem_cons.mp found with marker | value
    · exact .inl marker
    · exact .inr ⟨byte, List.mem_singleton.mp value⟩
  · exact .inr ⟨byte, List.mem_singleton.mp found⟩

end Meaning

/-- Each marker on a line announces a byte that needs one: the byte behind it is the masked form of a
marker, a delimiter or an abort. -/
def WellMarked (line : Bytes) : Prop :=
  ∀ before after, line = before ++ escape :: after →
    ∃ masked rest, after = masked :: rest ∧ masked ∈ [0x5D, 0x5E, 0x5F]

section Markers

variable {byte masked : UInt8} {rest : Bytes}

/-- The bytes that need a marker, masked. -/
theorem mem_masked_iff (byte : UInt8) :
    byte ∈ [0x5D, 0x5E, 0x5F] ↔ needsEscape (byte ^^^ escapeMask) = true := by
  revert byte
  exact Checksum.forall_byte (by decide +kernel)

theorem wellMarked_nil : WellMarked [] := by
  intro before after split
  cases before <;> cases split

theorem WellMarked.tail (marked : WellMarked (byte :: rest)) : WellMarked rest := by
  intro before after split
  exact marked (byte :: before) after (congrArg (byte :: ·) split)

theorem WellMarked.announced (marked : WellMarked (escape :: rest)) :
    ∃ masked later, rest = masked :: later ∧ masked ∈ [0x5D, 0x5E, 0x5F] :=
  marked [] rest rfl

/-- Only a marker has to announce something. -/
theorem WellMarked.cons (marked : WellMarked rest) (data : byte ≠ escape) : WellMarked (byte :: rest) := by
  intro before after split
  cases before with
  | nil => exact absurd (List.cons.inj split).1 data
  | cons first before => exact marked before after (List.cons.inj split).2

theorem WellMarked.mark (marked : WellMarked (masked :: rest)) (special : masked ∈ [0x5D, 0x5E, 0x5F]) :
    WellMarked (escape :: masked :: rest) := by
  intro before after split
  cases before with
  | nil => exact ⟨masked, rest, (List.cons.inj split).2.symm, special⟩
  | cons first before => exact marked before after (List.cons.inj split).2

theorem wellMarked_stuffAll (data : Bytes) : WellMarked (stuffAll data) := by
  induction data with
  | nil => exact wellMarked_nil
  | cons byte rest inductionHypothesis =>
    rw [stuffAll_cons]
    cases special : needsEscape byte with
    | false =>
      rw [stuff_of_plain special]
      exact inductionHypothesis.cons (ne_of_plain special).2.2
    | true =>
      have data := (ne_of_plain (needsEscape_mask byte special)).2.2
      have masked : byte ^^^ escapeMask ∈ [0x5D, 0x5E, 0x5F] := by
        rw [mem_masked_iff, UInt8.xor_assoc, UInt8.xor_self, UInt8.xor_zero]
        exact special
      rw [stuff_of_special special]
      exact (inductionHypothesis.cons data).mark masked

/-- What a line without superfluous markers is decoded to has that line as its line form. A marker that came
before the line belongs to it. -/
theorem stuffAll_decode {line : Bytes} (plain : ∀ byte ∈ line, byte ≠ start ∧ byte ≠ reset)
    (escaped : Bool) (marked : WellMarked ((if escaped then [escape] else []) ++ line)) :
    stuffAll (decode escaped line) = (if escaped then [escape] else []) ++ line := by
  induction line generalizing escaped with
  | nil =>
    cases escaped with
    | false => rfl
    | true =>
      obtain ⟨masked, later, none, -⟩ := marked.announced
      cases none
  | cons byte rest inductionHypothesis =>
    rw [List.forall_mem_cons] at plain
    obtain ⟨⟨notStart, notReset⟩, plain⟩ := plain
    rw [decode]
    by_cases marker : byte = escape
    · subst marker
      rw [if_pos rfl]
      cases escaped with
      | false => exact inductionHypothesis plain true marked
      | true =>
        obtain ⟨masked, later, next, special⟩ := marked.announced
        rw [← (List.cons.inj next).1] at special
        exact absurd special (by decide)
    · rw [if_neg marker, stuffAll_cons]
      cases escaped with
      | false =>
        have ordinary : needsEscape byte = false := by simp [needsEscape, notStart, notReset, marker]
        have behind := inductionHypothesis plain false marked.tail
        rw [unmask, if_neg Bool.false_ne_true, stuff_of_plain ordinary, behind]
        rfl
      | true =>
        obtain ⟨masked, later, next, special⟩ := marked.announced
        obtain ⟨rfl, -⟩ := List.cons.inj next
        have behind := inductionHypothesis plain false marked.tail.tail
        rw [unmask, if_pos rfl, stuff_of_special ((mem_masked_iff byte).mp special), behind,
          UInt8.xor_assoc, UInt8.xor_self, UInt8.xor_zero]
        rfl

/-- A marker before a byte that needs none is decoded, but not put back. -/
example : decode false [escape, 0x41] = [0x61] ∧ stuffAll [0x61] = [0x61] := by
  decide

end Markers

/-- What is read of the line form of some data: the data in order, a marker for each byte that needs one, and
nothing else. -/
structure Restores (data : Bytes) (tokens : List Token) (final : Decoder) : Prop where
  order : tokens = data.flatMap meaning
  delivered : delivered tokens = data
  pending : tokens.count .pending = data.countP needsEscape
  others : ∀ token ∈ tokens, token = .pending ∨ ∃ byte, token = .data byte
  final : final = ⟨false⟩

theorem restores (data : Bytes) : Restores data (data.flatMap meaning) ⟨false⟩ where
  order := rfl
  delivered := delivered_meaning data
  pending := count_pending_meaning data
  others _ := mem_meaning
  final := rfl

/-- Stuffing loses nothing, however the line is cut, and decoding loses only what no stuffing puts on a line. -/
theorem invertible :
    (∀ data, start ∉ stuffAll data ∧ reset ∉ stuffAll data) ∧
    (∀ data pieces, pieces.flatten = stuffAll data →
      Restores data (Decoder.readPieces ⟨false⟩ pieces).1 (Decoder.readPieces ⟨false⟩ pieces).2) ∧
    (∀ (first second : Decoder) (byte : UInt8), byte = start ∨ byte = reset →
      ∀ later, first.readPieces ([byte] :: later) = second.readPieces ([byte] :: later)) ∧
    ∀ pieces : List Bytes, start ∉ pieces.flatten → reset ∉ pieces.flatten →
      let found := delivered (Decoder.readPieces ⟨false⟩ pieces).1
      (stuffAll found = pieces.flatten ↔ ∃ data, pieces.flatten = stuffAll data) ∧
        ((∃ data, pieces.flatten = stuffAll data) ↔ WellMarked pieces.flatten) := by
  refine ⟨?_, ?_, ?_, ?_⟩
  · intro data
    exact ⟨fun found => (plain_stuffAll data _ found).1 rfl, fun found => (plain_stuffAll data _ found).2 rfl⟩
  · intro data pieces line
    rw [Decoder.readPieces_eq, line, read_stuffAll]
    exact restores data
  · intro first second byte control later
    rw [Decoder.readPieces_eq, Decoder.readPieces_eq, List.flatten_cons, List.singleton_append,
      Decoder.read_cons, Decoder.read_cons, first.feed_of_control second control]
  · intro pieces notStart notReset found
    have plain : ∀ byte ∈ pieces.flatten, byte ≠ start ∧ byte ≠ reset :=
      fun byte inside => ⟨ne_of_mem_of_not_mem inside notStart, ne_of_mem_of_not_mem inside notReset⟩
    have decoded : found = decode false pieces.flatten := by
      simp only [found, Decoder.readPieces_eq]
      exact delivered_read plain false
    rw [decoded]
    refine ⟨⟨fun same => ⟨_, same.symm⟩, ?_⟩, ⟨?_, ?_⟩⟩
    · rintro ⟨data, line⟩
      rw [line, decode_stuffAll]
    · rintro ⟨data, line⟩
      rw [line]
      exact wellMarked_stuffAll data
    · intro marked
      exact ⟨_, (stuffAll_decode plain false marked).symm⟩

end FramedLine.Stuffing
