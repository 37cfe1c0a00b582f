import FramedLine.Proofs.Checksum

/-!
What the checksum detects. A step loses nothing of the register, and two bytes in a row decide on all of
it, so that two strings which are the same but for two neighbouring bytes never leave the same register.
-/

namespace FramedLine.Checksum

section Steps

/-- A step is linear, like the division that it is. -/
theorem step_xor (left right : UInt16) (first second : UInt8) :
    step (left ^^^ right) (first ^^^ second) = step left first ^^^ step right second := by
  simp only [step_eq_divideByte, divideByte]
  rw [← divideBits_xor, UInt8.toUInt16_xor]
  congr 1
  ac_rfl

/-- A register is zero if its high byte and its low byte are. -/
theorem eq_zero_of_bytes {register : UInt16} (high : register >>> 8 = 0) (low : register.toUInt8 = 0) :
    register = 0 := by
  rw [← high_xor_low register, high, low]
  rfl

/-- Which register a byte met can be told from the register after it. -/
theorem step_injective (byte : UInt8) : Function.Injective fun register => step register byte := by
  intro left right same
  have met : step left byte = step right byte := same
  have clear : step (left ^^^ right) (byte ^^^ byte) = 0 := by rw [step_xor, met, UInt16.xor_self]
  obtain ⟨low, high⟩ := (step_eq_zero _ _).mp clear
  rw [UInt8.xor_self] at low
  exact UInt16.xor_eq_zero_iff.mp (eq_zero_of_bytes high low.symm)

theorem fold_injective (data : Bytes) : Function.Injective fun register => fold register data := by
  induction data with
  | nil => exact Function.injective_id
  | cons byte rest inductionHypothesis => exact inductionHypothesis.comp (step_injective byte)

/-- Which byte a register met can be told from the register after it. -/
theorem eq_of_step_eq (register : UInt16) {first second : UInt8}
    (same : step register first = step register second) : first = second := by
  have clear : step (register ^^^ register) (first ^^^ second) = 0 := by
    rw [step_xor, same, UInt16.xor_self]
  obtain ⟨low, -⟩ := (step_eq_zero _ _).mp clear
  rw [UInt16.xor_self] at low
  exact UInt8.xor_eq_zero_iff.mp low

/-- The high byte of the register tells which byte it met last, and the rest of it tells the next one. -/
theorem eq_of_step_step_eq (register : UInt16) {first second third fourth : UInt8}
    (same : step (step register first) second = step (step register third) fourth) :
    first = third ∧ second = fourth := by
  have apart : step (step register first ^^^ step register third) (second ^^^ fourth) = 0 := by
    rw [step_xor, same, UInt16.xor_self]
  have high := ((step_eq_zero _ _).mp apart).2
  rw [← step_xor, UInt16.xor_self, step_high_eq_zero] at high
  obtain rfl := UInt8.xor_eq_zero_iff.mp high
  exact ⟨rfl, eq_of_step_eq _ same⟩

end Steps

/-- Strings of one length that are the same but for the byte at `place` and the one behind it. -/
structure AgreeOutside (place : Nat) (first second : Bytes) : Prop where
  length : first.length = second.length
  agree : ∀ index, index ≠ place → index ≠ place + 1 → first[index]? = second[index]?

/-- Such strings are told apart by the register, whatever it was before them. -/
theorem AgreeOutside.eq_of_fold_eq {place : Nat} {first second : Bytes} {register : UInt16}
    (outside : AgreeOutside place first second) (same : fold register first = fold register second) :
    first = second := by
  induction place generalizing first second register with
  | zero =>
    obtain ⟨length, agree⟩ := outside
    match first, second, length with
    | [], [], _ => rfl
    | [byte], [other], _ => rw [eq_of_step_eq register same]
    | byte :: next :: rest, other :: following :: later, _ =>
      have behind : rest = later := by
        apply List.ext_getElem?
        intro index
        exact agree (index + 2) (Nat.succ_ne_zero _) (Nat.succ_ne_succ_iff.mpr (Nat.succ_ne_zero _))
      subst behind
      simp only [fold_cons] at same
      obtain ⟨rfl, rfl⟩ := eq_of_step_step_eq register (fold_injective rest same)
      rfl
  | succ place inductionHypothesis =>
    obtain ⟨length, agree⟩ := outside
    match first, second, length with
    | [], [], _ => rfl
    | byte :: rest, other :: later, length =>
      obtain rfl : byte = other :=
        Option.some.inj (agree 0 (Nat.succ_ne_zero _).symm (Nat.succ_ne_zero _).symm)
      have behind : AgreeOutside place rest later := by
        refine ⟨Nat.succ.inj length, fun index before after => ?_⟩
        exact agree (index + 1) (Nat.succ_ne_succ_iff.mpr before) (Nat.succ_ne_succ_iff.mpr after)
      rw [inductionHypothesis behind same]

/-- A string with another byte in the place of one of its own. -/
theorem agreeOutside_replace (front back : Bytes) (old new : UInt8) :
    AgreeOutside front.length (front ++ old :: back) (front ++ new :: back) where
  length := by rw [List.length_append, List.length_append, List.length_cons, List.length_cons]
  agree := by
    intro index other _
    rcases Nat.lt_or_gt_of_ne other with before | behind
    · rw [List.getElem?_append_left before, List.getElem?_append_left before]
    · rw [List.getElem?_append_right (Nat.le_of_lt behind),
        List.getElem?_append_right (Nat.le_of_lt behind)]
      obtain ⟨more, length⟩ := Nat.exists_eq_add_of_lt behind
      rw [show index - front.length = more + 1 by omega, List.getElem?_cons_succ,
        List.getElem?_cons_succ]

/-- The register is clear after a payload and its checksum. -/
theorem fold_sealed (payload : Bytes) : fold initial (sealed payload) = 0 := by
  rw [sealed, fold_append, fold_eq_ofBytes]
  exact (fold_pair_eq_zero _ _ _).mpr rfl

/-- What a string that was sealed becomes by such a damage is not sealed. -/
theorem AgreeOutside.unseal?_eq_none {place : Nat} {payload damaged : Bytes}
    (outside : AgreeOutside place damaged (sealed payload)) (different : damaged ≠ sealed payload) :
    unseal? damaged = none := by
  rcases Nat.lt_or_ge width damaged.length with long | short
  · rw [unseal?_eq damaged long]
    apply if_neg
    intro clear
    exact different (outside.eq_of_fold_eq (clear.trans (fold_sealed payload).symm))
  · exact unseal?_of_short damaged short

end FramedLine.Checksum
