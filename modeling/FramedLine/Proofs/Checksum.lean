import FramedLine.Checksum

/-!
The two forms of the checksum are one division, and the register is zero after a packet and its
checksum, but after no other two bytes.
-/

namespace FramedLine.Checksum

/-- A property of bytes is checked value by value. -/
theorem forall_byte {property : UInt8 → Prop} (all : ∀ value : Fin 256, property (.ofFin value))
    (byte : UInt8) : property byte :=
  all byte.toFin

section Division

theorem low_bit (register : UInt16) : register &&& 1 = 0 ∨ register &&& 1 = 1 := by
  have remainder : (register &&& 1).toNat = register.toNat % 2 := by
    rw [UInt16.toNat_and]
    exact Nat.and_one_is_mod _
  rcases Nat.mod_two_eq_zero_or_one register.toNat with even | odd
  · exact .inl (UInt16.toNat.inj (by rw [remainder, even]; rfl))
  · exact .inr (UInt16.toNat.inj (by rw [remainder, odd]; rfl))

theorem low_bit_xor (left right : UInt16) :
    (left ^^^ right) &&& 1 = (left &&& 1) ^^^ (right &&& 1) := by
  apply UInt16.toBitVec_inj.mp
  ext index inside
  simp only [UInt16.toBitVec_and, UInt16.toBitVec_xor, BitVec.getElem_and, BitVec.getElem_xor]
  exact Bool.and_xor_distrib_right _ _ _

/-- Division is linear: the remainder of a sum is the sum of the remainders. -/
theorem divideBit_xor (left right : UInt16) :
    divideBit (left ^^^ right) = divideBit left ^^^ divideBit right := by
  have exchange : ∀ first second third : UInt16,
      first ^^^ second ^^^ third = first ^^^ third ^^^ second := by
    intro first second third
    rw [UInt16.xor_assoc, UInt16.xor_comm second, UInt16.xor_assoc]
  unfold divideBit
  rw [low_bit_xor, UInt16.shiftRight_xor]
  rcases low_bit left with leftEven | leftOdd <;> rcases low_bit right with rightEven | rightOdd
  · simp [leftEven, rightEven]
  · simp [leftEven, rightOdd, UInt16.xor_assoc]
  · simp [leftOdd, rightEven, exchange _ polynomial]
  · have cancelled : right >>> 1 ^^^ polynomial ^^^ polynomial = right >>> 1 := by
      rw [UInt16.xor_assoc, UInt16.xor_self, UInt16.xor_zero]
    rw [leftOdd, rightOdd, if_pos rfl, if_pos rfl, exchange _ polynomial,
      UInt16.xor_assoc _ (right >>> 1 ^^^ polynomial), cancelled]
    rfl

theorem divideBits_xor (bits : Nat) (left right : UInt16) :
    divideBits bits (left ^^^ right) = divideBits bits left ^^^ divideBits bits right := by
  induction bits generalizing left right with
  | zero => rfl
  | succ bits inductionHypothesis =>
    rw [divideBits, divideBit_xor, inductionHypothesis]
    rfl

/-- A register is its high byte and its low byte. -/
theorem high_xor_low (register : UInt16) :
    (register >>> 8).toUInt8.toUInt16 <<< 8 ^^^ register.toUInt8.toUInt16 = register := by
  apply UInt16.toBitVec_inj.mp
  ext index inside
  simp only [UInt16.toBitVec_xor, UInt16.toBitVec_shiftLeft, UInt8.toBitVec_toUInt16,
    UInt16.toBitVec_toUInt8, UInt16.toBitVec_shiftRight]
  by_cases low : index < 8
  · simp [low, BitVec.getLsbD_eq_getElem inside]
  · have place : 8 + (index - 8) = index := by omega
    simp [low, place, BitVec.getLsbD_eq_getElem inside, show index - 8 < 8 by omega]

/-- The high byte of a register is too far up to meet the polynomial. -/
theorem divideBits_high (byte : UInt8) : divideBits 8 (byte.toUInt16 <<< 8) = byte.toUInt16 := by
  revert byte
  exact forall_byte (by decide +kernel)

end Division

/-- What a byte leaves in a clear register. -/
def remainder (byte : UInt8) : UInt16 :=
  divideBits 8 byte.toUInt16

/-- The shifts of a step are the division of one byte. -/
theorem remainder_eq (byte : UInt8) : remainder byte =
    (byte ^^^ byte <<< 4).toUInt16 <<< 8 ^^^ ((byte ^^^ byte <<< 4) >>> 4).toUInt16 ^^^
      (byte ^^^ byte <<< 4).toUInt16 <<< 3 := by
  revert byte
  exact forall_byte (by decide +kernel)

theorem step_eq (register : UInt16) (byte : UInt8) :
    step register byte = register >>> 8 ^^^ remainder (byte ^^^ register.toUInt8) := by
  have apart : ∀ high : UInt8,
      high.toUInt16 <<< 8 ||| register >>> 8 = register >>> 8 ^^^ high.toUInt16 <<< 8 := by
    intro high
    apply UInt16.toBitVec_inj.mp
    ext index inside
    simp only [UInt16.toBitVec_or, UInt16.toBitVec_xor, UInt16.toBitVec_shiftLeft,
      UInt8.toBitVec_toUInt16, UInt16.toBitVec_shiftRight]
    by_cases low : index < 8
    · simp [low]
    · simp [low, BitVec.getLsbD_of_ge register.toBitVec (8 + index) (by omega)]
  simp only [step]
  rw [apart, remainder_eq, UInt16.xor_assoc, UInt16.xor_assoc, UInt16.xor_assoc]

/-- Both forms of the checksum divide by the same polynomial. -/
theorem step_eq_divideByte (register : UInt16) (byte : UInt8) :
    step register byte = divideByte register byte := by
  have high : (register >>> 8).toUInt8.toUInt16 = register >>> 8 := by
    have bound := register.toNat_lt
    apply UInt16.toNat.inj
    simp [Nat.shiftRight_eq_div_pow]
    omega
  unfold divideByte
  conv => rhs; rw [← high_xor_low register, UInt16.xor_assoc]
  rw [divideBits_xor, divideBits_high, high, step_eq, remainder, UInt8.toUInt16_xor,
    UInt16.xor_comm byte.toUInt16]

theorem fold_eq_ofBytes (data : Bytes) : fold initial data = ofBytes data := by
  have same : step = divideByte := funext fun register => funext (step_eq_divideByte register)
  rw [fold, ofBytes, same]

section Closing

/-- Only the zero byte leaves a remainder without a high byte. -/
theorem eq_zero_of_remainder (byte : UInt8) : remainder byte >>> 8 = 0 → byte = 0 := by
  revert byte
  exact forall_byte (by decide +kernel)

/-- The high byte of a register. -/
theorem high_high (register : UInt16) : register >>> 8 >>> 8 = 0 := by
  have bound := register.toNat_lt
  apply UInt16.toNat.inj
  simp [Nat.shiftRight_eq_div_pow]
  omega

/-- A step clears the register only with the byte that the register ends in. -/
theorem step_eq_zero (register : UInt16) (byte : UInt8) :
    step register byte = 0 ↔ byte = register.toUInt8 ∧ register >>> 8 = 0 := by
  rw [step_eq]
  constructor
  · intro zero
    have same := UInt16.xor_eq_zero_iff.mp zero
    have none := eq_zero_of_remainder _ (by rw [← same, high_high])
    rw [none] at same
    exact ⟨UInt8.xor_eq_zero_iff.mp none, same⟩
  · rintro ⟨rfl, none⟩
    rw [none, UInt8.xor_self]
    rfl

/-- A step leaves no high byte only with the byte that the register ends in. -/
theorem step_high_eq_zero (register : UInt16) (byte : UInt8) :
    step register byte >>> 8 = 0 ↔ byte = register.toUInt8 := by
  rw [step_eq, UInt16.shiftRight_xor, high_high, UInt16.zero_xor]
  constructor
  · intro none
    exact UInt8.xor_eq_zero_iff.mp (eq_zero_of_remainder _ none)
  · rintro rfl
    rw [UInt8.xor_self]
    rfl

/-- Two bytes clear the register if they are its trailer, and no other two bytes do. -/
theorem fold_pair_eq_zero (register : UInt16) (first second : UInt8) :
    fold register [first, second] = 0 ↔ [first, second] = trailer register := by
  rw [fold_cons, fold_cons, fold_nil, step_eq_zero, step_high_eq_zero, and_comm, trailer,
    List.cons.injEq, List.cons.injEq, and_iff_left rfl]
  apply and_congr_right
  rintro rfl
  rw [step_eq, UInt8.xor_self]
  have none : register >>> 8 ^^^ remainder 0 = register >>> 8 := UInt16.xor_zero
  rw [none]

end Closing

/-- A payload with its checksum. -/
def sealed (payload : Bytes) : Bytes :=
  payload ++ trailer (ofBytes payload)

/-- The payload of a string that is longer than a checksum and ends in its own. -/
def unseal? (data : Bytes) : Option Bytes :=
  let length := data.length - width
  if width < data.length ∧ data.drop length = trailer (ofBytes (data.take length)) then
    some (data.take length)
  else
    none

@[simp] theorem length_sealed (payload : Bytes) : (sealed payload).length = payload.length + width := by
  rw [sealed, List.length_append, length_trailer]

/-- A payload can be told from what it is sealed to. -/
theorem sealed_injective : Function.Injective sealed :=
  fun _ _ same => List.append_inj_left' same rfl

/-- The register is clear after a string that is longer than a checksum exactly if it is sealed. -/
theorem unseal?_eq (data : Bytes) (long : width < data.length) : unseal? data =
    if fold initial data = 0 then some (data.take (data.length - width)) else none := by
  have closing : (data.drop (data.length - width)).length = 2 := by
    rw [List.length_drop]
    exact Nat.sub_sub_self (Nat.le_of_lt long)
  obtain ⟨first, second, pair⟩ : ∃ first second,
      data.drop (data.length - width) = [first, second] := by
    match data.drop (data.length - width), closing with
    | [first, second], _ => exact ⟨first, second, rfl⟩
  have clear : fold initial data = 0 ↔ data.drop (data.length - width) =
      trailer (ofBytes (data.take (data.length - width))) := by
    conv => lhs; rw [← data.take_append_drop (data.length - width)]
    rw [fold_append, pair, fold_pair_eq_zero, fold_eq_ofBytes]
  simp only [unseal?, long, true_and, clear]

theorem unseal?_of_short (data : Bytes) (short : data.length ≤ width) : unseal? data = none :=
  if_neg fun found => Nat.not_lt.mpr short found.1

theorem unseal?_sealed (payload : Bytes) (filled : payload ≠ []) :
    unseal? (sealed payload) = some payload := by
  have positive := List.length_pos_iff.mpr filled
  have body : (sealed payload).take payload.length = payload := List.take_left
  have rest : (sealed payload).drop payload.length = trailer (ofBytes payload) := List.drop_left
  simp only [unseal?, length_sealed, Nat.add_sub_cancel, body, rest, and_true]
  exact if_pos (by omega)

end FramedLine.Checksum
