/-!
The sizes of a packet ring. Both of its arrays have a power of two of slots, at least two and at most
256, so that an index is a masked word and fits one byte.
-/

namespace FramedLine

/-- A number of slots, given by its binary logarithm. -/
structure RingSize where
  exponent : Nat
  one_le_exponent : 1 ≤ exponent := by decide
  exponent_le_eight : exponent ≤ 8 := by decide
  deriving DecidableEq, Repr

namespace RingSize

/-- The number of slots. -/
def slots (size : RingSize) : Nat :=
  1 <<< size.exponent

/-- The number of slots as a machine word. -/
def word (size : RingSize) : UInt64 :=
  UInt64.ofNat size.slots

theorem two_le_slots (size : RingSize) : 2 ≤ size.slots := by
  rw [slots, Nat.one_shiftLeft]
  exact Nat.pow_le_pow_right (n := 2) (by decide) size.one_le_exponent

theorem slots_le (size : RingSize) : size.slots ≤ 256 := by
  rw [slots, Nat.one_shiftLeft]
  exact Nat.pow_le_pow_right (n := 2) (by decide) size.exponent_le_eight

theorem slots_pos (size : RingSize) : 0 < size.slots :=
  Nat.lt_of_lt_of_le (by decide) size.two_le_slots

@[simp] theorem toNat_word (size : RingSize) : size.word.toNat = size.slots :=
  UInt64.toNat_ofNat_of_lt' (Nat.lt_of_le_of_lt size.slots_le (by decide))

/-- The size with the given number of slots, if there is one. -/
def ofNat? (slots : Nat) : Option RingSize :=
  if admissible : slots = 1 <<< slots.log2 ∧ 1 ≤ slots.log2 ∧ slots.log2 ≤ 8 then
    some ⟨slots.log2, admissible.2.1, admissible.2.2⟩
  else
    none

end RingSize

/-- The sizes of a packet ring: its bytes, and the marks between its packets. -/
structure Geometry where
  bytes : RingSize
  marks : RingSize
  deriving DecidableEq, Repr

/-- The sizes that a link has unless others are chosen: 32 bytes and 8 marks. -/
def Geometry.standard : Geometry := ⟨⟨5, by decide, by decide⟩, ⟨3, by decide, by decide⟩⟩

instance : Inhabited Geometry := ⟨.standard⟩

end FramedLine
