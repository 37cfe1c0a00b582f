import FramedLine.Circular
import FramedLine.Geometry

/-!
Positions on a circle. A position counts every slot that was ever passed, without wrapping, and `index`
is the slot that it falls on. The index arithmetic of a ring is then the arithmetic of positions that
lie less than one turn apart.
-/

namespace FramedLine

namespace Circular

variable {size : UInt64}

theorem add_ok {left right : UInt64} (inRange : left.toNat + right.toNat < UInt64.size) :
    add left right = .ok (left + right) :=
  if_pos inRange

theorem sub_ok {left right : UInt64} (ordered : right.toNat ≤ left.toNat) :
    sub left right = .ok (left - right) :=
  if_pos (UInt64.le_iff_toNat_le.mpr ordered)

/-- The mask of a circle takes a word to its remainder. -/
theorem mask_ok (power : size.toNat.isPowerOfTwo) : mask size = .ok (size - 1) :=
  sub_ok (Nat.pos_of_isPowerOfTwo power)

theorem toNat_and_mask (power : size.toNat.isPowerOfTwo) (value : UInt64) :
    (value &&& (size - 1)).toNat = value.toNat % size.toNat := by
  have positive : (1 : UInt64) ≤ size :=
    UInt64.le_iff_toNat_le.mpr (Nat.pos_of_isPowerOfTwo power)
  obtain ⟨exponent, power⟩ := power
  rw [UInt64.toNat_and, UInt64.toNat_sub_of_le _ _ positive, power]
  exact Nat.and_two_pow_sub_one_eq_mod _ _

theorem and_mask (power : size.toNat.isPowerOfTwo) (value : UInt64) :
    value &&& (size - 1) = .ofNat (value.toNat % size.toNat) := by
  apply UInt64.toNat.inj
  rw [toNat_and_mask power, UInt64.toNat_ofNat_of_lt']
  exact Nat.lt_of_le_of_lt (Nat.mod_le _ _) value.toNat_lt

/-- The slot some steps ahead is a remainder, unless the sum leaves its word. -/
theorem advance_ok (power : size.toNat.isPowerOfTwo) {index steps : UInt64}
    (inRange : index.toNat + steps.toNat < UInt64.size) :
    advance index steps size = .ok (.ofNat ((index.toNat + steps.toNat) % size.toNat)) := by
  simp only [advance, add_ok inRange, mask_ok power, bind, Except.bind, pure, Except.pure]
  rw [and_mask power, UInt64.toNat_add, Nat.mod_eq_of_lt inRange]

/-- The words go around a circle some number of times. -/
theorem size_dvd (power : size.toNat.isPowerOfTwo) : size.toNat ∣ UInt64.size := by
  have below := size.toNat_lt
  obtain ⟨exponent, power⟩ := power
  rw [power] at below ⊢
  have small := (Nat.pow_lt_pow_iff_right (by decide)).mp below
  exact Nat.pow_dvd_pow 2 (Nat.le_of_lt small)

/-- The distance from one index to another is the remainder of their difference. -/
theorem count_ok (power : size.toNat.isPowerOfTwo) (head tail : UInt64) :
    count head tail size =
      .ok (.ofNat ((head.toNat + (UInt64.size - tail.toNat)) % size.toNat)) := by
  simp only [count, mask_ok power, bind, Except.bind, pure, Except.pure]
  rw [and_mask power, UInt64.toNat_sub, Nat.mod_mod_of_dvd _ (size_dvd power), Nat.add_comm]

/-- Sizes are at most half of the words. -/
theorem size_le (power : size.toNat.isPowerOfTwo) : size.toNat ≤ UInt64.size / 2 := by
  obtain ⟨exponent, power⟩ := power
  have below := size.toNat_lt
  rw [power] at below ⊢
  have small := (Nat.pow_lt_pow_iff_right (by decide)).mp below
  have half : 2 ^ exponent ≤ 2 ^ 63 := Nat.pow_le_pow_right (by decide) (by omega)
  exact half

/-- Indices of the circle have a distance that wraps at the size. -/
theorem count_of_le (power : size.toNat.isPowerOfTwo) {head tail : UInt64}
    (tailInside : tail.toNat ≤ size.toNat) :
    count head tail size =
      .ok (.ofNat ((head.toNat + (size.toNat - tail.toNat)) % size.toNat)) := by
  obtain ⟨turns, whole⟩ := Nat.dvd_sub (size_dvd power) (Nat.dvd_refl size.toNat)
  have below := size.toNat_lt
  have words : UInt64.size = 2 ^ 64 := rfl
  have split : head.toNat + (UInt64.size - tail.toNat) =
      head.toNat + (size.toNat - tail.toNat) + size.toNat * turns := by omega
  rw [count_ok power, split, Nat.add_mul_mod_self_left]

/-- The slots that can be occupied run from the head to the one before the tail. -/
theorem space_of_lt (power : size.toNat.isPowerOfTwo) {head tail : UInt64}
    (headInside : head.toNat < size.toNat) :
    space head tail size =
      .ok (.ofNat ((tail.toNat + (size.toNat - (head.toNat + 1))) % size.toNat)) := by
  have bound : size.toNat ≤ 2 ^ 63 := size_le power
  have sum : head.toNat + (1 : UInt64).toNat < 2 ^ 64 := by
    rw [UInt64.toNat_one]
    omega
  have after : (head + 1).toNat = head.toNat + 1 := by
    rw [UInt64.toNat_add, Nat.mod_eq_of_lt sum, UInt64.toNat_one]
  simp only [space, add_ok sum, bind, Except.bind]
  rw [count_of_le power (by omega), after]

/-- The occupied slots before the end of the array are all of them or those up to the end. -/
theorem countToEnd_of_lt (power : size.toNat.isPowerOfTwo) {head tail : UInt64}
    (headInside : head.toNat < size.toNat) (tailInside : tail.toNat < size.toNat) :
    countToEnd head tail size =
      .ok (.ofNat (min ((head.toNat + (size.toNat - tail.toNat)) % size.toNat)
        (size.toNat - tail.toNat))) := by
  have bound : size.toNat ≤ 2 ^ 63 := size_le power
  have ordered : tail ≤ size := UInt64.le_iff_toNat_le.mpr (by omega)
  have toEnd : (size - tail).toNat = size.toNat - tail.toNat := UInt64.toNat_sub_of_le _ _ ordered
  have sum : head.toNat + (size - tail).toNat < 2 ^ 64 := by omega
  simp only [countToEnd, sub_ok (UInt64.le_iff_toNat_le.mp ordered), add_ok sum, mask_ok power, bind,
    Except.bind, pure, Except.pure]
  congr 1
  apply UInt64.toNat.inj
  have occupied : ((head + (size - tail)) &&& (size - 1)).toNat =
      (head.toNat + (size.toNat - tail.toNat)) % size.toNat := by
    rw [toNat_and_mask power, UInt64.toNat_add, Nat.mod_eq_of_lt sum, toEnd]
  rw [UInt64.toNat_ofNat_of_lt' (show _ < 2 ^ 64 by omega)]
  split
  next fewer =>
    rw [UInt64.lt_iff_toNat_lt, occupied, toEnd] at fewer
    rw [occupied]
    omega
  next enough =>
    rw [UInt64.lt_iff_toNat_lt, occupied, toEnd] at enough
    rw [toEnd]
    omega

/-- The free slots before the end of the array are all of them or those up to the end. -/
theorem spaceToEnd_of_lt (power : size.toNat.isPowerOfTwo) {head tail : UInt64}
    (headInside : head.toNat < size.toNat) (tailInside : tail.toNat < size.toNat) :
    spaceToEnd head tail size =
      .ok (.ofNat (min ((tail.toNat + (size.toNat - (head.toNat + 1))) % size.toNat)
        (size.toNat - head.toNat))) := by
  have bound : size.toNat ≤ 2 ^ 63 := size_le power
  have positive : (1 : UInt64) ≤ size := UInt64.le_iff_toNat_le.mpr (by rw [UInt64.toNat_one]; omega)
  have last : (size - 1).toNat = size.toNat - 1 := UInt64.toNat_sub_of_le _ _ positive
  have ordered : head ≤ size - 1 := UInt64.le_iff_toNat_le.mpr (by omega)
  have toEnd : (size - 1 - head).toNat = size.toNat - 1 - head.toNat := by
    rw [UInt64.toNat_sub_of_le _ _ ordered, last]
  have sum : (size - 1 - head).toNat + tail.toNat < 2 ^ 64 := by omega
  have one : (size - 1 - head).toNat + (1 : UInt64).toNat < 2 ^ 64 := by
    rw [UInt64.toNat_one]
    omega
  simp only [spaceToEnd, mask_ok power, sub_ok (UInt64.le_iff_toNat_le.mp ordered), add_ok sum,
    add_ok one, bind, Except.bind, pure, Except.pure]
  have free : ((size - 1 - head + tail) &&& (size - 1)).toNat =
      (tail.toNat + (size.toNat - (head.toNat + 1))) % size.toNat := by
    rw [toNat_and_mask power, UInt64.toNat_add, Nat.mod_eq_of_lt sum, toEnd]
    congr 1
    omega
  rw [← apply_ite Except.ok]
  congr 1
  apply UInt64.toNat.inj
  rw [UInt64.toNat_ofNat_of_lt' (show _ < 2 ^ 64 by omega)]
  split
  next fewer =>
    rw [UInt64.le_iff_toNat_le, free, toEnd] at fewer
    rw [free]
    omega
  next enough =>
    rw [UInt64.le_iff_toNat_le, free, toEnd] at enough
    rw [UInt64.toNat_add, Nat.mod_eq_of_lt one, toEnd, UInt64.toNat_one]
    omega

end Circular

/-- A position has its distance from an earlier one, less than one turn before, on the circle. -/
theorem mod_distance {size first second : Nat} (ordered : first ≤ second)
    (near : second < first + size) :
    (second % size + (size - first % size)) % size = second - first := by
  obtain ⟨steps, rfl⟩ := Nat.exists_eq_add_of_le ordered
  have below := Nat.mod_lt first (show 0 < size by omega)
  have whole : first + steps + (size - first % size) = steps + size * (first / size + 1) := by
    have parts := Nat.mod_add_div first size
    rw [Nat.mul_add]
    omega
  rw [Nat.mod_add_mod, whole, Nat.add_mul_mod_self_left, Nat.mod_eq_of_lt (by omega)]
  omega

/-- Positions less than one turn apart fall on different slots. -/
theorem mod_ne {size first second : Nat} (before : first < second) (near : second < first + size) :
    first % size ≠ second % size := by
  intro same
  have distance := mod_distance (Nat.le_of_lt before) near
  have below := Nat.mod_lt first (show 0 < size by omega)
  rw [← same, show first % size + (size - first % size) = size by omega, Nat.mod_self] at distance
  omega

namespace RingSize

variable (size : RingSize)

/-- The slot on which a position falls. -/
def index (position : Nat) : UInt64 :=
  .ofNat (position % size.slots)

@[simp] theorem mod_lt (position : Nat) : position % size.slots < size.slots :=
  Nat.mod_lt _ size.slots_pos

/-- The end of a turn falls on the first slot. -/
theorem end_of_turn (position : Nat) :
    0 % size.slots = (position + (size.slots - position % size.slots)) % size.slots := by
  have below := size.mod_lt position
  rw [← Nat.mod_add_mod, show position % size.slots + (size.slots - position % size.slots) =
    size.slots by omega, Nat.mod_self, Nat.zero_mod]

@[simp] theorem toNat_index (position : Nat) : (size.index position).toNat = position % size.slots :=
  UInt64.toNat_ofNat_of_lt' (Nat.lt_trans (size.mod_lt position)
    (Nat.lt_of_le_of_lt size.slots_le (by decide)))

theorem power : size.word.toNat.isPowerOfTwo :=
  ⟨size.exponent, by rw [toNat_word, slots, Nat.one_shiftLeft]⟩

@[simp] theorem index_turn (position : Nat) :
    size.index (position + size.slots) = size.index position := by
  rw [index, Nat.add_mod_right, index]

/-- An index fits the byte in which it is kept. -/
theorem index_lt (position : Nat) : size.index position < 256 := by
  rw [UInt64.lt_iff_toNat_lt, toNat_index]
  exact Nat.lt_of_lt_of_le (size.mod_lt position) size.slots_le

@[simp] theorem index_mod (position : Nat) : size.index position % 256 = size.index position := by
  apply UInt64.toNat.inj
  rw [UInt64.toNat_mod]
  exact Nat.mod_eq_of_lt (UInt64.lt_iff_toNat_lt.mp (size.index_lt position))

theorem index_ne {first second : Nat} (before : first < second)
    (near : second < first + size.slots) : size.index first ≠ size.index second := by
  intro same
  have slots := congrArg UInt64.toNat same
  rw [toNat_index, toNat_index] at slots
  exact mod_ne before near slots

/-- A number of slots fits a word. -/
theorem toNat_ofNat {count : Nat} (within : count ≤ size.slots) :
    (UInt64.ofNat count).toNat = count := by
  have bound := size.slots_le
  exact UInt64.toNat_ofNat_of_lt' (show count < 2 ^ 64 by omega)

theorem sub_word {count : Nat} (within : count ≤ size.slots) :
    Circular.sub size.word (.ofNat count) = .ok (.ofNat (size.slots - count)) := by
  have word := size.toNat_ofNat within
  have ordered : (UInt64.ofNat count).toNat ≤ size.word.toNat := by
    rw [word, toNat_word]
    exact within
  rw [Circular.sub_ok ordered]
  congr 1
  apply UInt64.toNat.inj
  rw [UInt64.toNat_sub_of_le _ _ (UInt64.le_iff_toNat_le.mpr ordered), word, toNat_word,
    size.toNat_ofNat (Nat.sub_le _ _)]

theorem advance_index {steps : Nat} (position : Nat) (short : steps ≤ size.slots) :
    Circular.advance (size.index position) (.ofNat steps) size.word =
      .ok (size.index (position + steps)) := by
  have bound := size.slots_le
  have below := size.mod_lt position
  have word := size.toNat_ofNat short
  have inRange : (size.index position).toNat + (UInt64.ofNat steps).toNat < 2 ^ 64 := by
    rw [toNat_index, word]
    omega
  rw [Circular.advance_ok size.power inRange, toNat_index, word, toNat_word, Nat.mod_add_mod]
  rfl

theorem next_index (position : Nat) :
    Circular.next (size.index position) size.word = .ok (size.index (position + 1)) :=
  size.advance_index position (Nat.le_of_lt size.two_le_slots)

/-- Going ahead by all slots but some is going back by those. -/
theorem advance_index_back {steps : Nat} (position : Nat) (short : steps ≤ size.slots)
    (behind : steps ≤ position) :
    Circular.advance (size.index position) (.ofNat (size.slots - steps)) size.word =
      .ok (size.index (position - steps)) := by
  rw [size.advance_index position (Nat.sub_le _ _)]
  have turn : position + (size.slots - steps) = position - steps + size.slots := by omega
  rw [turn, index_turn]

section Distance

variable {size} {first second : Nat}

theorem count_index (ordered : first ≤ second) (near : second < first + size.slots) :
    Circular.count (size.index second) (size.index first) size.word =
      .ok (.ofNat (second - first)) := by
  have below := size.mod_lt first
  rw [Circular.count_of_le size.power (by rw [toNat_index, toNat_word]; omega), toNat_index,
    toNat_index, toNat_word, mod_distance ordered near]

/-- The free slots are all but the occupied ones and the one that stays empty. -/
theorem free_distance (ordered : first ≤ second) (near : second < first + size.slots) :
    (first % size.slots + (size.slots - (second % size.slots + 1))) % size.slots =
      size.slots - 1 - (second - first) := by
  have below := size.mod_lt second
  have distance : ((first + size.slots) % size.slots +
      (size.slots - (second + 1) % size.slots)) % size.slots = first + size.slots - (second + 1) :=
    mod_distance (by omega) (by omega)
  rw [Nat.add_mod_right] at distance
  have same : size.slots - 1 - (second - first) = first + size.slots - (second + 1) := by omega
  rw [same, ← distance]
  by_cases last : second % size.slots + 1 = size.slots
  · have wrapped : (second + 1) % size.slots = 0 := by
      rw [← Nat.mod_add_mod, last, Nat.mod_self]
    rw [wrapped, last, Nat.sub_self, Nat.sub_zero, Nat.add_zero, Nat.add_mod_right]
  · have following : (second + 1) % size.slots = second % size.slots + 1 := by
      rw [← Nat.mod_add_mod, Nat.mod_eq_of_lt (by omega)]
    rw [following]

theorem space_index (ordered : first ≤ second) (near : second < first + size.slots) :
    Circular.space (size.index second) (size.index first) size.word =
      .ok (.ofNat (size.slots - 1 - (second - first))) := by
  have below := size.mod_lt second
  rw [Circular.space_of_lt size.power (by rw [toNat_index, toNat_word]; omega), toNat_index,
    toNat_index, toNat_word, free_distance ordered near]

theorem countToEnd_index (ordered : first ≤ second) (near : second < first + size.slots) :
    Circular.countToEnd (size.index second) (size.index first) size.word =
      .ok (.ofNat (min (second - first) (size.slots - first % size.slots))) := by
  rw [Circular.countToEnd_of_lt size.power
    (by rw [toNat_index, toNat_word]; exact size.mod_lt second)
    (by rw [toNat_index, toNat_word]; exact size.mod_lt first),
    toNat_index, toNat_index, toNat_word, mod_distance ordered near]

theorem spaceToEnd_index (ordered : first ≤ second) (near : second < first + size.slots) :
    Circular.spaceToEnd (size.index second) (size.index first) size.word =
      .ok (.ofNat (min (size.slots - 1 - (second - first)) (size.slots - second % size.slots))) := by
  rw [Circular.spaceToEnd_of_lt size.power
    (by rw [toNat_index, toNat_word]; exact size.mod_lt second)
    (by rw [toNat_index, toNat_word]; exact size.mod_lt first),
    toNat_index, toNat_index, toNat_word, free_distance ordered near]

end Distance

end RingSize

end FramedLine
