import FramedLine.Proofs.Circular.Position

/-!
The index arithmetic of a circle as arithmetic of numbers, up to the largest size that a word holds. Between
two indices of a circle lies a distance; every function of indices is told by it, and none leaves its word.
-/

namespace FramedLine.Circular

/-- A computation stays in its words and gives a number. -/
def Gives (result : Checked UInt64) (number : Nat) : Prop :=
  result.map UInt64.toNat = .ok number

/-- How many steps lead from `tail` to `head`. -/
def distance (size head tail : Nat) : Nat :=
  if tail ≤ head then head - tail else head + size - tail

/-- Takes steps one by one. -/
def walk (size : UInt64) : Nat → UInt64 → Checked UInt64
  | 0, index => .ok index
  | steps + 1, index => do walk size steps (← next index size)

section Numbers

variable {size head tail steps : Nat}

/-- Less than one turn ahead of an index, the end of the array is passed once at most. -/
theorem mod_of_steps (inside : tail < size) (short : steps ≤ size) :
    (tail + steps) % size = if tail + steps < size then tail + steps else tail + steps - size := by
  split
  next before => exact Nat.mod_eq_of_lt before
  next beyond => rw [Nat.mod_eq_sub_mod (Nat.not_lt.mp beyond), Nat.mod_eq_of_lt (by omega)]

theorem mod_eq_distance (headInside : head < size) (tailInside : tail < size) :
    (head + (size - tail)) % size = distance size head tail := by
  rw [mod_of_steps headInside (Nat.sub_le _ _), distance]
  split <;> split <;> omega

theorem mod_eq_free (headInside : head < size) (tailInside : tail < size) :
    (tail + (size - (head + 1))) % size = size - 1 - distance size head tail := by
  rw [mod_of_steps tailInside (Nat.sub_le _ _), distance]
  split <;> split <;> omega

theorem distance_lt (headInside : head < size) (tailInside : tail < size) :
    distance size head tail < size := by
  unfold distance
  split <;> omega

/-- The distance is the one number of steps, less than a turn, that leads from one index to the other. -/
theorem mod_eq_iff (headInside : head < size) (tailInside : tail < size) (short : steps < size) :
    (tail + steps) % size = head ↔ steps = distance size head tail := by
  rw [mod_of_steps tailInside (Nat.le_of_lt short), distance]
  split <;> split <;> omega

/-- Steps of the head go away from the tail. -/
theorem distance_head (headInside : head < size) (tailInside : tail < size)
    (room : steps ≤ size - 1 - distance size head tail) :
    distance size ((head + steps) % size) tail = distance size head tail + steps := by
  rw [mod_of_steps headInside (by omega)]
  unfold distance at room ⊢
  split at room <;> split <;> split <;> omega

/-- Steps of the tail go towards the head. -/
theorem distance_tail (headInside : head < size) (tailInside : tail < size)
    (behind : steps ≤ distance size head tail) :
    distance size head ((tail + steps) % size) = distance size head tail - steps := by
  have below := distance_lt headInside tailInside
  rw [mod_of_steps tailInside (by omega)]
  unfold distance at behind ⊢
  split at behind <;> split <;> split <;> omega

end Numbers

theorem gives_ofNat {number : Nat} (small : number < UInt64.size) : Gives (.ok (.ofNat number)) number :=
  congrArg Except.ok (UInt64.toNat_ofNat_of_lt' small)

section Words

variable {size : UInt64} (power : size.toNat.isPowerOfTwo) {head tail index steps : UInt64}
include power

theorem mod_size_lt (number : Nat) : number % size.toNat < size.toNat :=
  Nat.mod_lt _ (Nat.pos_of_isPowerOfTwo power)

theorem toNat_slot (number : Nat) :
    (UInt64.ofNat (number % size.toNat)).toNat = number % size.toNat :=
  UInt64.toNat_ofNat_of_lt' (Nat.lt_trans (mod_size_lt power number) size.toNat_lt)

theorem slot_lt (number : Nat) : UInt64.ofNat (number % size.toNat) < size := by
  rw [UInt64.lt_iff_toNat_lt, toNat_slot power]
  exact mod_size_lt power number

/-- Steps of less than a turn do not leave a word. -/
theorem advance_of_lt (inside : index < size) (short : steps < size) :
    advance index steps size = .ok (.ofNat ((index.toNat + steps.toNat) % size.toNat)) := by
  have half : size.toNat ≤ 2 ^ 63 := size_le power
  rw [UInt64.lt_iff_toNat_lt] at inside short
  exact advance_ok power (show _ < 2 ^ 64 by omega)

theorem next_of_lt (inside : index < size) :
    next index size = .ok (.ofNat ((index.toNat + 1) % size.toNat)) := by
  have half : size.toNat ≤ 2 ^ 63 := size_le power
  rw [UInt64.lt_iff_toNat_lt] at inside
  exact advance_ok power (show index.toNat + (1 : UInt64).toNat < 2 ^ 64 by rw [UInt64.toNat_one]; omega)

/-- Steps one by one lead to where they lead at once. -/
theorem walk_eq (inside : index < size) (steps : Nat) :
    walk size steps index = .ok (.ofNat ((index.toNat + steps) % size.toNat)) := by
  induction steps generalizing index with
  | zero =>
    rw [UInt64.lt_iff_toNat_lt] at inside
    rw [walk, Nat.add_zero, Nat.mod_eq_of_lt inside, UInt64.ofNat_toNat]
  | succ steps inductionHypothesis =>
    have further := inductionHypothesis (slot_lt power (index.toNat + 1))
    rw [toNat_slot power, Nat.mod_add_mod, Nat.add_right_comm, Nat.add_assoc] at further
    simp only [walk, next_of_lt power inside, bind, Except.bind]
    exact further

/-- The distance of any two words is the remainder of their difference. -/
theorem gives_count_emod (head tail : UInt64) :
    Gives (count head tail size) (((head.toNat : Int) - tail.toNat) % size.toNat).toNat := by
  have below := tail.toNat_lt
  obtain ⟨turns, whole⟩ := size_dvd power
  have words : UInt64.size = 2 ^ 64 := rfl
  have around : ((head.toNat + (UInt64.size - tail.toNat) : Nat) : Int) =
      (head.toNat : Int) - tail.toNat + size.toNat * turns := by
    rw [← Int.natCast_mul, ← whole]
    omega
  have remainder : (head.toNat + (UInt64.size - tail.toNat)) % size.toNat =
      (((head.toNat : Int) - tail.toNat) % size.toNat).toNat := by
    rw [← Int.add_mul_emod_self_left _ _ (turns : Int), ← around, ← Int.natCast_emod, Int.toNat_natCast]
  rw [count_ok power, ← remainder]
  exact congrArg Except.ok (toNat_slot power _)

section Inside

variable (headInside : head < size) (tailInside : tail < size)
include headInside tailInside

theorem gives_count : Gives (count head tail size) (distance size.toNat head.toNat tail.toNat) := by
  rw [UInt64.lt_iff_toNat_lt] at headInside tailInside
  rw [count_of_le power (Nat.le_of_lt tailInside), ← mod_eq_distance headInside tailInside]
  exact congrArg Except.ok (toNat_slot power _)

theorem gives_space : Gives (space head tail size)
    (size.toNat - 1 - distance size.toNat head.toNat tail.toNat) := by
  rw [UInt64.lt_iff_toNat_lt] at headInside tailInside
  rw [space_of_lt power headInside, ← mod_eq_free headInside tailInside]
  exact congrArg Except.ok (toNat_slot power _)

end Inside

end Words

/-- A head and a tail split their circle into occupied slots, free ones and one that stays empty. Steps of the
head occupy free slots, and steps of the tail free occupied ones. -/
structure Splits (size head tail : UInt64) (occupied free : Nat) : Prop where
  count : Gives (Circular.count head tail size) occupied
  space : Gives (Circular.space head tail size) free
  inside : occupied < size.toNat
  unique : ∀ steps, steps < size → (advance tail steps size = .ok head ↔ steps.toNat = occupied)
  complement : occupied + free = size.toNat - 1
  countToEnd : Gives (Circular.countToEnd head tail size) (min occupied (size.toNat - tail.toNat))
  spaceToEnd : Gives (Circular.spaceToEnd head tail size) (min free (size.toNat - head.toNat))
  occupy : ∀ steps : UInt64, steps.toNat ≤ free → ∃ moved, advance head steps size = .ok moved ∧
    Gives (Circular.count moved tail size) (occupied + steps.toNat) ∧
    Gives (Circular.space moved tail size) (free - steps.toNat)
  vacate : ∀ steps : UInt64, steps.toNat ≤ occupied → ∃ moved, advance tail steps size = .ok moved ∧
    Gives (Circular.count head moved size) (occupied - steps.toNat) ∧
    Gives (Circular.space head moved size) (free + steps.toNat)

theorem splits {size head tail : UInt64} (power : size.toNat.isPowerOfTwo) (headInside : head < size)
    (tailInside : tail < size) :
    Splits size head tail (distance size.toNat head.toNat tail.toNat)
      (size.toNat - 1 - distance size.toNat head.toNat tail.toNat) := by
  have headBelow := UInt64.lt_iff_toNat_lt.mp headInside
  have tailBelow := UInt64.lt_iff_toNat_lt.mp tailInside
  have inside := distance_lt headBelow tailBelow
  have short (steps : UInt64) (few : steps.toNat < size.toNat) : steps < size :=
    UInt64.lt_iff_toNat_lt.mpr few
  constructor
  case count => exact gives_count power headInside tailInside
  case space => exact gives_space power headInside tailInside
  case inside => exact inside
  case unique =>
    intro steps few
    rw [advance_of_lt power tailInside few, Except.ok.injEq, ← UInt64.toNat_inj, toNat_slot power,
      mod_eq_iff headBelow tailBelow (UInt64.lt_iff_toNat_lt.mp few)]
  case complement => omega
  case countToEnd =>
    rw [countToEnd_of_lt power headBelow tailBelow, mod_eq_distance headBelow tailBelow]
    exact gives_ofNat (Nat.lt_of_le_of_lt (Nat.min_le_left _ _) (Nat.lt_trans inside size.toNat_lt))
  case spaceToEnd =>
    rw [spaceToEnd_of_lt power headBelow tailBelow, mod_eq_free headBelow tailBelow]
    exact gives_ofNat (Nat.lt_of_le_of_lt (Nat.min_le_right _ _)
      (Nat.lt_of_le_of_lt (Nat.sub_le _ _) size.toNat_lt))
  case occupy =>
    intro steps room
    have moved := slot_lt power (head.toNat + steps.toNat)
    refine ⟨_, advance_of_lt power headInside (short steps (by omega)), ?_, ?_⟩
    · have count := gives_count power moved tailInside
      rw [toNat_slot power, distance_head headBelow tailBelow room] at count
      exact count
    · have space := gives_space power moved tailInside
      rw [toNat_slot power, distance_head headBelow tailBelow room, Nat.sub_add_eq] at space
      exact space
  case vacate =>
    intro steps behind
    have moved := slot_lt power (tail.toNat + steps.toNat)
    refine ⟨_, advance_of_lt power tailInside (short steps (by omega)), ?_, ?_⟩
    · have count := gives_count power headInside moved
      rw [toNat_slot power, distance_tail headBelow tailBelow behind] at count
      exact count
    · have space := gives_space power headInside moved
      have more : size.toNat - 1 - (distance size.toNat head.toNat tail.toNat - steps.toNat) =
          size.toNat - 1 - distance size.toNat head.toNat tail.toNat + steps.toNat := by omega
      rw [toNat_slot power, distance_tail headBelow tailBelow behind, more] at space
      exact space

/-- The index arithmetic of a circle is that of numbers, and stays in its words as long as its arguments do. -/
structure Exact (size : UInt64) : Prop where
  mask : Gives (Circular.mask size) (size.toNat - 1)
  next : ∀ index, index < size → Gives (Circular.next index size) ((index.toNat + 1) % size.toNat)
  advance : ∀ index steps, index < size → index.toNat + steps.toNat < UInt64.size →
    ∃ reached, reached < size ∧ Circular.advance index steps size = .ok reached ∧
      walk size steps.toNat index = .ok reached
  count : ∀ head tail : UInt64,
    Gives (Circular.count head tail size) (((head.toNat : Int) - tail.toNat) % size.toNat).toNat
  splits : ∀ head tail, head < size → tail < size → ∃ occupied free, Splits size head tail occupied free

theorem exact_arithmetic {size : UInt64} (power : size.toNat.isPowerOfTwo) : Exact size where
  mask := by
    have positive : (1 : UInt64) ≤ size := UInt64.le_iff_toNat_le.mpr (Nat.pos_of_isPowerOfTwo power)
    rw [mask_ok power]
    exact congrArg Except.ok (UInt64.toNat_sub_of_le _ _ positive)
  next index inside := by
    rw [next_of_lt power inside]
    exact congrArg Except.ok (toNat_slot power _)
  advance index steps inside inRange :=
    ⟨_, slot_lt power _, advance_ok power inRange, walk_eq power inside steps.toNat⟩
  count := gives_count_emod power
  splits head tail headInside tailInside := ⟨_, _, splits power headInside tailInside⟩

/-- The largest circle takes half of the words, so that a sum can come up to the last word. -/
theorem exact_of_largest :
    let size : UInt64 := 0x8000000000000000
    size.toNat.isPowerOfTwo ∧ Exact size := by
  intro size
  have power : size.toNat.isPowerOfTwo := ⟨63, rfl⟩
  exact ⟨power, exact_arithmetic power⟩

end FramedLine.Circular
