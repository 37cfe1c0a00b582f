/-!
Index arithmetic on a circle of `size` slots, in 64-bit words.

The size is meant to be a power of two, so that a remainder is a bit mask. Additions and subtractions
that leave the word are reported as an `Overflow`; only the distance from one index to another wraps.
-/

namespace FramedLine

/-- The ways in which a checked word operation leaves its range. -/
inductive Overflow where
  | addition
  | subtraction
  deriving DecidableEq, Repr

def Overflow.message : Overflow → String
  | .addition => "attempt to add with overflow"
  | .subtraction => "attempt to subtract with overflow"

namespace Circular

/-- A computation on words that may leave their range. -/
abbrev Checked (α : Type) := Except Overflow α

def add (left right : UInt64) : Checked UInt64 :=
  if left.toNat + right.toNat < UInt64.size then .ok (left + right) else .error .addition

def sub (left right : UInt64) : Checked UInt64 :=
  if right ≤ left then .ok (left - right) else .error .subtraction

/-- The bits of an index below `size`, when `size` is a power of two. -/
def mask (size : UInt64) : Checked UInt64 :=
  sub size 1

/-- The slot after `index`. -/
def next (index size : UInt64) : Checked UInt64 := do
  let sum ← add index 1
  return sum &&& (← mask size)

/-- The slot `by` steps after `index`. -/
def advance (index steps size : UInt64) : Checked UInt64 := do
  let sum ← add index steps
  return sum &&& (← mask size)

/-- The number of occupied slots when `tail` is the oldest and `head` the first that is not. -/
def count (head tail size : UInt64) : Checked UInt64 := do
  return (head - tail) &&& (← mask size)

/-- The number of slots that can still be occupied; one slot always stays empty. -/
def space (head tail size : UInt64) : Checked UInt64 := do
  count tail (← add head 1) size

/-- The part of `count` that comes before the end of the array. -/
def countToEnd (head tail size : UInt64) : Checked UInt64 := do
  let toEnd ← sub size tail
  let sum ← add head toEnd
  let occupied := sum &&& (← mask size)
  return if occupied < toEnd then occupied else toEnd

/-- The part of `space` that comes before the end of the array. -/
def spaceToEnd (head tail size : UInt64) : Checked UInt64 := do
  let last ← mask size
  let toEnd ← sub last head
  let sum ← add toEnd tail
  let free := sum &&& (← mask size)
  if free ≤ toEnd then return free else add toEnd 1

end Circular

end FramedLine
