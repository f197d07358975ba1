/-!
# Sets of code points as sorted intervals

A character class of a standard is a table of closed intervals of code points in
increasing order.  Membership is a bisection over the table.  The tables that
other modules hold start above the seven-bit range: the first 128 code points
are decided there by the core predicates, so nothing about them depends on a
table.
-/

namespace DirectiveLint
namespace Character

/-- Bisection between `low` and `high` (exclusive) in a table of closed intervals. -/
def withinBounds (table : Array (Nat × Nat)) (code low high : Nat) : Bool :=
  if low < high then
    let middle := (low + high) / 2
    match table[middle]? with
    | none => false
    | some (first, last) =>
      if code < first then withinBounds table code low middle
      else if last < code then withinBounds table code (middle + 1) high
      else true
  else false
termination_by high - low

/-- Whether a code point lies in one of the intervals of a sorted table. -/
def within (table : Array (Nat × Nat)) (code : Nat) : Bool :=
  withinBounds table code 0 table.size

/-- The code points that core decides by itself. -/
def isSevenBit (character : Char) : Bool :=
  character.toNat < 128

end Character
end DirectiveLint
