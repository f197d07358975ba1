import DirectiveLint.Pattern.CharacterTest

/-!
# What a search leaves behind

Every step of a search leaves a trail: the place that was noted last and the ends
of the groups.  A step that fails leaves its trail too.  Going back after a
failure takes the later ends of groups out of force; the ends themselves are put
back only inside repetitions, which save them.
-/

namespace DirectiveLint
namespace Pattern

/-- The place noted last and the ends of the groups matched so far: the start of group `i` is the
mark `2 * i - 2` and its end the mark after that.  Only the first `used` marks are in force. -/
structure Trail where
  noted : Nat
  marks : Array (Option Nat)
  used : Nat
  deriving Repr

/-- How a step ends: the pattern was matched, or the step failed. -/
inductive Outcome
  | matched (trail : Trail)
  | failed (trail : Trail)
  deriving Repr

/-- What has to follow from a place on. -/
abbrev Continuation := Nat → Trail → Outcome

/-- A step of a search from a place on, with what has to follow. -/
abbrev Matcher := Nat → Trail → Continuation → Outcome

namespace Trail

/-- The trail at the start of a search for a number of groups. -/
def start (groups position : Nat) : Trail :=
  ⟨position, Array.replicate (2 * groups) none, 0⟩

def noting (trail : Trail) (position : Nat) : Trail :=
  { trail with noted := position }

/-- Sets a mark.  Marks that come into force with it are cleared. -/
def marking (trail : Trail) (index position : Nat) : Trail :=
  let cleared :=
    (List.range' trail.used (index - trail.used)).foldl
      (fun marks between => marks.setIfInBounds between none) trail.marks
  { trail with
    marks := cleared.setIfInBounds index (some position)
    used := max trail.used (index + 1) }

/-- The trail after a failure, back at an earlier one.  `saved` says whether the marks were saved
there. -/
def backTo (trail earlier : Trail) (saved : Bool) : Trail :=
  { trail with
    marks := if saved then earlier.marks else trail.marks
    used := earlier.used }

/-- The ends of a group that was matched, if they are in order. -/
def group? (trail : Trail) (index : Nat) : Option (Nat × Nat) :=
  if 2 * index ≤ trail.used then
    match trail.marks[2 * index - 2]?, trail.marks[2 * index - 1]? with
    | some (some start), some (some stop) => if start ≤ stop then some (start, stop) else none
    | _, _ => none
  else none

/-- Whether a group is in force that starts after its end. -/
def isDisordered (trail : Trail) (index : Nat) : Bool :=
  2 * index ≤ trail.used &&
    match trail.marks[2 * index - 2]?, trail.marks[2 * index - 1]? with
    | some (some start), some (some stop) => stop < start
    | _, _ => false

end Trail

/-- The end of a pattern. -/
def finish : Continuation :=
  fun position trail => .matched (trail.noting position)

end Pattern
end DirectiveLint
