/-!
# Text edits

An edit replaces a range of a text.  Offsets may be given from the end of the
text by negative numbers, and offsets beyond either end stand for that end.

Several edits are applied from the back to the front, so that the offsets of
those still to come stay valid.  An edit that reaches into one already applied
is left out.
-/

namespace DirectiveLint

/-- Replaces the characters from `start` up to `stop` by `text`. -/
structure TextEdit where
  start : Int
  stop : Int
  text : String
  deriving DecidableEq, Repr

namespace TextEdit

/-- The place of an offset in a text of some length. -/
def placeOf (length : Nat) (offset : Int) : Nat :=
  if offset < 0 then (offset + length).toNat else min offset.toNat length

/-- A text with the range of an edit replaced. -/
def applyTo (edit : TextEdit) (source : List Char) : List Char :=
  source.take (placeOf source.length edit.start) ++ edit.text.toList ++
    source.drop (placeOf source.length edit.stop)

/-- Whether one edit comes before another when edits are applied from the back: by its start, then
by its end, greater ones first. -/
def isAfter (first second : TextEdit) : Bool :=
  second.start < first.start || (second.start == first.start && second.stop ≤ first.stop)

/-- Applies edits in the given order, leaving out those that reach beyond `limit`, the start of the
last one applied. -/
def applyInOrder (source : List Char) (limit : Option Int) : List TextEdit → List Char × Nat
  | [] => (source, 0)
  | edit :: rest =>
    let overlaps := match limit with
      | some start => decide (start < edit.stop)
      | none => false
    if overlaps then applyInOrder source limit rest
    else
      let result := applyInOrder (edit.applyTo source) (some edit.start) rest
      (result.1, result.2 + 1)

end TextEdit

/-- A text with edits applied from the back to the front, and how many were applied. -/
def applyEdits (source : String) (edits : List TextEdit) : String × Nat :=
  let result := TextEdit.applyInOrder source.toList none (edits.mergeSort TextEdit.isAfter)
  (String.ofList result.1, result.2)

end DirectiveLint
