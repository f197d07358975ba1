import DirectiveLint.Source.Location

/-!
# From offsets to lines

A line index holds the offsets at which the lines of a text start.  The line of
an offset is the number of starts that are not beyond it, and its column is
counted from the last of those.  An offset before the text belongs to line zero
and is measured from the start of the last line.
-/

namespace DirectiveLint

/-- The offsets at which the lines of a text start, in increasing order. -/
structure LineIndex where
  file : String
  starts : List Nat
  deriving Repr

namespace LineIndex

/-- The starts of the lines after the first one, for a text that begins at an offset. -/
def startsAfter (offset : Nat) : List Char → List Nat
  | [] => []
  | character :: rest =>
    if character = '\n' then (offset + 1) :: startsAfter (offset + 1) rest
    else startsAfter (offset + 1) rest

def ofText (file : String) (text : List Char) : LineIndex :=
  ⟨file, 0 :: startsAfter 0 text⟩

/-- The starts that are not beyond an offset. -/
def startsUpTo (index : LineIndex) (offset : Int) : List Nat :=
  index.starts.takeWhile fun start => decide ((start : Int) ≤ offset)

/-- The start from which the column of an offset is counted. -/
def baseOf (index : LineIndex) (offset : Int) : Nat :=
  ((index.startsUpTo offset).getLast?.or index.starts.getLast?).getD 0

def locationAt (index : LineIndex) (offset : Int) : Location :=
  { file := index.file
    line := (index.startsUpTo offset).length
    column := offset - index.baseOf offset + 1 }

def spanOf (index : LineIndex) (start stop : Int) : Span :=
  { start, stop
    startLocation := index.locationAt start
    stopLocation := index.locationAt stop }

end LineIndex
end DirectiveLint
