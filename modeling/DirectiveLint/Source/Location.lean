import DirectiveLint.Number.DigitLimit

/-!
# Places in source files

Lines and columns are counted from one; zero stands for a place that is not
known more exactly.  Offsets count characters from zero, and the end of a span
is exclusive.
-/

namespace DirectiveLint

/-- A point in a source file. -/
structure Location where
  file : String
  line : Int
  column : Int
  deriving DecidableEq, Repr, Inhabited

namespace Location

/-- The location of a file as a whole. -/
def ofFile (file : String) : Location :=
  ⟨file, 0, 0⟩

/-- File, line and column with colons between them; column zero is left out. -/
def text (location : Location) : String :=
  let line := location.file ++ ":" ++ toString location.line
  if location.column == 0 then line else line ++ ":" ++ toString location.column

/-- Whether the numbers of a location may be written. -/
def isWritable (location : Location) : Bool :=
  Number.isWritable location.line && Number.isWritable location.column

/-- The text of a location whose numbers may be written. -/
def text? (location : Location) : Option String :=
  if location.isWritable then some location.text else none

end Location

/-- A half-open range of offsets with the locations of its ends. -/
structure Span where
  start : Int
  stop : Int
  startLocation : Location
  stopLocation : Location
  deriving DecidableEq, Repr, Inhabited

end DirectiveLint
