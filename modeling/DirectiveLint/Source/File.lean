import DirectiveLint.Source.Scanner

/-!
# Source files

A source file has a path and a text.  Its comments are those that the scanner
finds, unless a host that has scanned the text already brings its own.
-/

namespace DirectiveLint

structure SourceFile where
  path : String
  text : String
  given : Option (List Comment)
  deriving Repr

namespace SourceFile

/-- A file whose comments are still to be found. -/
def ofText (path text : String) : SourceFile :=
  ⟨path, text, none⟩

def comments (file : SourceFile) : List Comment :=
  file.given.getD (scanComments file.text file.path)

end SourceFile
end DirectiveLint
