import DirectiveLint.FileTree.Path
import DirectiveLint.Text.LineEnding
import DirectiveLint.Text.Utf8

/-!
# Text files

A text file is read as UTF-8 with its line endings turned into line feeds, and
it is written as UTF-8 with line feeds.
-/

namespace DirectiveLint

/-- Why a file gives no text. -/
inductive TextFault
  | file (fault : FileFault)
  | bytes (fault : Text.Utf8Fault)
  deriving Repr

namespace FileTree

/-- The text of bytes. -/
def textOf (bytes : List UInt8) : Except Text.Utf8Fault String :=
  (Text.decodeUtf8 bytes).map Text.normalizeLines

/-- The text of the file at a path. -/
def readText (path : FilePath) (tree : FileTree) : Except TextFault String :=
  match tree.read path with
  | .error fault => .error (.file fault)
  | .ok bytes =>
    match textOf bytes with
    | .error fault => .error (.bytes fault)
    | .ok text => .ok text

/-- Writes a text to a file in a directory that is there. -/
def writeText (path : FilePath) (text : String) (tree : FileTree) : Except FileFault FileTree :=
  tree.write (Text.encodeUtf8 text) path

/-- Writes a text to a file after making the directory that holds it. -/
def createText (path : FilePath) (text : String) (tree : FileTree) :
    Except (FileFault × FileTree) FileTree :=
  tree.create (Text.encodeUtf8 text) path

end FileTree
end DirectiveLint
