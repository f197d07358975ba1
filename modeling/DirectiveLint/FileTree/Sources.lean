import DirectiveLint.FileTree.Path

/-!
# Source files in a tree

A directory stands for the source files at any depth below it, in the order of
their paths, name by name.  Files with a directory for installed packages
anywhere in their path are left out, also above the directory that was asked
for.  A file stands for itself, whatever it is called.
-/

namespace DirectiveLint
namespace FileTree

/-- The suffixes of source files. -/
def sourceSuffixes : List String :=
  [".ts", ".tsx", ".mts", ".cts", ".js", ".jsx", ".mjs", ".cjs"]

/-- The name of directories for installed packages. -/
def packagesName : String := "node_modules"

/-- Whether a file below a directory is taken as a source file. -/
def isSource (path : FilePath) : Bool :=
  sourceSuffixes.contains path.suffix && !path.contains packagesName

/-- Whether a file comes before another one: by the names on their paths, and these by the codes of
their characters. -/
def comesBefore (first second : FilePath × List UInt8) : Bool :=
  !List.lex second.1 first.1 fun name other => decide (name < other)

/-- The source files below a directory with their bytes, sorted by their paths. -/
def sourcesBelow (path : FilePath) (tree : FileTree) : List (FilePath × List UInt8) :=
  ((tree.files.map fun found => (path ++ found.1, found.2)).filter
    fun found => isSource found.1).mergeSort comesBefore

/-- Why there are no source files. -/
inductive SourceFault
  | missing (path : FilePath)
  | file (fault : FileFault)
  deriving Repr

/-- The files that a path stands for. -/
def sourcesAt (root : FileTree) (path : FilePath) :
    Except SourceFault (List (FilePath × List UInt8)) :=
  match root.seek path with
  | .error fault => .error (.file fault)
  | .ok none => .error (.missing path)
  | .ok (some (.file content)) => .ok [(path, content)]
  | .ok (some (.directory entries)) => .ok (sourcesBelow path (.directory entries))

/-- The files that written paths stand for, or the fault of the first path at fault. -/
def sources (root : FileTree) (standpoint : Standpoint) :
    List String → Except SourceFault (List (FilePath × List UInt8))
  | [] => .ok []
  | text :: rest =>
    match standpoint.locate text with
    | .error fault => .error (.file fault)
    | .ok path =>
      match sourcesAt root path with
      | .error fault => .error fault
      | .ok found =>
        match sources root standpoint rest with
        | .ok others => .ok (found ++ others)
        | .error fault => .error fault

end FileTree
end DirectiveLint
