/-!
# File trees

A tree of directories and files, in which a path is a list of names from the
root on.  Writing a file needs a directory to hold it; making a directory makes
those above it as well.

Names and paths have limits, counted in bytes.  A name beyond its limit is only
found out where a directory is asked for it.
-/

namespace DirectiveLint

/-- Names from the root on. -/
abbrev FilePath := List String

/-- A file with its bytes, or a directory with named entries. -/
inductive FileTree
  | file (content : List UInt8)
  | directory (entries : List (String × FileTree))

namespace FilePath

/-- A path as a text. -/
def text (path : FilePath) : String :=
  "/" ++ "/".intercalate path

/-- The directory that holds a path. -/
def parent (path : FilePath) : FilePath :=
  path.dropLast

end FilePath

/-- Why a tree cannot be changed or read as asked. -/
inductive FileFault
  | isDirectory
  | notDirectory
  | alreadyExists
  | missing
  | nameTooLong
  | nullCharacter
  | unknownHome
  | notEncodable
  deriving DecidableEq, Repr

namespace FileTree

/-- The greatest number of bytes in a name. -/
def nameLimit : Nat := 255

/-- The greatest number of bytes in a path. -/
def pathLimit : Nat := 4095

def isNameTooLong (name : String) : Bool :=
  nameLimit < name.utf8ByteSize

def isPathTooLong (path : FilePath) : Bool :=
  pathLimit < path.text.utf8ByteSize

def empty : FileTree := .directory []

/-- What is at a path. -/
def find? : FilePath → FileTree → Option FileTree
  | [], tree => some tree
  | _ :: _, .file _ => none
  | name :: rest, .directory entries =>
    match entries.lookup name with
    | some child => find? rest child
    | none => none

/-- What is at a path, if no directory is asked for a name that is too long. -/
def lookUp : FilePath → FileTree → Except FileFault (Option FileTree)
  | [], tree => .ok (some tree)
  | _ :: _, .file _ => .ok none
  | name :: rest, .directory entries =>
    if isNameTooLong name then .error .nameTooLong
    else
      match entries.lookup name with
      | some child => lookUp rest child
      | none => .ok none

/-- What is at a path, unless the path or a name in it is too long. -/
def seek (tree : FileTree) (path : FilePath) : Except FileFault (Option FileTree) :=
  if isPathTooLong path then .error .nameTooLong else tree.lookUp path

def isDirectory : FileTree → Bool
  | .file _ => false
  | .directory _ => true

/-- The bytes of the file at a path. -/
def read (path : FilePath) (tree : FileTree) : Except FileFault (List UInt8) :=
  match tree.find? path with
  | some (.file content) => .ok content
  | some (.directory _) => .error .isDirectory
  | none => .error .missing

/-- Puts an entry under a name; a name that is there keeps its place. -/
def putEntry (name : String) (child : FileTree) :
    List (String × FileTree) → List (String × FileTree)
  | [] => [(name, child)]
  | entry :: rest =>
    if entry.1 == name then (name, child) :: rest else entry :: putEntry name child rest

/-- Makes the directory at a path, together with those above it that are missing. -/
def makeDirectory : FilePath → FileTree → Except FileFault FileTree
  | [], .directory entries => .ok (.directory entries)
  | [], .file _ => .error .alreadyExists
  | _ :: _, .file _ => .error .notDirectory
  | name :: rest, .directory entries =>
    if isNameTooLong name then .error .nameTooLong
    else
      match makeDirectory rest ((entries.lookup name).getD empty) with
      | .ok child => .ok (.directory (putEntry name child entries))
      | .error fault => .error fault

/-- Writes the file at a path. -/
def write (content : List UInt8) : FilePath → FileTree → Except FileFault FileTree
  | [], .file _ => .ok (.file content)
  | [], .directory _ => .error .isDirectory
  | _ :: _, .file _ => .error .notDirectory
  | name :: rest, .directory entries =>
    match entries.lookup name, rest with
    | none, [] => .ok (.directory (putEntry name (.file content) entries))
    | none, _ :: _ => .error .missing
    | some child, rest =>
      match write content rest child with
      | .ok child => .ok (.directory (putEntry name child entries))
      | .error fault => .error fault

/-- The tree that is left when the directory at a path cannot be made: the directories before a name
that is too long have been made. -/
def afterFailure (path : FilePath) (tree : FileTree) : FileTree :=
  if isPathTooLong path then tree
  else (tree.makeDirectory (path.takeWhile fun name => !isNameTooLong name)).toOption.getD tree

/-- Writes the file at a path after making the directory that holds it.  A fault comes with the tree
that it leaves. -/
def create (content : List UInt8) (path : FilePath) (tree : FileTree) :
    Except (FileFault × FileTree) FileTree :=
  if isPathTooLong path.parent then .error (.nameTooLong, tree)
  else
    match tree.makeDirectory path.parent with
    | .error fault => .error (fault, tree.afterFailure path.parent)
    | .ok tree =>
      if isPathTooLong path || path.any isNameTooLong then .error (.nameTooLong, tree)
      else
        match tree.write content path with
        | .ok tree => .ok tree
        | .error fault => .error (fault, tree)

mutual

/-- The files at and below a tree, with their paths from there. -/
def files : FileTree → List (FilePath × List UInt8)
  | .file content => [([], content)]
  | .directory entries => filesOfEntries entries

def filesOfEntries : List (String × FileTree) → List (FilePath × List UInt8)
  | [] => []
  | entry :: rest => filesOfEntry entry ++ filesOfEntries rest

def filesOfEntry : String × FileTree → List (FilePath × List UInt8)
  | (name, child) => (files child).map fun found => (name :: found.1, found.2)

end

/-- The files of a tree that another one does not have, or has with other bytes. -/
def changes (before after : FileTree) : List (FilePath × List UInt8) :=
  let known := before.files
  after.files.filter fun found => known.lookup found.1 != some found.2

end FileTree
end DirectiveLint
