import DirectiveLint.FileTree.Basic

/-!
# Written paths

A path is written with slashes; one that starts with a slash counts from the
root, any other from the working directory.  Empty names and single dots stand
for nothing, and two dots for the directory above.  A first name with a tilde in
front stands for the home directory of the user that the rest of it names.
-/

namespace DirectiveLint
namespace FilePath

/-- The names between the slashes of a text. -/
def namesOf (text : String) : List String :=
  (text.toList.splitOn '/').map String.ofList

/-- The path of a name in a directory, which is given from its own name up to the root. -/
def descend (above : List String) (name : String) : List String :=
  if name.isEmpty || name == "." then above
  else if name == ".." then above.tail
  else name :: above

/-- The path that a text stands for in a working directory. -/
def resolve (working : FilePath) (text : String) : FilePath :=
  let start := if text.startsWith "/" then [] else working.reverse
  ((namesOf text).foldl descend start).reverse

/-- The first name of a text that is not a path from the root, if it names a home directory, with
what follows it. -/
def splitHome? (text : String) : Option (String × List String) :=
  if text.startsWith "/" then none
  else
    match (namesOf text).filter fun name => !name.isEmpty && name != "." with
    | first :: rest =>
      match first.toList with
      | '~' :: user => some (String.ofList user, rest)
      | _ => none
    | [] => none

/-- What follows the last point of a name, with the point; nothing if the point is the first or the
last character. -/
def suffixOf (name : List Char) : List Char :=
  let tail := name.reverse.takeWhile (· != '.')
  if tail.isEmpty || name.length ≤ tail.length + 1 then [] else '.' :: tail.reverse

/-- The suffix of the last name of a path. -/
def suffix (path : FilePath) : String :=
  match path.getLast? with
  | some name => String.ofList (suffixOf name.toList)
  | none => ""

end FilePath

/-- Where paths start: the working directory, and the home directories of users.  The user without a
name is the one at work. -/
structure Standpoint where
  working : FilePath
  homes : List (String × FilePath)

/-- The path that a text stands for, unless it holds a null character or asks for a home that is not
known. -/
def Standpoint.locate (standpoint : Standpoint) (text : String) : Except FileFault FilePath :=
  let hasNull (part : String) : Bool := part.toList.contains '\x00'
  match FilePath.splitHome? text with
  | none =>
    if hasNull text then .error .nullCharacter
    else .ok (FilePath.resolve standpoint.working text)
  | some (user, rest) =>
    if hasNull user then .error .nullCharacter
    else
      match standpoint.homes.lookup user with
      | none => .error .unknownHome
      | some home =>
        if hasNull text then .error .nullCharacter
        else .ok (rest.foldl FilePath.descend home.reverse).reverse

end DirectiveLint
