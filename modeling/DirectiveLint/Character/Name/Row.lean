/-!
# Rows of names

The names of characters are kept in rows.  A row is a code and entries that are
separated by semicolons.  An entry starts with a digit, which says how many words
of the name before it the name starts with; the other words follow the digit.  A
word ends with a blank or a hyphen, which belongs to it.
-/

namespace DirectiveLint
namespace Character

/-- Names that belong together: of neighbours from a code on, or of one code. -/
structure NameRow where
  code : Nat
  entries : String

/-- A name as its words. -/
abbrev Words := List (List Char)

/-- The words of a text; `word` is the start of the first one. -/
def wordsAfter (word : List Char) : List Char → Words
  | [] => if word.isEmpty then [] else [word]
  | character :: rest =>
    let longer := word ++ [character]
    if character == ' ' || character == '-' then longer :: wordsAfter [] rest
    else wordsAfter longer rest

/-- The name of an entry after another name. -/
def nameAfter (before : Words) : List Char → Words
  | [] => []
  | count :: rest => before.take (count.toNat - '0'.toNat) ++ wordsAfter [] rest

/-- The entries of a row; `entry` is the start of the first one. -/
def entriesAfter (entry : List Char) : List Char → List (List Char)
  | [] => [entry.reverse]
  | character :: rest =>
    if character == ';' then entry.reverse :: entriesAfter [] rest
    else entriesAfter (character :: entry) rest

/-- The names of entries after another name. -/
def namesAfter (before : Words) : List (List Char) → List Words
  | [] => []
  | entry :: rest =>
    let name := nameAfter before entry
    name :: namesAfter name rest

namespace NameRow

/-- The names of a row after the last name of the row before it. -/
def names (row : NameRow) (before : Words) : List Words :=
  namesAfter before (entriesAfter [] row.entries.toList)

/-- The place of a name among the names of rows: the row and the number of names before it there. -/
def find? (name : List Char) : List NameRow → Words → Option (NameRow × Nat)
  | [], _ => none
  | row :: rest, before =>
    let names := row.names before
    match names.findIdx? fun words => words.flatten == name with
    | some index => some (row, index)
    | none => find? name rest (names.getLastD before)

end NameRow
end Character
end DirectiveLint
