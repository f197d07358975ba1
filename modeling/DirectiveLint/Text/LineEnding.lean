/-!
# Line endings

Text files may end their lines by a line feed, by a carriage return, or by both.
Reading a file turns each of these into one line feed.
-/

namespace DirectiveLint
namespace Text

/-- A text with line feeds as its only line endings; `afterReturn` says that a carriage return,
already turned into a line feed, comes before it. -/
def normalizeFrom (afterReturn : Bool) : List Char → List Char
  | [] => []
  | character :: rest =>
    if character = '\r' then '\n' :: normalizeFrom true rest
    else if character = '\n' && afterReturn then normalizeFrom false rest
    else character :: normalizeFrom false rest

/-- A text with line feeds as its only line endings. -/
def normalizeLines (text : String) : String :=
  String.ofList (normalizeFrom false text.toList)

end Text
end DirectiveLint
