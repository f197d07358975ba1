/-!
# Lines and columns of a place in a text

Error messages about a text name the line and the column of an offset, both
counted from one.  Only the line feed ends a line.  What the text is made of is
left open; the line feed is an argument.
-/

namespace DirectiveLint
namespace Text

variable {Mark : Type} [BEq Mark] (lineFeed : Mark)

/-- The line of an offset. -/
def lineAt (text : List Mark) (offset : Nat) : Nat :=
  (text.take offset).count lineFeed + 1

/-- The column of an offset: one more than the marks since the last line feed. -/
def columnAt (text : List Mark) (offset : Nat) : Nat :=
  ((text.take offset).reverse.takeWhile (· != lineFeed)).length + 1

end Text
end DirectiveLint
