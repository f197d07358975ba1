import DirectiveLint.Character.Blank

/-!
# Trimming blanks
-/

namespace DirectiveLint
namespace Text

/-- A text without the blanks at its ends. -/
def trim (text : List Char) : List Char :=
  ((text.dropWhile Character.isBlank).reverse.dropWhile Character.isBlank).reverse

end Text
end DirectiveLint
