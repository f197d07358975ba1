import DirectiveLint.Character.Alphabetic

/-!
# Extents of literals and comments

Each function here takes the text after the opening of a literal or a comment
and says how far it reaches.  Inside a literal a backslash protects the
character after it, which the flag `escaped` records; a backslash that ends the
text still counts the character that is missing.
-/

namespace DirectiveLint
namespace Source

/-- The extent of a string after its opening quote, the closing quote or line feed included. -/
def stringExtent (quote : Char) (escaped : Bool) : List Char → Nat
  | [] => if escaped then 1 else 0
  | character :: rest =>
    if escaped then stringExtent quote false rest + 1
    else if character = '\\' then stringExtent quote true rest + 1
    else if character = quote ∨ character = '\n' then 1
    else stringExtent quote false rest + 1

/-- How a stretch of template text ends: at the end of the literal or at an embedded expression. -/
structure TemplateExtent where
  length : Nat
  embeds : Bool
  deriving DecidableEq, Repr

/-- The extent with one more character in front. -/
def TemplateExtent.succ (extent : TemplateExtent) : TemplateExtent :=
  { extent with length := extent.length + 1 }

/-- The extent of template text, the closing backtick or the opening of an expression included. -/
def templateExtent (escaped : Bool) : List Char → TemplateExtent
  | [] => ⟨if escaped then 1 else 0, false⟩
  | character :: rest =>
    if escaped then (templateExtent false rest).succ
    else if character = '\\' then (templateExtent true rest).succ
    else if character = '\x60' then ⟨1, false⟩
    else if character = '$' ∧ rest.head? = some '{' then ⟨2, true⟩
    else (templateExtent false rest).succ

/-- The extent of a regular expression after its opening slash.  Its closing slash, which does not
count within a character class, brings the letters after it along; a line feed ends it. -/
def regexExtent (inClass escaped : Bool) : List Char → Nat
  | [] => if escaped then 1 else 0
  | character :: rest =>
    if escaped then regexExtent inClass false rest + 1
    else if character = '\\' then regexExtent inClass true rest + 1
    else if character = '\n' then 0
    else if character = '[' then regexExtent true false rest + 1
    else if character = ']' then regexExtent false false rest + 1
    else if character = '/' ∧ inClass = false then
      (rest.takeWhile Character.isAlphabetic).length + 1
    else regexExtent inClass false rest + 1

/-- The value of a line comment: the rest of the line, less one carriage return at its end. -/
def lineValue (body : List Char) : List Char :=
  let line := body.takeWhile (· ≠ '\n')
  if line.getLast? = some '\r' then line.dropLast else line

/-- The value of a block comment, and whether it is closed. -/
structure BlockBody where
  value : List Char
  closed : Bool
  deriving DecidableEq, Repr

/-- The body of a block comment: all up to the first closing delimiter, or else the whole text. -/
def blockBody : List Char → BlockBody
  | [] => ⟨[], false⟩
  | character :: rest =>
    if character = '*' ∧ rest.head? = some '/' then ⟨[], true⟩
    else
      let body := blockBody rest
      ⟨character :: body.value, body.closed⟩

end Source
end DirectiveLint
