import DirectiveLint.Character.Printable
import DirectiveLint.Text.Loose

/-!
# Quoted text

Text is quoted with apostrophes, or with quotation marks when it holds an
apostrophe and no quotation mark.  The quote itself and the backslash are
escaped by a backslash, as are tab, line feed and carriage return by their
letters; any other letter that is not printable is written with the hex digits
of its code, in the shortest of the forms of two, four and eight digits that
holds it.
-/

namespace DirectiveLint
namespace Text

/-- The digits of a number in base sixteen, at least `width` of them. -/
def hexDigits (width code : Nat) : List Char :=
  let digits := Nat.toDigits 16 code
  List.replicate (width - digits.length) '0' ++ digits

namespace Quoted

/-- The quote that a text is written in. -/
def quoteFor (letters : List Letter) : Char :=
  if letters.contains '\'' && !letters.contains '"' then '"' else '\''

/-- The hex form of a letter that is not printable. -/
def hexEscape (code : Nat) : List Char :=
  if code < 0x100 then '\\' :: 'x' :: hexDigits 2 code
  else if code < 0x10000 then '\\' :: 'u' :: hexDigits 4 code
  else '\\' :: 'U' :: hexDigits 8 code

/-- One character between the quotes. -/
def escapeCharacter (quote character : Char) : List Char :=
  if character == quote || character == '\\' then ['\\', character]
  else if character == '\t' then ['\\', 't']
  else if character == '\n' then ['\\', 'n']
  else if character == '\r' then ['\\', 'r']
  else if Character.isPrintable character then [character]
  else hexEscape character.toNat

/-- One letter between the quotes. -/
def escape (quote : Char) : Letter → List Char
  | .whole character => escapeCharacter quote character
  | .half index => hexEscape (Letter.half index).code

/-- Letters between quotes. -/
def write (letters : List Letter) : List Char :=
  let quote := quoteFor letters
  quote :: letters.flatMap (escape quote) ++ [quote]

end Quoted

/-- A text with the halves in it written in hex. -/
def withoutHalves (text : LooseText) : String :=
  String.ofList (text.letters.flatMap fun letter =>
    match letter with
    | .whole character => [character]
    | .half index => Quoted.hexEscape (Letter.half index).code)

/-- The quoted form of a text. -/
def quoted (text : LooseText) : String :=
  String.ofList (Quoted.write text.letters)

end Text
end DirectiveLint
