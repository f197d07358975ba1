import DirectiveLint.Value.Written

/-!
# Printing JSON text

A value is printed on one line, with a blank after each comma and colon.  The
output holds printable seven-bit characters only: every other character of a
text is written by its code units in hex, a character beyond the first plane as
a surrogate pair.  Half of a pair that stands alone is written by itself.

A value is printed only if each of its integers may be written.
-/

namespace DirectiveLint
namespace Json

/-- A code unit in an escape of four hex digits. -/
def unitEscape (unit : Nat) : List Char :=
  '\\' :: 'u' :: Text.hexDigits 4 unit

/-- One character of a string. -/
def printCharacter (character : Char) : List Char :=
  if character == '"' || character == '\\' then ['\\', character]
  else if character == '\n' then ['\\', 'n']
  else if character == '\r' then ['\\', 'r']
  else if character == '\t' then ['\\', 't']
  else if character == '\x0c' then ['\\', 'f']
  else if character == '\x08' then ['\\', 'b']
  else
    let code := character.toNat
    if 32 ≤ code && code ≤ 126 then [character]
    else if code < 0x10000 then unitEscape code
    else
      unitEscape (0xd800 + (code - 0x10000) / 0x400) ++
        unitEscape (0xdc00 + (code - 0x10000) % 0x400)

/-- One letter of a string. -/
def printLetter : Letter → List Char
  | .whole character => printCharacter character
  | .half index => unitEscape (Letter.half index).code

/-- A string between its quotes. -/
def printString (text : LooseText) : List Char :=
  '"' :: text.letters.flatMap printLetter ++ ['"']

/-- The text of a floating-point number. -/
def printReal : Number.Binary64 → String
  | .notANumber _ => "NaN"
  | .infinite negative => Number.Binary64.sign negative ++ "Infinity"
  | number => number.text

/-- Printed parts joined by a comma and a blank. -/
def joinParts : List (List Char) → List Char
  | [] => []
  | [part] => part
  | part :: rest => part ++ ',' :: ' ' :: joinParts rest

mutual

/-- The characters of a printed value, whatever the lengths of its integers. -/
def printValue : Value → List Char
  | .null => "null".toList
  | .boolean value => if value then "true".toList else "false".toList
  | .integer value => (toString value).toList
  | .real value => (printReal value).toList
  | .text value => printString value
  | .list items => '[' :: joinParts (printItems items) ++ [']']
  | .object fields => '\x7b' :: joinParts (printFields fields) ++ ['\x7d']

def printItems : List Value → List (List Char)
  | [] => []
  | item :: rest => printValue item :: printItems rest

def printFields : List (LooseText × Value) → List (List Char)
  | [] => []
  | field :: rest => printField field :: printFields rest

def printField : LooseText × Value → List Char
  | (key, value) => printString key ++ ':' :: ' ' :: printValue value

end

/-- A value as one line of JSON text, whatever the lengths of its integers. -/
def print (value : Value) : String :=
  String.ofList (printValue value)

/-- A value that may be written, as one line of JSON text. -/
def print? (value : Value) : Option String :=
  if value.isWritable then some (print value) else none

end Json
end DirectiveLint
