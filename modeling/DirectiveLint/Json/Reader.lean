import DirectiveLint.Json.Fault
import DirectiveLint.Number.IntegerText
import DirectiveLint.Value.Basic

/-!
# Reading JSON text

The reader takes a list of characters and gives a value with the characters that
follow it.  Beside the grammar of the standard it takes the constants `NaN`,
`Infinity` and `-Infinity`.  A number with a fraction or an exponent is a
floating-point number, any other number an integer.  A repeated key keeps its
first place and its last value.  Half of a surrogate pair may stand alone.

Integers may have only so many digits, and lists and objects may be nested only so
deep.  The reader takes these limits as an argument.

A stop carries the number of characters that were left, from which the offset
follows once the whole text is at hand.
-/

namespace DirectiveLint
namespace Json

/-- How many digits an integer may have, and how deep lists and objects may be nested. -/
structure Limits where
  digits : Nat
  nesting : Nat
  deriving DecidableEq, Repr

namespace Limits

/-- The limits that reading has unless others are given. -/
def default : Limits := ⟨Number.digitLimit, 988⟩

end Limits

/-- Where and why reading stopped; `remaining` counts the characters from there to the end. -/
structure Stop where
  cause : Cause
  remaining : Nat
  deriving DecidableEq, Repr

/-- What a step of the reader gives: a result and the rest of the text, or a stop. -/
abbrev Step (result : Type) := Except Stop (result × List Char)

/-- The white space of JSON text. -/
def isSpace (character : Char) : Bool :=
  character == ' ' || character == '\t' || character == '\n' || character == '\r'

def skipSpace (text : List Char) : List Char :=
  text.dropWhile isSpace

/-- The value of a hex digit. -/
def hexValue? (character : Char) : Option Nat :=
  let code := character.toNat
  if 48 ≤ code && code ≤ 57 then some (code - 48)
  else if 97 ≤ code && code ≤ 102 then some (code - 87)
  else if 65 ≤ code && code ≤ 70 then some (code - 55)
  else none

/-- The code unit that four hex digits write. -/
def codeUnit? (first second third fourth : Char) : Option Nat :=
  match hexValue? first, hexValue? second, hexValue? third, hexValue? fourth with
  | some first, some second, some third, some fourth =>
    some (((first * 16 + second) * 16 + third) * 16 + fourth)
  | _, _, _, _ => none

def isHighSurrogate (unit : Nat) : Bool :=
  0xd800 ≤ unit && unit ≤ 0xdbff

def isLowSurrogate (unit : Nat) : Bool :=
  0xdc00 ≤ unit && unit ≤ 0xdfff

/-- The character of a surrogate pair. -/
def pairCharacter (high low : Nat) : Char :=
  Char.ofNat (0x10000 + (high - 0xd800) * 0x400 + (low - 0xdc00))

/-- The character that a single letter after a backslash stands for. -/
def escaped? : Char → Option Char
  | '"' => some '"'
  | '\\' => some '\\'
  | '/' => some '/'
  | 'b' => some '\x08'
  | 'f' => some '\x0c'
  | 'n' => some '\n'
  | 'r' => some '\r'
  | 't' => some '\t'
  | _ => none

/-- Puts a letter in front of a read text. -/
def prepend (letter : Letter) (step : Step (List Letter)) : Step (List Letter) :=
  match step with
  | .ok (letters, rest) => .ok (letter :: letters, rest)
  | .error stop => .error stop

/-- Puts the first half of a pair in front of a read text when no second half followed it. -/
def prependHalf (half : Option Nat) (step : Step (List Letter)) : Step (List Letter) :=
  match half with
  | some unit => prepend (.ofCodeUnit unit) step
  | none => step

/-- The letters of a string after its opening quote. `opening` counts the characters from that quote
to the end of the text, and `half` is the first half of a surrogate pair that was just read. -/
def readString (opening : Nat) (half : Option Nat) : List Char → Step (List Letter)
  | [] => .error ⟨.unterminatedString, opening⟩
  | '"' :: rest => prependHalf half (.ok ([], rest))
  | '\\' :: [] => .error ⟨.unterminatedString, opening⟩
  | '\\' :: 'u' :: first :: second :: third :: fourth :: rest =>
    if rest.isEmpty then .error ⟨.invalidUnicodeEscape, 5⟩
    else
      match codeUnit? first second third fourth, half with
      | none, _ => .error ⟨.invalidUnicodeEscape, rest.length + 5⟩
      | some unit, some high =>
        if isLowSurrogate unit then
          prepend (pairCharacter high unit) (readString opening none rest)
        else if isHighSurrogate unit then
          prepend (.ofCodeUnit high) (readString opening (some unit) rest)
        else
          prepend (.ofCodeUnit high)
            (prepend (.ofCodeUnit unit) (readString opening none rest))
      | some unit, none =>
        if isHighSurrogate unit then readString opening (some unit) rest
        else prepend (.ofCodeUnit unit) (readString opening none rest)
  | '\\' :: 'u' :: rest => .error ⟨.invalidUnicodeEscape, rest.length + 1⟩
  | '\\' :: letter :: rest =>
    match escaped? letter with
    | some character => prependHalf half (prepend character (readString opening none rest))
    | none => .error ⟨.invalidEscape, rest.length + 2⟩
  | character :: rest =>
    if character.toNat ≤ 0x1f then .error ⟨.controlCharacter, rest.length + 1⟩
    else prependHalf half (prepend character (readString opening none rest))

/-- The leading decimal digits of a text and what follows them. -/
def takeDigits (text : List Char) : List Char × List Char :=
  (text.takeWhile Char.isDigit, text.dropWhile Char.isDigit)

/-- The number that decimal digits write. -/
def digitsNumber (digits : List Char) : Nat :=
  digits.foldl (fun total digit => 10 * total + (digit.toNat - 48)) 0

/-- The digits after a point, if a point with digits follows. -/
def readFraction (text : List Char) : Option (List Char × List Char) :=
  match text with
  | '.' :: rest =>
    let (digits, rest) := takeDigits rest
    if digits.isEmpty then none else some (digits, rest)
  | _ => none

/-- The exponent, if a complete one follows. -/
def readExponent (text : List Char) : Option (Int × List Char) :=
  match text with
  | mark :: rest =>
    if mark == 'e' || mark == 'E' then
      let (negative, rest) :=
        match rest with
        | '-' :: rest => (true, rest)
        | '+' :: rest => (false, rest)
        | _ => (false, rest)
      let (digits, rest) := takeDigits rest
      if digits.isEmpty then none
      else
        let magnitude : Int := digitsNumber digits
        some (if negative then -magnitude else magnitude, rest)
    else none
  | [] => none

/-- The digits before a point: a single zero, or digits that do not start with one. -/
def readWhole (text : List Char) : Option (List Char × List Char) :=
  match text with
  | '0' :: rest => some (['0'], rest)
  | _ =>
    let (digits, rest) := takeDigits text
    if digits.isEmpty then none else some (digits, rest)

/-- A number after its sign; an integer has at most `limit` digits. -/
def readUnsigned (limit : Nat) (negative : Bool) (text : List Char) :
    Option (Except Cause Value × List Char) :=
  match readWhole text with
  | none => none
  | some (whole, rest) =>
    let fraction := readFraction rest
    let rest := (fraction.map (·.2)).getD rest
    let exponent := readExponent rest
    let rest := (exponent.map (·.2)).getD rest
    if fraction.isNone && exponent.isNone then
      if limit < whole.length then some (.error (.beyond .digits), rest)
      else
        let magnitude : Int := digitsNumber whole
        some (.ok (.integer (if negative then -magnitude else magnitude)), rest)
    else
      let places := (fraction.map (·.1)).getD []
      let power := (exponent.map (·.1)).getD 0
      some (.ok (.real (.ofDecimal negative (digitsNumber (whole ++ places))
        (power - places.length))), rest)

/-- What is read of a number, or a stop at its first character. -/
def numberStep (remaining : Nat) : Option (Except Cause Value × List Char) → Step Value
  | some (.ok value, rest) => .ok (value, rest)
  | some (.error cause, _) => .error ⟨cause, remaining⟩
  | none => .error ⟨.expectingValue, remaining⟩

/-- A number with its sign. -/
def readNumber (limit : Nat) (text : List Char) : Step Value :=
  numberStep text.length <|
    match text with
    | '-' :: rest => readUnsigned limit true rest
    | _ => readUnsigned limit false text

/-- The constants, longest text first where one begins another. -/
def readConstant (text : List Char) : Option (Value × List Char) :=
  match text with
  | 'n' :: 'u' :: 'l' :: 'l' :: rest => some (.null, rest)
  | 't' :: 'r' :: 'u' :: 'e' :: rest => some (.boolean true, rest)
  | 'f' :: 'a' :: 'l' :: 's' :: 'e' :: rest => some (.boolean false, rest)
  | 'N' :: 'a' :: 'N' :: rest => some (.real (.notANumber 0), rest)
  | 'I' :: 'n' :: 'f' :: 'i' :: 'n' :: 'i' :: 't' :: 'y' :: rest =>
    some (.real (.infinite false), rest)
  | '-' :: 'I' :: 'n' :: 'f' :: 'i' :: 'n' :: 'i' :: 't' :: 'y' :: rest =>
    some (.real (.infinite true), rest)
  | _ => none

mutual

/-- A value at the start of a text, inside a number of lists and objects. -/
def readValue (limits : Limits) : Nat → Nat → List Char → Step Value
  | 0, _, text => .error ⟨.expectingValue, text.length⟩
  | fuel + 1, depth, text =>
    if (text.head? == some '[' || text.head? == some '\x7b') && limits.nesting ≤ depth then
      .error ⟨.beyond .nesting, text.length⟩
    else match text with
    | '"' :: rest =>
      match readString text.length none rest with
      | .ok (letters, rest) => .ok (.text (.ofLetters letters), rest)
      | .error stop => .error stop
    | '[' :: rest =>
      match skipSpace rest with
      | ']' :: rest => .ok (.list [], rest)
      | rest =>
        match readItems limits fuel (depth + 1) rest with
        | .ok (items, rest) => .ok (.list items, rest)
        | .error stop => .error stop
    | '\x7b' :: rest =>
      match skipSpace rest with
      | '\x7d' :: rest => .ok (.object [], rest)
      | rest =>
        match readFields limits fuel (depth + 1) [] rest with
        | .ok (fields, rest) => .ok (.object fields, rest)
        | .error stop => .error stop
    | _ =>
      match readConstant text with
      | some (value, rest) => .ok (value, rest)
      | none => readNumber limits.digits text

/-- The items of a list up to its closing bracket. -/
def readItems (limits : Limits) : Nat → Nat → List Char → Step (List Value)
  | 0, _, text => .error ⟨.expectingValue, text.length⟩
  | fuel + 1, depth, text =>
    match readValue limits fuel depth text with
    | .error stop => .error stop
    | .ok (item, rest) =>
      match skipSpace rest with
      | ']' :: rest => .ok ([item], rest)
      | ',' :: rest =>
        match readItems limits fuel depth (skipSpace rest) with
        | .ok (items, rest) => .ok (item :: items, rest)
        | .error stop => .error stop
      | rest => .error ⟨.expectingComma, rest.length⟩

/-- The fields of an object up to its closing brace, added to those that came before. -/
def readFields (limits : Limits) :
    Nat → Nat → List (LooseText × Value) → List Char → Step (List (LooseText × Value))
  | 0, _, _, text => .error ⟨.expectingValue, text.length⟩
  | fuel + 1, depth, fields, text =>
    match text with
    | '"' :: rest =>
      match readString text.length none rest with
      | .error stop => .error stop
      | .ok (key, rest) =>
        match skipSpace rest with
        | ':' :: rest =>
          match readValue limits fuel depth (skipSpace rest) with
          | .error stop => .error stop
          | .ok (value, rest) =>
            let fields := Value.putField (.ofLetters key) value fields
            match skipSpace rest with
            | '\x7d' :: rest => .ok (fields, rest)
            | ',' :: rest => readFields limits fuel depth fields (skipSpace rest)
            | rest => .error ⟨.expectingComma, rest.length⟩
        | rest => .error ⟨.expectingColon, rest.length⟩
    | _ => .error ⟨.expectingPropertyName, text.length⟩

end

/-- The value that a whole text writes. -/
def readWholeText (limits : Limits) (text : List Char) : Except Stop Value :=
  match text with
  | '\ufeff' :: _ => .error ⟨.byteOrderMark, text.length⟩
  | _ =>
    match readValue limits (2 * text.length + 2) 0 (skipSpace text) with
    | .error stop => .error stop
    | .ok (value, rest) =>
      match skipSpace rest with
      | [] => .ok value
      | rest => .error ⟨.extraData, rest.length⟩

/-- Reads a JSON text within limits. -/
def readWithin (limits : Limits) (text : String) : Except Fault Value :=
  let characters := text.toList
  match readWholeText limits characters with
  | .ok value => .ok value
  | .error stop => .error (.atOffset characters stop.cause (characters.length - stop.remaining))

/-- Reads a JSON text. -/
def read (text : String) : Except Fault Value :=
  readWithin .default text

end Json
end DirectiveLint
