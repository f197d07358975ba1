import DirectiveLint.Text.Place

/-!
# Faults of JSON text

A fault is a cause and the offset at which reading stopped.  Its message also
gives the line and the column of that offset.  A limit that a text goes beyond is
a fault of another kind: the text is well formed.
-/

namespace DirectiveLint
namespace Json

/-- A limit on what is read. -/
inductive Limit
  | digits
  | nesting
  deriving DecidableEq, Repr

/-- What is wrong with a JSON text. -/
inductive Cause
  | expectingValue
  | expectingPropertyName
  | expectingColon
  | expectingComma
  | extraData
  | unterminatedString
  | controlCharacter
  | invalidEscape
  | invalidUnicodeEscape
  | byteOrderMark
  | beyond (limit : Limit)
  deriving DecidableEq, Repr

/-- The wording of a cause. -/
def Cause.message : Cause → String
  | expectingValue => "Expecting value"
  | expectingPropertyName => "Expecting property name enclosed in double quotes"
  | expectingColon => "Expecting ':' delimiter"
  | expectingComma => "Expecting ',' delimiter"
  | extraData => "Extra data"
  | unterminatedString => "Unterminated string starting at"
  | controlCharacter => "Invalid control character at"
  | invalidEscape => "Invalid \\escape"
  | invalidUnicodeEscape => "Invalid \\uXXXX escape"
  | byteOrderMark => "Unexpected UTF-8 BOM (decode using utf-8-sig)"
  | beyond .digits => "Too many digits"
  | beyond .nesting => "Too many levels"

/-- A cause at a place of a text. -/
structure Fault where
  cause : Cause
  line : Nat
  column : Nat
  offset : Nat
  deriving DecidableEq, Repr

namespace Fault

/-- The fault of a cause at an offset of a text. -/
def atOffset (text : List Char) (cause : Cause) (offset : Nat) : Fault :=
  { cause
    line := Text.lineAt '\n' text offset
    column := Text.columnAt '\n' text offset
    offset }

def message (fault : Fault) : String :=
  fault.cause.message ++ ": line " ++ toString fault.line ++ " column " ++
    toString fault.column ++ " (char " ++ toString fault.offset ++ ")"

end Fault
end Json
end DirectiveLint
