import DirectiveLint.Number.Notation
import DirectiveLint.Text.Quoted
import DirectiveLint.Value.Basic

/-!
# The written form of values

Messages show a value in its written form: texts are quoted, lists stand in
square brackets, objects in braces with their keys quoted, and the constants
are written with capital initials.  Running text shows a text as it is.

A value is written only if each of its integers may be written.
-/

namespace DirectiveLint
namespace Value

mutual

/-- Whether every integer in a value may be written. -/
def isWritable : Value → Bool
  | .integer value => Number.isWritable value
  | .list items => areWritable items
  | .object fields => areFieldsWritable fields
  | _ => true

def areWritable : List Value → Bool
  | [] => true
  | item :: rest => isWritable item && areWritable rest

def areFieldsWritable : List (LooseText × Value) → Bool
  | [] => true
  | field :: rest => isFieldWritable field && areFieldsWritable rest

def isFieldWritable : LooseText × Value → Bool
  | (_, value) => isWritable value

end

theorem areWritable_iff {items : List Value} :
    areWritable items = true ↔ ∀ item ∈ items, isWritable item = true := by
  induction items with
  | nil => simp [areWritable]
  | cons item rest inductionHypothesis => simp [areWritable, inductionHypothesis]

theorem areFieldsWritable_iff {fields : List (LooseText × Value)} :
    areFieldsWritable fields = true ↔ ∀ field ∈ fields, isWritable field.2 = true := by
  induction fields with
  | nil => simp [areFieldsWritable]
  | cons field rest inductionHypothesis =>
      rcases field with ⟨key, value⟩
      simp [areFieldsWritable, isFieldWritable, inductionHypothesis]

/-- Parts joined by a comma and a blank. -/
def commaSeparated (parts : List String) : String :=
  ", ".intercalate parts

mutual

/-- The written form of a value, whatever the lengths of its integers. -/
def written : Value → String
  | .null => "None"
  | .boolean value => if value then "True" else "False"
  | .integer value => toString value
  | .real value => value.text
  | .text value => Text.quoted value
  | .list items => "[" ++ commaSeparated (writtenItems items) ++ "]"
  | .object fields => "\x7b" ++ commaSeparated (writtenFields fields) ++ "\x7d"

def writtenItems : List Value → List String
  | [] => []
  | item :: rest => written item :: writtenItems rest

def writtenFields : List (LooseText × Value) → List String
  | [] => []
  | field :: rest => writtenField field :: writtenFields rest

def writtenField : LooseText × Value → String
  | (key, value) => Text.quoted key ++ ": " ++ written value

end

/-- A value in running text: a text as it is, any other value in its written form. -/
def shown : Value → LooseText
  | .text value => value
  | other => other.written

/-- The written form of a value that may be written. -/
def written? (value : Value) : Option String :=
  if value.isWritable then some value.written else none

/-- A value that may be written, in running text. -/
def shown? (value : Value) : Option LooseText :=
  if value.isWritable then some value.shown else none

end Value
end DirectiveLint
