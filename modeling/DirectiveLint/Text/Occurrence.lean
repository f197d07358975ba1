/-!
# Occurrences of a text in another

`dropStart?` takes a text off the front of another one, and `replaceFirst`
replaces its first occurrence.
-/

namespace DirectiveLint
namespace Text

/-- What follows `start` in a text that begins with it. -/
def dropStart? (start text : List Char) : Option (List Char) :=
  match start, text with
  | [], text => some text
  | _ :: _, [] => none
  | first :: start, character :: text =>
    if first = character then dropStart? start text else none

theorem dropStart?_eq_some_iff {start text rest : List Char} :
    dropStart? start text = some rest ↔ text = start ++ rest := by
  induction start generalizing text with
  | nil => simp [dropStart?, eq_comm]
  | cons first start ih =>
    cases text with
    | nil => simp [dropStart?]
    | cons character text =>
      by_cases same : first = character
      · simp [dropStart?, same, ih]
      · simp [dropStart?, same, Ne.symm same]

/-- A text with the first occurrence of `old` replaced by `new`, if there is one. -/
def replaceFirst (old new : List Char) (text : List Char) : List Char :=
  match dropStart? old text with
  | some rest => new ++ rest
  | none =>
    match text with
    | [] => []
    | character :: rest => character :: replaceFirst old new rest

end Text
end DirectiveLint
