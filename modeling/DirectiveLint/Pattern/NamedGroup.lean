import DirectiveLint.Character.Alphabetic
import DirectiveLint.Character.Numeric
import DirectiveLint.Text.Loose

/-!
# Two ways to write named groups

One dialect opens a named group by `(?<name>` and refers to it by `\k<name>`,
another by `(?P<name>` and `(?P=name)`.  Patterns of the first dialect are
converted to the second.  A conversion looks at the character before it only to
see whether that is a backslash.
-/

namespace DirectiveLint
namespace Pattern
namespace NamedGroup

/-- Whether a text goes on with the mark of a look-behind. -/
def marksLookBehind (text : List Letter) : Bool :=
  match text.head? with
  | some letter => letter = '=' || letter = '!'
  | none => false

/-- Converts the openings of named groups.  `previous` is the letter before the text. -/
def convertOpenings (previous : Option Letter) : List Letter → List Letter
  | [] => []
  | .whole '(' :: .whole '?' :: .whole '<' :: rest =>
    if previous ≠ some (.whole '\\') ∧ marksLookBehind rest = false then
      '(' :: '?' :: 'P' :: '<' :: convertOpenings (some '<') rest
    else '(' :: '?' :: '<' :: convertOpenings (some '<') rest
  | letter :: rest => letter :: convertOpenings (some letter) rest

/-- Letters that may start a name that is referred to. -/
def startsName (letter : Letter) : Bool :=
  letter.satisfies fun character =>
    character.isAlpha || character = '_' || character = '$'

/-- Letters that may continue a name that is referred to. -/
def continuesName (letter : Letter) : Bool :=
  letter.satisfies fun character =>
    Character.isAlphabetic character || Character.isNumeral character ||
      character = '_' || character = '$'

/-- The name at the start of a text that a closing angle bracket follows, with what comes after. -/
def takeName? (text : List Letter) : Option (List Letter × List Letter) :=
  match text with
  | [] => none
  | first :: rest =>
    if startsName first then
      match rest.dropWhile continuesName with
      | .whole '>' :: after => some (first :: rest.takeWhile continuesName, after)
      | _ => none
    else none

theorem takeName?_length {text name after : List Letter}
    (found : takeName? text = some (name, after)) : after.length < text.length := by
  cases text with
  | nil => simp [takeName?] at found
  | cons first rest =>
    simp only [takeName?] at found
    split at found
    · split at found
      · rename_i shape
        obtain ⟨rfl, rfl⟩ := Prod.mk.inj (Option.some.inj found)
        have whole := congrArg List.length (List.takeWhile_append_dropWhile
          (p := continuesName) (l := rest))
        rw [List.length_append, shape] at whole
        simp only [List.length_cons] at whole ⊢
        omega
      · simp at found
    · simp at found

/-- Converts the references to named groups.  `previous` is the letter before the text. -/
def convertReferences (previous : Option Letter) (text : List Letter) : List Letter :=
  match text with
  | [] => []
  | .whole '\\' :: .whole 'k' :: .whole '<' :: rest =>
    if previous = some (.whole '\\') then '\\' :: convertReferences (some '\\') ('k' :: '<' :: rest)
    else
      match _found : takeName? rest with
      | some (name, after) =>
        (['(', '?', 'P', '='] : List Letter) ++ name ++
          (')' : Letter) :: convertReferences (some '>') after
      | none => '\\' :: convertReferences (some '\\') ('k' :: '<' :: rest)
  | letter :: rest => letter :: convertReferences (some letter) rest
termination_by text.length
decreasing_by
  · simp
  · have := takeName?_length _found
    simp only [List.length_cons]
    omega
  · simp
  · simp

end NamedGroup

/-- A pattern with its named groups and the references to them converted. -/
def convertNames (source : List Letter) : List Letter :=
  NamedGroup.convertReferences none (NamedGroup.convertOpenings none source)

end Pattern
end DirectiveLint
