import DirectiveLint.Failure
import DirectiveLint.Pattern.NamedGroup
import DirectiveLint.Pattern.Search

/-!
# Description formats

A description format is a pattern that has to match somewhere in a description.
Named groups may be written in either dialect.
-/

namespace DirectiveLint

/-- A pattern that is ready to be searched for: its text after the conversion of names, and what was
read from it. -/
structure DescriptionFormat where
  pattern : List Letter
  parsed : Pattern.Parsed
  deriving Repr

namespace DescriptionFormat

/-- How a fault of a pattern shows in the configuration of a directive. -/
def failureOf (key : String) (pattern : List Letter) (fault : Pattern.Fault) : Failure :=
  match fault with
  | .malformed _ _ => .configuration (.invalidPattern key pattern fault)
  | .unusable _ => .configuration (.invalidPattern key pattern fault)
  | _ => .patternLimit fault

/-- Makes a format from the pattern in the options of a directive. -/
def compile (key : String) (source : LooseText) : Except Failure DescriptionFormat :=
  let pattern := Pattern.convertNames source.letters
  match Pattern.compile pattern with
  | .ok parsed => .ok ⟨pattern, parsed⟩
  | .error fault => .error (failureOf key pattern fault)

/-- The text of the pattern after the conversion of names. -/
def text (format : DescriptionFormat) : LooseText :=
  .ofLetters format.pattern

/-- Whether the pattern matches somewhere in a description. -/
def occursIn (format : DescriptionFormat) (description : String) : Except Failure Bool :=
  match format.parsed.search description with
  | .found => .ok true
  | .notFound => .ok false
  | .disordered => .error .disorderedGroup

end DescriptionFormat
end DirectiveLint
