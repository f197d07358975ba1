import DirectiveLint.Character.Numeric

/-!
# Arguments as tokens

A command line is made of options and plain arguments.  An argument that starts
with a hyphen is an option if it is the name of one, or the only name that
begins like it; a value may be attached to a long name by an equals sign and to
a short one also directly.  Negative numbers and arguments with a blank in them
are plain unless they name an option, a hyphen alone is plain, and so is
everything after two hyphens.

An argument that could be the beginning of several names is refused.
-/

namespace DirectiveLint
namespace CommandLine

/-- How many values an option takes. -/
inductive Arity
  | none
  | one
  | many
  deriving DecidableEq, Repr

/-- An option with its names. -/
structure OptionSpec (Key : Type) where
  key : Key
  names : List String
  arity : Arity
  deriving Repr

/-- An option as it was named, perhaps with a value attached. -/
structure NamedOption (Key : Type) where
  spec : OptionSpec Key
  name : String
  attached : Option (List Char)
  deriving Repr

/-- A part of a command line. -/
inductive Token (Key : Type)
  | plain (text : String)
  | separator
  | option (text : String) (named : NamedOption Key)
  | unknownOption (text : String)
  deriving Repr

namespace Token

variable {Key : Type}

/-- The argument that separates options from plain arguments. -/
def separatorText : String := "--"

def isOption : Token Key → Bool
  | .option _ _ => true
  | .unknownOption _ => true
  | _ => false

def isPlain : Token Key → Bool
  | .plain _ => true
  | _ => false

/-- A token as the argument that it was. -/
def text : Token Key → String
  | .plain text => text
  | .separator => separatorText
  | .option text _ => text
  | .unknownOption text => text

end Token

/-- What comes before the first equals sign, and what comes after it, if there is one. -/
def splitEquals : List Char → List Char × Option (List Char)
  | [] => ([], none)
  | character :: rest =>
    if character = '=' then ([], some rest)
    else
      let (before, after) := splitEquals rest
      (character :: before, after)

/-- Whether a name is a long one. -/
def isLong (name : List Char) : Bool :=
  name.take 2 == ['-', '-']

/-- Whether characters are digits, with at most one point before the last of them. -/
def isMagnitude (characters : List Char) : Bool :=
  let whole := characters.takeWhile Character.isDecimalDigit
  match characters.dropWhile Character.isDecimalDigit with
  | [] => !whole.isEmpty
  | '.' :: fraction => !fraction.isEmpty && fraction.all Character.isDecimalDigit
  | _ => false

/-- Whether an argument is a negative number; a line feed may follow it. -/
def isNegativeNumber (argument : List Char) : Bool :=
  match argument with
  | '-' :: rest =>
    isMagnitude rest || (rest.getLast? == some '\n' && isMagnitude rest.dropLast)
  | _ => false

namespace OptionSpec

variable {Key : Type}

/-- The option with a name. -/
def named? (specs : List (OptionSpec Key)) (name : String) : Option (OptionSpec Key) :=
  specs.find? (·.names.contains name)

/-- All names with their options. -/
def nameTable (specs : List (OptionSpec Key)) : List (String × OptionSpec Key) :=
  specs.flatMap fun spec => spec.names.map (·, spec)

/-- The readings of an argument by the beginnings of long names. -/
def longReadings (specs : List (OptionSpec Key)) (argument : List Char) :
    List (NamedOption Key) :=
  let (start, value) := splitEquals argument
  (nameTable specs).filterMap fun entry =>
    if start.isPrefixOf entry.1.toList then
      some ⟨entry.2, entry.1, value⟩
    else none

/-- The readings of an argument by short names. -/
def shortReadings (specs : List (OptionSpec Key)) (argument : List Char) :
    List (NamedOption Key) :=
  (nameTable specs).filterMap fun entry =>
    let name := entry.1.toList
    if name == argument.take 2 then some ⟨entry.2, entry.1, some (argument.drop 2)⟩
    else if argument.isPrefixOf name then some ⟨entry.2, entry.1, none⟩
    else none

/-- The readings of an argument that is not a name by itself. -/
def readings (specs : List (OptionSpec Key)) (argument : List Char) : List (NamedOption Key) :=
  if isLong argument then longReadings specs argument else shortReadings specs argument

/-- The option that an argument names by what comes before its equals sign. -/
def namedBeforeEquals? (specs : List (OptionSpec Key)) (argument : List Char) :
    Option (NamedOption Key) :=
  match splitEquals argument with
  | (_, none) => none
  | (name, some value) =>
    (named? specs (String.ofList name)).map (⟨·, String.ofList name, some value⟩)

end OptionSpec

namespace Token

variable {Key : Type}

/-- The token of an argument that starts with a hyphen and is not a name by itself; nothing if it
could be several. -/
def ofHyphenated? (specs : List (OptionSpec Key)) (argument : String) : Option (Token Key) :=
  let characters := argument.toList
  match OptionSpec.namedBeforeEquals? specs characters with
  | some named => some (.option argument named)
  | none =>
    match OptionSpec.readings specs characters with
    | [named] => some (.option argument named)
    | _ :: _ :: _ => none
    | [] =>
      if isNegativeNumber characters || characters.contains ' ' then some (.plain argument)
      else some (.unknownOption argument)

/-- The token of an argument; nothing if it could be several options. -/
def ofArgument? (specs : List (OptionSpec Key)) (argument : String) : Option (Token Key) :=
  match argument.toList with
  | [] => some (.plain argument)
  | first :: rest =>
    if first ≠ '-' then some (.plain argument)
    else
      match OptionSpec.named? specs argument with
      | some spec => some (.option argument ⟨spec, argument, none⟩)
      | none => if rest.isEmpty then some (.plain argument) else ofHyphenated? specs argument

/-- The tokens of arguments; nothing if one of them could be several options. -/
def ofArguments? (specs : List (OptionSpec Key)) : List String → Option (List (Token Key))
  | [] => some []
  | argument :: rest =>
    if argument == separatorText then some (.separator :: rest.map .plain)
    else
      match ofArgument? specs argument, ofArguments? specs rest with
      | some token, some tokens => some (token :: tokens)
      | _, _ => none

end Token
end CommandLine
end DirectiveLint
