import DirectiveLint.Character.Blank
import DirectiveLint.Character.Numeric
import DirectiveLint.Source.Comment
import DirectiveLint.Source.Literal

/-!
# Scanning a source text for comments

The scanner walks over a script text from left to right.  At each step it looks
at what the next character opens: a comment, a literal, a brace that matters to
a template, or plain code.  Comments are reported; everything else only moves
the scanner on.

A slash that opens no comment starts a regular expression when the code before
it cannot end an operand: at the start, after an operator or an opening bracket,
or after a word such as `return`.  This is a guess from the preceding code, not
a parse.

Within template literals the scanner keeps one count per open expression: the
number of braces that are open in it.  A closing brace at count zero leads back
into the template text.
-/

namespace DirectiveLint
namespace Source

/-- The last piece of code that was not blank, as far as it matters to a slash. -/
inductive Preceding
  | nothing
  | word (characters : List Char)
  | mark (character : Char)
  deriving DecidableEq, Repr

namespace Preceding

/-- Marks after which a slash starts a regular expression. -/
def openingMarks : List Char := "(,=:[!&|?\x7b\x7d;+-*%<>~^".toList

/-- Words after which a slash starts a regular expression. -/
def openingWords : List (List Char) :=
  ["return", "typeof", "instanceof", "in", "of", "new", "delete", "void", "throw", "case", "do",
    "else", "yield", "await"].map String.toList

/-- Whether a slash here starts a regular expression. -/
def allowsRegex : Preceding → Bool
  | nothing => true
  | word characters => openingWords.contains characters
  | mark character => openingMarks.contains character

end Preceding

/-- Characters that make up words. -/
def isWordCharacter (character : Char) : Bool :=
  Character.isAlphabetic character || Character.isNumeral character ||
    character = '_' || character = '$'

/-- The state of the scanner: its position, the text from there on, the open expressions of
template literals from the innermost outwards, and the preceding code. -/
structure Scan where
  position : Nat
  rest : List Char
  braces : List Nat
  preceding : Preceding
  deriving DecidableEq, Repr

/-- A comment as the scanner meets it. -/
structure Lexeme where
  kind : CommentKind
  value : List Char
  start : Nat
  stop : Nat
  deriving DecidableEq, Repr

namespace Lexeme

def toComment (index : LineIndex) (lexeme : Lexeme) : Comment :=
  { kind := lexeme.kind
    value := String.ofList lexeme.value
    span := index.spanOf lexeme.start lexeme.stop }

end Lexeme

/-- What a character opens, given the one after it. -/
inductive Opening
  | lineComment
  | blockComment
  | string
  | template
  | regex
  | braceOpen
  | braceClose
  | code
  deriving DecidableEq, Repr

namespace Scan

def start (text : List Char) : Scan :=
  ⟨0, text, [], .nothing⟩

/-- Moves on by a number of characters. -/
def advance (scan : Scan) (count : Nat) : Scan :=
  { scan with position := scan.position + count, rest := scan.rest.drop count }

def after (scan : Scan) (preceding : Preceding) : Scan :=
  { scan with preceding }

/-- What the character at the position opens. -/
def opening (scan : Scan) (character : Char) (rest : List Char) : Opening :=
  if character = '/' ∧ rest.head? = some '/' then .lineComment
  else if character = '/' ∧ rest.head? = some '*' then .blockComment
  else if character = '\'' ∨ character = '"' then .string
  else if character = '\x60' then .template
  else if character = '/' ∧ scan.preceding.allowsRegex then .regex
  else if character = '{' ∧ scan.braces ≠ [] then .braceOpen
  else if character = '}' ∧ scan.braces ≠ [] then .braceClose
  else .code

/-- Moves on over a word, a blank or a mark. -/
def passCode (scan : Scan) (character : Char) : Scan :=
  if isWordCharacter character then
    let word := scan.rest.takeWhile isWordCharacter
    (scan.advance word.length).after (.word word)
  else if Character.isBlank character then scan.advance 1
  else (scan.advance 1).after (.mark character)

/-- Moves on over one character and the template text after it. -/
def passTemplate (scan : Scan) (rest : List Char) : Scan :=
  let extent := templateExtent false rest
  let next := scan.advance (extent.length + 1)
  if extent.embeds then
    { next with braces := 0 :: next.braces, preceding := .mark '{' }
  else next.after (.mark '\x60')

/-- Moves on over a closing brace while an expression is open. -/
def passBraceClose (scan : Scan) (rest : List Char) : Scan :=
  match scan.braces with
  | [] => scan.passCode '}'
  | 0 :: outer => passTemplate { scan with braces := outer } rest
  | (depth + 1) :: outer => passCode { scan with braces := depth :: outer } '}'

/-- Moves on over an opening brace while an expression is open. -/
def passBraceOpen (scan : Scan) : Scan :=
  match scan.braces with
  | [] => scan.passCode '{'
  | depth :: outer => passCode { scan with braces := (depth + 1) :: outer } '{'

/-- The line comment at the position. -/
def lineComment (scan : Scan) : Lexeme :=
  let value := lineValue (scan.rest.drop 2)
  ⟨.line, value, scan.position, scan.position + value.length + 2⟩

/-- The block comment at the position. -/
def blockComment (scan : Scan) : Lexeme :=
  let body := blockBody (scan.rest.drop 2)
  ⟨.block, body.value, scan.position,
    scan.position + body.value.length + (if body.closed then 4 else 2)⟩

/-- Moves on to the end of a comment. -/
def passComment (scan : Scan) (lexeme : Lexeme) : Scan :=
  scan.advance (lexeme.stop - lexeme.start)

/-- One step: the comment found, if any, and the state after it. -/
def step (scan : Scan) (character : Char) (rest : List Char) : Option Lexeme × Scan :=
  match scan.opening character rest with
  | .lineComment => (some scan.lineComment, scan.passComment scan.lineComment)
  | .blockComment => (some scan.blockComment, scan.passComment scan.blockComment)
  | .string =>
    (none, (scan.advance (stringExtent character false rest + 1)).after (.mark character))
  | .template => (none, scan.passTemplate rest)
  | .regex => (none, (scan.advance (regexExtent false false rest + 1)).after (.mark '/'))
  | .braceOpen => (none, scan.passBraceOpen)
  | .braceClose => (none, scan.passBraceClose rest)
  | .code => (none, scan.passCode character)

/-- Moving on over a positive number of characters leaves less of a text that is not empty. -/
theorem advance_rest_length_lt (scan : Scan) (count : Nat) (nonempty : scan.rest ≠ [])
    (positive : 0 < count) : (scan.advance count).rest.length < scan.rest.length := by
  have := List.length_pos_iff.2 nonempty
  simp only [advance, List.length_drop]
  omega

theorem passCode_rest_length_lt (scan : Scan) (character : Char) (rest : List Char)
    (shape : scan.rest = character :: rest) :
    (scan.passCode character).rest.length < scan.rest.length := by
  have nonempty : scan.rest ≠ [] := by simp [shape]
  simp only [passCode]
  split
  · rename_i word
    refine advance_rest_length_lt scan _ nonempty ?_
    simp [shape, word]
  · split
    · exact advance_rest_length_lt scan _ nonempty (by decide)
    · exact advance_rest_length_lt scan _ nonempty (by decide)

theorem passTemplate_rest_length_lt (scan : Scan) (rest : List Char)
    (nonempty : scan.rest ≠ []) :
    (scan.passTemplate rest).rest.length < scan.rest.length := by
  simp only [passTemplate]
  split
  · exact advance_rest_length_lt scan _ nonempty (by omega)
  · exact advance_rest_length_lt scan _ nonempty (by omega)

/-- Every step consumes at least one character. -/
theorem step_rest_length_lt (scan : Scan) (character : Char) (rest : List Char)
    (shape : scan.rest = character :: rest) :
    (scan.step character rest).2.rest.length < scan.rest.length := by
  have nonempty : scan.rest ≠ [] := by simp [shape]
  simp only [step]
  split
  · refine advance_rest_length_lt scan _ nonempty ?_
    simp only [lineComment]
    omega
  · refine advance_rest_length_lt scan _ nonempty ?_
    simp only [blockComment]
    split <;> omega
  · exact advance_rest_length_lt scan _ nonempty (by omega)
  · exact passTemplate_rest_length_lt scan rest nonempty
  · exact advance_rest_length_lt scan _ nonempty (by omega)
  · rename_i opens
    have brace : character = '{' := by
      simp only [opening] at opens
      repeat' split at opens
      all_goals simp_all
    simp only [passBraceOpen]
    split
    · exact passCode_rest_length_lt scan _ rest (by simp [shape, brace])
    · exact passCode_rest_length_lt { scan with braces := _ } _ rest (by simp [shape, brace])
  · rename_i closes
    have brace : character = '}' := by
      simp only [opening] at closes
      repeat' split at closes
      all_goals simp_all
    simp only [passBraceClose]
    split
    · exact passCode_rest_length_lt scan _ rest (by simp [shape, brace])
    · exact passTemplate_rest_length_lt { scan with braces := _ } rest nonempty
    · exact passCode_rest_length_lt { scan with braces := _ } _ rest (by simp [shape, brace])
  · exact passCode_rest_length_lt scan _ rest shape

/-- The comments from a state on, in the order in which they start. -/
def lexemes (scan : Scan) : List Lexeme :=
  match _shape : scan.rest with
  | [] => []
  | character :: rest =>
    let result := scan.step character rest
    result.1.toList ++ lexemes result.2
termination_by scan.rest.length
decreasing_by exact step_rest_length_lt scan character rest _shape

end Scan

/-- The comments of a text. -/
def lexemes (text : List Char) : List Lexeme :=
  (Scan.start text).lexemes

end Source

/-- The comments of a source text with their places in a file. -/
def scanComments (text : String) (file : String) : List Comment :=
  let characters := text.toList
  let index := LineIndex.ofText file characters
  (Source.lexemes characters).map (·.toComment index)

end DirectiveLint
