import DirectiveLint.Directive.Basic
import DirectiveLint.Source.Comment
import DirectiveLint.Text.Occurrence
import DirectiveLint.Text.Trim

/-!
# Recognising directives

A directive stands at the head of a comment.  In a line comment only slashes and
then blanks may come before it; in a block comment blanks, then slashes and
asterisks in any mixture, then blanks.  The description is what follows the
keyword up to the end of the line, blanks included, and a keyword may be
continued by its description without a blank.
-/

namespace DirectiveLint

/-- A directive with its description. -/
structure DirectiveMatch where
  directive : Directive
  description : String
  deriving DecidableEq, Repr

namespace DirectiveMatch

/-- The characters that end the line of a description. -/
def endsLine (character : Char) : Bool :=
  character = '\n' || character = '\r' || character = '\u2028' || character = '\u2029'

/-- A comment value from the first character on that may start a directive. -/
def afterLead (kind : CommentKind) (value : List Char) : List Char :=
  match kind with
  | .line => (value.dropWhile (· = '/')).dropWhile Character.isBlank
  | .block =>
    ((value.dropWhile Character.isBlank).dropWhile
      fun character => character = '/' || character = '*').dropWhile Character.isBlank

/-- The directive whose keyword begins a text, with what follows the keyword. -/
def readKeyword? (text : List Char) : Option (Directive × List Char) :=
  Directive.all.findSome? fun directive =>
    (Text.dropStart? directive.keyword.toList text).map (directive, ·)

/-- The directive at the head of a comment value. -/
def ofCharacters? (kind : CommentKind) (value : List Char) : Option DirectiveMatch :=
  match Text.dropStart? "@ts-".toList (afterLead kind value) with
  | none => none
  | some rest =>
    (readKeyword? rest).map fun found =>
      { directive := found.1
        description := String.ofList (found.2.takeWhile fun character => !endsLine character) }

end DirectiveMatch

/-- The directive at the head of a comment value of some kind. -/
def matchDirectiveText (kind : CommentKind) (value : String) : Option DirectiveMatch :=
  DirectiveMatch.ofCharacters? kind value.toList

/-- The directive at the head of a comment. -/
def matchDirective (comment : Comment) : Option DirectiveMatch :=
  matchDirectiveText comment.kind comment.value

/-- The comments that carry a directive, with the directive. -/
def directiveComments (comments : List Comment) : List (Comment × DirectiveMatch) :=
  comments.filterMap fun comment => (matchDirective comment).map (comment, ·)

/-- The length of a description without the blanks at its ends. -/
def descriptionLength (description : String) : Nat :=
  (Text.trim description.toList).length

end DirectiveLint
