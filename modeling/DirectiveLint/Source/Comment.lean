import DirectiveLint.Source.LineIndex

/-!
# Comments

A comment is known by its kind and its value, the text between its delimiters.
-/

namespace DirectiveLint

inductive CommentKind
  | line
  | block
  deriving DecidableEq, Repr

namespace CommentKind

def name : CommentKind → String
  | line => "Line"
  | block => "Block"

/-- A comment value between the delimiters of its kind. -/
def wrap : CommentKind → String → String
  | line, value => "//" ++ value
  | block, value => "/*" ++ value ++ "*/"

end CommentKind

/-- A comment of a source text. -/
structure Comment where
  kind : CommentKind
  value : String
  span : Span
  deriving DecidableEq, Repr

namespace Comment

/-- The comment with its delimiters. -/
def text (comment : Comment) : String :=
  comment.kind.wrap comment.value

def location (comment : Comment) : Location :=
  comment.span.startLocation

end Comment
end DirectiveLint
