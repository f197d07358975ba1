import DirectiveLint.Source.Scanner

/-!
# Documents

A document is a text given by its structure: code, braces, strings, comments and
templates, with documents again within braces and within the expressions of
templates.  It is printed as a text, and the places of its comments are counted
along the structure, without a scanner.

Slashes are no code here.  Whether a slash divides or begins a regular
expression is a guess of the scanner, not a matter of structure.
-/

namespace DirectiveLint
namespace Source

/-- The quotes of a string. -/
inductive Quote
  | single
  | double
  deriving DecidableEq, Repr

def Quote.mark : Quote → Char
  | single => '\''
  | double => '"'

/-- A part of a string: a character that stands for itself, or one that a backslash protects. -/
inductive StringPart
  | plain (character : Char)
  | escape (character : Char)
  deriving DecidableEq, Repr

namespace StringPart

def text : StringPart → List Char
  | plain character => [character]
  | escape character => ['\\', character]

/-- Whether a part can stand between two quotes. -/
def FitsIn (quote : Quote) : StringPart → Prop
  | plain character => character ≠ quote.mark ∧ character ≠ '\\' ∧ character ≠ '\n'
  | escape _ => True

end StringPart

mutual

/-- An item of a document. -/
inductive Item
  | code (character : Char)
  | group (body : List Item)
  | string (quote : Quote) (body : List StringPart)
  | block (value : List Char)
  | line (value : List Char)
  | template (body : List TemplatePart)

/-- A part of a template. -/
inductive TemplatePart
  | plain (character : Char)
  | escape (character : Char)
  | expression (body : List Item)

end

abbrev Document := List Item

/-! ## Printing -/

mutual

def Item.text : Item → List Char
  | .code character => [character]
  | .group body => '{' :: (Document.text body ++ ['}'])
  | .string quote body => quote.mark :: (body.flatMap StringPart.text ++ [quote.mark])
  | .block value => '/' :: '*' :: (value ++ ['*', '/'])
  | .line value => '/' :: '/' :: (value ++ ['\n'])
  | .template body => '\x60' :: (TemplatePart.textOfAll body ++ ['\x60'])

/-- The text of a document. -/
def Document.text : List Item → List Char
  | [] => []
  | item :: rest => item.text ++ Document.text rest

def TemplatePart.text : TemplatePart → List Char
  | .plain character => [character]
  | .escape character => ['\\', character]
  | .expression body => '$' :: '{' :: (Document.text body ++ ['}'])

def TemplatePart.textOfAll : List TemplatePart → List Char
  | [] => []
  | part :: rest => part.text ++ TemplatePart.textOfAll rest

end

/-! ## Comments -/

mutual

/-- The comments of an item that is printed at an offset. -/
def Item.commentsAt (offset : Nat) : Item → List Lexeme
  | .code _ => []
  | .group body => Document.commentsAt (offset + 1) body
  | .string _ _ => []
  | .block value => [⟨.block, value, offset, offset + (value.length + 4)⟩]
  | .line value => [⟨.line, value, offset, offset + (value.length + 2)⟩]
  | .template body => TemplatePart.commentsOfAllAt (offset + 1) body

/-- The comments of a document that is printed at an offset. -/
def Document.commentsAt (offset : Nat) : List Item → List Lexeme
  | [] => []
  | item :: rest =>
    item.commentsAt offset ++ Document.commentsAt (offset + item.text.length) rest

def TemplatePart.commentsAt (offset : Nat) : TemplatePart → List Lexeme
  | .plain _ => []
  | .escape _ => []
  | .expression body => Document.commentsAt (offset + 2) body

def TemplatePart.commentsOfAllAt (offset : Nat) : List TemplatePart → List Lexeme
  | [] => []
  | part :: rest =>
    part.commentsAt offset ++ TemplatePart.commentsOfAllAt (offset + part.text.length) rest

end

/-! ## Well-formed documents -/

/-- The characters that begin an item other than code, or end one. -/
def reserved : List Char := ['/', '\'', '"', '\x60', '{', '}']

/-- Whether a character stands for itself in a template in front of some text: a dollar sign before
a brace would open an expression. -/
def IsTemplateText (character : Char) (next : List Char) : Prop :=
  character ≠ '\x60' ∧ character ≠ '\\' ∧ ¬ (character = '$' ∧ next.head? = some '{')

mutual

/-- Whether an item is printed without ambiguity. -/
def Item.WellFormed : Item → Prop
  | .code character => character ∉ reserved
  | .group body => Document.WellFormed body
  | .string quote body => ∀ part ∈ body, part.FitsIn quote
  | .block value => ¬ ['*', '/'] <:+: value
  | .line value => '\n' ∉ value ∧ value.getLast? ≠ some '\r'
  | .template body => TemplatePart.AllWellFormed body

def Document.WellFormed : List Item → Prop
  | [] => True
  | item :: rest => item.WellFormed ∧ Document.WellFormed rest

/-- Whether a part of a template is printed without ambiguity in front of some text. -/
def TemplatePart.WellFormed (next : List Char) : TemplatePart → Prop
  | .plain character => IsTemplateText character next
  | .escape _ => True
  | .expression body => Document.WellFormed body

def TemplatePart.AllWellFormed : List TemplatePart → Prop
  | [] => True
  | part :: rest =>
    part.WellFormed (TemplatePart.textOfAll rest) ∧ TemplatePart.AllWellFormed rest

end

end Source
end DirectiveLint
