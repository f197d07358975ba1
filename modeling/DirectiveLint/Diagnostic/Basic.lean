import DirectiveLint.Diagnostic.Edit
import DirectiveLint.Diagnostic.Severity
import DirectiveLint.Json.Printer
import DirectiveLint.Source.Location

/-!
# Diagnostics

A diagnostic reports a finding at a place.  It can carry a fix, which may be
applied without asking, and suggestions, which are only offered.  It is written
as one line of JSON text or as one line that names place, severity, message and
message id.
-/

namespace DirectiveLint

/-- An edit that is offered with a message. -/
structure Suggestion where
  messageId : String
  message : LooseText
  edit : TextEdit
  deriving DecidableEq, Repr

/-- A finding of a checker. -/
structure Diagnostic where
  messageId : String
  message : LooseText
  severity : Severity
  location : Location
  span : Option Span := none
  data : List (LooseText × Value) := []
  fix : Option TextEdit := none
  suggestions : List Suggestion := []
  checker : String := ""
  deriving Repr

namespace TextEdit

def toValue (edit : TextEdit) : Value :=
  .object [("range", .list [.integer edit.start, .integer edit.stop]), ("text", .text edit.text)]

end TextEdit

namespace Suggestion

def toValue (suggestion : Suggestion) : Value :=
  .object [("messageId", .text suggestion.messageId), ("desc", .text suggestion.message),
    ("fix", suggestion.edit.toValue)]

end Suggestion

namespace Diagnostic

def withSeverity (diagnostic : Diagnostic) (severity : Severity) : Diagnostic :=
  { diagnostic with severity }

/-- The fields that every diagnostic has. -/
def mainFields (diagnostic : Diagnostic) : List (LooseText × Value) :=
  [("file", .text diagnostic.location.file), ("line", .integer diagnostic.location.line),
    ("column", .integer diagnostic.location.column), ("severity", .text diagnostic.severity.name),
    ("message", .text diagnostic.message), ("messageId", .text diagnostic.messageId),
    ("ruleId", .text diagnostic.checker)]

/-- The fields of the end of the span. -/
def spanFields (diagnostic : Diagnostic) : List (LooseText × Value) :=
  match diagnostic.span with
  | some span =>
    [("endLine", .integer span.stopLocation.line), ("endColumn", .integer span.stopLocation.column)]
  | none => []

def fixFields (diagnostic : Diagnostic) : List (LooseText × Value) :=
  match diagnostic.fix with
  | some edit => [("fix", edit.toValue)]
  | none => []

def suggestionFields (diagnostic : Diagnostic) : List (LooseText × Value) :=
  if diagnostic.suggestions.isEmpty then []
  else [("suggestions", .list (diagnostic.suggestions.map Suggestion.toValue))]

/-- A diagnostic as an object. -/
def toValue (diagnostic : Diagnostic) : Value :=
  .object (diagnostic.mainFields ++ diagnostic.spanFields ++ diagnostic.fixFields ++
    diagnostic.suggestionFields)

/-- A diagnostic as one line of JSON text, unless one of its numbers is too long to be written. -/
def jsonLine? (diagnostic : Diagnostic) : Option String :=
  Json.print? diagnostic.toValue

/-- Place, severity and message on one line, with the message id in brackets, unless a number of the
place is too long to be written. -/
def textLine? (diagnostic : Diagnostic) : Option LooseText :=
  diagnostic.location.text?.map fun (place : String) =>
    place ++ ": " ++ diagnostic.severity.name ++ ": " ++ diagnostic.message ++
      " [" ++ diagnostic.messageId ++ "]"

/-- The edit that a diagnostic brings along: its fix, or else its first suggestion. -/
def edit? (diagnostic : Diagnostic) : Option TextEdit :=
  diagnostic.fix.or (diagnostic.suggestions.head?.map (·.edit))

end Diagnostic
end DirectiveLint
