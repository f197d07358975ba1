import DirectiveLint.Failure

/-!
# Messages

A message is a template of literal text and fields.  Rendering puts the shown
form of a value in the place of each field, whatever letters that form has;
values that no field names are not used.  A value that cannot be written leaves
the message unwritten.
-/

namespace DirectiveLint

/-- The messages that directives give rise to. -/
inductive MessageId
  | directiveComment
  | ignoreInsteadOfExpectError
  | requiresDescription
  | descriptionNotMatching
  | replaceIgnore
  deriving DecidableEq, Repr

/-- A part of a template. -/
inductive TemplatePart
  | literal (text : String)
  | field (name : String)
  deriving DecidableEq, Repr

namespace MessageId

def all : List MessageId :=
  [directiveComment, ignoreInsteadOfExpectError, requiresDescription, descriptionNotMatching,
    replaceIgnore]

def name : MessageId → String
  | directiveComment => "tsDirectiveComment"
  | ignoreInsteadOfExpectError => "tsIgnoreInsteadOfExpectError"
  | requiresDescription => "tsDirectiveCommentRequiresDescription"
  | descriptionNotMatching => "tsDirectiveCommentDescriptionNotMatchPattern"
  | replaceIgnore => "replaceTsIgnoreWithTsExpectError"

def ofName? (name : LooseText) : Option MessageId :=
  all.find? fun id => .plain id.name == name

/-- The field for the keyword of a directive. -/
def directiveField : String := "directive"

/-- The field for the pattern of a description. -/
def formatField : String := "format"

def template : MessageId → List TemplatePart
  | directiveComment =>
    [.literal "Do not use \"@ts-", .field directiveField,
      .literal "\" because it alters compilation errors."]
  | ignoreInsteadOfExpectError =>
    [.literal ("Use \"@ts-expect-error\" instead of \"@ts-ignore\", as \"@ts-ignore\" " ++
      "will do nothing if the following line is error-free.")]
  | requiresDescription =>
    [.literal "Include a description after the \"@ts-", .field directiveField,
      .literal "\" directive to explain why the @ts-", .field directiveField,
      .literal " is necessary. The description must be ",
      .field ConfigurationFault.minimumKey, .literal " characters or longer."]
  | descriptionNotMatching =>
    [.literal "The description for the \"@ts-", .field directiveField,
      .literal "\" directive must match the ", .field formatField, .literal " format."]
  | replaceIgnore => [.literal "Replace \"@ts-ignore\" with \"@ts-expect-error\"."]

end MessageId

namespace TemplatePart

/-- The template as one text, fields in braces. -/
def source : TemplatePart → String
  | literal text => text
  | field name => "\x7b" ++ name ++ "\x7d"

/-- A part with its field filled in. -/
def render (data : List (LooseText × Value)) : TemplatePart → Except Failure LooseText
  | literal text => .ok text
  | field name =>
    match Value.fieldOf? name data with
    | none => .error (.missingField name)
    | some value =>
      match value.shown? with
      | some text => .ok text
      | none => .error .tooManyDigits

/-- All parts of a template, one after the other. -/
def renderAll (data : List (LooseText × Value)) : List TemplatePart → Except Failure LooseText
  | [] => .ok ""
  | part :: rest =>
    match part.render data with
    | .error failure => .error failure
    | .ok text =>
      match renderAll data rest with
      | .error failure => .error failure
      | .ok others => .ok (text ++ others)

end TemplatePart

/-- The text of a message with its fields filled in. -/
def renderMessage (id : MessageId) (data : List (LooseText × Value)) : Except Failure LooseText :=
  TemplatePart.renderAll data id.template

/-- The fields that a value gives a message; a value that does not count as given has none. -/
def messageFields (data : Value) : Except Failure (List (LooseText × Value)) :=
  match data with
  | .object fields => .ok fields
  | other => if other.isGiven then .error (.notFields other) else .ok []

/-- The text of the message that a value names, with the fields that another value gives. -/
def renderNamed (id data : Value) : Except Failure LooseText :=
  let message := match id with
    | .text name => MessageId.ofName? name
    | _ => none
  match message with
  | none => .error (if id.isKey then .unknownMessage id else .conversion (.unhashable id))
  | some message =>
    match messageFields data with
    | .error failure => .error failure
    | .ok fields => renderMessage message fields

end DirectiveLint
