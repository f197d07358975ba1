import DirectiveLint.Diagnostic.Basic
import DirectiveLint.Directive.Match
import DirectiveLint.Policy.Configuration
import DirectiveLint.Policy.Message

/-!
# Evaluating directives

For a directive comment the first rule that applies wins: a disabled directive
is never reported; one that is always flagged is reported, and an `ignore`
directive then comes with the suggestion to use `expect-error` instead; a
directive that needs a description is reported when its trimmed description is
shorter than the least length, and otherwise when its format does not occur in
the description.
-/

namespace DirectiveLint

/-- A configuration with the severity and the name that its reports carry. -/
structure Evaluator where
  configuration : PolicyConfiguration
  severity : Severity
  checker : String

namespace Evaluator

/-- Whether a count is below a least value, if that is a number. -/
def isBelow? (count : Nat) (minimum : Value) : Option Bool :=
  match minimum with
  | .real bound => some (bound.exceeds (count : Rat))
  | other => other.toInteger?.map fun bound => decide ((count : Int) < bound)

/-- The text in a comment that a suggestion replaces. -/
def ignoreText : String := "@ts-ignore"

/-- The text that a suggestion puts in its place. -/
def expectErrorText : String := "@ts-expect-error"

/-- A comment value with its first `@ts-ignore` turned into `@ts-expect-error`. -/
def withExpectError (value : String) : String :=
  String.ofList
    (Text.replaceFirst ignoreText.toList expectErrorText.toList value.toList)

/-- The suggestion to use the other directive in a comment. -/
def expectErrorSuggestion (comment : Comment) : Except Failure Suggestion :=
  match renderMessage .replaceIgnore [] with
  | .error failure => .error failure
  | .ok message =>
    .ok
      { messageId := MessageId.replaceIgnore.name
        message
        edit :=
          { start := comment.span.start
            stop := comment.span.stop
            text := comment.kind.wrap (withExpectError comment.value) } }

/-- A report on a comment. -/
def report (evaluator : Evaluator) (comment : Comment) (id : MessageId)
    (data : List (LooseText × Value)) (suggestions : List Suggestion) :
    Except Failure (Option Diagnostic) :=
  match renderMessage id data with
  | .error failure => .error failure
  | .ok message =>
    .ok (some
      { messageId := id.name
        message
        severity := evaluator.severity
        location := comment.location
        span := some comment.span
        data
        suggestions
        checker := evaluator.checker })

/-- What is reported on a directive that is always flagged. -/
def reportAlways (evaluator : Evaluator) (comment : Comment) (directive : Directive) :
    Except Failure (Option Diagnostic) :=
  match directive with
  | .ignore =>
    match expectErrorSuggestion comment with
    | .error failure => .error failure
    | .ok suggestion =>
      evaluator.report comment .ignoreInsteadOfExpectError [] [suggestion]
  | _ =>
    evaluator.report comment .directiveComment
      [(MessageId.directiveField, .text directive.keyword)] []

/-- What is reported on a directive whose description does not fit its format. -/
def reportFormat (evaluator : Evaluator) (comment : Comment) (found : DirectiveMatch) :
    Except Failure (Option Diagnostic) :=
  match evaluator.configuration.formatFor found.directive with
  | none => .ok none
  | some format =>
    match format.occursIn found.description with
    | .error failure => .error failure
    | .ok true => .ok none
    | .ok false =>
      let pattern :=
        match evaluator.configuration.policyFor found.directive with
        | .descriptionFormat (some pattern) => Value.text pattern
        | _ => Value.null
      evaluator.report comment .descriptionNotMatching
        [(MessageId.directiveField, .text found.directive.keyword),
          (MessageId.formatField, pattern)] []

/-- What is reported on a directive that needs a description. -/
def reportDescription (evaluator : Evaluator) (comment : Comment) (found : DirectiveMatch) :
    Except Failure (Option Diagnostic) :=
  let minimum := evaluator.configuration.minimum
  match isBelow? (descriptionLength found.description) minimum with
  | none => .error (.notComparable minimum)
  | some true =>
    evaluator.report comment .requiresDescription
      [(MessageId.directiveField, .text found.directive.keyword),
        (ConfigurationFault.minimumKey, minimum)] []
  | some false => evaluator.reportFormat comment found

/-- What is reported on a comment with a directive. -/
def evaluateMatch (evaluator : Evaluator) (comment : Comment) (found : DirectiveMatch) :
    Except Failure (Option Diagnostic) :=
  let policy := evaluator.configuration.policyFor found.directive
  match policy with
  | .disabled => .ok none
  | .alwaysFlag => evaluator.reportAlways comment found.directive
  | _ =>
    if policy.requiresDescription then evaluator.reportDescription comment found
    else .ok none

/-- What is reported on a comment. -/
def evaluate (evaluator : Evaluator) (comment : Comment) : Except Failure (Option Diagnostic) :=
  match matchDirective comment with
  | none => .ok none
  | some found => evaluator.evaluateMatch comment found

/-- The reports on comments, in their order. -/
def evaluateAll (evaluator : Evaluator) : List Comment → Except Failure (List Diagnostic)
  | [] => .ok []
  | comment :: rest =>
    match evaluator.evaluate comment with
    | .error failure => .error failure
    | .ok found =>
      match evaluateAll evaluator rest with
      | .error failure => .error failure
      | .ok others => .ok (found.toList ++ others)

end Evaluator
end DirectiveLint
