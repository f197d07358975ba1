import DirectiveLint.Checker.Basic
import DirectiveLint.Policy.Evaluator

/-!
# The rule for directive comments

The rule gathers the directive comments of a file and evaluates each of them
once.  Configuring it again between the two steps changes how the gathered
comments are evaluated.
-/

namespace DirectiveLint

/-- The state of the rule: how it evaluates and what it has gathered. -/
structure DirectiveEvidence where
  evaluator : Evaluator
  gathered : List (Comment × DirectiveMatch)

namespace DirectiveEvidence

def ruleName : String := "ban-ts-comment"

def ruleDescription : String :=
  "Disallow `@ts-<directive>` comments or require descriptions after directives"

/-- The messages that the rule reports. -/
def reported : List String :=
  (MessageId.all.filter (· != .replaceIgnore)).map MessageId.name

def initial : DirectiveEvidence :=
  ⟨⟨.default, .error, ruleName⟩, []⟩

/-- Evaluates by the configuration that options describe; without a severity, as errors. -/
def configure (severity : Option Severity) (options : Mapping) (evidence : DirectiveEvidence) :
    Configured DirectiveEvidence :=
  match PolicyConfiguration.ofOptions options with
  | .error failure => ⟨evidence, some failure⟩
  | .ok configuration =>
    { state := { evidence with evaluator := ⟨configuration, severity.getD .error, ruleName⟩ } }

/-- Replaces what was gathered by the directive comments of a file. -/
def collect (file : SourceFile) (evidence : DirectiveEvidence) : Collected DirectiveEvidence :=
  let gathered := directiveComments file.comments
  { state := { evidence with gathered }
    stats := [(ruleName ++ "_directives", .integer gathered.length)] }

/-- The reports on gathered comments up to the first that cannot be evaluated. -/
def evaluate (evaluator : Evaluator) :
    List (Comment × DirectiveMatch) → List Diagnostic × Option Failure
  | [] => ([], none)
  | (comment, found) :: rest =>
    match evaluator.evaluateMatch comment found with
    | .error failure => ([], some failure)
    | .ok report =>
      let others := evaluate evaluator rest
      (report.toList ++ others.1, others.2)

/-- The text of a failure to evaluate. -/
def failureText : Failure → LooseText
  | .disorderedGroup =>
    "The span of capturing group is wrong, please report a bug for the re module."
  | .tooManyDigits => Number.digitLimitText
  | _ => "the least description length is not a number"

/-- Evaluates what was gathered and forgets it. -/
def diagnose (evidence : DirectiveEvidence) : Diagnosed DirectiveEvidence :=
  match evaluate evidence.evaluator evidence.gathered with
  | (found, some failure) => ⟨evidence, found, some (failureText failure)⟩
  | (found, none) => ⟨{ evidence with gathered := [] }, found, none⟩

/-- The note on the configuration that the rule works with, if it can be written. -/
def notes (evidence : DirectiveEvidence) : List LooseText :=
  ((Value.object evidence.evaluator.configuration.toOptions).written?.map fun options =>
    LooseText.plain ("Built directive policy: " ++ options)).toList

end DirectiveEvidence

/-- The rule that reports directive comments. -/
def directiveRule : Rule where
  label := "BanTsCommentChecker"
  name := DirectiveEvidence.ruleName
  description := DirectiveEvidence.ruleDescription
  errorIds := DirectiveEvidence.reported
  State := DirectiveEvidence
  initial := DirectiveEvidence.initial
  configure := DirectiveEvidence.configure
  collect := DirectiveEvidence.collect
  diagnose := fun _ _ evidence => evidence.diagnose
  notes := DirectiveEvidence.notes

end DirectiveLint
