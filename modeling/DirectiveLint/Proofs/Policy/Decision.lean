import DirectiveLint.Policy.Evaluator
import Mathlib.Data.Rat.Defs

/-!
# What is decided on directives

The policies of a configuration form a table: for every directive with its
description they say whether it is passed or reported, and with which message.
The table is stated here without the evaluator, as a list of rules.  It takes the
search for a format as given, with its three results: a search that breaks down
is a failure.

A report is determined by the comment, the message and the configuration.  The
text of the message is the template with every field replaced by its value as it
is shown, and no letter of the value is taken for a part of the template.  The
one value that may be too long to be shown is the least length: then there is
neither a report nor a pass.
-/

namespace DirectiveLint

/-! ## Templates -/

namespace TemplatePart

/-- Whether a text is a template filled in from data: literal text stands as it is, and each field
gives way to the shown form of its value. -/
inductive Fills (data : List (LooseText × Value)) : List TemplatePart → LooseText → Prop
  | nothing : Fills data [] ""
  | literal (text : String) {parts : List TemplatePart} {others : LooseText}
      (behind : Fills data parts others) : Fills data (.literal text :: parts) (text ++ others)
  | field {name : String} {value : Value} (given : Value.fieldOf? name data = some value)
      {text : LooseText} (shown : value.shown? = some text)
      {parts : List TemplatePart} {others : LooseText} (behind : Fills data parts others) :
      Fills data (.field name :: parts) (text ++ others)

theorem renderAll_eq_ok_iff {data : List (LooseText × Value)} {parts : List TemplatePart}
    {text : LooseText} : renderAll data parts = .ok text ↔ Fills data parts text := by
  constructor
  · intro rendered
    induction parts generalizing text with
    | nil =>
        cases rendered
        exact .nothing
    | cons part rest inductionHypothesis =>
        simp only [renderAll] at rendered
        split at rendered
        · cases rendered
        · next shown here =>
            split at rendered
            · cases rendered
            · next others later =>
                cases rendered
                have behind := inductionHypothesis later
                cases part with
                | literal written =>
                    cases here
                    exact .literal _ behind
                | field name =>
                    simp only [render] at here
                    split at here
                    · cases here
                    · next value given =>
                        split at here
                        · next shown =>
                            cases here
                            exact .field given shown behind
                        · cases here
  · intro fills
    induction fills with
    | nothing => rfl
    | literal text _ inductionHypothesis => simp only [renderAll, render, inductionHypothesis]
    | field given shown _ inductionHypothesis =>
        simp only [renderAll, render, given, shown, inductionHypothesis]

/-- A template can be filled in if values are given for all its fields and can be written. -/
theorem exists_fills {data : List (LooseText × Value)} {parts : List TemplatePart}
    (given : ∀ name : String, .field name ∈ parts →
      ∃ value text, Value.fieldOf? name data = some value ∧ value.shown? = some text) :
    ∃ text, Fills data parts text := by
  induction parts with
  | nil => exact ⟨_, .nothing⟩
  | cons part rest inductionHypothesis =>
      rcases inductionHypothesis fun name member => given name (List.mem_cons_of_mem part member)
        with ⟨others, behind⟩
      cases part with
      | literal text => exact ⟨_, .literal text behind⟩
      | field name =>
          rcases given name List.mem_cons_self with ⟨value, text, here, shown⟩
          exact ⟨_, .field here shown behind⟩

/-- A template is filled in by data in one way. -/
theorem Fills.unique {data : List (LooseText × Value)} {parts : List TemplatePart}
    {first second : LooseText} (fills : Fills data parts first) (again : Fills data parts second) :
    first = second :=
  Except.ok.inj ((renderAll_eq_ok_iff.mpr fills).symm.trans (renderAll_eq_ok_iff.mpr again))

end TemplatePart

/-! ## The table -/

/-- The exact value of a finite number; truth values are one and zero. -/
def Value.exactValue? : Value → Option Rat
  | .boolean flag => some (if flag then 1 else 0)
  | .integer whole => some whole
  | .real number => number.toRat?
  | _ => none

/-- Whether counts can be compared with a value. -/
def Value.IsComparable (least : Value) : Prop :=
  (∃ bound, least.exactValue? = some bound) ∨ ∃ number, least = .real number

/-- Whether a count is below a least value.  Nothing is below what is not a number. -/
def IsBelow (count : Nat) (least : Value) : Prop :=
  (∃ bound, least.exactValue? = some bound ∧ (count : Rat) < bound) ∨
    least = .real (.infinite false)

/-- Whether a count is at least a least value.  Nothing is at least what is not a number. -/
def IsAtLeast (count : Nat) (least : Value) : Prop :=
  (∃ bound, least.exactValue? = some bound ∧ bound ≤ (count : Rat)) ∨ least = .real (.infinite true)

section

variable {count : Nat} {least : Value} {bound : Rat}

theorem isBelow_of_exact (value : least.exactValue? = some bound) :
    IsBelow count least ↔ (count : Rat) < bound := by
  have finite : least ≠ .real (.infinite false) := by
    rintro rfl
    cases value
  simp [IsBelow, value, finite]

theorem isAtLeast_of_exact (value : least.exactValue? = some bound) :
    IsAtLeast count least ↔ bound ≤ (count : Rat) := by
  have finite : least ≠ .real (.infinite true) := by
    rintro rfl
    cases value
  simp [IsAtLeast, value, finite]

theorem IsBelow.isComparable (below : IsBelow count least) : least.IsComparable := by
  rcases below with ⟨bound, value, _⟩ | infinite
  · exact Or.inl ⟨bound, value⟩
  · exact Or.inr ⟨_, infinite⟩

/-- A number that has no exact value is infinite or not a number. -/
theorem Value.IsComparable.cases_of_exact (comparable : least.IsComparable)
    (noValue : least.exactValue? = none) :
    (∃ negative, least = .real (.infinite negative)) ∨
      ∃ payload, least = .real (.notANumber payload) := by
  rcases comparable with ⟨bound, value⟩ | ⟨number, rfl⟩
  · rw [noValue] at value
    cases value
  · cases number with
    | finite negative significand exponent => cases noValue
    | infinite negative => exact Or.inl ⟨negative, rfl⟩
    | notANumber payload => exact Or.inr ⟨payload, rfl⟩

theorem not_isAtLeast_of_isNotANumber (number : least.isNotANumber = true) :
    ¬ IsAtLeast count least := by
  unfold Value.isNotANumber at number
  split at number
  · simp [IsAtLeast, Value.exactValue?, Number.Binary64.toRat?]
  · cases number

/-- What a count is not below it reaches, unless that is not a number. -/
theorem not_isBelow_iff (comparable : least.IsComparable) :
    ¬ IsBelow count least ↔ IsAtLeast count least ∨ least.isNotANumber = true := by
  cases value : least.exactValue? with
  | some bound =>
      have number : least.isNotANumber ≠ true := by
        intro other
        unfold Value.isNotANumber at other
        split at other
        · cases value
        · cases other
      rw [isBelow_of_exact value, isAtLeast_of_exact value, Rat.not_lt]
      exact (or_iff_left number).symm
  | none =>
      rcases comparable.cases_of_exact value with ⟨negative, rfl⟩ | ⟨payload, rfl⟩
      · cases negative <;> simp [IsBelow, IsAtLeast, Value.exactValue?, Number.Binary64.toRat?,
          Value.isNotANumber]
      · simp [IsBelow, IsAtLeast, Value.exactValue?, Number.Binary64.toRat?, Value.isNotANumber]

end

namespace DirectivePolicy

/-- Whether a policy asks for a description. -/
def AsksForDescription (policy : DirectivePolicy) : Prop :=
  policy = .allowWithDescription ∨
    ∃ pattern, policy = .descriptionFormat (some pattern) ∧ pattern ≠ .plain ""

theorem AsksForDescription.ne_alwaysFlag {policy : DirectivePolicy}
    (asks : policy.AsksForDescription) : policy ≠ .alwaysFlag := by
  rintro rfl
  rcases asks with impossible | ⟨_, impossible, _⟩ <;> cases impossible

theorem requiredPattern?_eq_some_iff {policy : DirectivePolicy} {pattern : LooseText} :
    policy.requiredPattern? = some pattern ↔
      policy = .descriptionFormat (some pattern) ∧ pattern ≠ .plain "" := by
  cases policy with
  | descriptionFormat source =>
      cases source with
      | none => simp [requiredPattern?]
      | some source =>
          by_cases empty : source = .plain ""
          · simp only [requiredPattern?, LooseText.isEmpty_iff, empty, if_true, reduceCtorEq,
              false_iff]
            rintro ⟨⟨⟩, given⟩
            exact given rfl
          · simp only [requiredPattern?, LooseText.isEmpty_iff, empty, if_false, Option.some.injEq,
              descriptionFormat.injEq]
            constructor
            · rintro rfl
              exact ⟨rfl, empty⟩
            · exact And.left
  | _ => simp [requiredPattern?]

theorem requiresDescription_iff {policy : DirectivePolicy} :
    policy.requiresDescription = true ↔ policy.AsksForDescription := by
  have byPattern : policy.requiredPattern?.isSome = true ↔
      ∃ pattern, policy = .descriptionFormat (some pattern) ∧ pattern ≠ .plain "" := by
    simp only [Option.isSome_iff_exists, requiredPattern?_eq_some_iff]
  cases policy with
  | allowWithDescription => simp [requiresDescription, AsksForDescription]
  | _ => simpa [requiresDescription, AsksForDescription] using byPattern

end DirectivePolicy

/-- What a configuration comes to for a directive with its description. -/
inductive Verdict
  | passed
  | reported (id : MessageId)
  | failed (failure : Failure)

namespace PolicyConfiguration

/-- Whether a description is as long as a configuration asks for. -/
def IsLongEnough (configuration : PolicyConfiguration) (description : String) : Prop :=
  configuration.minimum.IsComparable ∧
    ¬ IsBelow (descriptionLength description) configuration.minimum

/-- The table of policies. -/
inductive Decides (configuration : PolicyConfiguration) (found : DirectiveMatch) : Verdict → Prop
  | disabled (policy : configuration.policyFor found.directive = .disabled) :
      Decides configuration found .passed
  | unasked {pattern : Option LooseText}
      (policy : configuration.policyFor found.directive = .descriptionFormat pattern)
      (empty : pattern = none ∨ pattern = some (.plain "")) : Decides configuration found .passed
  | ignore (policy : configuration.policyFor found.directive = .alwaysFlag)
      (directive : found.directive = .ignore) :
      Decides configuration found (.reported .ignoreInsteadOfExpectError)
  | flagged (policy : configuration.policyFor found.directive = .alwaysFlag)
      (directive : found.directive ≠ .ignore) :
      Decides configuration found (.reported .directiveComment)
  | short (asks : (configuration.policyFor found.directive).AsksForDescription)
      (short : IsBelow (descriptionLength found.description) configuration.minimum)
      (writable : configuration.minimum.isWritable = true) :
      Decides configuration found (.reported .requiresDescription)
  | unwritable (asks : (configuration.policyFor found.directive).AsksForDescription)
      (short : IsBelow (descriptionLength found.description) configuration.minimum)
      (tooLong : configuration.minimum.isWritable = false) :
      Decides configuration found (.failed .tooManyDigits)
  | long (asks : (configuration.policyFor found.directive).AsksForDescription)
      (long : configuration.IsLongEnough found.description)
      (noFormat : configuration.formatFor found.directive = none) :
      Decides configuration found .passed
  | matching (asks : (configuration.policyFor found.directive).AsksForDescription)
      (long : configuration.IsLongEnough found.description) {format : DescriptionFormat}
      (given : configuration.formatFor found.directive = some format)
      (search : format.parsed.search found.description = .found) :
      Decides configuration found .passed
  | unlike (asks : (configuration.policyFor found.directive).AsksForDescription)
      (long : configuration.IsLongEnough found.description) {format : DescriptionFormat}
      (given : configuration.formatFor found.directive = some format)
      (search : format.parsed.search found.description = .notFound) :
      Decides configuration found (.reported .descriptionNotMatching)
  | disordered (asks : (configuration.policyFor found.directive).AsksForDescription)
      (long : configuration.IsLongEnough found.description) {format : DescriptionFormat}
      (given : configuration.formatFor found.directive = some format)
      (search : format.parsed.search found.description = .disordered) :
      Decides configuration found (.failed .disorderedGroup)

theorem Decides.eq_of_failed {configuration : PolicyConfiguration} {found : DirectiveMatch}
    {failure : Failure} (decides : configuration.Decides found (.failed failure)) :
    failure = .disorderedGroup ∨ failure = .tooManyDigits := by
  cases decides with
  | unwritable _ _ _ => exact Or.inr rfl
  | disordered _ _ _ _ => exact Or.inl rfl

/-- The data of a message on a directive. -/
def dataFor (configuration : PolicyConfiguration) (found : DirectiveMatch) :
    MessageId → List (LooseText × Value)
  | .directiveComment => [(MessageId.directiveField, .text found.directive.keyword)]
  | .requiresDescription =>
    [(MessageId.directiveField, .text found.directive.keyword),
      (ConfigurationFault.minimumKey, configuration.minimum)]
  | .descriptionNotMatching =>
    [(MessageId.directiveField, .text found.directive.keyword),
      (MessageId.formatField,
        match configuration.policyFor found.directive with
        | .descriptionFormat (some pattern) => .text pattern
        | _ => .null)]
  | _ => []

end PolicyConfiguration

namespace Evaluator

open PolicyConfiguration

/-- The edit that turns the `ignore` directive of a comment into `expect-error`. -/
def expectErrorEdit (comment : Comment) : TextEdit :=
  { start := comment.span.start
    stop := comment.span.stop
    text := comment.kind.wrap (withExpectError comment.value) }

/-- What is offered with a message on a comment. -/
def suggestionsFor (comment : Comment) : MessageId → List Suggestion
  | .ignoreInsteadOfExpectError =>
    [{ messageId := "replaceTsIgnoreWithTsExpectError"
       message := "Replace \"@ts-ignore\" with \"@ts-expect-error\"."
       edit := expectErrorEdit comment }]
  | _ => []

/-- Whether a diagnostic reports a directive of a comment with a message. -/
structure IsReport (evaluator : Evaluator) (comment : Comment) (found : DirectiveMatch)
    (id : MessageId) (report : Diagnostic) : Prop where
  messageId : report.messageId = id.name
  message : TemplatePart.Fills report.data id.template report.message
  severity : report.severity = evaluator.severity
  location : report.location = comment.location
  span : report.span = some comment.span
  data : report.data = evaluator.configuration.dataFor found id
  fix : report.fix = none
  suggestions : report.suggestions = suggestionsFor comment id
  checker : report.checker = evaluator.checker

variable {evaluator : Evaluator} {comment : Comment} {found : DirectiveMatch}

theorem IsReport.unique {id : MessageId} {first second : Diagnostic}
    (reports : evaluator.IsReport comment found id first)
    (again : evaluator.IsReport comment found id second) : first = second := by
  have data : first.data = second.data := reports.data.trans again.data.symm
  have message : first.message = second.message :=
    reports.message.unique (data ▸ again.message)
  rcases reports with ⟨_, _, _, _, _, _, _, _, _⟩
  rcases again with ⟨_, _, _, _, _, _, _, _, _⟩
  cases first
  cases second
  simp_all

/-- What a verdict makes of a comment. -/
inductive Yields (evaluator : Evaluator) (comment : Comment) (found : DirectiveMatch) :
    Verdict → Except Failure (Option Diagnostic) → Prop
  | passed : Yields evaluator comment found .passed (.ok none)
  | reported {id : MessageId} {report : Diagnostic}
      (reports : evaluator.IsReport comment found id report) :
      Yields evaluator comment found (.reported id) (.ok (some report))
  | failed {failure : Failure} : Yields evaluator comment found (.failed failure) (.error failure)

end Evaluator
end DirectiveLint
