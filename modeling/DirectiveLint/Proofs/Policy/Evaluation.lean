import DirectiveLint.Proofs.Policy.Decision
import DirectiveLint.Proofs.Policy.ReadBack

/-!
# An evaluator decides as the table says

Whatever verdict the table has on a directive, the evaluator makes a report of
it, or none, or fails.  The table has a verdict on every directive as long as the
least length is a number, so the two agree.  Accepted options see to the number,
and the formats they leave are the patterns of the policies.

The least length may be what is not a number.  Nothing is below it, so every
description is long enough, and none reaches it.
-/

namespace DirectiveLint
namespace Evaluator

open PolicyConfiguration

variable {evaluator : Evaluator} {comment : Comment} {found : DirectiveMatch}

theorem isBelow?_of_exact {count : Nat} {least : Value} {bound : Rat}
    (value : least.exactValue? = some bound) :
    isBelow? count least = some (decide ((count : Rat) < bound)) := by
  have asRational : ∀ whole : Int, decide ((count : Int) < whole) =
      decide ((count : Rat) < (whole : Rat)) := by
    intro whole
    exact decide_eq_decide.mpr (by exact_mod_cast Iff.rfl)
  cases least with
  | real number =>
      cases number with
      | finite negative significand exponent =>
          rw [← Option.some.inj value]
          rfl
      | _ => cases value
  | boolean flag =>
      rw [← Option.some.inj value]
      cases flag
      · exact congrArg some (asRational 0)
      · exact congrArg some (asRational 1)
  | integer whole =>
      rw [← Option.some.inj value]
      exact congrArg some (asRational whole)
  | _ => cases value

theorem isBelow?_of_not_isComparable {count : Nat} {least : Value}
    (incomparable : ¬ least.IsComparable) : isBelow? count least = none := by
  cases least with
  | real number => exact absurd (Or.inr ⟨number, rfl⟩) incomparable
  | boolean flag => exact absurd (Or.inl ⟨_, rfl⟩) incomparable
  | integer whole => exact absurd (Or.inl ⟨_, rfl⟩) incomparable
  | _ => rfl

/-- How a count compares with a least value. -/
theorem isBelow?_eq_some_iff {count : Nat} {least : Value} {below : Bool} :
    isBelow? count least = some below ↔
      least.IsComparable ∧ (below = true ↔ IsBelow count least) := by
  by_cases comparable : least.IsComparable
  · cases value : least.exactValue? with
    | some bound =>
        rw [isBelow?_of_exact value, isBelow_of_exact value]
        cases below <;> simp [comparable]
    | none =>
        rcases comparable.cases_of_exact value with ⟨negative, rfl⟩ | ⟨payload, rfl⟩
        · cases negative <;> cases below <;>
            simp [isBelow?, IsBelow, Number.Binary64.exceeds, comparable, value]
        · cases below <;> simp [isBelow?, IsBelow, Number.Binary64.exceeds, comparable, value]
  · simp [isBelow?_of_not_isComparable comparable, comparable]

/-- Every field of a message has a value that can be written, if the least length can. -/
theorem exists_dataFor {id : MessageId} {name : String} (field : .field name ∈ id.template)
    (writable : id = .requiresDescription → evaluator.configuration.minimum.isWritable = true) :
    ∃ value text, Value.fieldOf? name (evaluator.configuration.dataFor found id) = some value ∧
      value.shown? = some text := by
  simp only [MessageId.template] at field
  cases id with
  | directiveComment =>
      simp only [List.mem_cons, TemplatePart.field.injEq, reduceCtorEq, List.not_mem_nil, or_false,
        false_or] at field
      simp [dataFor, Value.fieldOf?, field, Value.shown?, Value.isWritable]
  | requiresDescription =>
      simp only [List.mem_cons, TemplatePart.field.injEq, reduceCtorEq, List.not_mem_nil, or_false,
        false_or] at field
      rcases field with rfl | rfl | rfl <;>
        simp [dataFor, Value.fieldOf?, MessageId.directiveField, ConfigurationFault.minimumKey,
          Value.shown?, Value.isWritable, writable rfl]
  | descriptionNotMatching =>
      simp only [List.mem_cons, TemplatePart.field.injEq, reduceCtorEq, List.not_mem_nil, or_false,
        false_or] at field
      rcases field with rfl | rfl
      · simp [dataFor, Value.fieldOf?, MessageId.directiveField, Value.shown?, Value.isWritable]
      · simp [dataFor, Value.fieldOf?, MessageId.directiveField, MessageId.formatField,
          Value.shown?]
        split <;> rfl
  | _ => simp at field

variable (evaluator comment found) in
/-- Every message can be reported, if its fields can be written. -/
theorem exists_report (id : MessageId)
    (writable : id = .requiresDescription → evaluator.configuration.minimum.isWritable = true) :
    ∃ report, evaluator.report comment id (evaluator.configuration.dataFor found id)
        (suggestionsFor comment id) = .ok (some report) ∧
      evaluator.IsReport comment found id report := by
  have given : ∀ name : String, .field name ∈ id.template →
      ∃ value text, Value.fieldOf? name (evaluator.configuration.dataFor found id) = some value ∧
        value.shown? = some text :=
    fun _ field => exists_dataFor field writable
  rcases TemplatePart.exists_fills given with ⟨text, fills⟩
  have rendered : renderMessage id (evaluator.configuration.dataFor found id) = .ok text :=
    TemplatePart.renderAll_eq_ok_iff.mpr fills
  let made : Diagnostic :=
    { messageId := id.name
      message := text
      severity := evaluator.severity
      location := comment.location
      span := some comment.span
      data := evaluator.configuration.dataFor found id
      suggestions := suggestionsFor comment id
      checker := evaluator.checker }
  refine ⟨made, by simp only [report, rendered, made], ?_⟩
  exact ⟨rfl, fills, rfl, rfl, rfl, rfl, rfl, rfl, rfl⟩

theorem yields_report {id : MessageId} {outcome : Except Failure (Option Diagnostic)}
    (writable : id = .requiresDescription → evaluator.configuration.minimum.isWritable = true)
    (reported : outcome = evaluator.report comment id (evaluator.configuration.dataFor found id)
      (suggestionsFor comment id)) : evaluator.Yields comment found (.reported id) outcome := by
  rcases exists_report evaluator comment found id writable with ⟨report, made, reports⟩
  rw [reported, made]
  exact .reported reports

theorem evaluateMatch_of_alwaysFlag
    (policy : evaluator.configuration.policyFor found.directive = .alwaysFlag) :
    evaluator.evaluateMatch comment found = evaluator.reportAlways comment found.directive := by
  simp only [evaluateMatch, policy]

theorem reportAlways_of_ne {directive : Directive} (different : directive ≠ .ignore) :
    evaluator.reportAlways comment directive =
      evaluator.report comment .directiveComment
        [(MessageId.directiveField, .text directive.keyword)] [] := by
  cases directive with
  | ignore => exact absurd rfl different
  | _ => rfl

theorem evaluateMatch_of_asks
    (asks : (evaluator.configuration.policyFor found.directive).AsksForDescription) :
    evaluator.evaluateMatch comment found = evaluator.reportDescription comment found := by
  have required := DirectivePolicy.requiresDescription_iff.mpr asks
  rcases asks with policy | ⟨pattern, policy, _⟩
  · rw [policy] at required
    simp only [evaluateMatch, policy, required, if_true]
  · rw [policy] at required
    simp only [evaluateMatch, policy, required, if_true]

theorem reportDescription_of_isLongEnough
    (long : evaluator.configuration.IsLongEnough found.description) :
    evaluator.reportDescription comment found = evaluator.reportFormat comment found := by
  have compared : isBelow? (descriptionLength found.description) evaluator.configuration.minimum =
      some false :=
    isBelow?_eq_some_iff.mpr ⟨long.1, by simpa using long.2⟩
  simp only [reportDescription, compared]

theorem reportDescription_of_isBelow
    (short : IsBelow (descriptionLength found.description) evaluator.configuration.minimum) :
    evaluator.reportDescription comment found =
      evaluator.report comment .requiresDescription
        (evaluator.configuration.dataFor found .requiresDescription) [] := by
  have compared : isBelow? (descriptionLength found.description) evaluator.configuration.minimum =
      some true :=
    isBelow?_eq_some_iff.mpr ⟨short.isComparable, by simpa using short⟩
  simp only [reportDescription, compared]
  rfl

/-- A message with a least length that cannot be written is not rendered. -/
theorem report_requiresDescription_of_not_isWritable
    (tooLong : evaluator.configuration.minimum.isWritable = false) {suggestions : List Suggestion} :
    evaluator.report comment .requiresDescription
        (evaluator.configuration.dataFor found .requiresDescription) suggestions =
      .error .tooManyDigits := by
  have unrendered : renderMessage .requiresDescription
      (evaluator.configuration.dataFor found .requiresDescription) = .error .tooManyDigits := by
    simp [renderMessage, MessageId.template, TemplatePart.renderAll, TemplatePart.render, dataFor,
      Value.fieldOf?, MessageId.directiveField, ConfigurationFault.minimumKey, Value.shown?,
      Value.isWritable, tooLong]
  simp only [report, unrendered]

/-- An evaluator makes of a directive what the table decides. -/
theorem yields_evaluateMatch {verdict : Verdict}
    (decides : evaluator.configuration.Decides found verdict) :
    evaluator.Yields comment found verdict (evaluator.evaluateMatch comment found) := by
  cases decides with
  | disabled policy =>
      simp only [evaluateMatch, policy]
      exact .passed
  | unasked policy empty =>
      simp only [evaluateMatch, policy]
      rcases empty with rfl | rfl <;> exact .passed
  | ignore policy directive =>
      refine yields_report (by simp) ?_
      rw [evaluateMatch_of_alwaysFlag policy, directive]
      rfl
  | flagged policy directive =>
      refine yields_report (by simp) ?_
      rw [evaluateMatch_of_alwaysFlag policy]
      exact reportAlways_of_ne directive
  | short asks short writable =>
      apply yields_report fun _ => writable
      rw [evaluateMatch_of_asks asks, reportDescription_of_isBelow short]
      rfl
  | unwritable asks short tooLong =>
      rw [evaluateMatch_of_asks asks, reportDescription_of_isBelow short,
        report_requiresDescription_of_not_isWritable tooLong]
      exact .failed
  | long asks long noFormat =>
      rw [evaluateMatch_of_asks asks, reportDescription_of_isLongEnough long]
      simp only [reportFormat, noFormat]
      exact .passed
  | matching asks long given search =>
      rw [evaluateMatch_of_asks asks, reportDescription_of_isLongEnough long]
      simp only [reportFormat, given, DescriptionFormat.occursIn, search]
      exact .passed
  | unlike asks long given search =>
      refine yields_report (by simp) ?_
      rw [evaluateMatch_of_asks asks, reportDescription_of_isLongEnough long]
      simp only [reportFormat, given, DescriptionFormat.occursIn, search]
      rfl
  | disordered asks long given search =>
      rw [evaluateMatch_of_asks asks, reportDescription_of_isLongEnough long]
      simp only [reportFormat, given, DescriptionFormat.occursIn, search]
      exact .failed

/-- The table has a verdict on every directive, unless a description would have to be compared with
something that is not a number. -/
theorem exists_decides_or (comment : Comment) (found : DirectiveMatch) :
    (∃ verdict, evaluator.configuration.Decides found verdict) ∨
      ¬ evaluator.configuration.minimum.IsComparable ∧
        evaluator.evaluateMatch comment found =
          .error (.notComparable evaluator.configuration.minimum) := by
  by_cases asks : (evaluator.configuration.policyFor found.directive).AsksForDescription
  · by_cases comparable : evaluator.configuration.minimum.IsComparable
    · refine Or.inl ?_
      by_cases short : IsBelow (descriptionLength found.description) evaluator.configuration.minimum
      · cases writable : evaluator.configuration.minimum.isWritable with
        | true => exact ⟨_, .short asks short writable⟩
        | false => exact ⟨_, .unwritable asks short writable⟩
      · have long : evaluator.configuration.IsLongEnough found.description := ⟨comparable, short⟩
        cases given : evaluator.configuration.formatFor found.directive with
        | none => exact ⟨_, .long asks long given⟩
        | some format =>
            cases search : format.parsed.search found.description with
            | found => exact ⟨_, .matching asks long given search⟩
            | notFound => exact ⟨_, .unlike asks long given search⟩
            | disordered => exact ⟨_, .disordered asks long given search⟩
    · refine Or.inr ⟨comparable, ?_⟩
      rw [evaluateMatch_of_asks asks]
      simp only [reportDescription, isBelow?_of_not_isComparable comparable]
  · refine Or.inl ?_
    cases policy : evaluator.configuration.policyFor found.directive with
    | disabled => exact ⟨_, .disabled policy⟩
    | alwaysFlag =>
        by_cases directive : found.directive = .ignore
        · exact ⟨_, .ignore policy directive⟩
        · exact ⟨_, .flagged policy directive⟩
    | allowWithDescription => exact absurd (Or.inl policy) asks
    | descriptionFormat pattern =>
        refine ⟨_, .unasked policy ?_⟩
        cases pattern with
        | none => exact Or.inl rfl
        | some source =>
            refine Or.inr (congrArg some ?_)
            by_contra given
            exact asks (Or.inr ⟨source, policy, given⟩)

theorem Yields.unique {verdict : Verdict} {first second : Except Failure (Option Diagnostic)}
    (yields : evaluator.Yields comment found verdict first)
    (again : evaluator.Yields comment found verdict second) : first = second := by
  cases yields with
  | passed =>
      cases again
      rfl
  | reported reports =>
      cases again with
      | reported others => rw [reports.unique others]
  | failed =>
      cases again
      rfl

/-- What comes of a directive, if all that is compared are numbers, is what some verdict of the
table makes of it. -/
theorem evaluateMatch_eq_iff {outcome : Except Failure (Option Diagnostic)}
    (comparable : outcome ≠ .error (.notComparable evaluator.configuration.minimum)) :
    evaluator.evaluateMatch comment found = outcome ↔
      ∃ verdict, evaluator.configuration.Decides found verdict ∧
        evaluator.Yields comment found verdict outcome := by
  constructor
  · rintro rfl
    rcases exists_decides_or comment found with ⟨verdict, decides⟩ | ⟨_, failed⟩
    · exact ⟨verdict, decides, yields_evaluateMatch decides⟩
    · exact absurd failed comparable
  · rintro ⟨verdict, decides, yields⟩
    exact (yields_evaluateMatch decides).unique yields

/-- A comment gets no report exactly if it has no directive or the table passes its directive. -/
theorem evaluate_eq_none_iff :
    evaluator.evaluate comment = .ok none ↔
      ∀ found, matchDirective comment = some found →
        evaluator.configuration.Decides found .passed := by
  unfold evaluate
  cases matchDirective comment with
  | none => simp
  | some found =>
      simp only [Option.some.injEq, forall_eq']
      rw [evaluateMatch_eq_iff (by simp)]
      constructor
      · rintro ⟨verdict, decides, yields⟩
        cases yields
        exact decides
      · intro decides
        exact ⟨_, decides, .passed⟩

/-- A comment is reported exactly with the message for which the table reports its directive. -/
theorem evaluate_eq_some_iff {report : Diagnostic} :
    evaluator.evaluate comment = .ok (some report) ↔
      ∃ found id, matchDirective comment = some found ∧
        evaluator.configuration.Decides found (.reported id) ∧
        evaluator.IsReport comment found id report := by
  unfold evaluate
  cases matchDirective comment with
  | none => simp
  | some found =>
      simp only [Option.some.injEq, exists_and_left, exists_eq_left']
      rw [evaluateMatch_eq_iff (by simp)]
      constructor
      · rintro ⟨verdict, decides, yields⟩
        cases yields with
        | reported reports => exact ⟨_, decides, reports⟩
      · rintro ⟨id, decides, reports⟩
        exact ⟨_, decides, .reported reports⟩

/-- If the least length is a number, evaluating a directive fails only as the table says. -/
theorem evaluateMatch_eq_error_iff (comparable : evaluator.configuration.minimum.IsComparable)
    {failure : Failure} :
    evaluator.evaluateMatch comment found = .error failure ↔
      evaluator.configuration.Decides found (.failed failure) := by
  constructor
  · intro failed
    rcases exists_decides_or comment found with ⟨verdict, decides⟩ | ⟨incomparable, _⟩
    · have yields : evaluator.Yields comment found verdict (.error failure) :=
        failed ▸ yields_evaluateMatch decides
      cases yields
      exact decides
    · exact absurd comparable incomparable
  · intro decides
    have yields : evaluator.Yields comment found (.failed failure)
        (evaluator.evaluateMatch comment found) := yields_evaluateMatch decides
    cases made : evaluator.evaluateMatch comment found with
    | ok report =>
        rw [made] at yields
        cases yields
    | error other =>
        rw [made] at yields
        cases yields
        rfl

/-- If the least length is a number, evaluating a comment fails only as the table says of its
directive. -/
theorem evaluate_eq_error_iff (comparable : evaluator.configuration.minimum.IsComparable)
    {failure : Failure} :
    evaluator.evaluate comment = .error failure ↔
      ∃ found, matchDirective comment = some found ∧
        evaluator.configuration.Decides found (.failed failure) := by
  unfold evaluate
  cases matchDirective comment with
  | none => simp
  | some found =>
      simp only [Option.some.injEq, exists_eq_left']
      exact evaluateMatch_eq_error_iff comparable

/-- The table knows of two failures. -/
theorem evaluate_eq_error_iff_cases (comparable : evaluator.configuration.minimum.IsComparable)
    {failure : Failure} :
    evaluator.evaluate comment = .error failure ↔
      (failure = .disorderedGroup ∨ failure = .tooManyDigits) ∧
        ∃ found, matchDirective comment = some found ∧
          evaluator.configuration.Decides found (.failed failure) := by
  rw [evaluate_eq_error_iff comparable]
  refine ⟨fun failed => ⟨?_, failed⟩, And.right⟩
  rcases failed with ⟨found, _, decides⟩
  exact decides.eq_of_failed

end Evaluator

/-! ## Accepted options -/

namespace PolicyConfiguration

variable {options : Value} {configuration : PolicyConfiguration}

theorem exists_ofOptions_of_ofValue (accepted : ofValue options = .ok configuration) :
    ∃ mapping, ofOptions mapping = .ok configuration := by
  unfold ofValue at accepted
  split at accepted
  · cases accepted
  · exact ⟨_, accepted⟩

theorem isComparable_of_checkMinimum {minimum : Value} (bounded : checkMinimum minimum = .ok ()) :
    minimum.IsComparable := by
  cases minimum with
  | integer value => exact Or.inl ⟨value, rfl⟩
  | real number => exact Or.inr ⟨number, rfl⟩
  | _ => cases bounded

/-- The formats of a configuration are the patterns of its policies. -/
theorem formatFor_eq_some_iff {mapping : Mapping} (accepted : ofOptions mapping = .ok configuration)
    {directive : Directive} {format : DescriptionFormat} :
    configuration.formatFor directive = some format ↔
      ∃ pattern, configuration.policyFor directive = .descriptionFormat (some pattern) ∧
        pattern ≠ .plain "" ∧ DescriptionFormat.compile directive.key pattern = .ok format := by
  have compiled := (ofOptions_eq_ok_iff.mp accepted).2.2.2.2 directive
  simp only [DirectivePolicy.format] at compiled
  cases required : (configuration.policyFor directive).requiredPattern? with
  | none =>
      rw [required] at compiled
      rw [← Except.ok.inj compiled]
      constructor
      · intro none
        cases none
      · rintro ⟨pattern, policy, given, _⟩
        rw [DirectivePolicy.requiredPattern?_eq_some_iff.mpr ⟨policy, given⟩] at required
        cases required
  | some source =>
      simp only [required] at compiled
      rcases DirectivePolicy.requiredPattern?_eq_some_iff.mp required with ⟨policy, given⟩
      cases made : DescriptionFormat.compile directive.key source with
      | error failure =>
          rw [made] at compiled
          cases compiled
      | ok other =>
          rw [made] at compiled
          rw [← Except.ok.inj compiled, policy]
          constructor
          · rintro ⟨⟩
            exact ⟨source, rfl, given, made⟩
          · rintro ⟨pattern, same, _, again⟩
            cases same
            rw [made] at again
            exact congrArg some (Except.ok.inj again)

end PolicyConfiguration

/-- For all accepted options, every severity and every comment: the evaluator does what the table
decides on the directive of the comment.  A report is determined by the comment, the message and the
configuration.  Evaluating fails only where the table asks for a search that breaks down, or for a
message with a least length that is too long to be written.  A description is long enough for the
table if its length reaches the least one, or if that is not a number, and the formats of the table
are the patterns of the policies. -/
theorem evaluate_decides {options : Value} {configuration : PolicyConfiguration}
    (accepted : PolicyConfiguration.ofValue options = .ok configuration) (severity : Severity)
    (checker : String) (comment : Comment) :
    let evaluator : Evaluator := ⟨configuration, severity, checker⟩
    (evaluator.evaluate comment = .ok none ↔
      ∀ found, matchDirective comment = some found → configuration.Decides found .passed) ∧
    (∀ report, evaluator.evaluate comment = .ok (some report) ↔
      ∃ found id, matchDirective comment = some found ∧
        configuration.Decides found (.reported id) ∧
        evaluator.IsReport comment found id report) ∧
    (∀ failure, evaluator.evaluate comment = .error failure ↔
      (failure = .disorderedGroup ∨ failure = .tooManyDigits) ∧
        ∃ found, matchDirective comment = some found ∧
          configuration.Decides found (.failed failure)) ∧
    (∀ description, configuration.IsLongEnough description ↔
      IsAtLeast (descriptionLength description) configuration.minimum ∨
        configuration.minimum.isNotANumber = true) ∧
    ∀ directive format, configuration.formatFor directive = some format ↔
      ∃ pattern, configuration.policyFor directive = .descriptionFormat (some pattern) ∧
        pattern ≠ .plain "" ∧ DescriptionFormat.compile directive.key pattern = .ok format := by
  intro evaluator
  rcases PolicyConfiguration.exists_ofOptions_of_ofValue accepted with ⟨mapping, made⟩
  have comparable := PolicyConfiguration.isComparable_of_checkMinimum
    (PolicyConfiguration.checkMinimum_of_ofOptions made)
  refine ⟨Evaluator.evaluate_eq_none_iff, fun report => Evaluator.evaluate_eq_some_iff,
    fun failure => Evaluator.evaluate_eq_error_iff_cases comparable, fun description => ?_,
    fun directive format => PolicyConfiguration.formatFor_eq_some_iff made⟩
  rw [PolicyConfiguration.IsLongEnough, and_iff_right comparable, not_isBelow_iff comparable]

/-- What becomes of a comment under options. -/
def outcomeUnder (options : Value) (comment : Comment) : Except Failure (Option Diagnostic) :=
  (PolicyConfiguration.ofValue options).bind fun configuration =>
    (⟨configuration, .error, "ban-ts-comment"⟩ : Evaluator).evaluate comment

/-- A pattern with braces, and a least length that is no integer. -/
def bracedOptions : Value :=
  .object [("ts-ignore", .object [("descriptionFormat", .text "\x7bformat\x7d: .")]),
    ("minimumDescriptionLength", .real (.finite false 5 (-1)))]

/-- A comment with an `ignore` directive on its second line. -/
def secondLineComment : Comment :=
  ⟨.block, "\n * @ts-ignore abc\n", ⟨0, 24, ⟨"a.ts", 1, 1⟩, ⟨"a.ts", 3, 3⟩⟩⟩

/-- The braces of the pattern stand in the message as they are. -/
theorem evaluate_decides_bracedPattern :
    ∃ configuration report,
      PolicyConfiguration.ofValue bracedOptions = .ok configuration ∧
      (⟨configuration, .error, "ban-ts-comment"⟩ : Evaluator).evaluate secondLineComment =
        .ok (some report) ∧
      configuration.Decides ⟨.ignore, " abc"⟩ (.reported .descriptionNotMatching) ∧
      report.message = .plain
        ("The description for the \"@ts-ignore\" directive must match the " ++
          "\x7bformat\x7d: . format.") := by
  have computed : (outcomeUnder bracedOptions secondLineComment).toOption.map
      (Option.map fun report => (report.messageId, report.message)) =
        some (some (MessageId.descriptionNotMatching.name,
          .plain ("The description for the \"@ts-ignore\" directive must match the " ++
            "\x7bformat\x7d: . format."))) := by
    decide +kernel
  have matched : matchDirective secondLineComment = some ⟨.ignore, " abc"⟩ := by
    decide +kernel
  cases outcome : outcomeUnder bracedOptions secondLineComment with
  | error failure =>
      rw [outcome] at computed
      cases computed
  | ok report? =>
      rcases Except.bind_eq_ok_iff.mp outcome with ⟨configuration, accepted, evaluated⟩
      rw [outcome] at computed
      rcases Option.map_eq_some_iff.mp (Option.some.inj computed) with ⟨report, rfl, texts⟩
      rcases ((evaluate_decides accepted .error "ban-ts-comment" secondLineComment).2.1 report).mp
        evaluated with ⟨found, id, here, decides, reports⟩
      cases matched.symm.trans here
      have same : id.name = MessageId.descriptionNotMatching.name :=
        reports.messageId.symm.trans (congrArg Prod.fst texts)
      cases id with
      | descriptionNotMatching =>
          exact ⟨configuration, report, accepted, evaluated, decides, congrArg Prod.snd texts⟩
      | _ => exact absurd same (by decide)

/-- A format whose search breaks down on `bcbbb`. -/
def disorderedOptions : Value :=
  .object [("ts-expect-error", .object [("descriptionFormat", .text "(?:(bc)|[ab])*+")])]

/-- A format, and a least length that is not a number. -/
def lengthlessOptions : Value :=
  .object [("ts-expect-error", .object [("descriptionFormat", .text "a")]),
    ("minimumDescriptionLength", .real (.notANumber 0))]

/-- A line comment with an `expect-error` directive. -/
def expectErrorComment (description : String) : Comment :=
  ⟨.line, " @ts-expect-error" ++ description, ⟨0, 24, ⟨"a.ts", 1, 1⟩, ⟨"a.ts", 1, 25⟩⟩⟩

/-- A least length with more digits than may be written. -/
def longOptions : Value :=
  .object [("minimumDescriptionLength", .integer Number.leastTooLong)]

/-- What becomes of a comment under accepted options is what an evaluator with the configuration
makes of it. -/
theorem exists_evaluate_of_outcomeUnder {options : Value} {comment : Comment} {failure : Failure}
    (accepts : (PolicyConfiguration.ofValue options).isOk = true)
    (failed : outcomeUnder options comment = .error failure) :
    ∃ configuration, PolicyConfiguration.ofValue options = .ok configuration ∧
      (⟨configuration, .error, "ban-ts-comment"⟩ : Evaluator).evaluate comment =
        .error failure := by
  rcases Except.bind_eq_error_iff.mp failed with refused | accepted
  · rw [refused] at accepts
    cases accepts
  · exact accepted

/-- A search breaks down under accepted options. -/
theorem evaluate_disordered :
    ∃ configuration, PolicyConfiguration.ofValue disorderedOptions = .ok configuration ∧
      (⟨configuration, .error, "ban-ts-comment"⟩ : Evaluator).evaluate
        (expectErrorComment "bcbbb") = .error .disorderedGroup := by
  refine exists_evaluate_of_outcomeUnder (by decide +kernel) ?_
  have broken : (match outcomeUnder disorderedOptions (expectErrorComment "bcbbb") with
      | .error .disorderedGroup => true
      | _ => false) = true := by
    decide +kernel
  split at broken
  · assumption
  · cases broken

/-- A message needs an accepted number that is too long to be written. -/
theorem evaluate_tooLong :
    ∃ configuration, PolicyConfiguration.ofValue longOptions = .ok configuration ∧
      (⟨configuration, .error, "ban-ts-comment"⟩ : Evaluator).evaluate
        (expectErrorComment " ab") = .error .tooManyDigits := by
  refine exists_evaluate_of_outcomeUnder (by decide +kernel) ?_
  have tooLong : (match outcomeUnder longOptions (expectErrorComment " ab") with
      | .error .tooManyDigits => true
      | _ => false) = true := by
    decide +kernel
  split at tooLong
  · assumption
  · cases tooLong

/-- A description passes that does not reach the least length, which is not a number. -/
theorem evaluate_lengthless :
    ∃ configuration, PolicyConfiguration.ofValue lengthlessOptions = .ok configuration ∧
      matchDirective (expectErrorComment " a") = some ⟨.expectError, " a"⟩ ∧
      configuration.policyFor .expectError = .descriptionFormat (some "a") ∧
      ¬ IsAtLeast (descriptionLength " a") configuration.minimum ∧
      (⟨configuration, .error, "ban-ts-comment"⟩ : Evaluator).evaluate
        (expectErrorComment " a") = .ok none := by
  have matched : matchDirective (expectErrorComment " a") = some ⟨.expectError, " a"⟩ := by
    decide +kernel
  have computed : (outcomeUnder lengthlessOptions (expectErrorComment " a")).toOption.map
      Option.isSome = some false := by
    decide +kernel
  have settings : (PolicyConfiguration.ofValue lengthlessOptions).toOption.map
      (fun configuration =>
        (configuration.minimum.isNotANumber, configuration.policyFor .expectError)) =
        some (true, .descriptionFormat (some "a")) := by
    decide +kernel
  cases outcome : outcomeUnder lengthlessOptions (expectErrorComment " a") with
  | error failure =>
      rw [outcome] at computed
      cases computed
  | ok report? =>
      rcases Except.bind_eq_ok_iff.mp outcome with ⟨configuration, accepted, evaluated⟩
      rw [outcome] at computed
      rw [accepted] at settings
      have none := Option.isNone_iff_eq_none.mp (Option.isSome_eq_false_iff.mp
        (Option.some.inj computed))
      rw [none] at evaluated
      have parts := Prod.mk.inj (Option.some.inj settings)
      exact ⟨configuration, accepted, matched, parts.2, not_isAtLeast_of_isNotANumber parts.1,
        evaluated⟩

/-- Evaluating can fail under accepted options, in a search and for the length of a number. And a
description that has to be long enough can be passed without reaching the least length, if that is
not a number. -/
theorem evaluate_disordered_tooLong_lengthless :
    (∃ configuration, PolicyConfiguration.ofValue disorderedOptions = .ok configuration ∧
      (⟨configuration, .error, "ban-ts-comment"⟩ : Evaluator).evaluate
        (expectErrorComment "bcbbb") = .error .disorderedGroup) ∧
    (∃ configuration, PolicyConfiguration.ofValue longOptions = .ok configuration ∧
      (⟨configuration, .error, "ban-ts-comment"⟩ : Evaluator).evaluate
        (expectErrorComment " ab") = .error .tooManyDigits) ∧
    ∃ configuration, PolicyConfiguration.ofValue lengthlessOptions = .ok configuration ∧
      matchDirective (expectErrorComment " a") = some ⟨.expectError, " a"⟩ ∧
      configuration.policyFor .expectError = .descriptionFormat (some "a") ∧
      ¬ IsAtLeast (descriptionLength " a") configuration.minimum ∧
      (⟨configuration, .error, "ban-ts-comment"⟩ : Evaluator).evaluate
        (expectErrorComment " a") = .ok none :=
  ⟨evaluate_disordered, evaluate_tooLong, evaluate_lengthless⟩

end DirectiveLint
