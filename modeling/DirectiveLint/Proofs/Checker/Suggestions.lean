import DirectiveLint.Proofs.Checker.Building
import DirectiveLint.Proofs.Policy.ExpectError

/-!
# Applying suggestions

The edits for a text are those that give each comment with an `ignore` directive
the value with `expect-error`.  They follow each other, so all of them are
applied, and the scanner finds the same comments in the new text with the new
values.  No `ignore` directive is left, so a second pass has nothing to suggest.

The evaluation of a directive can break down: in the search for a format, or since
the least length is too long an integer for the message.  The checker then reports
this instead of its findings, and the text stays as it is.
-/

namespace DirectiveLint

open Source DirectiveEvidence

/-- The value with `expect-error` for a comment with an `ignore` directive. -/
def Source.Lexeme.expectError? (lexeme : Lexeme) : Option (List Char) :=
  match DirectiveMatch.ofCharacters? lexeme.kind lexeme.value with
  | some ⟨.ignore, _⟩ =>
    some (Text.replaceFirst Evaluator.ignoreText.toList Evaluator.expectErrorText.toList
      lexeme.value)
  | _ => none

/-- The value of a comment once its `ignore` directive is turned into `expect-error`. -/
def Comment.suggestedValue (comment : Comment) : String :=
  if (matchDirective comment).map (·.directive) = some .ignore then
    Evaluator.withExpectError comment.value
  else comment.value

/-- A directive with `expect-error` in the place of `ignore`. -/
def DirectiveMatch.suggested (found : DirectiveMatch) : DirectiveMatch :=
  if found.directive = .ignore then ⟨.expectError, found.description⟩ else found

section

variable {lexeme : Lexeme} (index : LineIndex)

theorem matchDirective_toComment :
    matchDirective (lexeme.toComment index) =
      DirectiveMatch.ofCharacters? lexeme.kind lexeme.value := by
  simp only [matchDirective, matchDirectiveText, Lexeme.toComment, String.toList_ofList]

theorem wrap_ofList (kind : CommentKind) (value : List Char) :
    kind.wrap (String.ofList value) = String.ofList (delimited kind value) := by
  apply String.toList_inj.mp
  cases kind <;> simp [CommentKind.wrap, delimited]

theorem expectErrorEdit_toComment :
    Evaluator.expectErrorEdit (lexeme.toComment index) =
      lexeme.respelling (Text.replaceFirst Evaluator.ignoreText.toList
        Evaluator.expectErrorText.toList lexeme.value) := by
  simp only [Evaluator.expectErrorEdit, Lexeme.toComment, LineIndex.spanOf,
    Evaluator.withExpectError, String.toList_ofList, wrap_ofList, Lexeme.respelling]

/-- The edits for `ignore` directives give their comments other values. -/
theorem map_expectErrorEdit_ignored (lexemes : List Lexeme) :
    (ignored (directiveComments (lexemes.map (·.toComment index)))).map Evaluator.expectErrorEdit =
      respellings Lexeme.expectError? lexemes := by
  induction lexemes with
  | nil => rfl
  | cons lexeme rest inductionHypothesis =>
      simp only [directiveComments, ignored, respellings] at inductionHypothesis
      simp only [directiveComments, ignored, respellings, List.map_cons, List.filterMap_cons,
        matchDirective_toComment]
      cases found : DirectiveMatch.ofCharacters? lexeme.kind lexeme.value with
      | none =>
          simpa [Lexeme.expectError?, found] using inductionHypothesis
      | some matched =>
          rcases matched with ⟨directive, description⟩
          cases directive with
          | ignore =>
              simp only [Lexeme.expectError?, found, Option.map_some, List.filter_cons,
                decide_true, if_true, List.map_cons, expectErrorEdit_toComment]
              exact congrArg _ inductionHypothesis
          | _ => simpa [Lexeme.expectError?, found] using inductionHypothesis

theorem ofList_expectError? :
    String.ofList (lexeme.expectError?.getD lexeme.value) =
      (lexeme.toComment index).suggestedValue := by
  unfold Comment.suggestedValue Lexeme.expectError?
  rw [matchDirective_toComment]
  cases found : DirectiveMatch.ofCharacters? lexeme.kind lexeme.value with
  | none => simp [Lexeme.toComment]
  | some matched =>
      rcases matched with ⟨directive, description⟩
      cases directive <;> simp [Lexeme.toComment, Evaluator.withExpectError]

theorem admits_of_expectError? (lexeme : Lexeme) (value : List Char)
    (changed : lexeme.expectError? = some value) : lexeme.Admits value := by
  unfold Lexeme.expectError? at changed
  split at changed
  · next description found =>
      cases changed
      exact Evaluator.admits_replaceFirst found
  · cases changed

end

/-! ## The comments of the new text -/

variable (text path : String)

/-- The edits for all `ignore` directives of a text. -/
def expectErrorEdits : List TextEdit :=
  (ignored (directiveComments (scanComments text path))).map Evaluator.expectErrorEdit

theorem expectErrorEdits_eq_respellings :
    expectErrorEdits text path = respellings Lexeme.expectError? (lexemes text.toList) :=
  map_expectErrorEdit_ignored _ _

theorem inOrder_expectErrorEdits :
    TextEdit.InOrder 0 text.toList.length (expectErrorEdits text path) := by
  have inOrder := Scan.inOrder_respellings Lexeme.expectError? (Scan.start text.toList)
  have length : (Scan.start text.toList).position + (Scan.start text.toList).rest.length =
      text.toList.length := Nat.zero_add _
  rw [length] at inOrder
  rw [expectErrorEdits_eq_respellings]
  exact inOrder

/-- All edits are applied, also when they are given several times. -/
theorem applyEdits_expectErrorEdits (copies : Nat) :
    applyEdits text (List.replicate (copies + 1) (expectErrorEdits text path)).flatten =
      (String.ofList ((Scan.start text.toList).respelled Lexeme.expectError?),
        (expectErrorEdits text path).length) := by
  rw [applyEdits_replicate (inOrder_expectErrorEdits text path), expectErrorEdits_eq_respellings]
  rfl

/-- The new text has the same comments with the suggested values. -/
theorem scanComments_respelled :
    (scanComments (String.ofList ((Scan.start text.toList).respelled Lexeme.expectError?))
        path).map (fun comment => (comment.kind, comment.value)) =
      (scanComments text path).map fun comment => (comment.kind, comment.suggestedValue) := by
  have found := Scan.lexemes_respelled Lexeme.expectError? admits_of_expectError?
    (Scan.start text.toList) 0
  have values := congrArg
    (List.map fun entry : CommentKind × List Char => (entry.1, String.ofList entry.2)) found
  rw [List.map_map, List.map_map] at values
  simp only [scanComments, lexemes, List.map_map, String.toList_ofList]
  refine Eq.trans values (List.map_congr_left fun lexeme _ => ?_)
  exact congrArg _ (ofList_expectError? _)

/-- The suggested value has the suggested directive. -/
theorem matchDirectiveText_suggestedValue (comment : Comment) :
    matchDirectiveText comment.kind comment.suggestedValue =
      (matchDirective comment).map DirectiveMatch.suggested := by
  unfold Comment.suggestedValue
  cases found : matchDirective comment with
  | none =>
      rw [if_neg (by simp)]
      exact found
  | some matched =>
      rcases matched with ⟨directive, description⟩
      by_cases same : directive = .ignore
      · rcases Evaluator.ofCharacters?_ignore (same ▸ found) with ⟨_, _, _, _, new, again⟩
        rw [if_pos (by simp [same]), matchDirectiveText, Evaluator.withExpectError,
          String.toList_ofList, new, again]
        simp [DirectiveMatch.suggested, same]
      · rw [if_neg (by simpa using same)]
        simp only [DirectiveMatch.suggested, same, Option.map_some, if_false]
        exact found

/-- The directives of comments depend on their kinds and values only. -/
theorem map_directiveComments (comments : List Comment) :
    (directiveComments comments).map (·.2) =
      (comments.map fun comment => (comment.kind, comment.value)).filterMap
        fun entry => matchDirectiveText entry.1 entry.2 := by
  rw [directiveComments, List.map_filterMap, List.filterMap_map]
  congr 1
  funext comment
  rw [Option.map_map]
  exact Option.map_id'

/-- The new text has the same directives with `expect-error` in the place of `ignore`. -/
theorem directiveComments_respelled :
    (directiveComments (scanComments
        (String.ofList ((Scan.start text.toList).respelled Lexeme.expectError?)) path)).map (·.2) =
      (directiveComments (scanComments text path)).map (·.2.suggested) := by
  rw [map_directiveComments, scanComments_respelled, List.filterMap_map]
  rw [directiveComments, List.map_filterMap]
  congr 1
  funext comment
  rw [Option.map_map]
  exact matchDirectiveText_suggestedValue comment

/-- No directive of the new text is an `ignore` directive. -/
theorem ignored_respelled :
    ignored (directiveComments (scanComments
      (String.ofList ((Scan.start text.toList).respelled Lexeme.expectError?)) path)) = [] := by
  have same := directiveComments_respelled text path
  rw [ignored, List.map_eq_nil_iff, List.filter_eq_nil_iff]
  intro entry member
  have listed := List.mem_map_of_mem (f := (·.2)) member
  rw [same] at listed
  rcases List.mem_map.mp listed with ⟨old, _, here⟩
  rw [← here]
  unfold DirectiveMatch.suggested
  split
  · simp
  · next notIgnore => simpa using notIgnore

/-! ## Two passes -/

variable {text path}

/-- A text without `ignore` directives gets no edits. -/
theorem editsOn_of_ignored_eq_nil {evaluator : Evaluator}
    (noIgnore : ignored (directiveComments (scanComments text path)) = []) :
    editsOn evaluator (.ofText path text) = [] := by
  by_cases breaksDown : BreaksDownOn evaluator (.ofText path text)
  · exact editsOn_of_breaksDownOn breaksDown
  · rw [editsOn_of_not_breaksDownOn breaksDown]
    split
    · change List.map _ (ignored (directiveComments (scanComments text path))) = []
      rw [noIgnore]
      rfl
    · rfl

/-- What an evaluator that flags `ignore` directives does to a text on which it works. -/
theorem editsOn_eq_expectErrorEdits {evaluator : Evaluator}
    (flags : evaluator.FlagsIgnore) (works : ¬ BreaksDownOn evaluator (.ofText path text)) :
    editsOn evaluator (.ofText path text) = expectErrorEdits text path := by
  rw [editsOn_of_not_breaksDownOn works, if_pos flags]
  rfl

/-- For every entry that reports findings, flags `ignore` directives and is accepted, and for every
text on which the evaluation does not break down: the edits are one for each `ignore` directive, all
of them are applied, and the new text has the same comments with the suggested values and the same
directives with `expect-error` in the place of `ignore`.  A text on which it breaks down, for one of
the two reasons that the table knows, is left as it is.  In any case a second pass has no edits,
whether the runner is new or not. -/
theorem applyEdits_suggestions {entry : Value} {severity : Severity} {options : Mapping}
    {configuration : PolicyConfiguration}
    (read : RuleEntry.ofValue entry = .ok ⟨some severity, options⟩)
    (accepted : PolicyConfiguration.ofOptions options = .ok configuration)
    (flagged : options.find? Directive.ignore.key = some (.boolean true)) :
    ∃ runner,
      (Runner.build .standard (.object [(ruleName, entry)]) .null).result = .ok runner ∧
      ∀ text path : String,
        let evaluator : Evaluator := ⟨configuration, severity, ruleName⟩
        let ran := runner.run (.ofText path text)
        let edits := ran.results.editsFor path
        let after := applyEdits text edits
        (BreaksDownOn evaluator (.ofText path text) ↔
          ∃ entry ∈ directiveComments (scanComments text path), ∃ failure,
            (failure = .disorderedGroup ∨ failure = .tooManyDigits) ∧
              configuration.Decides entry.2 (.failed failure)) ∧
        (BreaksDownOn evaluator (.ofText path text) → edits = [] ∧ after = (text, 0)) ∧
        (¬ BreaksDownOn evaluator (.ofText path text) →
          after.2 = edits.length ∧
          edits.length = (ignored (directiveComments (scanComments text path))).length ∧
          (scanComments after.1 path).map (fun comment => (comment.kind, comment.value)) =
            (scanComments text path).map (fun comment => (comment.kind, comment.suggestedValue)) ∧
          (directiveComments (scanComments after.1 path)).map (·.2) =
            (directiveComments (scanComments text path)).map (·.2.suggested)) ∧
        (runner.run (.ofText path after.1)).results.editsFor path = [] ∧
        (ran.runner.run (.ofText path after.1)).results.editsFor path = [] := by
  rcases Runner.exists_runner_of_entry read accepted with ⟨runner, built, evaluates⟩
  refine ⟨runner, built, ?_⟩
  intro text path evaluator ran edits after
  have bounded : PolicyConfiguration.checkMinimum configuration.minimum = .ok () :=
    PolicyConfiguration.checkMinimum_of_ofOptions accepted
  have flags : evaluator.FlagsIgnore := by
    have described := PolicyConfiguration.policyFor_of_ofOptions accepted .ignore
    rw [PolicyConfiguration.optionFor, flagged] at described
    exact (Except.ok.inj described).symm
  have evaluatesAgain : ran.runner.Evaluates evaluator 1 :=
    (Runner.run_spec evaluates (.ofText path text)).2.2.2
  have once : edits = editsOn evaluator (.ofText path text) := by
    have copies := Runner.editsFor_run evaluates path text
    rwa [List.replicate_one, List.flatten_singleton] at copies
  have second : ∀ again : Runner, again.Evaluates evaluator 1 →
      editsOn evaluator (.ofText path after.1) = [] →
        (again.run (.ofText path after.1)).results.editsFor path = [] := by
    intro again evaluates none
    rw [Runner.editsFor_run evaluates, none]
    rfl
  refine ⟨breaksDownOn_iff bounded, ?_⟩
  by_cases breaksDown : BreaksDownOn evaluator (.ofText path text)
  · have none : edits = [] := once.trans (editsOn_of_breaksDownOn breaksDown)
    have same : after = (text, 0) := by
      change applyEdits text edits = _
      rw [none, applyEdits_nil]
    have noEdits : editsOn evaluator (.ofText path after.1) = [] := by
      rw [same]
      exact editsOn_of_breaksDownOn breaksDown
    exact ⟨fun _ => ⟨none, same⟩, fun works => absurd breaksDown works,
      second runner evaluates noEdits, second ran.runner evaluatesAgain noEdits⟩
  · have all : edits = expectErrorEdits text path :=
      once.trans (editsOn_eq_expectErrorEdits flags breaksDown)
    have applied : after = (String.ofList ((Scan.start text.toList).respelled Lexeme.expectError?),
        (expectErrorEdits text path).length) := by
      have copies := applyEdits_expectErrorEdits text path 0
      rw [List.replicate_one, List.flatten_singleton, ← all] at copies
      rw [← all]
      exact copies
    have noEdits : editsOn evaluator (.ofText path after.1) = [] := by
      rw [applied]
      exact editsOn_of_ignored_eq_nil (ignored_respelled text path)
    refine ⟨fun broken => absurd broken breaksDown, fun _ => ⟨?_, ?_, ?_, ?_⟩,
      second runner evaluates noEdits, second ran.runner evaluatesAgain noEdits⟩
    · rw [applied, all]
    · rw [all]
      exact List.length_map _
    · rw [applied]
      exact scanComments_respelled text path
    · rw [applied]
      exact directiveComments_respelled text path

/-- The edits for a text under an entry, if the entry gives a runner. -/
def editsUnder (entry : Value) (text path : String) : Option (List TextEdit) :=
  match (Runner.build .standard (.object [(ruleName, entry)]) .null).result with
  | .ok runner => some ((runner.run (.ofText path text)).results.editsFor path)
  | .error _ => none

theorem editsUnder_eq_some_iff {entry : Value} {edits : List TextEdit} :
    editsUnder entry text path = some edits ↔
      ∃ runner, (Runner.build .standard (.object [(ruleName, entry)]) .null).result = .ok runner ∧
        (runner.run (.ofText path text)).results.editsFor path = edits := by
  unfold editsUnder
  cases (Runner.build .standard (.object [(ruleName, entry)]) .null).result with
  | error failure => simp
  | ok runner => simp

/-- Two directives, the second in a comment that the end of the text cuts off. -/
theorem applyEdits_suggestions_cutOff :
    ∃ runner,
      (Runner.build .standard (.object [(ruleName,
        .list [.text "warn", .object [("ts-ignore", .boolean true)]])]) .null).result =
        .ok runner ∧
      applyEdits "// @ts-ignore: a\r\n/*@ts-ignore"
          ((runner.run (.ofText "a.ts" "// @ts-ignore: a\r\n/*@ts-ignore")).results.editsFor
            "a.ts") =
        ("// @ts-expect-error: a\r\n/*@ts-expect-error*/", 2) ∧
      (runner.run (.ofText "a.ts"
        "// @ts-expect-error: a\r\n/*@ts-expect-error*/")).results.editsFor "a.ts" = [] := by
  have read : RuleEntry.ofValue (.list [.text "warn", .object [("ts-ignore", .boolean true)]]) =
      .ok ⟨some .warning, ⟨[(.text "ts-ignore", .boolean true)]⟩⟩ := rfl
  cases accepted : PolicyConfiguration.ofOptions ⟨[(.text "ts-ignore", .boolean true)]⟩ with
  | error failure =>
      have succeeds : (PolicyConfiguration.ofOptions
          ⟨[(.text "ts-ignore", .boolean true)]⟩).isOk = true := by
        decide +kernel
      rw [accepted] at succeeds
      cases succeeds
  | ok configuration =>
      rcases applyEdits_suggestions read accepted rfl with ⟨runner, built, passes⟩
      have computed : editsUnder (.list [.text "warn", .object [("ts-ignore", .boolean true)]])
          "// @ts-ignore: a\r\n/*@ts-ignore" "a.ts" =
            some [⟨0, 16, "// @ts-expect-error: a"⟩, ⟨18, 30, "/*@ts-expect-error*/"⟩] := by
        decide +kernel
      rw [editsUnder, built] at computed
      have edits := Option.some.inj computed
      have applied : applyEdits "// @ts-ignore: a\r\n/*@ts-ignore"
          [⟨0, 16, "// @ts-expect-error: a"⟩, ⟨18, 30, "/*@ts-expect-error*/"⟩] =
            ("// @ts-expect-error: a\r\n/*@ts-expect-error*/", 2) :=
        applyEdits_of_inOrder ⟨by decide, by decide, by decide, by decide, by decide, by decide,
          trivial⟩
      have again := (passes "// @ts-ignore: a\r\n/*@ts-ignore" "a.ts").2.2.2.1
      simp only [edits, applied] at again
      exact ⟨runner, built, by rw [edits, applied], again⟩

/-- An entry with a format that is accepted and whose search breaks down on `bcbbb`. -/
def disorderedEntry : Value :=
  .list [.text "error", .object [("ts-ignore", .boolean true),
    ("ts-expect-error", .object [("descriptionFormat", .text "(?:(bc)|[ab])*+")])]]

/-- A search that breaks down on one directive leaves the edit for another one out. -/
theorem editsFor_disorderedEntry :
    (∃ runner,
      (Runner.build .standard (.object [(ruleName, disorderedEntry)]) .null).result =
        .ok runner ∧
      (runner.run (.ofText "a.ts"
        "// @ts-ignore\n// @ts-expect-errorbcbbb")).results.editsFor "a.ts" = []) ∧
      (ignored (directiveComments (scanComments "// @ts-ignore\n// @ts-expect-errorbcbbb"
        "a.ts"))).length = 1 := by
  constructor
  · rw [← editsUnder_eq_some_iff]
    decide +kernel
  · decide +kernel

end DirectiveLint
