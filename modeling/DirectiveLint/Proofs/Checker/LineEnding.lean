import DirectiveLint.Proofs.Checker.Building
import DirectiveLint.Proofs.Source.LineEndingScan
import Mathlib.Data.List.Forall2

/-!
# Reports on texts with carriage returns

A file is reported on in the same way with either line ending: the comments
carry the same directives with the same descriptions on the same lines and
columns, and nothing else of a comment enters a report, apart from its offsets.

This holds for texts in which no string or regular expression holds a backslash
in front of a line feed.  Where one does, the line feed ends the literal only in
the text with carriage returns, and what follows may be taken for a comment.
-/

namespace DirectiveLint

open Source

/-- A text with a carriage return in front of each line feed. -/
def withCarriageReturns (text : String) : String :=
  String.ofList (withReturns text.toList)

/-- A message with its place in lines and columns. -/
structure PlacedMessage where
  messageId : String
  message : LooseText
  severity : Severity
  location : Location
  ends : Option (Location × Location)
  deriving DecidableEq, Repr

/-- What a diagnostic says and where, without offsets and without edits. -/
def Diagnostic.inLines (diagnostic : Diagnostic) : PlacedMessage :=
  { messageId := diagnostic.messageId
    message := diagnostic.message
    severity := diagnostic.severity
    location := diagnostic.location
    ends := diagnostic.span.map fun span => (span.startLocation, span.stopLocation) }

/-! ## Comments -/

/-- Whether a comment is another one with carriage returns, on the same lines and columns. -/
structure Comment.Mirrors (comment other : Comment) : Prop where
  kind : other.kind = comment.kind
  value : other.value.toList = withReturns comment.value.toList
  start : other.span.startLocation = comment.span.startLocation
  stop : other.span.stopLocation = comment.span.stopLocation

theorem forall₂_scanComments (text file : String) (noReturn : '\r' ∉ text.toList)
    (noEscape : ∀ literal ∈ (Scan.start text.toList).literals,
      escapesFeed false literal = false) :
    List.Forall₂ Comment.Mirrors (scanComments text file)
      (scanComments (withCarriageReturns text) file) := by
  simp only [scanComments, withCarriageReturns, String.toList_ofList,
    lexemes_withReturns noReturn noEscape, List.map_map]
  rw [List.forall₂_map_left_iff, List.forall₂_map_right_iff, List.forall₂_same]
  intro lexeme member
  have stands := Scan.standsIn_of_mem_lexemes (Scan.start text.toList) lexeme member
  have inside : lexeme.stop ≤ text.toList.length := by
    simpa [Scan.start] using stands.stop_le
  have before : lexeme.start ≤ text.toList.length := stands.start_lt_stop.le.trans inside
  exact ⟨rfl, by simp [Lexeme.toComment, Lexeme.withReturnsIn],
    locationAt_movedOffset file before, locationAt_movedOffset file inside⟩

/-! ## Directives -/

namespace DirectiveMatch

theorem afterLead_withReturns (kind : CommentKind) (value : List Char) :
    afterLead kind (withReturns value) = withReturns (afterLead kind value) := by
  have blanks := fun text => dropWhile_withReturns Character.isBlank (by decide) text
  cases kind with
  | line => simp only [afterLead, dropWhile_withReturns (· = '/') (by decide), blanks]
  | block =>
      have marks := fun text => dropWhile_withReturns
        (fun character => character = '/' || character = '*') (by decide) text
      simp only [afterLead, blanks, marks]

theorem readKeyword?_withReturns (text : List Char) :
    readKeyword? (withReturns text) =
      (readKeyword? text).map fun found => (found.1, withReturns found.2) := by
  rw [readKeyword?, readKeyword?, List.map_findSome?]
  congr 1
  funext directive
  have plain : '\r' ∉ directive.keyword.toList ∧ '\n' ∉ directive.keyword.toList := by
    cases directive <;> decide
  rw [dropStart?_withReturns plain.1 plain.2, Function.comp_apply, Option.map_map, Option.map_map]
  rfl

/-- A value names the same directive with either line ending, and its description ends there. -/
theorem ofCharacters?_withReturns (kind : CommentKind) (value : List Char) :
    ofCharacters? kind (withReturns value) = ofCharacters? kind value := by
  have line := fun text => takeWhile_withReturns
    (fun character => !endsLine character) (by decide) (by decide) text
  rw [ofCharacters?, ofCharacters?, afterLead_withReturns,
    dropStart?_withReturns (by decide) (by decide)]
  cases Text.dropStart? "@ts-".toList (afterLead kind value) with
  | none => rfl
  | some rest =>
      simp only [Option.map_some, readKeyword?_withReturns, Option.map_map]
      congr 1
      funext found
      rw [Function.comp_apply, line]

end DirectiveMatch

theorem Comment.Mirrors.matchDirective_eq {comment other : Comment}
    (mirrors : comment.Mirrors other) :
    matchDirective other = matchDirective comment := by
  rw [matchDirective, matchDirective, matchDirectiveText, matchDirectiveText, mirrors.kind,
    mirrors.value, DirectiveMatch.ofCharacters?_withReturns]

/-- Whether two directives of comments are the same up to carriage returns. -/
def MirrorMatches (entry other : Comment × DirectiveMatch) : Prop :=
  entry.1.Mirrors other.1 ∧ other.2 = entry.2

theorem forall₂_directiveComments {comments others : List Comment}
    (mirrors : List.Forall₂ Comment.Mirrors comments others) :
    List.Forall₂ MirrorMatches (directiveComments comments) (directiveComments others) := by
  induction mirrors with
  | nil => exact List.Forall₂.nil
  | cons first rest inductionHypothesis =>
      rw [directiveComments, directiveComments, List.filterMap_cons, List.filterMap_cons,
        first.matchDirective_eq]
      cases matchDirective _ with
      | none => exact inductionHypothesis
      | some found => exact List.Forall₂.cons ⟨first, rfl⟩ inductionHypothesis

/-! ## Evaluating -/

namespace Evaluator

variable (evaluator : Evaluator) {comment other : Comment} (mirrors : comment.Mirrors other)

include mirrors

theorem report_inLines (id : MessageId) (data : List (LooseText × Value))
    (suggestions others : List Suggestion) :
    (evaluator.report other id data others).map (Option.map Diagnostic.inLines) =
      (evaluator.report comment id data suggestions).map (Option.map Diagnostic.inLines) := by
  unfold report
  cases renderMessage id data with
  | error failure => rfl
  | ok message =>
      simp only [Except.map, Option.map_some, Diagnostic.inLines, Comment.location, mirrors.start,
        mirrors.stop]

theorem reportAlways_inLines (directive : Directive) :
    (evaluator.reportAlways other directive).map (Option.map Diagnostic.inLines) =
      (evaluator.reportAlways comment directive).map (Option.map Diagnostic.inLines) := by
  have plain := fun data => evaluator.report_inLines mirrors .directiveComment data [] []
  unfold reportAlways
  cases directive with
  | ignore =>
      simp only [expectErrorSuggestion]
      cases renderMessage .replaceIgnore [] with
      | error failure => rfl
      | ok message => exact evaluator.report_inLines mirrors .ignoreInsteadOfExpectError [] _ _
  | expectError => exact plain _
  | nocheck => exact plain _
  | check => exact plain _

theorem reportFormat_inLines (found : DirectiveMatch) :
    (evaluator.reportFormat other found).map (Option.map Diagnostic.inLines) =
      (evaluator.reportFormat comment found).map (Option.map Diagnostic.inLines) := by
  unfold reportFormat
  cases evaluator.configuration.formatFor found.directive with
  | none => rfl
  | some format =>
      cases occurs : format.occursIn found.description with
      | error failure => simp only [occurs]
      | ok fits =>
          simp only [occurs]
          cases fits with
          | true => rfl
          | false => exact evaluator.report_inLines mirrors .descriptionNotMatching _ [] []

theorem reportDescription_inLines (found : DirectiveMatch) :
    (evaluator.reportDescription other found).map (Option.map Diagnostic.inLines) =
      (evaluator.reportDescription comment found).map (Option.map Diagnostic.inLines) := by
  simp only [reportDescription]
  cases isBelow? (descriptionLength found.description) evaluator.configuration.minimum with
  | none => rfl
  | some below =>
      cases below with
      | true => exact evaluator.report_inLines mirrors .requiresDescription _ [] []
      | false => exact evaluator.reportFormat_inLines mirrors found

/-- A report says the same on the same lines, or evaluating fails in the same way. -/
theorem evaluateMatch_inLines (found : DirectiveMatch) :
    (evaluator.evaluateMatch other found).map (Option.map Diagnostic.inLines) =
      (evaluator.evaluateMatch comment found).map (Option.map Diagnostic.inLines) := by
  have described : ∀ policy : DirectivePolicy,
      (if policy.requiresDescription then evaluator.reportDescription other found
        else .ok none).map (Option.map Diagnostic.inLines) =
      (if policy.requiresDescription then evaluator.reportDescription comment found
        else .ok none).map (Option.map Diagnostic.inLines) := by
    intro policy
    split
    · exact evaluator.reportDescription_inLines mirrors found
    · rfl
  simp only [evaluateMatch]
  cases evaluator.configuration.policyFor found.directive with
  | disabled => rfl
  | alwaysFlag => exact evaluator.reportAlways_inLines mirrors found.directive
  | allowWithDescription => exact described .allowWithDescription
  | descriptionFormat pattern => exact described (.descriptionFormat pattern)

end Evaluator

namespace DirectiveEvidence

variable (evaluator : Evaluator)

theorem evaluate_inLines {gathered others : List (Comment × DirectiveMatch)}
    (mirrors : List.Forall₂ MirrorMatches gathered others) :
    (evaluate evaluator others).1.map Diagnostic.inLines =
        (evaluate evaluator gathered).1.map Diagnostic.inLines ∧
      (evaluate evaluator others).2 = (evaluate evaluator gathered).2 := by
  induction mirrors with
  | nil => exact ⟨rfl, rfl⟩
  | @cons entry other gathered others first rest inductionHypothesis =>
      rcases entry with ⟨comment, found⟩
      rcases other with ⟨image, same⟩
      rcases first with ⟨first, rfl⟩
      have report := evaluator.evaluateMatch_inLines first same
      unfold evaluate
      cases here : evaluator.evaluateMatch comment same with
      | error failure =>
          rw [here] at report
          cases there : evaluator.evaluateMatch image same with
          | error other =>
              rw [there] at report
              exact ⟨rfl, congrArg some (Except.error.inj report)⟩
          | ok other =>
              rw [there] at report
              cases report
      | ok report? =>
          rw [here] at report
          cases there : evaluator.evaluateMatch image same with
          | error other =>
              rw [there] at report
              cases report
          | ok image? =>
              rw [there] at report
              have same := congrArg Option.toList (Except.ok.inj report)
              rw [Option.toList_map, Option.toList_map] at same
              simp only [List.map_append, same, inductionHypothesis, and_self]

/-- What is reported on a file says the same on the same lines with carriage returns. -/
theorem reportsOn_inLines (path text : String) (noReturn : '\r' ∉ text.toList)
    (noEscape : ∀ literal ∈ (Scan.start text.toList).literals,
      escapesFeed false literal = false) :
    (reportsOn evaluator (.ofText path (withCarriageReturns text))).map Diagnostic.inLines =
      (reportsOn evaluator (.ofText path text)).map Diagnostic.inLines := by
  have comments := forall₂_scanComments text path noReturn noEscape
  rcases evaluate_inLines evaluator (forall₂_directiveComments comments) with ⟨found, failure⟩
  simp only [reportsOn, SourceFile.ofText, SourceFile.comments, Option.getD_none]
  generalize evaluate evaluator (directiveComments (scanComments text path)) =
      here at found failure ⊢
  generalize evaluate evaluator (directiveComments (scanComments (withCarriageReturns text) path)) =
    there at found failure ⊢
  rcases here with ⟨reports, failed⟩
  rcases there with ⟨images, _⟩
  cases failure
  cases failed with
  | none => exact found
  | some failed => rfl

end DirectiveEvidence

/-! ## Running -/

/-- A runner reports the same messages on the same lines and columns on a text with either line
ending, whether it has seen the text before or not. -/
theorem Runner.run_withCarriageReturns {options selection : Value} {runner : Runner}
    (built : (build .standard options selection).result = .ok runner) (path text : String)
    (noReturn : '\r' ∉ text.toList)
    (noEscape : ∀ literal ∈ (Scan.start text.toList).literals,
      escapesFeed false literal = false) :
    (runner.run (.ofText path (withCarriageReturns text))).results.diagnostics.map
        Diagnostic.inLines =
      (runner.run (.ofText path text)).results.diagnostics.map Diagnostic.inLines ∧
    ((runner.run (.ofText path text)).runner.run
        (.ofText path (withCarriageReturns text))).results.diagnostics.map Diagnostic.inLines =
      (runner.run (.ofText path text)).results.diagnostics.map Diagnostic.inLines := by
  rcases exists_evaluates_of_build built with ⟨evaluator, count, evaluates⟩
  rcases run_spec evaluates (.ofText path text) with ⟨reported, _, _, evaluatesAfter⟩
  have same : ∀ {other : Runner}, other.Evaluates evaluator count →
      (other.run (.ofText path (withCarriageReturns text))).results.diagnostics.map
          Diagnostic.inLines =
        (runner.run (.ofText path text)).results.diagnostics.map Diagnostic.inLines := by
    intro other evaluates
    rw [(run_spec evaluates (.ofText path (withCarriageReturns text))).1, reported,
      List.map_flatten, List.map_flatten, List.map_replicate, List.map_replicate,
      DirectiveEvidence.reportsOn_inLines evaluator path text noReturn noEscape]
  exact ⟨same evaluates, same evaluatesAfter⟩

/-- What the default configuration reports on a text, if it gives a runner. -/
def inLinesByDefault (path text : String) : Option (List PlacedMessage) :=
  match (Runner.build .standard .null .null).result with
  | .ok runner => some ((runner.run (.ofText path text)).results.diagnostics.map Diagnostic.inLines)
  | .error _ => none

/-- The report on an `ignore` directive under the default configuration. -/
def ignoreInLines (start stop : Location) : PlacedMessage :=
  { messageId := "tsIgnoreInsteadOfExpectError"
    message := "Use \"@ts-expect-error\" instead of \"@ts-ignore\", as \"@ts-ignore\" will do " ++
      "nothing if the following line is error-free."
    severity := .error
    location := start
    ends := some (start, stop) }

/-- A backslash in front of a line feed does no harm in a template.  In a string it does: with the
carriage return the string ends there, and the rest of it is reported. -/
theorem Runner.run_withCarriageReturns_escapedFeed :
    ∃ runner, (build .standard .null .null).result = .ok runner ∧
      (runner.run (.ofText "a.ts"
          (withCarriageReturns "\x60\\\n\x60/*\n@ts-ignore*/"))).results.diagnostics.map
          Diagnostic.inLines =
        [ignoreInLines ⟨"a.ts", 2, 2⟩ ⟨"a.ts", 3, 13⟩] ∧
      (runner.run (.ofText "a.ts" "'\\\n// @ts-ignore'")).results.diagnostics.map
          Diagnostic.inLines = [] ∧
      (runner.run (.ofText "a.ts"
          (withCarriageReturns "'\\\n// @ts-ignore'"))).results.diagnostics.map
          Diagnostic.inLines =
        [ignoreInLines ⟨"a.ts", 2, 1⟩ ⟨"a.ts", 2, 15⟩] := by
  have template : inLinesByDefault "a.ts" "\x60\\\n\x60/*\n@ts-ignore*/" =
      some [ignoreInLines ⟨"a.ts", 2, 2⟩ ⟨"a.ts", 3, 13⟩] := by
    decide +kernel
  have string : inLinesByDefault "a.ts" "'\\\n// @ts-ignore'" = some [] := by
    decide +kernel
  have stringWithReturns : inLinesByDefault "a.ts" (withCarriageReturns "'\\\n// @ts-ignore'") =
      some [ignoreInLines ⟨"a.ts", 2, 1⟩ ⟨"a.ts", 2, 15⟩] := by
    decide +kernel
  cases built : (build .standard .null .null).result with
  | error failure =>
      rw [inLinesByDefault, built] at string
      cases string
  | ok runner =>
      rw [inLinesByDefault, built] at template string stringWithReturns
      have same := run_withCarriageReturns built "a.ts" "\x60\\\n\x60/*\n@ts-ignore*/"
        (by decide +kernel) (by decide +kernel)
      exact ⟨runner, rfl, same.1.trans (Option.some.inj template), Option.some.inj string,
        Option.some.inj stringWithReturns⟩

end DirectiveLint
