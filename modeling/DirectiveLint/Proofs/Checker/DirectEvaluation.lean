import DirectiveLint.Proofs.Checker.Building

/-!
# Checkers agree with direct evaluation

A checker gathers the directives of a file and evaluates them in a second stage.
An evaluator can also go through the comments of a text one by one.  Both report
the same, and where the direct evaluation fails, the runner has one diagnostic
instead that says so.

A runner with one checker adds up what it finds on several files: no report is
lost or repeated, and none depends on the files before.
-/

namespace DirectiveLint

namespace Evaluator

variable {evaluator : Evaluator}

/-- All reports have the severity of the evaluator. -/
theorem severity_of_mem_evaluateAll {comments : List Comment} {reports : List Diagnostic}
    (evaluated : evaluator.evaluateAll comments = .ok reports) :
    ∀ diagnostic ∈ reports, diagnostic.severity = evaluator.severity := by
  induction comments generalizing reports with
  | nil =>
      cases evaluated
      simp
  | cons comment rest inductionHypothesis =>
      intro diagnostic member
      unfold evaluateAll at evaluated
      split at evaluated
      · cases evaluated
      · next report? here =>
          split at evaluated
          · cases evaluated
          · next others later =>
              cases evaluated
              rcases List.mem_append.mp member with first | member
              · rw [Option.mem_toList.mp first] at here
                rcases evaluate_eq_some_iff.mp here with ⟨_, _, _, _, reports⟩
                exact reports.severity
              · exact inductionHypothesis later diagnostic member

/-- What going through the comments of a text one by one reports, or the diagnostic of its
failure. -/
def directReports (evaluator : Evaluator) (path text : String) : List Diagnostic :=
  match evaluator.evaluateAll (scanComments text path) with
  | .ok reports => reports
  | .error failure =>
    [Runner.internalError DirectiveEvidence.ruleName path (DirectiveEvidence.failureText failure)]

/-- What going through the comments of a text one by one finds, if that does not fail. -/
def findings (evaluator : Evaluator) (path text : String) : List Diagnostic :=
  (evaluator.evaluateAll (scanComments text path)).toOption.getD []

/-- Errors are reported on a text only as its findings, since a failure is no error. -/
theorem exists_error_iff (path text : String) :
    (∃ diagnostic ∈ evaluator.directReports path text, diagnostic.severity = .error) ↔
      evaluator.severity = .error ∧ evaluator.findings path text ≠ [] := by
  unfold directReports findings
  cases evaluated : evaluator.evaluateAll (scanComments text path) with
  | error failure => simp [Runner.internalError, Except.toOption]
  | ok reports =>
      have severity := severity_of_mem_evaluateAll evaluated
      constructor
      · rintro ⟨diagnostic, member, error⟩
        exact ⟨(severity diagnostic member).symm.trans error, List.ne_nil_of_mem member⟩
      · rintro ⟨error, nonempty⟩
        rcases List.exists_mem_of_ne_nil reports nonempty with ⟨diagnostic, member⟩
        exact ⟨diagnostic, member, (severity diagnostic member).trans error⟩

end Evaluator

namespace DirectiveEvidence

/-- Reports without a failure, or the failure that cut them off. -/
def settled : List Diagnostic × Option Failure → Except Failure (List Diagnostic)
  | (reports, none) => .ok reports
  | (_, some failure) => .error failure

theorem settled_eq_error_iff {evaluated : List Diagnostic × Option Failure} {failure : Failure} :
    settled evaluated = .error failure ↔ evaluated.2 = some failure := by
  rcases evaluated with ⟨reports, failed⟩
  cases failed <;> simp [settled]

/-- Evaluating what was gathered is going through the comments one by one. -/
theorem evaluateAll_eq_settled (evaluator : Evaluator) (comments : List Comment) :
    evaluator.evaluateAll comments = settled (evaluate evaluator (directiveComments comments)) := by
  induction comments with
  | nil => rfl
  | cons comment rest inductionHypothesis =>
      cases matched : matchDirective comment with
      | none =>
          have gathered : directiveComments (comment :: rest) = directiveComments rest := by
            simp [directiveComments, matched]
          rw [gathered, ← inductionHypothesis]
          simp only [Evaluator.evaluateAll, Evaluator.evaluate, matched]
          cases evaluator.evaluateAll rest <;> rfl
      | some found =>
          have gathered : directiveComments (comment :: rest) =
              (comment, found) :: directiveComments rest := by
            simp [directiveComments, matched]
          rw [gathered]
          simp only [Evaluator.evaluateAll, Evaluator.evaluate, matched, inductionHypothesis,
            evaluate]
          cases evaluator.evaluateMatch comment found with
          | error failure => rfl
          | ok report =>
              rcases evaluate evaluator (directiveComments rest) with ⟨reports, failure⟩
              cases failure <;> rfl

theorem reportsOn_eq_directReports (evaluator : Evaluator) (path text : String) :
    reportsOn evaluator (.ofText path text) = evaluator.directReports path text := by
  rw [Evaluator.directReports, evaluateAll_eq_settled]
  simp only [reportsOn, SourceFile.ofText, SourceFile.comments, Option.getD_none]
  rcases evaluate evaluator (directiveComments (scanComments text path)) with ⟨reports, failure⟩
  cases failure <;> rfl

/-- Under accepted options a direct evaluation fails only at a directive on which the table decides
a failure. -/
theorem exists_decides_of_evaluateAll_error {evaluator : Evaluator}
    (accepted : PolicyConfiguration.checkMinimum evaluator.configuration.minimum = .ok ())
    {comments : List Comment} {failure : Failure}
    (failed : evaluator.evaluateAll comments = .error failure) :
    ∃ comment ∈ comments, ∃ found, matchDirective comment = some found ∧
      evaluator.configuration.Decides found (.failed failure) := by
  rw [evaluateAll_eq_settled, settled_eq_error_iff] at failed
  rcases exists_of_evaluate_failure failed with ⟨entry, member, here⟩
  rcases List.mem_filterMap.mp member with ⟨comment, listed, matched⟩
  rcases Option.map_eq_some_iff.mp matched with ⟨found, here', rfl⟩
  have comparable := PolicyConfiguration.isComparable_of_checkMinimum accepted
  exact ⟨comment, listed, found, here', (Evaluator.evaluateMatch_eq_error_iff comparable).mp here⟩

end DirectiveEvidence

/-- Results on some texts have errors exactly if errors are found in some of the texts. -/
theorem Results.count_error_pos_iff {results : Results} {evaluator : Evaluator}
    {sources : List (String × String)}
    (reports : results.diagnostics =
      sources.flatMap fun source => evaluator.directReports source.1 source.2) :
    results.count .error > 0 ↔
      evaluator.severity = .error ∧
        sources.flatMap (fun source => evaluator.findings source.1 source.2) ≠ [] := by
  have errors : results.count .error > 0 ↔ ∃ source ∈ sources, ∃ diagnostic ∈
      evaluator.directReports source.1 source.2, diagnostic.severity = .error := by
    rw [Results.count, gt_iff_lt, List.countP_pos_iff, reports]
    simp only [List.mem_flatMap, decide_eq_true_eq]
    constructor
    · rintro ⟨diagnostic, ⟨source, listed, member⟩, error⟩
      exact ⟨source, listed, diagnostic, member, error⟩
    · rintro ⟨source, listed, diagnostic, member, error⟩
      exact ⟨diagnostic, ⟨source, listed, member⟩, error⟩
  rw [errors]
  simp only [Evaluator.exists_error_iff, ne_eq, List.flatMap_eq_nil_iff, Classical.not_forall]
  constructor
  · rintro ⟨source, listed, error, nonempty⟩
    exact ⟨error, source, listed, nonempty⟩
  · rintro ⟨error, source, listed, nonempty⟩
    exact ⟨source, listed, error, nonempty⟩

/-! ## Adding up -/

namespace Results

open DirectiveEvidence (directivesKey ruleName)

/-- The statistics of a checker that has met a number of directives. -/
def directiveStats (count : Nat) : List (LooseText × Value) :=
  [(directivesKey, .integer count), (elapsedKey ruleName, .integer 0)]

/-- The results of one checker of directives on some files. -/
def ofDirectives (files : List String) (diagnostics : List Diagnostic) (count : Nat) : Results :=
  { diagnostics
    byChecker := [(ruleName, diagnostics)]
    stats := directiveStats count
    checkers := [ruleName]
    files }

theorem addStats_directiveStats (first second : Nat) :
    addStats (directiveStats first) (directiveStats second) =
      (directiveStats (first + second), none) := by
  have different : (directivesKey == elapsedKey ruleName) = false := by decide
  simp [addStats, directiveStats, Value.fieldOf?, Value.putField, Value.add, Value.toInteger?,
    different]

theorem merge_empty_ofDirectives (files : List String) (diagnostics : List Diagnostic)
    (count : Nat) :
    (empty.merge (ofDirectives files diagnostics count)).1 =
      ofDirectives files diagnostics count := by
  have different : (directivesKey == elapsedKey ruleName) = false := by decide
  simp [merge, empty, ofDirectives, directiveStats, addStats, Value.fieldOf?, addGroups, addToGroup,
    addNames, different]

/-- Merging adds up reports, directives and files. -/
theorem merge_ofDirectives (files others : List String) (diagnostics reports : List Diagnostic)
    (count number : Nat) :
    ((ofDirectives files diagnostics count).merge (ofDirectives others reports number)).1 =
      ofDirectives (files ++ others) (diagnostics ++ reports) (count + number) := by
  have sum : addStats (ofDirectives files diagnostics count).stats
      (ofDirectives others reports number).stats = (directiveStats (count + number), none) :=
    addStats_directiveStats count number
  unfold merge
  simp only [sum]
  simp [ofDirectives, addGroups, addToGroup, addNames]

end Results

namespace Runner

open DirectiveEvidence

variable {runner : Runner} {evaluator : Evaluator}

/-- The directives of some files. -/
def directivesOf (files : List SourceFile) : List (Comment × DirectiveMatch) :=
  files.flatMap fun file => directiveComments file.comments

/-- What a runner with one checker finds on a file, whatever files it has seen before. -/
theorem run_ofDirectives (evaluates : runner.Evaluates evaluator 1) (file : SourceFile) :
    (runner.run file).results =
      .ofDirectives [file.path] (reportsOn evaluator file)
        (directiveComments file.comments).length := by
  rcases evaluates with ⟨checkers, shape, one, alike⟩
  rcases List.length_eq_one_iff.mp one with ⟨checker, rfl⟩
  rcases workThrough_spec checker file with ⟨_, stats, reported⟩
  rw [alike checker List.mem_cons_self] at reported
  rcases runCheckers_cons file { Results.empty with files := [file.path] } checker [] with
    ⟨entries, ran⟩
  have different : (directivesKey == Results.elapsedKey ruleName) = false := by decide
  simp only [run, shape, List.map_cons, List.map_nil, ran]
  rw [reported, stats]
  simp [runCheckers, addOutcome, Results.empty, Results.ofDirectives, Results.directiveStats,
    Results.addToGroup, Value.putField, different, directiveRule]

/-- What a runner with one checker adds to results that it has found on other files. -/
theorem runAll_merge_ofDirectives (evaluates : runner.Evaluates evaluator 1)
    (others : List String) (diagnostics : List Diagnostic) (count : Nat) (files : List SourceFile) :
    (runner.runAll (.ofDirectives others diagnostics count) files).results =
      .ofDirectives (others ++ files.map SourceFile.path)
        (diagnostics ++ files.flatMap (reportsOn evaluator))
        (count + (directivesOf files).length) := by
  induction files generalizing runner others diagnostics count with
  | nil => simp [runAll, directivesOf]
  | cons file rest inductionHypothesis =>
      have evaluatesAfter := (run_spec evaluates file).2.2.2
      rw [runAll, run_ofDirectives evaluates, Results.merge_ofDirectives]
      refine (inductionHypothesis evaluatesAfter _ _ _).trans ?_
      simp [directivesOf, Nat.add_assoc]

/-- What a runner with one checker finds on some files: the reports on each of them in their order,
and the number of their directives. -/
theorem runAll_ofDirectives (evaluates : runner.Evaluates evaluator 1) {files : List SourceFile}
    (given : files ≠ []) :
    (runner.runAll .empty files).results =
      .ofDirectives (files.map SourceFile.path) (files.flatMap (reportsOn evaluator))
        (directivesOf files).length := by
  cases files with
  | nil => exact absurd rfl given
  | cons file rest =>
      have evaluatesAfter := (run_spec evaluates file).2.2.2
      rw [runAll, run_ofDirectives evaluates, Results.merge_empty_ofDirectives]
      refine (runAll_merge_ofDirectives evaluatesAfter _ _ _ rest).trans ?_
      simp [directivesOf]

end Runner
end DirectiveLint
