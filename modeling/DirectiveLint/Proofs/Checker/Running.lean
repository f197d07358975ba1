import DirectiveLint.Checker.Runner
import DirectiveLint.Proofs.Policy.Reports

/-!
# Running checkers of directives

A runner of the standard registry holds a number of checkers of directives that
all evaluate alike; there may be several, because a selection may name the rule
more than once.  What such a runner reports on a file is what one evaluation of
the file reports, once for each checker.  It does not depend on the files that
the runner has seen before.
-/

namespace DirectiveLint

namespace Runner

/-- What a checker found on a file, or the diagnostic of its failure. -/
def diagnosticsOf {rule : Rule} (file : SourceFile) (outcome : Checker.Outcome rule) :
    List Diagnostic :=
  match outcome.result with
  | .ok diagnostics => diagnostics
  | .error text => [internalError rule.name file.path text]

end Runner

namespace DirectiveEvidence

/-- What a checker of directives reports on a file: its reports, or one that says that it failed. -/
def reportsOn (evaluator : Evaluator) (file : SourceFile) : List Diagnostic :=
  match evaluate evaluator (directiveComments file.comments) with
  | (found, none) => found
  | (_, some failure) => [Runner.internalError ruleName file.path (failureText failure)]

/-- The edits that the reports on a file bring. -/
def editsOn (evaluator : Evaluator) (file : SourceFile) : List TextEdit :=
  (reportsOn evaluator file).filterMap Diagnostic.edit?

/-- The statistic on how many directives a file has. -/
def directivesKey : LooseText := ruleName ++ "_directives"

/-- Working through a file counts its directives and reports what one evaluation of it reports, and
leaves the evaluator as it is. -/
theorem workThrough_spec (checker : Checker directiveRule) (file : SourceFile) :
    ((checker.workThrough file).checker.state : DirectiveEvidence).evaluator =
        (checker.state : DirectiveEvidence).evaluator ∧
      (checker.workThrough file).stats =
        [(directivesKey, .integer (directiveComments file.comments).length)] ∧
      Runner.diagnosticsOf file (checker.workThrough file) =
        reportsOn (checker.state : DirectiveEvidence).evaluator file := by
  rcases checker with ⟨severity, ⟨evaluator, gathered⟩, pending⟩
  simp only [Checker.workThrough, Checker.collect, Checker.reset, Checker.diagnose, directiveRule,
    DirectiveEvidence.collect, DirectiveEvidence.diagnose, reportsOn, Runner.diagnosticsOf]
  rcases evaluate evaluator (directiveComments file.comments) with ⟨found, failure⟩
  cases failure with
  | none => exact ⟨rfl, rfl, rfl⟩
  | some failure => exact ⟨rfl, rfl, rfl⟩

end DirectiveEvidence

namespace Runner

open DirectiveEvidence

/-- Whether a runner consists of a number of checkers of directives with one evaluator. -/
def Evaluates (runner : Runner) (evaluator : Evaluator) (count : Nat) : Prop :=
  ∃ checkers : List (Checker directiveRule),
    runner.checkers = checkers.map (Sigma.mk directiveRule) ∧ checkers.length = count ∧
      ∀ checker ∈ checkers, (checker.state : DirectiveEvidence).evaluator = evaluator

/-- Whether all values among statistics are integers. -/
def AllIntegers (stats : List (LooseText × Value)) : Prop :=
  ∀ stat ∈ stats, ∃ value, stat.2 = .integer value

theorem allIntegers_putField {stats : List (LooseText × Value)} (integers : AllIntegers stats)
    (key : LooseText) (value : Int) : AllIntegers (Value.putField key (.integer value) stats) := by
  induction stats with
  | nil =>
      intro stat member
      rw [Value.putField, List.mem_singleton] at member
      exact ⟨value, by rw [member]⟩
  | cons first rest inductionHypothesis =>
      have later := inductionHypothesis fun stat member =>
        integers stat (List.mem_cons_of_mem first member)
      intro stat member
      unfold Value.putField at member
      split at member
      · rcases List.mem_cons.mp member with rfl | member
        · exact ⟨value, rfl⟩
        · exact integers stat (List.mem_cons_of_mem first member)
      · rcases List.mem_cons.mp member with rfl | member
        · exact integers stat List.mem_cons_self
        · exact later stat member

theorem runCheckers_cons {rule : Rule} (file : SourceFile) (results : Results)
    (checker : Checker rule) (rest : List (Sigma Checker)) :
    ∃ entries, runCheckers file results (⟨rule, checker⟩ :: rest) =
      ((runCheckers file (addOutcome results rule.name (checker.workThrough file).stats
          (diagnosticsOf file (checker.workThrough file))) rest).1,
        ⟨rule, (checker.workThrough file).checker⟩ ::
          (runCheckers file (addOutcome results rule.name (checker.workThrough file).stats
            (diagnosticsOf file (checker.workThrough file))) rest).2.1, entries) := by
  simp only [runCheckers, diagnosticsOf]
  cases (checker.workThrough file).result <;> exact ⟨_, rfl⟩

/-- What running some checkers of directives adds to results: for each checker the reports on the
file, and integers as statistics. -/
theorem runCheckers_spec {evaluator : Evaluator} (file : SourceFile) (results : Results)
    (integers : AllIntegers results.stats) (checkers : List (Checker directiveRule))
    (alike : ∀ checker ∈ checkers, (checker.state : DirectiveEvidence).evaluator = evaluator) :
    (runCheckers file results (checkers.map (Sigma.mk directiveRule))).1.diagnostics =
        results.diagnostics ++ (List.replicate checkers.length (reportsOn evaluator file)).flatten ∧
      (runCheckers file results (checkers.map (Sigma.mk directiveRule))).1.files = results.files ∧
      AllIntegers (runCheckers file results (checkers.map (Sigma.mk directiveRule))).1.stats ∧
      Evaluates ⟨(runCheckers file results (checkers.map (Sigma.mk directiveRule))).2.1⟩ evaluator
        checkers.length := by
  induction checkers generalizing results with
  | nil => exact ⟨(List.append_nil _).symm, rfl, integers, [], rfl, rfl, by simp⟩
  | cons checker rest inductionHypothesis =>
      rcases workThrough_spec checker file with ⟨same, stats, reported⟩
      rw [alike checker List.mem_cons_self] at same reported
      have added : AllIntegers (addOutcome results ruleName (checker.workThrough file).stats
          (reportsOn evaluator file)).stats := by
        rw [stats]
        exact allIntegers_putField (allIntegers_putField integers _ _) _ _
      rcases inductionHypothesis _ added
        fun other member => alike other (List.mem_cons_of_mem _ member)
        with ⟨diagnostics, files, laterIntegers, checkers, shape, length, laterAlike⟩
      rcases runCheckers_cons file results checker (rest.map (Sigma.mk directiveRule))
        with ⟨entries, unfolded⟩
      rw [reported] at unfolded
      rw [List.map_cons, unfolded]
      refine ⟨?_, files, laterIntegers, (checker.workThrough file).checker :: checkers, ?_, ?_, ?_⟩
      · rw [List.length_cons, List.replicate_succ, List.flatten_cons, ← List.append_assoc]
        exact diagnostics
      · exact congrArg
          (List.cons (⟨directiveRule, (checker.workThrough file).checker⟩ : Sigma Checker))
          shape
      · rw [List.length_cons, List.length_cons, length]
      · intro other member
        rcases List.mem_cons.mp member with rfl | later
        · exact same
        · exact laterAlike other later

/-- What a runner reports on a file, whatever files it has seen before. -/
theorem run_spec {runner : Runner} {evaluator : Evaluator} {count : Nat}
    (evaluates : runner.Evaluates evaluator count) (file : SourceFile) :
    (runner.run file).results.diagnostics =
        (List.replicate count (reportsOn evaluator file)).flatten ∧
      (runner.run file).results.files = [file.path] ∧
      AllIntegers (runner.run file).results.stats ∧
      (runner.run file).runner.Evaluates evaluator count := by
  rcases evaluates with ⟨checkers, shape, rfl, alike⟩
  have ran := runCheckers_spec file { Results.empty with files := [file.path] }
    (fun _ member => nomatch member) checkers alike
  rw [← shape] at ran
  exact ran

end Runner

/-! ## Edits -/

theorem location_file_of_mem_scanComments (text path : String) :
    ∀ comment ∈ scanComments text path, comment.location.file = path := by
  intro comment member
  rcases List.mem_map.mp member with ⟨lexeme, _, rfl⟩
  rfl

namespace DirectiveEvidence

variable {evaluator : Evaluator}

/-- What is reported on a file is a report on one of its comments, or tells of a failure. -/
theorem exists_of_mem_reportsOn {file : SourceFile} {diagnostic : Diagnostic}
    (member : diagnostic ∈ reportsOn evaluator file) :
    (∃ comment ∈ file.comments, evaluator.evaluate comment = .ok (some diagnostic)) ∨
      ∃ text, diagnostic = Runner.internalError ruleName file.path text := by
  unfold reportsOn at member
  split at member
  · next found evaluated =>
      have within : diagnostic ∈ (evaluate evaluator (directiveComments file.comments)).1 := by
        rw [evaluated]
        exact member
      rcases exists_of_mem_evaluate diagnostic within with ⟨entry, gathered, made⟩
      rcases List.mem_filterMap.mp gathered with ⟨comment, scanned, matched⟩
      rcases Option.map_eq_some_iff.mp matched with ⟨matching, here, rfl⟩
      refine Or.inl ⟨comment, scanned, ?_⟩
      rw [Evaluator.evaluate, here]
      exact made
  · exact Or.inr ⟨_, List.mem_singleton.mp member⟩

theorem location_file_of_mem_reportsOn (text path : String) :
    ∀ diagnostic ∈ reportsOn evaluator (.ofText path text), diagnostic.location.file = path := by
  intro diagnostic member
  rcases exists_of_mem_reportsOn member with ⟨comment, scanned, reported⟩ | ⟨failed, rfl⟩
  · rcases Evaluator.evaluate_eq_some_iff.mp reported with ⟨_, _, _, _, reports⟩
    rw [reports.location]
    exact location_file_of_mem_scanComments text path comment scanned
  · rfl

/-- Whether evaluating some directive of a file breaks down. -/
def BreaksDownOn (evaluator : Evaluator) (file : SourceFile) : Prop :=
  ∃ entry ∈ directiveComments file.comments, ∃ failure,
    evaluator.evaluateMatch entry.1 entry.2 = .error failure

theorem evaluate_failure_of_mem {gathered : List (Comment × DirectiveMatch)} {failure : Failure}
    {entry : Comment × DirectiveMatch} (member : entry ∈ gathered)
    (failed : evaluator.evaluateMatch entry.1 entry.2 = .error failure) :
    (evaluate evaluator gathered).2 ≠ none := by
  induction gathered with
  | nil => cases member
  | cons first rest inductionHypothesis =>
      rcases first with ⟨comment, found⟩
      simp only [evaluate]
      split
      · exact Option.some_ne_none _
      · next report here =>
          rcases List.mem_cons.mp member with rfl | later
          · rw [here] at failed
            cases failed
          · exact inductionHypothesis later

/-- Evaluating directives breaks down as the table says: the search for a format leaves a group
disordered, or the least length, which the message shows, has too many digits. -/
theorem exists_evaluateMatch_eq_error_iff
    (accepted : PolicyConfiguration.checkMinimum evaluator.configuration.minimum = .ok ())
    {gathered : List (Comment × DirectiveMatch)} :
    (∃ entry ∈ gathered, ∃ failure, evaluator.evaluateMatch entry.1 entry.2 = .error failure) ↔
      ∃ entry ∈ gathered, ∃ failure,
        (failure = .disorderedGroup ∨ failure = .tooManyDigits) ∧
          evaluator.configuration.Decides entry.2 (.failed failure) := by
  have comparable := PolicyConfiguration.isComparable_of_checkMinimum accepted
  simp only [Evaluator.evaluateMatch_eq_error_iff comparable]
  refine exists_congr fun entry => and_congr_right fun _ => exists_congr fun failure => ?_
  exact (and_iff_right_of_imp PolicyConfiguration.Decides.eq_of_failed).symm

theorem evaluate_isSome_iff
    (accepted : PolicyConfiguration.checkMinimum evaluator.configuration.minimum = .ok ())
    {gathered : List (Comment × DirectiveMatch)} :
    (evaluate evaluator gathered).2.isSome = true ↔
      ∃ entry ∈ gathered, ∃ failure,
        (failure = .disorderedGroup ∨ failure = .tooManyDigits) ∧
          evaluator.configuration.Decides entry.2 (.failed failure) := by
  rw [← exists_evaluateMatch_eq_error_iff accepted, Option.isSome_iff_exists]
  constructor
  · rintro ⟨failure, failed⟩
    rcases exists_of_evaluate_failure failed with ⟨entry, member, here⟩
    exact ⟨entry, member, failure, here⟩
  · rintro ⟨entry, member, failure, failed⟩
    exact Option.ne_none_iff_exists'.mp (evaluate_failure_of_mem member failed)

/-- It breaks down on a file as the table says of one of its directives. -/
theorem breaksDownOn_iff
    (accepted : PolicyConfiguration.checkMinimum evaluator.configuration.minimum = .ok ())
    {file : SourceFile} :
    BreaksDownOn evaluator file ↔
      ∃ entry ∈ directiveComments file.comments, ∃ failure,
        (failure = .disorderedGroup ∨ failure = .tooManyDigits) ∧
          evaluator.configuration.Decides entry.2 (.failed failure) :=
  exists_evaluateMatch_eq_error_iff accepted

/-- A file on which evaluating breaks down gets no edits. -/
theorem editsOn_of_breaksDownOn {file : SourceFile} (breaksDown : BreaksDownOn evaluator file) :
    editsOn evaluator file = [] := by
  rcases breaksDown with ⟨entry, member, failure, failed⟩
  have fails := evaluate_failure_of_mem member failed
  unfold editsOn reportsOn
  split
  · next evaluated =>
      rw [evaluated] at fails
      exact absurd rfl fails
  · rfl

/-- Any other file gets the edits for its `ignore` directives if those are always flagged. -/
theorem editsOn_of_not_breaksDownOn {file : SourceFile} (works : ¬ BreaksDownOn evaluator file) :
    editsOn evaluator file =
      if evaluator.FlagsIgnore then
        (ignored (directiveComments file.comments)).map Evaluator.expectErrorEdit
      else [] := by
  unfold editsOn reportsOn
  split
  · next evaluated => exact edits_of_evaluate evaluated
  · next failure evaluated =>
      have failed : (evaluate evaluator (directiveComments file.comments)).2 = some failure := by
        rw [evaluated]
      rcases exists_of_evaluate_failure failed with ⟨entry, member, broken⟩
      exact absurd ⟨entry, member, failure, broken⟩ works

end DirectiveEvidence

namespace Runner

variable {runner : Runner} {evaluator : Evaluator} {count : Nat}

/-- What a run finds on a file is what one evaluation of it reports. -/
theorem mem_reportsOn_of_mem_run (evaluates : runner.Evaluates evaluator count)
    {file : SourceFile} {diagnostic : Diagnostic}
    (member : diagnostic ∈ (runner.run file).results.diagnostics) :
    diagnostic ∈ DirectiveEvidence.reportsOn evaluator file := by
  rw [(run_spec evaluates file).1] at member
  rcases List.mem_flatten.mp member with ⟨reports, copy, within⟩
  rwa [List.eq_of_mem_replicate copy] at within

/-- What a run finds on a file lies in the file. -/
theorem location_file_of_mem_run (evaluates : runner.Evaluates evaluator count)
    (path text : String) :
    ∀ diagnostic ∈ (runner.run (.ofText path text)).results.diagnostics,
      diagnostic.location.file = path := fun diagnostic member =>
  DirectiveEvidence.location_file_of_mem_reportsOn text path diagnostic
    (mem_reportsOn_of_mem_run evaluates member)

/-- The edits for a file are those of one evaluation, once for each checker. -/
theorem editsFor_run (evaluates : runner.Evaluates evaluator count) (path text : String) :
    (runner.run (.ofText path text)).results.editsFor path =
      (List.replicate count (DirectiveEvidence.editsOn evaluator (.ofText path text))).flatten := by
  have here : ∀ diagnostic ∈ (runner.run (.ofText path text)).results.diagnostics,
      (diagnostic.location.file == path) = true := fun diagnostic member =>
    beq_iff_eq.mpr (location_file_of_mem_run evaluates path text diagnostic member)
  rw [Results.editsFor, Results.inFile, List.filter_eq_self.mpr here,
    (run_spec evaluates (.ofText path text)).1, List.filterMap_flatten, List.map_replicate]
  rfl

end Runner
end DirectiveLint
