import DirectiveLint.Proofs.CommandLine.Linting
import DirectiveLint.Proofs.CommandLine.Output

/-!
# Results of linting

Linting some files with one entry for the rule reports what going through the
comments of each file reports, in the order of the files, and the exit code says
whether errors are among these reports.  Neither the format of the output nor the
applying of suggestions changes the exit code; only output that cannot be written
keeps the command from ending with it.

Where the search for the format of a description breaks down, or the least length
is too long to be shown, going through the comments fails, while linting goes on:
the file has one diagnostic that says so, in the place of its reports, and this
diagnostic is not an error.
-/

namespace DirectiveLint
namespace CommandLine

open FileTree
open DirectiveEvidence (ruleName directivesKey)

namespace Lint

/-- Files that are decoded can be read as texts. -/
theorem readable_of_decodeSources {tree : FileTree} {files : List (FilePath × List UInt8)}
    (held : ∀ file ∈ files, tree.read file.1 = .ok file.2)
    (decoded : (decodeSources files).2 = none) :
    ∀ path ∈ files.map Prod.fst, ∃ text, tree.readText path = .ok text := by
  induction files with
  | nil => simp
  | cons file rest inductionHypothesis =>
      rcases file with ⟨path, bytes⟩
      rw [List.forall_mem_cons] at held
      rw [List.map_cons, List.forall_mem_cons]
      unfold decodeSources at decoded
      cases textual : textOf bytes with
      | error fault =>
          rw [textual] at decoded
          cases decoded
      | ok text =>
          rw [textual] at decoded
          exact ⟨⟨text, readText_eq_ok_iff.mpr ⟨bytes, held.1, textual⟩⟩,
            inductionHypothesis held.2 decoded⟩

/-- The results on files that are decoded to some texts. -/
theorem result_check {runner : Runner} {files : List (FilePath × List UInt8)}
    {sources : List SourceFile} (decoded : decodeSources files = (sources, none)) :
    (check runner files).result = .ok (runner.runAll .empty sources).results := by
  simp only [check, decoded]

/-- Rule options with one entry give the runner for this entry. -/
theorem prepare_of_load {tree : FileTree} {standpoint : Standpoint} {arguments : LintArguments}
    (all : arguments.checkers = none) {options : List (LooseText × Value)}
    (loaded : RuleOptions.load tree standpoint arguments.config arguments.preset = .ok options)
    {runner : Runner}
    (built : (Runner.build .standard (.object options) .null).result = .ok runner) :
    (prepare tree standpoint arguments).result = .ok runner := by
  simp only [prepare, loaded, all, withStop, built]

/-- Linting files that are decoded comes down to writing what the runner finds on their texts, in
some tree: whether edits are applied or not, nothing stops the command before. -/
theorem exists_lint_eq_conclude_runAll {tree : FileTree} (proper : tree.Proper)
    {standpoint : Standpoint} {arguments : LintArguments}
    (lints : arguments.listCheckers = false) (given : arguments.paths ≠ []) {runner : Runner}
    (accepted : (prepare tree standpoint arguments).result = .ok runner)
    {evaluator : Evaluator} {count : Nat} (evaluates : runner.Evaluates evaluator count)
    {found : List (FilePath × List UInt8)}
    (sourced : tree.sources standpoint arguments.paths = .ok found) {files : List SourceFile}
    (decoded : decodeSources found = (files, none)) :
    let results := (runner.runAll .empty files).results
    ∃ left log, (Lint.applied tree arguments results).result = .ok left ∧
      lint tree standpoint arguments = conclude left standpoint arguments log results := by
  intro results
  have readable := readable_of_decodeSources
    (fun file member => proper.read_of_mem_sources sourced member) (congrArg Prod.snd decoded)
  rcases exists_check_applyToAll proper sourced readable evaluates with
    ⟨listed, after, checked, _, looped, _, _⟩
  have same : listed = results :=
    Except.ok.inj (checked.symm.trans (result_check decoded))
  have applied : ∃ left, (Lint.applied tree arguments results).result = .ok left := by
    unfold Lint.applied
    split
    · exact ⟨after, same ▸ looped⟩
    · exact ⟨tree, rfl⟩
  rcases applied with ⟨left, applied⟩
  rcases exists_lint_eq_conclude lints given accepted sourced (result_check decoded) applied with
    ⟨log, concluded⟩
  exact ⟨left, log, applied, concluded⟩

end Lint

/-- For every level that is not off and every options that are accepted, and for all texts: a runner
for them reports on each text what going through its comments reports, and counts all directives.
Going through comments fails only where the table decides a failure on one of them.  Linting files
with these texts ends with an exit code exactly if the output can be written.  It is that for
findings exactly if the level is an error and going through the comments of some of the texts finds
something. -/
theorem lint_outcome {level : Value} {severity : Severity}
    (known : Severity.ofLevel level = .ok (some severity)) {options : List (LooseText × Value)}
    {configuration : PolicyConfiguration}
    (accepted : PolicyConfiguration.ofValue (.object options) = .ok configuration)
    {sources : List (String × String)} (given : sources ≠ []) :
    let evaluator : Evaluator := ⟨configuration, severity, ruleName⟩
    let entries := [(.plain ruleName, .list [level, .object options])]
    let files := sources.map fun source => SourceFile.ofText source.1 source.2
    let reports := sources.flatMap fun source => evaluator.directReports source.1 source.2
    (∃ runner, (Runner.build .standard (.object entries) .null).result = .ok runner ∧
      (runner.runAll .empty files).results.diagnostics = reports ∧
      Value.fieldOf? directivesKey (runner.runAll .empty files).results.stats =
        some (.integer (sources.flatMap fun source =>
          directiveComments (scanComments source.2 source.1)).length) ∧
      ∀ (tree : FileTree) (standpoint : Standpoint) (arguments : LintArguments)
        (found : List (FilePath × List UInt8)), tree.Proper → arguments.listCheckers = false →
        arguments.paths ≠ [] → arguments.checkers = none →
        RuleOptions.load tree standpoint arguments.config arguments.preset = .ok entries →
        tree.sources standpoint arguments.paths = .ok found →
        Lint.decodeSources found = (files, none) →
        ∃ left, (Lint.applied tree arguments (runner.runAll .empty files).results).result =
            .ok left ∧
          let written := OpensOutput left standpoint arguments.outputFile ∧
            ∀ diagnostic ∈ reports, arguments.output.Fits diagnostic
          let outcome := (lint tree standpoint arguments).outcome
          (written → outcome = .exit
            (if severity = .error ∧
                sources.flatMap (fun source => evaluator.findings source.1 source.2) ≠ [] then
              exitFindings
            else exitSuccess)) ∧
            (¬written → ∃ cause, outcome = .interrupted cause)) ∧
    ∀ comments failure, evaluator.evaluateAll comments = .error failure →
      (failure = .disorderedGroup ∨ failure = .tooManyDigits) ∧
        ∃ comment ∈ comments, ∃ directive, matchDirective comment = some directive ∧
          configuration.Decides directive (.failed failure) := by
  intro evaluator entries files reports
  have optionsAccepted : PolicyConfiguration.ofOptions (Mapping.ofFields options) =
      .ok configuration :=
    (PolicyConfiguration.ofValue_object options).symm.trans accepted
  have read : RuleEntry.ofValue (.list [level, .object options]) =
      .ok ⟨some severity, Mapping.ofFields options⟩ := by
    simp only [RuleEntry.ofValue, Mapping.ofValue, RuleEntry.ofLevel, known]
  have bounded : PolicyConfiguration.checkMinimum evaluator.configuration.minimum = .ok () :=
    PolicyConfiguration.checkMinimum_of_ofOptions optionsAccepted
  rcases Runner.exists_runner_of_entry read optionsAccepted with ⟨runner, built, evaluates⟩
  have total := Runner.runAll_ofDirectives evaluates
    (show files ≠ [] from fun empty => given (List.map_eq_nil_iff.mp empty))
  have reported : (runner.runAll .empty files).results.diagnostics = reports := by
    rw [total]
    change files.flatMap _ = _
    rw [List.flatMap_map]
    simp only [DirectiveEvidence.reportsOn_eq_directReports]
    rfl
  refine ⟨⟨runner, built, reported, ?_, ?_⟩, ?_⟩
  · rw [total]
    have directives : Runner.directivesOf files = sources.flatMap fun source =>
        directiveComments (scanComments source.2 source.1) :=
      List.flatMap_map ..
    rw [directives]
    rfl
  · intro tree standpoint arguments found proper lints paths all loaded sourced decoded
    rcases Lint.exists_lint_eq_conclude_runAll proper lints paths
      (Lint.prepare_of_load all loaded built) evaluates sourced decoded with
      ⟨left, log, applied, concluded⟩
    refine ⟨left, applied, ?_⟩
    have lines : (∀ line ∈ Lint.render (runner.runAll .empty files).results arguments.output,
        ∃ text : String, line = .ok (.plain text)) ↔
          ∀ diagnostic ∈ reports, arguments.output.Fits diagnostic := by
      rw [← reported, total]
      exact Lint.forall_mem_render_iff
    have ends := Lint.outcome_conclude left standpoint arguments log
      (runner.runAll .empty files).results
    rw [← concluded, lines] at ends
    simp only [Lint.exitCode, Results.count_error_pos_iff reported] at ends
    exact ends
  · intro comments failure failed
    rcases DirectiveEvidence.exists_decides_of_evaluateAll_error bounded failed with
      ⟨comment, listed, found, matched, decides⟩
    exact ⟨decides.eq_of_failed, comment, listed, found, matched, decides⟩

/-- Arguments that name the file of `oneDirective` twice, under the recommended options. -/
def recommendedTwice : LintArguments :=
  { LintArguments.default with
    paths := ["a.ts", "a.ts"]
    preset := some "recommended"
    output := .summary }

theorem sources_recommendedTwice :
    oneDirective.sources ⟨[], []⟩ recommendedTwice.paths =
      .ok [(["a.ts"], Text.encodeUtf8 "// @ts-ignore\n"),
        (["a.ts"], Text.encodeUtf8 "// @ts-ignore\n")] := by
  have computed : (oneDirective.sources ⟨[], []⟩ recommendedTwice.paths).toOption =
      some [(["a.ts"], Text.encodeUtf8 "// @ts-ignore\n"),
        (["a.ts"], Text.encodeUtf8 "// @ts-ignore\n")] := by
    decide +kernel
  cases found : oneDirective.sources ⟨[], []⟩ recommendedTwice.paths with
  | error fault =>
      rw [found] at computed
      cases computed
  | ok files =>
      rw [found] at computed
      exact congrArg Except.ok (Option.some.inj computed)

/-- A directive in a file that is named twice is counted twice, and linting ends with findings. -/
theorem lint_outcome_recommended :
    (∃ runner, (Runner.build .standard (.object [(.plain ruleName,
        .list [.text "error", .object PolicyConfiguration.defaultOptions])]) .null).result =
          .ok runner ∧
      Value.fieldOf? directivesKey (runner.runAll .empty
          [.ofText "/a.ts" "// @ts-ignore\n", .ofText "/a.ts" "// @ts-ignore\n"]).results.stats =
        some (.integer 2)) ∧
    (lint oneDirective ⟨[], []⟩ recommendedTwice).outcome = .exit exitFindings := by
  have computed :
      (PolicyConfiguration.ofValue (.object PolicyConfiguration.defaultOptions)).toOption.map
        (fun configuration =>
          let evaluator : Evaluator := ⟨configuration, .error, ruleName⟩
          ((evaluator.findings "/a.ts" "// @ts-ignore\n").length,
            (evaluator.directReports "/a.ts" "// @ts-ignore\n").all fun report =>
              report.location.isWritable && report.message.isPlain)) = some (1, true) := by
    decide +kernel
  cases accepted : PolicyConfiguration.ofValue (.object PolicyConfiguration.defaultOptions) with
  | error failure =>
      rw [accepted] at computed
      cases computed
  | ok configuration =>
      rw [accepted] at computed
      rcases Prod.mk.inj (Option.some.inj computed) with ⟨one, fit⟩
      have known : Severity.ofLevel (.text "error") = .ok (some .error) := rfl
      rcases lint_outcome known accepted
        (show [("/a.ts", "// @ts-ignore\n"), ("/a.ts", "// @ts-ignore\n")] ≠ [] by simp) with
        ⟨⟨runner, built, _, counted, linted⟩, _⟩
      have two : (directiveComments (scanComments "// @ts-ignore\n" "/a.ts")).length = 1 := by
        decide +kernel
      refine ⟨⟨runner, built, counted.trans (by simp [two])⟩, ?_⟩
      rcases linted oneDirective ⟨[], []⟩ recommendedTwice _ proper_oneDirective rfl (by decide) rfl
        rfl sources_recommendedTwice rfl with ⟨left, _, ends, _⟩
      refine (ends ⟨?_, ?_⟩).trans (congrArg Outcome.exit (if_pos ⟨rfl, ?_⟩))
      · rintro name ⟨⟩
      · intro report member
        simp only [List.flatMap_cons, List.flatMap_nil, List.append_nil, List.mem_append,
          or_self] at member
        exact Bool.and_eq_true_iff.mp (List.all_eq_true.mp fit report member)
      · intro none
        rw [List.flatMap_cons, List.append_eq_nil_iff] at none
        rw [none.1] at one
        cases one

/-- Options with a format whose search breaks down on `bcbbb`. -/
def disorderedOptions : List (LooseText × Value) :=
  [("ts-ignore", .boolean true),
    ("ts-expect-error", .object [("descriptionFormat", .text "(?:(bc)|[ab])*+")])]

/-- Whether going through the comments of a text breaks down under options, and the message ids that
a runner reports. -/
def breakdownUnder (options : List (LooseText × Value)) (path text : String) :
    Option (Bool × List String) :=
  match PolicyConfiguration.ofValue (.object options),
      (Runner.build .standard (.object [(ruleName, .list [.text "error", .object options])])
        .null).result with
  | .ok configuration, .ok runner =>
    some (match (⟨configuration, .error, ruleName⟩ : Evaluator).evaluateAll
        (scanComments text path) with
      | .error .disorderedGroup => true
      | _ => false,
      (runner.runAll .empty [.ofText path text]).results.diagnostics.map (·.messageId))
  | _, _ => none

/-- Where going through the comments of a text fails, a runner still reports on it. -/
theorem lint_outcome_disordered :
    ∃ configuration runner,
      PolicyConfiguration.ofValue (.object disorderedOptions) = .ok configuration ∧
      (Runner.build .standard (.object [(ruleName,
        .list [.text "error", .object disorderedOptions])]) .null).result = .ok runner ∧
      (⟨configuration, .error, ruleName⟩ : Evaluator).evaluateAll
        (scanComments "// @ts-ignore\n// @ts-expect-errorbcbbb" "a.ts") =
          .error .disorderedGroup ∧
      (runner.runAll .empty [.ofText "a.ts"
        "// @ts-ignore\n// @ts-expect-errorbcbbb"]).results.diagnostics.map (·.messageId) =
          [Runner.internalErrorId] := by
  have computed : breakdownUnder disorderedOptions "a.ts"
      "// @ts-ignore\n// @ts-expect-errorbcbbb" = some (true, [Runner.internalErrorId]) := by
    decide +kernel
  unfold breakdownUnder at computed
  split at computed
  · next configuration runner accepted built =>
      have both := Prod.mk.inj (Option.some.inj computed)
      refine ⟨configuration, runner, accepted, built, ?_, both.2⟩
      have broken := both.1
      split at broken
      · next evaluated => exact evaluated
      · cases broken
  · cases computed

end CommandLine
end DirectiveLint
