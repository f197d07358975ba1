import DirectiveLint.Proofs.Checker.Growth
import DirectiveLint.Proofs.CommandLine.Applying

/-!
# Linting with suggestions applied

The command finds the edits for every listed file before it applies any of them.
A file that is listed once is left with the text that the edits of one run on it
make of it.  A file may be listed several times, since paths may be repeated and
directories may hold other paths.  It is then rewritten as often, always by the
edits found on its first text, and the offsets of these are out of date from the
second time on.

The diagnostics are taken to go to the standard output.  A file for them could
be one of those that are linted.
-/

namespace DirectiveLint
namespace CommandLine

open FileTree

namespace Lint

/-! ## The files -/

/-- Files that can be read are decoded one by one. -/
theorem exists_decodeSources {tree : FileTree} {files : List (FilePath × List UInt8)}
    (found : ∀ file ∈ files, tree.read file.1 = .ok file.2)
    (readable : ∀ path ∈ files.map Prod.fst, ∃ text, tree.readText path = .ok text) :
    ∃ sources : List (String × String),
      decodeSources files = (sources.map fun source => .ofText source.1 source.2, none) ∧
        sources.map Prod.fst = (files.map Prod.fst).map FilePath.text ∧
        ∀ source ∈ sources, ∃ path ∈ files.map Prod.fst,
          path.text = source.1 ∧ tree.readText path = .ok source.2 := by
  induction files with
  | nil => exact ⟨[], rfl, rfl, by simp⟩
  | cons file rest inductionHypothesis =>
      rcases file with ⟨path, bytes⟩
      rw [List.map_cons, List.forall_mem_cons] at readable
      rw [List.forall_mem_cons] at found
      rcases readable.1 with ⟨text, read⟩
      rcases inductionHypothesis found.2 readable.2 with ⟨sources, decoded, paths, texts⟩
      rcases readText_eq_ok_iff.mp read with ⟨other, held, textual⟩
      rw [found.1] at held
      cases held
      refine ⟨(path.text, text) :: sources, ?_, ?_, ?_⟩
      · simp [decodeSources, textual, decoded]
      · simp [paths]
      · rw [List.forall_mem_cons]
        refine ⟨⟨path, List.mem_cons_self, rfl, read⟩, fun source member => ?_⟩
        rcases texts source member with ⟨other, listed, facts⟩
        exact ⟨other, List.mem_cons_of_mem _ listed, facts⟩

theorem count_map_text {paths : List FilePath} {path : FilePath}
    (named : ∀ other ∈ paths, ∀ name ∈ other, FilePath.IsName name)
    (pathNamed : ∀ name ∈ path, FilePath.IsName name) :
    (paths.map FilePath.text).count path.text = paths.count path := by
  induction paths with
  | nil => rfl
  | cons first rest inductionHypothesis =>
      rw [List.forall_mem_cons] at named
      rw [List.map_cons]
      by_cases same : first = path
      · rw [same, List.count_cons_self, List.count_cons_self, inductionHypothesis named.2]
      · have different : first.text ≠ path.text := fun equal =>
          same (FilePath.eq_of_text_eq named.1 pathNamed equal)
        rw [List.count_cons_of_ne different, List.count_cons_of_ne same,
          inductionHypothesis named.2]

/-- Checking files that can be read gives results on them as they are listed.  The edits for a file
are those of one run on its text, as often as it is listed. -/
theorem exists_check {runner : Runner} {evaluator : Evaluator} {count : Nat}
    (evaluates : runner.Evaluates evaluator count) {tree : FileTree}
    {files : List (FilePath × List UInt8)}
    (named : ∀ path ∈ files.map Prod.fst, ∀ name ∈ path, FilePath.IsName name)
    (found : ∀ file ∈ files, tree.read file.1 = .ok file.2)
    (readable : ∀ path ∈ files.map Prod.fst, ∃ text, tree.readText path = .ok text) :
    ∃ results, (check runner files).result = .ok results ∧
      results.files = (files.map Prod.fst).map FilePath.text ∧
      ∀ path ∈ files.map Prod.fst, ∀ text, tree.readText path = .ok text →
        results.editsFor path.text =
          (List.replicate ((files.map Prod.fst).count path)
            ((runner.run (.ofText path.text text)).results.editsFor path.text)).flatten := by
  rcases exists_decodeSources found readable with ⟨sources, decoded, paths, texts⟩
  have none : Runner.AllIntegers Results.empty.stats := fun _ member => nomatch member
  rcases Runner.runAll_spec evaluates none sources with ⟨files, edits⟩
  refine ⟨(runner.runAll .empty (sources.map fun source => .ofText source.1 source.2)).results,
    ?_, ?_, ?_⟩
  · simp only [check, decoded]
  · exact files.trans paths
  · intro path listed text read
    have same : ∀ source ∈ sources, source.1 = path.text → source.2 = text := by
      intro source member equal
      rcases texts source member with ⟨other, otherListed, otherText, otherRead⟩
      have samePath : other = path :=
        FilePath.eq_of_text_eq (named other otherListed) (named path listed)
          (otherText.trans equal)
      rw [samePath, read] at otherRead
      exact (Except.ok.inj otherRead).symm
    rw [edits path.text text same, paths, count_map_text named (named path listed)]
    rfl

/-! ## The command -/

/-- An accepted configuration gives a runner whose checkers evaluate alike. -/
theorem exists_evaluates_of_prepare {tree : FileTree} {standpoint : Standpoint}
    {arguments : LintArguments} {runner : Runner}
    (accepted : (prepare tree standpoint arguments).result = .ok runner) :
    ∃ evaluator count, runner.Evaluates evaluator count := by
  unfold prepare at accepted
  split at accepted
  · cases accepted
  · next options loaded =>
      unfold withStop at accepted
      dsimp only at accepted
      split at accepted
      · next built =>
          cases accepted
          exact Runner.exists_evaluates_of_build built
      · cases accepted

theorem tree_conclude {tree : FileTree} {standpoint : Standpoint} {arguments : LintArguments}
    (toOutput : ∀ name, arguments.outputFile = some name → name = "-") (log : List LogEntry)
    (results : Results) : (conclude tree standpoint arguments log results).tree = tree := by
  unfold conclude
  dsimp only
  cases output : arguments.outputFile with
  | none => rfl
  | some name =>
      rw [toOutput name output]
      rfl

/-- Checking the files that are linted and applying the edits for them goes through. -/
theorem exists_check_applyToAll {tree : FileTree} (proper : tree.Proper) {standpoint : Standpoint}
    {texts : List String} {files : List (FilePath × List UInt8)}
    (found : tree.sources standpoint texts = .ok files)
    (readable : ∀ path ∈ files.map Prod.fst, ∃ text, tree.readText path = .ok text)
    {runner : Runner} {evaluator : Evaluator} {count : Nat}
    (evaluates : runner.Evaluates evaluator count) :
    ∃ results after, (check runner files).result = .ok results ∧
      (∀ path ∈ files.map Prod.fst, ∀ text, tree.readText path = .ok text →
        results.editsFor path.text =
          (List.replicate ((files.map Prod.fst).count path)
            ((runner.run (.ofText path.text text)).results.editsFor path.text)).flatten) ∧
      (applyToAll results tree results.files).result = .ok after ∧
      (∀ path text, tree.readText path = .ok text →
        after.readText path =
          .ok ((rewritten results path)^[(files.map Prod.fst).count path] text)) ∧
      ∀ other, other ∉ files.map Prod.fst → after.read other = tree.read other := by
  have held : ∀ file ∈ files, tree.read file.1 = .ok file.2 := fun file member =>
    proper.read_of_mem_sources found member
  have named : ∀ path ∈ files.map Prod.fst, ∀ name ∈ path, FilePath.IsName name := by
    intro path listed
    rcases List.mem_map.mp listed with ⟨file, member, rfl⟩
    exact (proper.at_path (read_eq_ok_iff.mp (held file member))).2
  rcases exists_check evaluates named held readable with ⟨results, checked, listing, edits⟩
  have noReturn : ∀ path ∈ files.map Prod.fst, ∀ edit ∈ results.editsFor path.text,
      '\r' ∉ edit.text.toList := by
    intro path listed edit member
    rcases readable path listed with ⟨text, read⟩
    rcases readText_eq_ok_iff.mp read with ⟨_, _, decoded⟩
    rw [edits path listed text read] at member
    rcases List.mem_flatten.mp member with ⟨copy, copied, within⟩
    rw [List.eq_of_mem_replicate copied] at within
    exact Runner.not_mem_editsFor_run evaluates (not_mem_of_textOf decoded) edit within
  rcases exists_applyToAll named readable noReturn with ⟨after, applied, passes, elsewhere⟩
  exact ⟨results, after, checked, edits, listing ▸ applied, passes, elsewhere⟩

/-- When the files are checked and the edits applied, the command is left to write the results. -/
theorem exists_lint_eq_conclude {tree after : FileTree} {standpoint : Standpoint}
    {arguments : LintArguments} (lints : arguments.listCheckers = false)
    (given : arguments.paths ≠ []) {runner : Runner}
    (accepted : (prepare tree standpoint arguments).result = .ok runner)
    {files : List (FilePath × List UInt8)}
    (found : tree.sources standpoint arguments.paths = .ok files) {results : Results}
    (checked : (check runner files).result = .ok results)
    (applied : (Lint.applied tree arguments results).result = .ok after) :
    ∃ log, lint tree standpoint arguments = conclude after standpoint arguments log results := by
  have collected : (collect tree standpoint arguments).result = .ok files := by
    simp only [collect, found]
    rfl
  have finished : (Lint.results tree standpoint arguments).result = .ok results :=
    Logged.andThen_result_eq_ok_iff.mpr ⟨runner, accepted,
      Logged.andThen_result_eq_ok_iff.mpr ⟨files, collected, checked⟩⟩
  unfold lint
  rw [if_neg (by simp [lints]), if_neg (by simpa using given)]
  simp only [finished, applied]
  exact ⟨_, rfl⟩

end Lint

/-- What the command leaves in the tree when suggestions are applied.  Each file that it lints ends
up with the text of as many passes as it is listed, all with the edits of one run on its text before
the command.  This is the text of a single pass exactly if the file is listed once or has no edits.
At every other path there is to read what there was before. -/
theorem lint_applySuggestions {tree : FileTree} (proper : tree.Proper) {standpoint : Standpoint}
    {arguments : LintArguments} (lints : arguments.listCheckers = false)
    (given : arguments.paths ≠ []) (applies : arguments.applySuggestions = true)
    (toOutput : ∀ name, arguments.outputFile = some name → name = "-") {runner : Runner}
    (accepted : (Lint.prepare tree standpoint arguments).result = .ok runner)
    {files : List (FilePath × List UInt8)}
    (found : tree.sources standpoint arguments.paths = .ok files)
    (readable : ∀ path ∈ files.map Prod.fst, ∃ text, tree.readText path = .ok text) :
    let after := (lint tree standpoint arguments).tree
    (∀ path ∈ files.map Prod.fst, ∀ text, tree.readText path = .ok text →
      let edits := (runner.run (.ofText path.text text)).results.editsFor path.text
      let listed := (files.map Prod.fst).count path
      after.readText path = .ok ((fun text => (applyEdits text edits).1)^[listed] text) ∧
        (after.readText path = .ok (applyEdits text edits).1 ↔ listed = 1 ∨ edits = [])) ∧
      ∀ other, other ∉ files.map Prod.fst → after.read other = tree.read other := by
  rcases Lint.exists_evaluates_of_prepare accepted with ⟨evaluator, count, evaluates⟩
  rcases Lint.exists_check_applyToAll proper found readable evaluates with
    ⟨results, after, checked, edits, looped, passes, elsewhere⟩
  have applied : (Lint.applied tree arguments results).result = .ok after := by
    rw [Lint.applied, if_pos applies]
    exact looped
  have left : (lint tree standpoint arguments).tree = after := by
    rcases Lint.exists_lint_eq_conclude lints given accepted found checked applied with
      ⟨log, concluded⟩
    rw [concluded]
    exact Lint.tree_conclude toOutput log results
  intro final
  rw [show final = after from left]
  refine ⟨fun path listed text read => ?_, elsewhere⟩
  intro once times
  have enlarging : Enlarging text once :=
    Runner.enlarging_editsFor_run evaluates text path.text
  have positive : 0 < times := List.count_pos_iff.mpr listed
  have pass : Lint.rewritten results path = fun text =>
      (applyEdits text (List.replicate (times - 1 + 1) once).flatten).1 := by
    funext other
    rw [Lint.rewritten, edits path listed text read, Nat.sub_add_cancel positive]
  have reached : after.readText path =
      .ok ((fun text => (applyEdits text once).1)^[times] text) := by
    rw [passes path text read, pass]
    exact congrArg _ (enlarging.iterate_flatten_replicate (times - 1) times)
  refine ⟨reached, ?_⟩
  rw [reached, Except.ok.injEq]
  exact enlarging.iterate_eq_iff positive

/-- A tree with one file, which holds one directive. -/
def oneDirective : FileTree :=
  .directory [("a.ts", .file (Text.encodeUtf8 "// @ts-ignore\n"))]

theorem proper_oneDirective : oneDirective.Proper := by
  refine .directory ?_ ?_ ?_
  · simp
  · rw [List.forall_mem_singleton]
    exact ⟨by decide, by decide, by decide, by decide⟩
  · rw [List.forall_mem_singleton]
    exact .file _

/-- Arguments that name its file twice. -/
def namedTwice : LintArguments :=
  { LintArguments.default with paths := ["a.ts", "a.ts"], applySuggestions := true }

/-- The second pass over a file that is named twice takes the offsets of the first one. -/
theorem lint_applySuggestions_namedTwice :
    ∃ runner, (Lint.prepare oneDirective ⟨[], []⟩ namedTwice).result = .ok runner ∧
      (runner.run (.ofText "/a.ts" "// @ts-ignore\n")).results.editsFor "/a.ts" =
        [⟨0, 13, "// @ts-expect-error"⟩] ∧
      applyEdits "// @ts-ignore\n" [⟨0, 13, "// @ts-expect-error"⟩] =
        ("// @ts-expect-error\n", 1) ∧
      (lint oneDirective ⟨[], []⟩ namedTwice).tree.readText ["a.ts"] =
        .ok "// @ts-expect-error-error\n" := by
  have computed : (Lint.prepare oneDirective ⟨[], []⟩ namedTwice).result.toOption.map
      (fun runner => (runner.run (.ofText "/a.ts" "// @ts-ignore\n")).results.editsFor "/a.ts") =
        some [⟨0, 13, "// @ts-expect-error"⟩] := by
    decide +kernel
  cases accepted : (Lint.prepare oneDirective ⟨[], []⟩ namedTwice).result with
  | error stop =>
      rw [accepted] at computed
      cases computed
  | ok runner =>
      rw [accepted] at computed
      have edits : (runner.run (.ofText "/a.ts" "// @ts-ignore\n")).results.editsFor "/a.ts" =
          [⟨0, 13, "// @ts-expect-error"⟩] := Option.some.inj computed
      have listed : (oneDirective.sources ⟨[], []⟩ namedTwice.paths).toOption.map
          (fun files => files.map Prod.fst) = some [["a.ts"], ["a.ts"]] := by
        decide +kernel
      cases found : oneDirective.sources ⟨[], []⟩ namedTwice.paths with
      | error fault =>
          rw [found] at listed
          cases listed
      | ok files =>
          rw [found] at listed
          have paths : files.map Prod.fst = [["a.ts"], ["a.ts"]] := Option.some.inj listed
          have text : oneDirective.readText ["a.ts"] = .ok "// @ts-ignore\n" := rfl
          have passes := lint_applySuggestions proper_oneDirective rfl (by decide) rfl
            (by simp [namedTwice, LintArguments.default]) accepted found (by simp [paths, text])
          have reached := (passes.1 ["a.ts"] (by simp [paths]) _ text).1
          have once : FilePath.text ["a.ts"] = "/a.ts" := by
            decide
          rw [once, edits, paths] at reached
          exact ⟨runner, rfl, edits, by decide +kernel,
            reached.trans (congrArg Except.ok (by decide +kernel))⟩

end CommandLine
end DirectiveLint
