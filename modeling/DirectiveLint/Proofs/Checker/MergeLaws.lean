import DirectiveLint.Proofs.Checker.Counting

/-!
# Runs on many files

Running on files one after the other merges the results of the single runs.  If
the rules count in integers, nothing stops a merge, and by associativity the
results on two lists of files merge into the results on both.  The runner that
goes on is the one that the first list leaves behind, which makes no difference
for rules that replace their evidence.

Checkers of directives find on a file what a single run finds, and it lies in
that file.  If no path is listed twice, the diagnostics of a file are therefore
those of the single run on it.
-/

namespace DirectiveLint

namespace Results

/-- Whether no key occurs twice and all statistics are integers. -/
structure Counting (results : Results) : Prop where
  keyed : results.Keyed
  integers : IntegersBut (fun _ => false) results.stats

theorem counting_empty : empty.Counting :=
  ⟨⟨Table.keyed_nil, Table.keyed_nil⟩, fun _ member => nomatch member⟩

theorem Counting.merge {results others : Results} (counting : results.Counting)
    (otherCounting : others.Counting) : (results.merge others).1.Counting :=
  ⟨counting.keyed.merge others,
    (merge_of_integersBut counting.integers otherCounting.integers).2⟩

theorem Counting.fault_merge {results others : Results} (counting : results.Counting)
    (otherCounting : others.Counting) : (results.merge others).2 = none :=
  (merge_of_integersBut counting.integers otherCounting.integers).1

theorem Counting.merge_assoc {first second third : Results} (counting : first.Counting)
    (secondCounting : second.Counting) (thirdCounting : third.Counting) :
    ((first.merge second).1.merge third).1 = (first.merge (second.merge third).1).1 :=
  (Results.merge_assoc secondCounting.keyed counting.integers secondCounting.integers
    thirdCounting.integers).eq

end Results

/-- Whether what a rule counts are integers. -/
def Rule.CountsIntegers (rule : Rule) : Prop :=
  ∀ file state, Runner.AllIntegers (rule.collect file state).stats

theorem directiveRule_countsIntegers : directiveRule.CountsIntegers := by
  intro file state stat member
  rw [List.mem_singleton.mp member]
  exact ⟨_, rfl⟩

theorem Checker.stats_workThrough {rule : Rule} (checker : Checker rule) (file : SourceFile) :
    (checker.workThrough file).stats = (rule.collect file checker.state).stats := by
  simp only [workThrough, collect, reset, diagnose]
  split
  · rfl
  · split <;> rfl

namespace Runner

open Results (Counting)

/-- Whether all rules of a runner count in integers. -/
def CountsIntegers (runner : Runner) : Prop :=
  ∀ rule ∈ runner.checkers.map (·.1), rule.CountsIntegers

theorem counting_putField {results : Results} (counting : results.Counting) (key : LooseText)
    (value : Int) :
    ({ results with stats := Value.putField key (.integer value) results.stats } :
      Results).Counting :=
  ⟨counting.keyed.setStat key _, counting.integers.putField ⟨value, rfl⟩⟩

theorem counting_foldl_putField {stats : List (LooseText × Value)} (integers : AllIntegers stats)
    {results : Results} (counting : results.Counting) :
    ({ results with
        stats := stats.foldl (fun stats stat => Value.putField stat.1 stat.2 stats)
          results.stats } : Results).Counting := by
  induction stats generalizing results with
  | nil => exact counting
  | cons stat rest inductionHypothesis =>
      rcases integers stat List.mem_cons_self with ⟨value, isInteger⟩
      have later := inductionHypothesis
        (fun other member => integers other (List.mem_cons_of_mem stat member))
        (counting_putField counting stat.1 value)
      rw [List.foldl_cons, isInteger]
      exact later

theorem counting_addFindings {results : Results} (counting : results.Counting) (file : SourceFile)
    {checker : Sigma Checker} (counts : checker.1.CountsIntegers) :
    (addFindings file results checker).Counting := by
  have integers := counts file checker.2.state
  rw [← Checker.stats_workThrough] at integers
  have added := counting_putField (counting_foldl_putField integers counting)
    (Results.elapsedKey checker.1.name) 0
  refine ⟨⟨?_, added.keyed.stats⟩, added.integers⟩
  unfold addFindings addOutcome
  rw [Results.addToGroup_eq_add]
  exact counting.keyed.groups.add

theorem counting_foldl_addFindings (file : SourceFile) {checkers : List (Sigma Checker)}
    (counts : ∀ rule ∈ checkers.map (·.1), rule.CountsIntegers) {results : Results}
    (counting : results.Counting) : (checkers.foldl (addFindings file) results).Counting := by
  induction checkers generalizing results with
  | nil => exact counting
  | cons checker rest inductionHypothesis =>
      exact inductionHypothesis (fun rule member => counts rule (List.mem_cons_of_mem _ member))
        (counting_addFindings counting file (counts checker.1 List.mem_cons_self))

theorem counting_run {runner : Runner} (counts : runner.CountsIntegers) (file : SourceFile) :
    (runner.run file).results.Counting := by
  rw [run_results]
  exact counting_foldl_addFindings file counts
    ⟨⟨Table.keyed_nil, Table.keyed_nil⟩, fun _ member => nomatch member⟩

theorem CountsIntegers.run {runner : Runner} (counts : runner.CountsIntegers) (file : SourceFile) :
    (runner.run file).runner.CountsIntegers := by
  unfold CountsIntegers
  rw [rules_run]
  exact counts

theorem CountsIntegers.after {runner : Runner} (counts : runner.CountsIntegers)
    (files : List SourceFile) : (runner.after files).CountsIntegers := by
  unfold CountsIntegers
  rw [rules_after]
  exact counts

/-! ## Many files -/

section

variable {runner : Runner} {results : Results}

theorem runAll_append (runner : Runner) (results : Results) (files others : List SourceFile) :
    (runner.runAll results (files ++ others)).results =
      ((runner.after files).runAll (runner.runAll results files).results others).results := by
  induction files generalizing runner results with
  | nil => rfl
  | cons file rest inductionHypothesis => exact inductionHypothesis _ _

theorem counting_runAll (counts : runner.CountsIntegers) (counting : results.Counting)
    (files : List SourceFile) : (runner.runAll results files).results.Counting := by
  induction files generalizing runner results with
  | nil => exact counting
  | cons file rest inductionHypothesis =>
      exact inductionHypothesis (counts.run file) (counting.merge (counting_run counts file))

/-- The results on files are added to those before. -/
theorem runAll_eq_merge (counts : runner.CountsIntegers) (counting : results.Counting)
    (files : List SourceFile) :
    (runner.runAll results files).results =
      (results.merge (runner.runAll .empty files).results).1 := by
  induction files generalizing runner results with
  | nil => exact (congrArg Prod.fst results.merge_empty).symm
  | cons file rest inductionHypothesis =>
      have ran := counting_run counts file
      -- The first run is merged into nothing on the right, so nothing is put in front on the left.
      have first := Results.counting_empty.merge ran
      have later := counting_runAll (counts.run file) Results.counting_empty rest
      calc
        (runner.runAll results (file :: rest)).results
          = ((results.merge (runner.run file).results).1.merge
              ((runner.run file).runner.runAll .empty rest).results).1 :=
            inductionHypothesis (counts.run file) (counting.merge ran)
        _ = ((results.merge (Results.empty.merge (runner.run file).results).1).1.merge
              ((runner.run file).runner.runAll .empty rest).results).1 := by
            rw [← counting.merge_assoc Results.counting_empty ran, results.merge_empty]
        _ = (results.merge ((Results.empty.merge (runner.run file).results).1.merge
              ((runner.run file).runner.runAll .empty rest).results).1).1 :=
            counting.merge_assoc first later
        _ = (results.merge (runner.runAll .empty (file :: rest)).results).1 := by
            rw [← inductionHypothesis (counts.run file) first]
            rfl

/-- Runners that differ from one runner at most in what files have left in them find the same. -/
theorem runAll_alike {other fresh : Runner}
    (alike : List.Forall₂ Checker.Alike runner.checkers fresh.checkers)
    (otherAlike : List.Forall₂ Checker.Alike other.checkers fresh.checkers) (results : Results)
    (files : List SourceFile) :
    (runner.runAll results files).results = (other.runAll results files).results := by
  induction files generalizing runner other results with
  | nil => rfl
  | cons file rest inductionHypothesis =>
      rcases run_alike alike file with ⟨ran, stillAlike⟩
      rcases run_alike otherAlike file with ⟨otherRan, otherStillAlike⟩
      have same : (runner.run file).results = (other.run file).results := ran.trans otherRan.symm
      rw [runAll, runAll, same]
      exact inductionHypothesis stillAlike otherStillAlike _

end

/-! ## The diagnostics of a file -/

section

open DirectiveEvidence (reportsOn)

variable {runner : Runner} {evaluator : Evaluator} {count : Nat}

theorem evaluates_after (evaluates : runner.Evaluates evaluator count) (files : List SourceFile) :
    (runner.after files).Evaluates evaluator count := by
  induction files generalizing runner with
  | nil => exact evaluates
  | cons file rest inductionHypothesis =>
      exact inductionHypothesis (run_spec evaluates file).2.2.2

theorem countsIntegers_of_evaluates (evaluates : runner.Evaluates evaluator count) :
    runner.CountsIntegers := by
  rcases evaluates with ⟨checkers, shape, _, _⟩
  intro rule member
  rw [shape, List.map_map] at member
  rcases List.mem_map.mp member with ⟨_, _, rfl⟩
  exact directiveRule_countsIntegers

theorem replacesEvidence_of_evaluates (evaluates : runner.Evaluates evaluator count) :
    ∀ checker ∈ runner.checkers, checker.1.ReplacesEvidence := by
  rcases evaluates with ⟨checkers, shape, _, _⟩
  intro checker member
  rw [shape] at member
  rcases List.mem_map.mp member with ⟨_, _, rfl⟩
  exact directiveRule_replacesEvidence

/-- Runs on many files find what the single runs find, whatever the runners have seen before. -/
theorem diagnostics_runAll {other : Runner} (evaluates : runner.Evaluates evaluator count)
    (otherEvaluates : other.Evaluates evaluator count) (results : Results)
    (sources : List SourceFile) :
    (runner.runAll results sources).results.diagnostics =
      results.diagnostics ++ sources.flatMap fun file => (other.run file).results.diagnostics := by
  induction sources generalizing runner results with
  | nil => exact (List.append_nil _).symm
  | cons file rest inductionHypothesis =>
      have same : (runner.run file).results.diagnostics = (other.run file).results.diagnostics := by
        rw [(run_spec evaluates file).1, (run_spec otherEvaluates file).1]
      have later := inductionHypothesis (run_spec evaluates file).2.2.2
        (results.merge (runner.run file).results).1
      rw [Results.diagnostics_merge, same, List.append_assoc] at later
      exact later

end

end Runner

namespace Results

/-- Where findings lie in the files they are listed for, those in a file are those that are listed
for it. -/
theorem filter_flatMap_of_located {found : String × String → List Diagnostic}
    (located : ∀ source, ∀ diagnostic ∈ found source, diagnostic.location.file = source.1)
    (path : String) (sources : List (String × String)) :
    (sources.flatMap found).filter (fun diagnostic => diagnostic.location.file == path) =
      (sources.filter fun source => source.1 == path).flatMap found := by
  induction sources with
  | nil => rfl
  | cons source rest inductionHypothesis =>
      rw [List.flatMap_cons, List.filter_append, inductionHypothesis, List.filter_cons]
      by_cases same : source.1 = path
      · rw [if_pos (beq_iff_eq.mpr same), List.flatMap_cons, List.filter_eq_self.mpr]
        intro diagnostic member
        exact beq_iff_eq.mpr ((located source diagnostic member).trans same)
      · rw [if_neg (by simpa using same), List.filter_eq_nil_iff.mpr, List.nil_append]
        intro diagnostic member
        simpa [located source diagnostic member] using same

end Results

namespace NamedResults

open Results (IntegersBut)

theorem isList_of_integersBut {timed : LooseText → Bool} {stats : List (LooseText × Value)}
    (integers : IntegersBut timed stats) : ∀ stat ∈ stats, stat.2.isList = false := by
  intro stat member
  have kind := integers stat member
  split at kind
  · rcases kind with isZero | ⟨number, isReal⟩
    · rw [isZero]
      rfl
    · rw [isReal]
      rfl
  · rcases kind with ⟨value, isInteger⟩
    rw [isInteger]
    rfl

/-- Merging results that count in integers changes nothing but what takes them in. -/
theorem Made.exists_merge {named : NamedResults} (made : named.Made) {name source : String}
    {results others : Results} (here : named.find? name = some results)
    (there : named.find? source = some others) {timed : LooseText → Bool}
    (integers : IntegersBut timed results.stats) (otherIntegers : IntegersBut timed others.stats) :
    ∃ after, named.merge name source = some (after, Option.none) ∧
      after.find? name = some (results.merge others).1 ∧
      ∀ other, other ≠ name → after.find? other = named.find? other := by
  rcases NamedResults.exists_merge here there with ⟨after, merged⟩
  have whole := Results.merge_of_integersBut integers otherIntegers
  rw [whole.1] at merged
  rcases exists_of_merge merged with ⟨found, foundOthers, same, sameOthers, _, _, self, _⟩
  rw [here] at same
  rw [there] at sameOthers
  cases same
  cases sameOthers
  refine ⟨after, merged, self, fun other different => made.sound.find?_of_merge merged ?_ different⟩
  intro found foundOthers same sameOthers
  rw [here] at same
  rw [there] at sameOthers
  cases same
  cases sameOthers
  exact isList_of_integersBut whole.2

end NamedResults

namespace Runner

open Results (IntegersBut EqualBut)

/-- The results on two lists of files merge into the results on both. -/
theorem merge_runAll {runner : Runner} (counts : runner.CountsIntegers)
    (files others : List SourceFile) :
    (runner.runAll .empty files).results.merge
        ((runner.after files).runAll .empty others).results =
      ((runner.runAll .empty (files ++ others)).results, none) := by
  have counting := counting_runAll counts Results.counting_empty files
  have otherCounting := counting_runAll (counts.after files) Results.counting_empty others
  rw [runAll_append, runAll_eq_merge (counts.after files) counting]
  exact Prod.ext rfl (counting.fault_merge otherCounting)

/-- For rules that replace their evidence it makes no difference what the runners have seen. -/
theorem merge_runAll_after {runner : Runner} (counts : runner.CountsIntegers)
    (replaces : ∀ checker ∈ runner.checkers, checker.1.ReplacesEvidence)
    (files others before otherBefore wholeBefore : List SourceFile) :
    ((runner.after before).runAll .empty files).results.merge
        ((runner.after otherBefore).runAll .empty others).results =
      (((runner.after wholeBefore).runAll .empty (files ++ others)).results, none) := by
  have alike := after_alike (alike_self replaces)
  rw [runAll_alike (alike before) (alike_self replaces),
    runAll_alike (alike otherBefore) (alike files),
    runAll_alike (alike wholeBefore) (alike_self replaces), merge_runAll counts]

/-- The results on files with the given paths and texts. -/
def runSources (runner : Runner) (sources : List (String × String)) : Results :=
  (runner.runAll .empty (sources.map fun source => .ofText source.1 source.2)).results

section

variable {runner other : Runner} {evaluator : Evaluator} {count : Nat}

theorem diagnostics_runSources (evaluates : runner.Evaluates evaluator count)
    (otherEvaluates : other.Evaluates evaluator count) (sources : List (String × String)) :
    (runner.runSources sources).diagnostics = sources.flatMap fun source =>
      (other.run (.ofText source.1 source.2)).results.diagnostics := by
  rw [runSources, diagnostics_runAll evaluates otherEvaluates, List.flatMap_map]
  rfl

/-- What is found in a file is what single runs find in the files listed with its path. -/
theorem inFile_runSources (evaluates : runner.Evaluates evaluator count)
    (otherEvaluates : other.Evaluates evaluator count) (sources : List (String × String))
    (path : String) :
    (runner.runSources sources).inFile path =
      (sources.filter fun source => source.1 == path).flatMap fun source =>
        (other.run (.ofText source.1 source.2)).results.diagnostics := by
  rw [Results.inFile, diagnostics_runSources evaluates otherEvaluates]
  exact Results.filter_flatMap_of_located
    (fun source => location_file_of_mem_run otherEvaluates source.1 source.2) path sources

end

/-- Results that count in integers, times aside, merge by an associative sum with the empty results
as unit, and a merge leaves all other results as they are.  The results on two lists of files merge
into the results on both; what checkers of directives find in a file that is listed once is what a
single run finds in it, whatever the runners have seen before. -/
theorem runAll_merge :
    (∀ (timed : LooseText → Bool) (first second third : Results), second.Keyed →
      IntegersBut timed first.stats → IntegersBut timed second.stats →
      IntegersBut timed third.stats →
      (first.merge second).2 = none ∧ ((first.merge second).1.merge third).2 = none ∧
        (second.merge third).2 = none ∧ (first.merge (second.merge third).1).2 = none ∧
        EqualBut timed ((first.merge second).1.merge third).1
          (first.merge (second.merge third).1).1) ∧
    (∀ results : Results, results.merge .empty = (results, none)) ∧
    (∀ (timed : LooseText → Bool) (named : NamedResults) (name source : String)
      (results others : Results), named.Made → named.find? name = some results →
      named.find? source = some others → IntegersBut timed results.stats →
      IntegersBut timed others.stats →
      ∃ after, named.merge name source = some (after, none) ∧
        after.find? name = some (results.merge others).1 ∧
        ∀ other, other ≠ name → after.find? other = named.find? other) ∧
    (∀ runner : Runner, runner.CountsIntegers → ∀ files others : List SourceFile,
      (∀ front file back, files = front ++ file :: back →
        ((runner.runAll .empty front).results.merge
          ((runner.after front).run file).results).2 = none) ∧
      (runner.runAll .empty files).results.merge
          ((runner.after files).runAll .empty others).results =
        ((runner.runAll .empty (files ++ others)).results, none) ∧
      ((∀ checker ∈ runner.checkers, checker.1.ReplacesEvidence) →
        ∀ before otherBefore wholeBefore : List SourceFile,
          ((runner.after before).runAll .empty files).results.merge
              ((runner.after otherBefore).runAll .empty others).results =
            (((runner.after wholeBefore).runAll .empty (files ++ others)).results, none))) ∧
    ∀ (options selection : Value) (runner : Runner),
      (build .standard options selection).result = .ok runner →
      runner.CountsIntegers ∧ (∀ checker ∈ runner.checkers, checker.1.ReplacesEvidence) ∧
      ∀ sources : List (String × String), (sources.map Prod.fst).Nodup →
        ∀ before other : List SourceFile,
          ((runner.after before).runSources sources).diagnostics = sources.flatMap (fun source =>
            ((runner.after other).run (.ofText source.1 source.2)).results.diagnostics) ∧
          (∀ source ∈ sources, ((runner.after before).runSources sources).inFile source.1 =
            ((runner.after other).run (.ofText source.1 source.2)).results.diagnostics) ∧
          ∀ path, path ∉ sources.map Prod.fst →
            ((runner.after before).runSources sources).inFile path = [] := by
  refine ⟨?associative, Results.merge_empty, ?frame, ?split, ?files⟩
  case associative =>
    intro timed first second third keyed firstIntegers secondIntegers thirdIntegers
    have left := Results.merge_of_integersBut firstIntegers secondIntegers
    have right := Results.merge_of_integersBut secondIntegers thirdIntegers
    exact ⟨left.1, (Results.merge_of_integersBut left.2 thirdIntegers).1, right.1,
      (Results.merge_of_integersBut firstIntegers right.2).1,
      Results.merge_assoc keyed firstIntegers secondIntegers thirdIntegers⟩
  case frame =>
    intro timed named name source results others made here there integers otherIntegers
    exact made.exists_merge here there integers otherIntegers
  case split =>
    intro runner counts files others
    refine ⟨?_, merge_runAll counts files others, ?_⟩
    · intro front file back _
      exact (counting_runAll counts Results.counting_empty front).fault_merge
        (counting_run (counts.after front) file)
    · exact fun replaces => merge_runAll_after counts replaces files others
  case files =>
    intro options selection runner built
    rcases exists_evaluates_of_build built with ⟨evaluator, count, evaluates⟩
    refine ⟨countsIntegers_of_evaluates evaluates, replacesEvidence_of_evaluates evaluates, ?_⟩
    intro sources distinct before other
    have here := evaluates_after evaluates before
    have there := evaluates_after evaluates other
    refine ⟨diagnostics_runSources here there sources, ?_, ?_⟩
    · intro source member
      rw [inFile_runSources here there, Table.Keyed.filter_eq_singleton distinct member,
        List.flatMap_singleton]
    · intro path absent
      rw [inFile_runSources here there, List.filter_eq_nil_iff.mpr, List.flatMap_nil]
      intro source member same
      exact absent (beq_iff_eq.mp same ▸ List.mem_map_of_mem member)

/-- Results with a count, a time and a file. -/
def slowResults (seen : Int) (file : String) : Results :=
  { Results.empty with
    stats := [("seen", .integer seen), (Results.elapsedKey "slow", .real (.finite false 3 0))]
    files := [file] }

theorem integersBut_slowResults (seen : Int) (file : String) :
    IntegersBut (· == Results.elapsedKey "slow") (slowResults seen file).stats := by
  intro stat member
  rcases List.mem_cons.mp member with rfl | last
  · exact ⟨seen, rfl⟩
  · rw [List.mem_singleton.mp last]
    exact Or.inr ⟨_, rfl⟩

theorem keyed_slowResults (seen : Int) (file : String) : (slowResults seen file).Keyed :=
  ⟨Table.keyed_nil,
    show ([.plain "seen", .plain (Results.elapsedKey "slow")] : List LooseText).Nodup by decide⟩

/-- Three counts add up in either order, and of two files each keeps its own diagnostic. -/
theorem runAll_merge_twoFiles :
    EqualBut (· == Results.elapsedKey "slow")
        (((slowResults 1 "a.ts").merge (slowResults 2 "b.ts")).1.merge (slowResults 4 "c.ts")).1
        ((slowResults 1 "a.ts").merge
          ((slowResults 2 "b.ts").merge (slowResults 4 "c.ts")).1).1 ∧
      ((((slowResults 1 "a.ts").merge (slowResults 2 "b.ts")).1.merge
        (slowResults 4 "c.ts")).1.stats.lookup (.plain "seen")).bind Value.toInteger? = some 7 ∧
      (∃ after, ((NamedResults.empty.put "second" (slowResults 2 "b.ts")).put "first"
          (slowResults 1 "a.ts")).merge "first" "second" = some (after, none) ∧
        after.find? "second" = some (slowResults 2 "b.ts")) ∧
      ∃ runner, (build .standard .null .null).result = .ok runner ∧
        (runner.runSources [("a.ts", "// @ts-ignore")]).merge
            ((runner.after [.ofText "c.ts" ""]).runSources [("b.ts", "// @ts-nocheck")]) =
          (runner.runSources [("a.ts", "// @ts-ignore"), ("b.ts", "// @ts-nocheck")], none) ∧
        ((runner.runSources [("a.ts", "// @ts-ignore"), ("b.ts", "// @ts-nocheck")]).inFile
          "a.ts").map (·.messageId) = ["tsIgnoreInsteadOfExpectError"] := by
  have computed : summaryOf .standard (.ofText "a.ts" "// @ts-ignore") =
      some (1, ["tsIgnoreInsteadOfExpectError"]) := by
    decide +kernel
  refine ⟨?_, by decide +kernel, ?_, ?_⟩
  · exact (runAll_merge.1 _ (slowResults 1 "a.ts") (slowResults 2 "b.ts") (slowResults 4 "c.ts")
      (keyed_slowResults 2 "b.ts") (integersBut_slowResults 1 "a.ts")
      (integersBut_slowResults 2 "b.ts") (integersBut_slowResults 4 "c.ts")).2.2.2.2
  · rcases runAll_merge.2.2.1 _ _ "first" "second" (slowResults 1 "a.ts") (slowResults 2 "b.ts")
      (.put "first" (keyed_slowResults 1 "a.ts") (.put "second" (keyed_slowResults 2 "b.ts") .none))
      rfl rfl (integersBut_slowResults 1 "a.ts") (integersBut_slowResults 2 "b.ts") with
      ⟨after, merged, _, rest⟩
    exact ⟨after, merged, rest "second" (by decide)⟩
  · cases built : (build .standard .null .null).result with
    | error failure =>
        rw [summaryOf, built] at computed
        cases computed
    | ok runner =>
        rw [summaryOf, built] at computed
        have ids := (Prod.mk.inj (Option.some.inj computed)).2
        rcases runAll_merge.2.2.2.2 .null .null runner built with ⟨counts, replaces, files⟩
        have merged := (runAll_merge.2.2.2.1 runner counts [.ofText "a.ts" "// @ts-ignore"]
          [.ofText "b.ts" "// @ts-nocheck"]).2.2 replaces [] [.ofText "c.ts" ""] []
        have found := (files [("a.ts", "// @ts-ignore"), ("b.ts", "// @ts-nocheck")]
          (by decide) [] []).2.1 ("a.ts", "// @ts-ignore") List.mem_cons_self
        exact ⟨runner, rfl, merged, (congrArg (List.map (·.messageId)) found).trans ids⟩

end Runner
end DirectiveLint
