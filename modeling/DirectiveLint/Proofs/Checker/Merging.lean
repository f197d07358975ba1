import DirectiveLint.Proofs.Checker.Running

/-!
# Merging the results of runs

The statistics of a runner of directive checkers are integers, which always have
a sum, so merging never stops half-way.  The merged results of several runs then
hold the diagnostics of each of them, and list a file as often as it was checked.
The edits for a file are those of one run on it, as often as it was checked.
-/

namespace DirectiveLint

namespace Results

open Runner (AllIntegers allIntegers_putField)

theorem exists_integer_of_fieldOf? {key : LooseText} {stats : List (LooseText × Value)}
    {present : Value} (integers : AllIntegers stats)
    (found : Value.fieldOf? key stats = some present) : ∃ value, present = .integer value := by
  rcases Option.map_eq_some_iff.mp found with ⟨stat, isFirst, rfl⟩
  exact integers stat (List.mem_of_find?_eq_some isFirst)

theorem addStats_of_allIntegers {stats others : List (LooseText × Value)}
    (integers : AllIntegers stats) (otherIntegers : AllIntegers others) :
    (addStats stats others).2 = none ∧ AllIntegers (addStats stats others).1 := by
  induction others generalizing stats with
  | nil => exact ⟨rfl, integers⟩
  | cons stat rest inductionHypothesis =>
      rcases stat with ⟨key, value⟩
      have later : AllIntegers rest := fun other member =>
        otherIntegers other (List.mem_cons_of_mem _ member)
      rcases otherIntegers (key, value) List.mem_cons_self with ⟨added, rfl⟩
      rw [addStats]
      cases found : Value.fieldOf? key stats with
      | none =>
          refine inductionHypothesis ?_ later
          intro other member
          rcases List.mem_append.mp member with old | new
          · exact integers other old
          · rw [List.mem_singleton] at new
            exact ⟨added, by rw [new]⟩
      | some present =>
          rcases exists_integer_of_fieldOf? integers found with ⟨value, rfl⟩
          exact inductionHypothesis (allIntegers_putField integers key (value + added)) later

/-- What merging results with integers as statistics gives. -/
theorem merge_spec {results others : Results} (integers : AllIntegers results.stats)
    (otherIntegers : AllIntegers others.stats) :
    (results.merge others).2 = none ∧
      (results.merge others).1.diagnostics = results.diagnostics ++ others.diagnostics ∧
      (results.merge others).1.files = results.files ++ others.files ∧
      AllIntegers (results.merge others).1.stats := by
  have added := addStats_of_allIntegers integers otherIntegers
  unfold merge
  rcases sum : addStats results.stats others.stats with ⟨stats, fault⟩
  rw [sum] at added
  rcases added with ⟨rfl, stillIntegers⟩
  exact ⟨rfl, rfl, rfl, stillIntegers⟩

theorem editsFor_append {first second results : Results}
    (whole : results.diagnostics = first.diagnostics ++ second.diagnostics) (path : String) :
    results.editsFor path = first.editsFor path ++ second.editsFor path := by
  rw [editsFor, inFile, whole, List.filter_append, List.filterMap_append]
  rfl

end Results

namespace Runner

open DirectiveEvidence

/-- The edits for a file do not depend on the files that the runner has seen before. -/
theorem editsFor_run_of_evaluates {runner other : Runner} {evaluator : Evaluator} {count : Nat}
    (evaluates : runner.Evaluates evaluator count)
    (otherEvaluates : other.Evaluates evaluator count)
    (path text : String) :
    (other.run (.ofText path text)).results.editsFor path =
      (runner.run (.ofText path text)).results.editsFor path := by
  rw [editsFor_run otherEvaluates, editsFor_run evaluates]

/-- A run on a file brings no edits for other files. -/
theorem editsFor_run_of_ne {runner : Runner} {evaluator : Evaluator} {count : Nat}
    (evaluates : runner.Evaluates evaluator count) {path other : String} (different : other ≠ path)
    (text : String) : (runner.run (.ofText other text)).results.editsFor path = [] := by
  have none : (runner.run (.ofText other text)).results.inFile path = [] := by
    rw [Results.inFile, List.filter_eq_nil_iff]
    intro diagnostic member
    rw [location_file_of_mem_run evaluates other text diagnostic member]
    simpa using different
  rw [Results.editsFor, none]
  rfl

/-- What running on files one after the other adds to results: the files as they were listed, and
for each file the edits of one run on it, as often as it was listed. -/
theorem runAll_spec {runner : Runner} {evaluator : Evaluator} {count : Nat}
    (evaluates : runner.Evaluates evaluator count) {results : Results}
    (integers : AllIntegers results.stats) (sources : List (String × String)) :
    (runner.runAll results (sources.map fun source => .ofText source.1 source.2)).results.files =
        results.files ++ sources.map Prod.fst ∧
      ∀ path text, (∀ source ∈ sources, source.1 = path → source.2 = text) →
        (runner.runAll results
            (sources.map fun source => .ofText source.1 source.2)).results.editsFor path =
          results.editsFor path ++
            (List.replicate ((sources.map Prod.fst).count path)
              ((runner.run (.ofText path text)).results.editsFor path)).flatten := by
  induction sources generalizing runner results with
  | nil => exact ⟨(List.append_nil _).symm, fun _ _ _ => (List.append_nil _).symm⟩
  | cons source rest inductionHypothesis =>
      rcases source with ⟨first, found⟩
      rcases run_spec evaluates (.ofText first found) with ⟨_, ranFiles, ranIntegers, ranEvaluates⟩
      rcases Results.merge_spec integers ranIntegers with ⟨_, diagnostics, files, stillIntegers⟩
      rcases inductionHypothesis ranEvaluates stillIntegers with ⟨laterFiles, laterEdits⟩
      rw [files, ranFiles] at laterFiles
      refine ⟨laterFiles.trans (List.append_assoc ..), fun path text same => ?_⟩
      refine (laterEdits path text fun other member =>
        same other (List.mem_cons_of_mem _ member)).trans ?_
      rw [editsFor_run_of_evaluates evaluates ranEvaluates, Results.editsFor_append diagnostics,
        List.map_cons, List.append_assoc]
      by_cases listed : first = path
      · have sameText : found = text := same (first, found) List.mem_cons_self listed
        rw [listed, sameText, List.count_cons_self, List.replicate_succ, List.flatten_cons]
      · rw [editsFor_run_of_ne evaluates listed, List.count_cons_of_ne listed, List.nil_append]

end Runner
end DirectiveLint
