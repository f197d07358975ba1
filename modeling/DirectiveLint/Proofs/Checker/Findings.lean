import DirectiveLint.Proofs.Checker.Running
import DirectiveLint.Proofs.Table

/-!
# What a run adds up

A run puts the findings of one checker after those of the other: into one list,
and into a group under the name of each checker.  Checkers of one name share a
group.
-/

namespace DirectiveLint

namespace Results

/-- The diagnostics in the group of a name. -/
def inGroup (name : String) (groups : List (String × List Diagnostic)) : List Diagnostic :=
  (groups.lookup name).getD []

theorem addToGroup_eq_add (name : String) (diagnostics : List Diagnostic)
    (groups : List (String × List Diagnostic)) :
    addToGroup name diagnostics groups = Table.add (· ++ ·) name diagnostics groups := by
  induction groups with
  | nil => rfl
  | cons group rest inductionHypothesis => simp [addToGroup, Table.add, inductionHypothesis]

theorem addGroups_eq_addAll (groups others : List (String × List Diagnostic)) :
    addGroups groups others = Table.addAll (· ++ ·) groups others := by
  unfold addGroups Table.addAll
  simp only [addToGroup_eq_add]

theorem inGroup_add (name other : String) (diagnostics : List Diagnostic)
    (groups : List (String × List Diagnostic)) :
    inGroup name (Table.add (· ++ ·) other diagnostics groups) =
      inGroup name groups ++ if other = name then diagnostics else [] := by
  unfold inGroup
  by_cases same : other = name
  · rw [same, Table.lookup_add_self, if_pos rfl]
    cases groups.lookup name <;> simp
  · rw [Table.lookup_add_of_ne same, if_neg same, List.append_nil]

/-- A name gets from other groups what these hold under the name. -/
theorem inGroup_addGroups (name : String) (groups others : List (String × List Diagnostic)) :
    inGroup name (addGroups groups others) =
      inGroup name groups ++
        others.flatMap fun group => if group.1 = name then group.2 else [] := by
  rw [addGroups_eq_addAll]
  induction others generalizing groups with
  | nil => simp [Table.addAll]
  | cons group rest inductionHypothesis =>
      rw [Table.addAll_cons, inductionHypothesis, inGroup_add, List.flatMap_cons,
        List.append_assoc]

end Results

namespace Runner

/-- What a checker finds on a file, with its name. -/
def findings (file : SourceFile) (checker : Sigma Checker) : String × List Diagnostic :=
  (checker.1.name, diagnosticsOf file (checker.2.workThrough file))

/-- Results with what a checker finds on a file added to them. -/
def addFindings (file : SourceFile) (results : Results) (checker : Sigma Checker) : Results :=
  addOutcome results checker.1.name (checker.2.workThrough file).stats (findings file checker).2

/-- The results of some checkers are built up checker by checker. -/
theorem runCheckers_results (file : SourceFile) (results : Results)
    (checkers : List (Sigma Checker)) :
    (runCheckers file results checkers).1 = checkers.foldl (addFindings file) results := by
  induction checkers generalizing results with
  | nil => rfl
  | cons checker rest inductionHypothesis =>
      rcases runCheckers_cons file results checker.2 rest with ⟨entries, unfolded⟩
      rw [unfolded]
      exact inductionHypothesis _

theorem rules_runCheckers (file : SourceFile) (results : Results)
    (checkers : List (Sigma Checker)) :
    (runCheckers file results checkers).2.1.map (·.1) = checkers.map (·.1) := by
  induction checkers generalizing results with
  | nil => rfl
  | cons checker rest inductionHypothesis =>
      rcases runCheckers_cons file results checker.2 rest with ⟨entries, unfolded⟩
      rw [unfolded, List.map_cons, List.map_cons, inductionHypothesis]

section

variable (file : SourceFile) (results : Results) (checkers : List (Sigma Checker))

theorem diagnostics_foldl_addFindings :
    (checkers.foldl (addFindings file) results).diagnostics =
      results.diagnostics ++ checkers.flatMap fun checker => (findings file checker).2 := by
  induction checkers generalizing results with
  | nil => simp
  | cons checker rest inductionHypothesis =>
      rw [List.foldl_cons, inductionHypothesis, List.flatMap_cons, ← List.append_assoc]
      rfl

theorem byChecker_foldl_addFindings :
    (checkers.foldl (addFindings file) results).byChecker =
      Results.addGroups results.byChecker (checkers.map (findings file)) := by
  induction checkers generalizing results with
  | nil => rfl
  | cons checker rest inductionHypothesis =>
      rw [List.foldl_cons, inductionHypothesis]
      rfl

theorem checkers_foldl_addFindings :
    (checkers.foldl (addFindings file) results).checkers =
      results.checkers ++ checkers.map fun checker => checker.1.name := by
  induction checkers generalizing results with
  | nil => simp
  | cons checker rest inductionHypothesis =>
      rw [List.foldl_cons, inductionHypothesis, List.map_cons]
      exact List.append_assoc _ [checker.1.name] _

end

variable (runner : Runner) (file : SourceFile)

/-- A run keeps the rules of the checkers. -/
theorem rules_run : (runner.run file).runner.checkers.map (·.1) = runner.checkers.map (·.1) :=
  rules_runCheckers file _ runner.checkers

theorem run_results :
    (runner.run file).results =
      runner.checkers.foldl (addFindings file) { Results.empty with files := [file.path] } :=
  runCheckers_results file _ runner.checkers

theorem diagnostics_run :
    (runner.run file).results.diagnostics =
      runner.checkers.flatMap fun checker => (findings file checker).2 := by
  rw [run_results, diagnostics_foldl_addFindings]
  rfl

theorem byChecker_run :
    (runner.run file).results.byChecker =
      Results.addGroups [] (runner.checkers.map (findings file)) := by
  rw [run_results, byChecker_foldl_addFindings]
  rfl

theorem checkers_run :
    (runner.run file).results.checkers = runner.checkers.map fun checker => checker.1.name := by
  rw [run_results, checkers_foldl_addFindings]
  rfl

/-- A checker's name has the findings of all checkers of that name. -/
theorem ofChecker_run (name : String) :
    (runner.run file).results.ofChecker name =
      runner.checkers.flatMap fun checker =>
        if checker.1.name = name then (findings file checker).2 else [] := by
  have grouped := Results.inGroup_addGroups name [] (runner.checkers.map (findings file))
  rw [← byChecker_run, List.flatMap_map] at grouped
  exact grouped

end Runner
end DirectiveLint
