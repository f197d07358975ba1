import DirectiveLint.Proofs.Checker.Independence
import DirectiveLint.Proofs.Checker.Sharing

/-!
# Consistent results

Results have their diagnostics twice, in one list and in groups, and the names of
the checkers twice, in a list and over the groups.  A run writes both at once and
a merge writes them one after the other, so they agree in all results that runs
and merges can make.  A merge that stops half-way would leave the names behind.

A merge may also write into results that it does not name, where lists are held
together.  These are statistics, which the diagnostics have no part in.
-/

namespace DirectiveLint

namespace Table

variable {α : Type}

theorem perm_flatMap_add (key : String) (values : List α) (table : List (String × List α)) :
    ((add (· ++ ·) key values table).flatMap Prod.snd).Perm
      (table.flatMap Prod.snd ++ values) := by
  induction table with
  | nil => simp [add]
  | cons entry rest inductionHypothesis =>
      unfold add
      split
      · rw [List.flatMap_cons, List.flatMap_cons, List.append_assoc, List.append_assoc]
        exact List.perm_append_comm.append_left entry.2
      · rw [List.flatMap_cons, List.flatMap_cons, List.append_assoc]
        exact inductionHypothesis.append_left entry.2

/-- Adding tables of lists loses no value and repeats none. -/
theorem perm_flatMap_addAll (table others : List (String × List α)) :
    ((addAll (· ++ ·) table others).flatMap Prod.snd).Perm
      (table.flatMap Prod.snd ++ others.flatMap Prod.snd) := by
  induction others generalizing table with
  | nil => simp [addAll]
  | cons entry rest inductionHypothesis =>
      have first := (perm_flatMap_add entry.1 entry.2 table).append_right (rest.flatMap Prod.snd)
      rw [List.append_assoc, ← List.flatMap_cons] at first
      exact (inductionHypothesis _).trans first

end Table

namespace Results

/-- Whether the groups hold the diagnostics, and are those of the checkers that ran. -/
structure Consistent (results : Results) : Prop where
  keyed : Table.Keyed results.byChecker
  grouped : results.diagnostics.Perm (results.byChecker.flatMap Prod.snd)
  named : ∀ name, name ∈ results.byChecker.map Prod.fst ↔ name ∈ results.checkers

/-- Every diagnostic has one of the three severities. -/
theorem count_add_count (results : Results) :
    results.count .error + results.count .warning + results.count .information =
      results.total := by
  unfold count total
  induction results.diagnostics with
  | nil => rfl
  | cons diagnostic rest inductionHypothesis =>
      cases severity : diagnostic.severity <;> simp [severity] <;> omega

theorem consistent_empty : empty.Consistent :=
  ⟨Table.keyed_nil, .nil, fun _ => Iff.rfl⟩

/-! ## Merging -/

theorem mem_addNames {name : String} {names others : List String} :
    name ∈ addNames names others ↔ name ∈ names ∨ name ∈ others := by
  unfold addNames
  induction others generalizing names with
  | nil => simp
  | cons other rest inductionHypothesis =>
      rw [List.foldl_cons, inductionHypothesis, List.mem_cons, ← or_assoc]
      split
      · next present =>
          have listed : other ∈ names := by simpa using present
          constructor
          · exact fun member => member.imp_left Or.inl
          · rintro ((member | rfl) | member)
            · exact Or.inl member
            · exact Or.inl listed
            · exact Or.inr member
      · rw [List.mem_append, List.mem_singleton]

theorem diagnostics_merge (results others : Results) :
    (results.merge others).1.diagnostics = results.diagnostics ++ others.diagnostics := by
  unfold merge
  split <;> rfl

theorem checkers_merge {results others : Results} (whole : (results.merge others).2 = none) :
    (results.merge others).1.checkers = addNames results.checkers others.checkers := by
  unfold merge at whole ⊢
  split at whole
  · cases whole
  · rfl

/-- A merge adds up how many diagnostics have a severity. -/
theorem count_merge (results others : Results) (severity : Severity) :
    (results.merge others).1.count severity = results.count severity + others.count severity := by
  unfold count
  rw [diagnostics_merge, List.countP_append]

theorem total_merge (results others : Results) :
    (results.merge others).1.total = results.total + others.total := by
  unfold total
  rw [diagnostics_merge, List.length_append]

theorem Consistent.merge {results others : Results} (consistent : results.Consistent)
    (otherConsistent : others.Consistent) (whole : (results.merge others).2 = none) :
    (results.merge others).1.Consistent := by
  constructor
  · rw [byChecker_merge]
    exact consistent.keyed.addAll _
  · rw [diagnostics_merge, byChecker_merge]
    exact (consistent.grouped.append otherConsistent.grouped).trans
      (Table.perm_flatMap_addAll _ _).symm
  · intro name
    rw [byChecker_merge, checkers_merge whole, Table.mem_keys_addAll, mem_addNames,
      consistent.named, otherConsistent.named]

end Results

/-- The results of a run are consistent, whatever checkers there are and whichever of them fail. -/
theorem Runner.consistent_run (runner : Runner) (file : SourceFile) :
    (runner.run file).results.Consistent := by
  constructor
  · rw [byChecker_run, Results.addGroups_eq_addAll]
    exact Table.keyed_nil.addAll _
  · rw [diagnostics_run, byChecker_run, Results.addGroups_eq_addAll, ← List.flatMap_map]
    exact (Table.perm_flatMap_addAll [] (runner.checkers.map (findings file))).symm
  · intro name
    rw [checkers_run, byChecker_run, Results.addGroups_eq_addAll, Table.mem_keys_addAll,
      List.map_map]
    exact or_iff_right List.not_mem_nil

namespace NamedResults

/-- Whether runs and merges without a fault can make the results under some names. -/
inductive Reachable : NamedResults → Prop
  | none : Reachable empty
  | fresh {named : NamedResults} (name : String) (before : named.Reachable) :
      Reachable (named.put name .empty)
  | ran {named : NamedResults} (name : String) (runner : Runner) (file : SourceFile)
      (before : named.Reachable) : Reachable (named.put name (runner.run file).results)
  | merged {named after : NamedResults} {name source : String} (before : named.Reachable)
      (whole : named.merge name source = some (after, Option.none)) : Reachable after

/-- Whether all results under names are consistent. -/
def Consistent (named : NamedResults) : Prop :=
  ∀ name results, named.find? name = some results → results.Consistent

theorem Consistent.put {named : NamedResults} (consistent : named.Consistent) {results : Results}
    (new : results.Consistent) (name : String) : (named.put name results).Consistent := by
  intro other found here
  by_cases same : name = other
  · rw [← same, find?_put_self] at here
    cases here
    exact new
  · rw [find?_put_of_ne named same] at here
    exact consistent other found here

theorem Consistent.merge {named after : NamedResults} {name source : String}
    (consistent : named.Consistent)
    (whole : named.merge name source = some (after, Option.none)) : after.Consistent := by
  rcases exists_of_merge whole with ⟨results, others, here, there, fault, _, self, rest⟩
  intro other found present
  by_cases same : other = name
  · rw [same, self] at present
    cases present
    exact (consistent name results here).merge (consistent source others there) fault.symm
  · rw [rest other same] at present
    rcases Option.map_eq_some_iff.mp present with ⟨old, wasThere, rfl⟩
    rcases exists_foldl_spreadStat after.holds name other
      (results.merge others).1.stats old with ⟨new, shape, _⟩
    rw [shape]
    exact ⟨(consistent other old wasThere).keyed, (consistent other old wasThere).grouped,
      (consistent other old wasThere).named⟩

theorem Reachable.consistent {named : NamedResults} (reachable : named.Reachable) :
    named.Consistent := by
  induction reachable with
  | none => exact fun _ _ found => nomatch found
  | fresh name before inductionHypothesis =>
      exact inductionHypothesis.put Results.consistent_empty name
  | ran name runner file before inductionHypothesis =>
      exact inductionHypothesis.put (runner.consistent_run file) name
  | merged before whole inductionHypothesis => exact inductionHypothesis.merge whole

/-- In all results that runs and merges can make, the groups hold the diagnostics, their names are
those of the checkers, and the severities add up; a merge adds up what its two sides had. -/
theorem consistent_of_reachable {named : NamedResults} (reachable : named.Reachable) :
    (∀ name results, named.find? name = some results →
      (results.diagnostics.Perm (results.byChecker.flatMap Prod.snd) ∧
        (results.byChecker.map Prod.fst).Nodup ∧
        ∀ checker, checker ∈ results.byChecker.map Prod.fst ↔ checker ∈ results.checkers) ∧
      results.count .error + results.count .warning + results.count .information =
        results.total) ∧
    ∀ name source after, named.merge name source = some (after, Option.none) →
      ∃ results others merged, named.find? name = some results ∧
        named.find? source = some others ∧ after.find? name = some merged ∧
        (∀ severity, merged.count severity = results.count severity + others.count severity) ∧
        merged.total = results.total + others.total := by
  constructor
  · intro name results found
    have consistent := reachable.consistent name results found
    exact ⟨⟨consistent.grouped, consistent.keyed, consistent.named⟩, results.count_add_count⟩
  · intro name source after whole
    rcases exists_of_merge whole with ⟨results, others, here, there, _, _, self, _⟩
    exact ⟨results, others, _, here, there, self, results.count_merge others,
      results.total_merge others⟩

section

open Runner (fragileRule)

/-- The results of a runner that has a rule twice, which fails on the file both times. -/
def fragileTwice : NamedResults :=
  empty.put "all" ((⟨[⟨fragileRule, .create fragileRule⟩, ⟨fragileRule, .create fragileRule⟩]⟩ :
    Runner).run (.ofText "a.ts" "// @ts-ignore")).results

theorem reachable_fragileTwice : fragileTwice.Reachable :=
  .ran "all" _ _ .none

/-- Results merged into themselves have all diagnostics twice, in one group. -/
theorem consistent_of_reachable_fragileTwice :
    ∃ after merged, fragileTwice.merge "all" "all" = some (after, Option.none) ∧
      after.find? "all" = some merged ∧ merged.total = 4 ∧
      merged.byChecker.map Prod.fst = ["fragile"] ∧
      merged.diagnostics.Perm (merged.byChecker.flatMap Prod.snd) ∧
      merged.count .error + merged.count .warning + merged.count .information = 4 := by
  have computed : ((fragileTwice.merge "all" "all").bind fun outcome =>
      (outcome.1.find? "all").map fun merged =>
        (outcome.2.isNone, merged.total, merged.byChecker.map Prod.fst)) =
      some (true, 4, ["fragile"]) := by
    decide +kernel
  rcases Option.bind_eq_some_iff.mp computed with ⟨⟨after, fault⟩, whole, rest⟩
  rcases Option.map_eq_some_iff.mp rest with ⟨merged, found, facts⟩
  rcases Prod.mk.inj facts with ⟨noFault, facts⟩
  rcases Prod.mk.inj facts with ⟨total, names⟩
  cases Option.isNone_iff_eq_none.mp noFault
  have consistent := (consistent_of_reachable (reachable_fragileTwice.merged whole)).1 "all" merged
    found
  exact ⟨after, merged, whole, found, total, names, consistent.1.1, total ▸ consistent.2⟩

end

end NamedResults
end DirectiveLint
