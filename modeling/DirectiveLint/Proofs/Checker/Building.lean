import DirectiveLint.Proofs.Checker.Running

/-!
# Building runners of the standard registry

The standard registry knows one rule.  A runner that is built from it holds as
many checkers of directives as the selection asks for, or none if the entry
switches the rule off, and all of them evaluate by the options of the entry.
-/

namespace DirectiveLint

namespace Logged

universe u v

variable {ε : Type} {α : Type u} {β : Type v}

theorem andThen_result_eq_ok_iff {first : Logged ε α} {next : α → Logged ε β} {value : β} :
    (first.andThen next).result = .ok value ↔
      ∃ middle, first.result = .ok middle ∧ (next middle).result = .ok value := by
  unfold andThen
  cases result : first.result with
  | error fault => simp
  | ok middle => simp

end Logged

namespace Runner

/-- The entry that options have for a rule. -/
def entryFor (options : Mapping) (name : String) : Except Failure RuleEntry :=
  RuleEntry.ofValue ((options.find? name).getD .null)

/-- The checker that works with a configuration. -/
def configuredChecker (configuration : PolicyConfiguration) (severity : Severity) :
    Checker directiveRule :=
  ⟨some severity, (⟨⟨configuration, severity, DirectiveEvidence.ruleName⟩, []⟩ : DirectiveEvidence),
    []⟩

/-- An entry that is on gives this checker if its options are accepted. -/
theorem applyEntry_directiveRule (severity : Severity) (options : Mapping) :
    applyEntry (Checker.create directiveRule) ⟨some severity, options⟩ =
      match PolicyConfiguration.ofOptions options with
      | .error failure => .quiet (.error failure)
      | .ok configuration =>
        .noting (setUpEntries (configuredChecker configuration severity))
          (some (configuredChecker configuration severity)) := by
  simp only [applyEntry, Checker.configure, Checker.withSeverity, Checker.create, directiveRule,
    DirectiveEvidence.configure]
  cases PolicyConfiguration.ofOptions options <;> rfl

theorem result_buildChecker (options : Mapping) (rule : Rule) :
    (buildChecker options rule).result = (entryFor options rule.name).bind fun entry =>
      (applyEntry (Checker.create rule) entry).result := by
  simp only [buildChecker, Logged.andThen_result]
  rfl

/-- The entry of the rule decides which checker is built. -/
theorem buildChecker_directiveRule {options : Mapping} {built : Option (Checker directiveRule)}
    (result : (buildChecker options directiveRule).result = .ok built) :
    ∃ entry, entryFor options DirectiveEvidence.ruleName = .ok entry ∧
      ((entry.severity = none ∧ built = none) ∨
        ∃ severity configuration checker, entry.severity = some severity ∧
          PolicyConfiguration.ofOptions entry.options = .ok configuration ∧ built = some checker ∧
          (checker.state : DirectiveEvidence).evaluator =
            ⟨configuration, severity, DirectiveEvidence.ruleName⟩) := by
  rw [result_buildChecker] at result
  rcases Except.bind_eq_ok_iff.mp result with ⟨⟨severity, options⟩, read, applied⟩
  refine ⟨⟨severity, options⟩, read, ?_⟩
  cases severity with
  | none =>
      cases applied
      exact Or.inl ⟨rfl, rfl⟩
  | some severity =>
      rw [applyEntry_directiveRule] at applied
      cases made : PolicyConfiguration.ofOptions options with
      | error failure =>
          rw [made] at applied
          cases applied
      | ok configuration =>
          rw [made] at applied
          cases applied
          exact Or.inr ⟨severity, configuration, _, rfl, rfl, rfl, rfl⟩

/-- Every copy of the rule is built in the same way. -/
theorem buildCheckers_replicate {options : Mapping} {count : Nat} {checkers : List (Sigma Checker)}
    (built : (buildCheckers options (List.replicate (count + 1) directiveRule)).result =
      .ok checkers) :
    ∃ first, (buildChecker options directiveRule).result = .ok first ∧
      checkers =
        (List.replicate (count + 1) (first.toList.map (Sigma.mk directiveRule))).flatten := by
  induction count generalizing checkers with
  | zero =>
      rcases Logged.andThen_result_eq_ok_iff.mp built with ⟨first, here, rest⟩
      cases rest
      exact ⟨first, here, rfl⟩
  | succ count inductionHypothesis =>
      rw [List.replicate_succ, buildCheckers] at built
      rcases Logged.andThen_result_eq_ok_iff.mp built with ⟨first, here, rest⟩
      rcases Logged.andThen_result_eq_ok_iff.mp rest with ⟨others, later, same⟩
      cases same
      rcases inductionHypothesis later with ⟨again, there, rfl⟩
      rw [here] at there
      cases there
      exact ⟨first, here, rfl⟩

theorem byName?_standard {name : String} {rule : Rule}
    (found : Registry.standard.byName? name = some rule) : rule = directiveRule := by
  rcases Option.map_eq_some_iff.mp found with ⟨entry, registered, rfl⟩
  have member : entry ∈ [(DirectiveEvidence.ruleName, directiveRule)] :=
    List.mem_of_find?_eq_some registered
  rw [List.mem_singleton] at member
  rw [member]

/-- A selection by names gets the one rule as often as it is named. -/
theorem rulesNamed_standard {names : List Value} {rules : List Rule}
    (named : rulesNamed .standard names = .ok rules) :
    rules = List.replicate names.length directiveRule := by
  induction names generalizing rules with
  | nil =>
      cases named
      rfl
  | cons name rest inductionHypothesis =>
      simp only [rulesNamed] at named
      split at named
      · cases named
      · split at named
        · cases named
        · next rule found =>
            have only : rule = directiveRule := by
              split at found
              · exact byName?_standard found
              · cases found
            split at named
            · cases named
            · next others later =>
                cases named
                rw [inductionHypothesis later, only]
                rfl

/-- The rules that a selection gets from the standard registry. -/
theorem selectRules_standard {selection : Value} {rules : List Rule}
    (selected : selectRules .standard selection = .ok rules) :
    ∃ count, rules = List.replicate count directiveRule ∧ (selection = .null → count = 1) := by
  unfold selectRules at selected
  split at selected
  · cases selected
    exact ⟨1, rfl, fun _ => rfl⟩
  · next given =>
      split at selected
      · cases selected
      · exact ⟨_, rulesNamed_standard selected, fun none => absurd none given⟩

/-- Building a runner of the standard registry is building copies of the one rule. -/
theorem buildCheckers_of_build {options selection : Value} {runner : Runner}
    (built : (build .standard options selection).result = .ok runner) :
    ∃ mapping count, Mapping.ofOptional options = .ok mapping ∧
      (buildCheckers mapping (List.replicate count directiveRule)).result = .ok runner.checkers ∧
      (selection = .null → count = 1) := by
  unfold build at built
  split at built
  · cases built
  · next mapping taken =>
      unfold ofMapping at built
      split at built
      · cases built
      · rcases Logged.andThen_result_eq_ok_iff.mp built with ⟨rules, selected, built⟩
        rcases Logged.andThen_result_eq_ok_iff.mp built with ⟨checkers, made, same⟩
        cases same
        rcases selectRules_standard selected with ⟨count, rfl, all⟩
        exact ⟨mapping, count, taken, made, all⟩

section

variable {mapping : Mapping} {count : Nat} {checkers : List (Sigma Checker)}

/-- Checkers that are on evaluate by the options of the entry. -/
theorem evaluates_of_buildCheckers {entryOptions : Mapping} {severity : Severity}
    (built : (buildCheckers mapping (List.replicate (count + 1) directiveRule)).result =
      .ok checkers)
    (entry : entryFor mapping DirectiveEvidence.ruleName = .ok ⟨some severity, entryOptions⟩) :
    ∃ configuration, PolicyConfiguration.ofOptions entryOptions = .ok configuration ∧
      (⟨checkers⟩ : Runner).Evaluates ⟨configuration, severity, DirectiveEvidence.ruleName⟩
        (count + 1) := by
  rcases buildCheckers_replicate built with ⟨first, here, rfl⟩
  rcases buildChecker_directiveRule here with ⟨other, found, off | on⟩
  · rw [found] at entry
    cases entry
    cases off.1
  · rcases on with ⟨_, configuration, checker, isOn, made, rfl, evaluates⟩
    rw [found] at entry
    cases entry
    cases isOn
    refine ⟨configuration, made, List.replicate (count + 1) checker, ?_, List.length_replicate, ?_⟩
    · simp
    · intro other member
      rw [List.eq_of_mem_replicate member]
      exact evaluates

/-- All checkers of a runner evaluate alike. -/
theorem exists_evaluates_of_build {options selection : Value} {runner : Runner}
    (built : (build .standard options selection).result = .ok runner) :
    ∃ evaluator count, runner.Evaluates evaluator count := by
  rcases buildCheckers_of_build built with ⟨mapping, count, _, made, _⟩
  have none : runner.checkers = [] → ∃ evaluator count, runner.Evaluates evaluator count := by
    intro empty
    exact ⟨DirectiveEvidence.initial.evaluator, 0, [], empty, rfl, by simp⟩
  cases count with
  | zero =>
      exact none (Except.ok.inj made).symm
  | succ count =>
      rcases buildCheckers_replicate made with ⟨first, here, shape⟩
      rcases buildChecker_directiveRule here with ⟨⟨severity, entryOptions⟩, found, off | on⟩
      · rw [off.2] at shape
        exact none (by simpa using shape)
      · rcases on with ⟨severity, _, _, rfl, _, _, _⟩
        rcases evaluates_of_buildCheckers made found with ⟨configuration, _, evaluates⟩
        exact ⟨_, count + 1, evaluates⟩

theorem find?_ruleName (entry : Value) :
    (Mapping.ofFields [(DirectiveEvidence.ruleName, entry)]).find? directiveRule.name =
      some entry := by
  rw [Mapping.find?_ofFields]
  rfl

/-- The standard registry knows no other options than those of the rule. -/
theorem checkNames_standard (entry : Value) :
    checkNames .standard (Mapping.ofFields [(DirectiveEvidence.ruleName, entry)]) = .ok () := by
  have names : Registry.standard.names = [DirectiveEvidence.ruleName] :=
    List.mergeSort_singleton _
  have known : (Value.text DirectiveEvidence.ruleName).same (.text DirectiveEvidence.ruleName) =
      true := by
    decide
  simp [checkNames, names, Mapping.keys, Mapping.ofFields, known, Mapping.textKeys]

theorem result_buildChecker_of_accepted {entryOptions : Mapping} {severity : Severity}
    {configuration : PolicyConfiguration}
    (entry : entryFor mapping directiveRule.name = .ok ⟨some severity, entryOptions⟩)
    (accepted : PolicyConfiguration.ofOptions entryOptions = .ok configuration) :
    (buildChecker mapping directiveRule).result =
      .ok (some (configuredChecker configuration severity)) := by
  rw [result_buildChecker, entry, Except.bind, applyEntry_directiveRule, accepted]
  rfl

/-- An entry that is accepted gives a runner with one checker, which evaluates by its options. -/
theorem exists_runner_of_entry {entry : Value} {severity : Severity} {entryOptions : Mapping}
    {configuration : PolicyConfiguration}
    (read : RuleEntry.ofValue entry = .ok ⟨some severity, entryOptions⟩)
    (accepted : PolicyConfiguration.ofOptions entryOptions = .ok configuration) :
    ∃ runner, (build .standard (.object [(DirectiveEvidence.ruleName, entry)]) .null).result =
        .ok runner ∧
      runner.Evaluates ⟨configuration, severity, DirectiveEvidence.ruleName⟩ 1 := by
  have found : entryFor (Mapping.ofFields [(DirectiveEvidence.ruleName, entry)])
      directiveRule.name = .ok ⟨some severity, entryOptions⟩ := by
    rw [entryFor, find?_ruleName, Option.getD_some, read]
  have one : (buildCheckers (Mapping.ofFields [(DirectiveEvidence.ruleName, entry)])
      (List.replicate (0 + 1) directiveRule)).result =
        .ok [(⟨directiveRule, configuredChecker configuration severity⟩ : Sigma Checker)] :=
    Logged.andThen_result_eq_ok_iff.mpr
      ⟨_, result_buildChecker_of_accepted found accepted, rfl⟩
  rcases evaluates_of_buildCheckers one found with ⟨other, made, evaluates⟩
  rw [accepted] at made
  cases made
  refine ⟨_, ?_, evaluates⟩
  change (ofMapping .standard (Mapping.ofFields [(DirectiveEvidence.ruleName, entry)])
    .null).result = _
  rw [ofMapping, checkNames_standard]
  exact Logged.andThen_result_eq_ok_iff.mpr ⟨_, rfl,
    Logged.andThen_result_eq_ok_iff.mpr ⟨_, one, rfl⟩⟩

end

end Runner
end DirectiveLint
