import DirectiveLint.Proofs.Checker.Findings
import DirectiveLint.Proofs.Checker.RuleLevel
import Mathlib.Data.List.Forall2

/-!
# Runs are independent

A runner keeps its checkers from one file to the next, and with them the evidence
and the diagnostics that a failure may have left behind.  Nothing of it shows
in later results if every rule replaces its evidence: then what a checker does
on a file follows from the file and from the settings it was built with, and
running on a file does not change these.

A checker that fails on a file has one diagnostic there, which says so, in the
place of all that it had found.  The other checkers find what they find without
it.  This asks nothing of the rules.
-/

namespace DirectiveLint

namespace Rule

/-- Whether a rule takes nothing from one file to another but settings, which no file changes: what
it does on a file, up to a failure, follows from the file and the settings. -/
structure Forgets (rule : Rule) {Settings : Type} (settings : rule.State → Settings) : Prop where
  collect_keeps : ∀ file state, settings (rule.collect file state).state = settings state
  diagnose_keeps : ∀ severity file state,
    settings (rule.diagnose severity file state).state = settings state
  collect_alike : ∀ file {state other}, settings state = settings other →
    (rule.collect file state).stats = (rule.collect file other).stats ∧
      (rule.collect file state).found = (rule.collect file other).found ∧
      (rule.collect file state).failure = (rule.collect file other).failure
  diagnose_alike : ∀ severity file {state other}, settings state = settings other →
    (rule.collect file state).failure = none →
      (rule.diagnose severity file (rule.collect file state).state).found =
          (rule.diagnose severity file (rule.collect file other).state).found ∧
        (rule.diagnose severity file (rule.collect file state).state).failure =
          (rule.diagnose severity file (rule.collect file other).state).failure

/-- Whether the evidence that a rule collects from a file replaces all that it had. -/
def ReplacesEvidence (rule : Rule) : Prop :=
  ∃ (Settings : Type) (settings : rule.State → Settings), rule.Forgets settings

end Rule

/-- The rule for directive comments takes its evaluator along and nothing else. -/
theorem directiveRule_replacesEvidence : directiveRule.ReplacesEvidence := by
  refine ⟨Evaluator, DirectiveEvidence.evaluator, ?_⟩
  constructor
  case collect_keeps => exact fun _ _ => rfl
  case diagnose_keeps =>
    intro severity file (state : DirectiveEvidence)
    change (DirectiveEvidence.diagnose state).state.evaluator = state.evaluator
    unfold DirectiveEvidence.diagnose
    split <;> rfl
  case collect_alike => exact fun _ _ _ _ => ⟨rfl, rfl, rfl⟩
  case diagnose_alike =>
    intro severity file (state : DirectiveEvidence) (other : DirectiveEvidence) same _
    have collected :
        DirectiveEvidence.collect file state = DirectiveEvidence.collect file other := by
      simp only [DirectiveEvidence.collect, show state.evaluator = other.evaluator from same]
    simp only [directiveRule, collected, and_self]

namespace Checker

variable {rule : Rule} {Settings : Type} {settings : rule.State → Settings}

/-- Whether a checker fails on a file, in the first phase or else in the second. -/
def FailsOn (checker : Checker rule) (file : SourceFile) (text : LooseText) : Prop :=
  (rule.collect file checker.state).failure = some text ∨
    (rule.collect file checker.state).failure = none ∧
      (rule.diagnose checker.severity file (rule.collect file checker.state).state).failure =
        some text

/-- Working through a file keeps the settings. -/
theorem workThrough_keeps (forgets : rule.Forgets settings) (checker : Checker rule)
    (file : SourceFile) :
    settings (checker.workThrough file).checker.state = settings checker.state ∧
      (checker.workThrough file).checker.severity = checker.severity := by
  have collected := forgets.collect_keeps file checker.state
  have diagnosed := forgets.diagnose_keeps checker.severity file
    (rule.collect file checker.state).state
  simp only [workThrough, collect, reset, diagnose, report]
  cases (rule.collect file checker.state).failure with
  | some text => exact ⟨collected, rfl⟩
  | none =>
      dsimp only
      split
      · exact ⟨diagnosed.trans collected, rfl⟩
      · exact ⟨diagnosed.trans collected, rfl⟩

/-- What is found on a file follows from the settings and the severity. -/
theorem workThrough_alike (forgets : rule.Forgets settings) {first second : Checker rule}
    (severity : first.severity = second.severity)
    (same : settings first.state = settings second.state) (file : SourceFile) :
    (first.workThrough file).stats = (second.workThrough file).stats ∧
      (first.workThrough file).result = (second.workThrough file).result := by
  rcases forgets.collect_alike file same with ⟨stats, found, failure⟩
  have diagnosed := forgets.diagnose_alike second.severity file same
  simp only [workThrough, collect, reset, diagnose, report, severity, stats, found, failure]
  cases failed : (rule.collect file second.state).failure with
  | some text => exact ⟨rfl, rfl⟩
  | none =>
      rcases diagnosed (failure.trans failed) with ⟨diagnosedFound, diagnosedFailure⟩
      simp only [diagnosedFound, diagnosedFailure]
      split
      · exact ⟨rfl, rfl⟩
      · exact ⟨rfl, rfl⟩

/-- Whether two checkers differ at most in what files have left in them. -/
inductive Alike : Sigma Checker → Sigma Checker → Prop
  | of {rule : Rule} {Settings : Type} {settings : rule.State → Settings}
      (forgets : rule.Forgets settings) {first second : Checker rule}
      (severity : first.severity = second.severity)
      (same : settings first.state = settings second.state) :
      Alike ⟨rule, first⟩ ⟨rule, second⟩

theorem Alike.refl {checker : Sigma Checker} (replaces : checker.1.ReplacesEvidence) :
    Alike checker checker := by
  rcases replaces with ⟨_, _, forgets⟩
  exact .of forgets rfl rfl

end Checker

namespace Runner

theorem findings_of_failsOn {rule : Rule} {checker : Checker rule} {file : SourceFile}
    {text : LooseText} (fails : checker.FailsOn file text) :
    findings file ⟨rule, checker⟩ = (rule.name, [internalError rule.name file.path text]) := by
  rcases fails with collecting | ⟨collected, diagnosing⟩
  · simp only [findings, diagnosticsOf, Checker.workThrough, Checker.collect, Checker.reset,
      collecting]
  · simp only [findings, diagnosticsOf, Checker.workThrough, Checker.collect, Checker.reset,
      Checker.diagnose, collected, diagnosing]

/-- Checkers that are alike add the same to results, and are alike afterwards. -/
theorem runCheckers_alike (file : SourceFile) {checkers others : List (Sigma Checker)}
    (alike : List.Forall₂ Checker.Alike checkers others) (results : Results) :
    (runCheckers file results checkers).1 = (runCheckers file results others).1 ∧
      List.Forall₂ Checker.Alike (runCheckers file results checkers).2.1 others := by
  induction alike generalizing results with
  | nil => exact ⟨rfl, .nil⟩
  | @cons checker other rest othersRest here later inductionHypothesis =>
      rcases here with ⟨forgets, severity, same⟩
      rename_i rule Settings settings first second
      rcases Checker.workThrough_alike forgets severity same file with ⟨stats, result⟩
      rcases Checker.workThrough_keeps forgets first file with ⟨kept, keptSeverity⟩
      rcases runCheckers_cons file results first rest with ⟨_, ran⟩
      rcases runCheckers_cons file results second othersRest with ⟨_, otherRan⟩
      have found : diagnosticsOf file (first.workThrough file) =
          diagnosticsOf file (second.workThrough file) := by
        simp only [diagnosticsOf, result]
      rw [ran, otherRan, stats, found]
      rcases inductionHypothesis (addOutcome results rule.name (second.workThrough file).stats
        (diagnosticsOf file (second.workThrough file))) with ⟨equal, stillAlike⟩
      exact ⟨equal, .cons (.of forgets (keptSeverity.trans severity) (kept.trans same)) stillAlike⟩

/-- A run takes a runner that is like a fresh one to another such, with the results of the fresh
one. -/
theorem run_alike {runner fresh : Runner}
    (alike : List.Forall₂ Checker.Alike runner.checkers fresh.checkers) (file : SourceFile) :
    (runner.run file).results = (fresh.run file).results ∧
      List.Forall₂ Checker.Alike (runner.run file).runner.checkers fresh.checkers :=
  runCheckers_alike file alike _

theorem alike_self {runner : Runner}
    (replaces : ∀ checker ∈ runner.checkers, checker.1.ReplacesEvidence) :
    List.Forall₂ Checker.Alike runner.checkers runner.checkers :=
  List.forall₂_same.mpr fun checker member => .refl (replaces checker member)

/-- A runner after runs on some files. -/
def after (runner : Runner) (files : List SourceFile) : Runner :=
  files.foldl (fun runner file => (runner.run file).runner) runner

theorem after_alike {runner fresh : Runner}
    (alike : List.Forall₂ Checker.Alike runner.checkers fresh.checkers) (files : List SourceFile) :
    List.Forall₂ Checker.Alike (runner.after files).checkers fresh.checkers := by
  induction files generalizing runner with
  | nil => exact alike
  | cons file rest inductionHypothesis => exact inductionHypothesis (run_alike alike file).2

theorem rules_after (runner : Runner) (files : List SourceFile) :
    (runner.after files).checkers.map (·.1) = runner.checkers.map (·.1) := by
  induction files generalizing runner with
  | nil => rfl
  | cons file rest inductionHypothesis =>
      exact (inductionHypothesis (runner.run file).runner).trans (rules_run runner file)

/-- The checkers of a runner without a selection are of the rules that are switched on, in their
order. -/
theorem rules_of_build {registry : Registry} {options : Value} {runner : Runner}
    (built : (build registry options .null).result = .ok runner) :
    (runner.checkers.map (·.1)).Sublist registry.enabled := by
  unfold build at built
  split at built
  · cases built
  · next mapping taken =>
      unfold ofMapping at built
      split at built
      · cases built
      · rcases Logged.andThen_result_eq_ok_iff.mp built with ⟨rules, selected, built⟩
        rcases Logged.andThen_result_eq_ok_iff.mp built with ⟨checkers, made, same⟩
        cases selected
        cases same
        rw [rules_of_buildCheckers made]
        exact List.filter_sublist

/-- The result of a run on a file is that of a fresh runner, whatever files were run on before.  A
checker that fails on the file has one diagnostic there, and the others have what they have without
it, in the list of all diagnostics and under their names. -/
theorem run_after {registry : Registry} {options selection : Value} {runner fresh : Runner}
    (built : (build registry options selection).result = .ok runner)
    (rebuilt : (build registry options selection).result = .ok fresh)
    (replaces : ∀ checker ∈ runner.checkers,
      checker.1 = directiveRule ∨ checker.1.ReplacesEvidence)
    (before : List SourceFile) (file : SourceFile) :
    ((runner.after before).run file).results = (fresh.run file).results ∧
      ∀ front rule (checker : Checker rule) back text,
        (runner.after before).checkers = front ++ ⟨rule, checker⟩ :: back →
        checker.FailsOn file text →
        ∃ failure : Diagnostic,
          failure.messageId = internalErrorId ∧ failure.severity = .information ∧
          failure.message = "Checker '" ++ rule.name ++ "' failed: " ++ text ∧
          ((runner.after before).run file).results.diagnostics =
            ((⟨front⟩ : Runner).run file).results.diagnostics ++
              failure :: ((⟨back⟩ : Runner).run file).results.diagnostics ∧
          ((⟨front ++ back⟩ : Runner).run file).results.diagnostics =
            ((⟨front⟩ : Runner).run file).results.diagnostics ++
              ((⟨back⟩ : Runner).run file).results.diagnostics ∧
          ((runner.after before).run file).results.ofChecker rule.name =
            ((⟨front⟩ : Runner).run file).results.ofChecker rule.name ++
              failure :: ((⟨back⟩ : Runner).run file).results.ofChecker rule.name ∧
          ∀ name, name ≠ rule.name →
            ((runner.after before).run file).results.ofChecker name =
              ((⟨front ++ back⟩ : Runner).run file).results.ofChecker name := by
  constructor
  · have same : fresh = runner := by
      rw [built] at rebuilt
      exact (Except.ok.inj rebuilt).symm
    have alike : List.Forall₂ Checker.Alike runner.checkers fresh.checkers := by
      rw [same]
      refine alike_self fun checker member => ?_
      rcases replaces checker member with directive | other
      · exact directive ▸ directiveRule_replacesEvidence
      · exact other
    exact (run_alike (after_alike alike before) file).1
  · intro front rule checker back text shape fails
    have found := findings_of_failsOn fails
    refine ⟨internalError rule.name file.path text, rfl, rfl, rfl, ?_, ?_, ?_, ?_⟩
    · simp only [diagnostics_run, shape, List.flatMap_append, List.flatMap_cons, found,
        List.singleton_append]
    · simp only [diagnostics_run, List.flatMap_append]
    · simp only [ofChecker_run, shape, List.flatMap_append, List.flatMap_cons, found, if_true,
        List.singleton_append]
    · intro name different
      simp only [ofChecker_run, shape, List.flatMap_append, List.flatMap_cons,
        if_neg (Ne.symm different), List.nil_append]

/-- A rule that reports every file and then fails on those with comments. -/
def fragileRule : Rule where
  label := "Fragile"
  name := "fragile"
  description := ""
  errorIds := ["lost"]
  State := List Comment
  initial := []
  collect := fun file _ => { state := file.comments }
  diagnose := fun _ file comments =>
    { state := comments
      found :=
        [{ messageId := "lost"
           message := "lost"
           severity := .error
           location := .ofFile file.path }]
      failure := if comments.isEmpty then none else some (.plain "comments") }

theorem fragileRule_replacesEvidence : fragileRule.ReplacesEvidence :=
  ⟨Unit, fun _ => (), fun _ _ => rfl, fun _ _ _ => rfl, fun _ _ _ _ => ⟨rfl, rfl, rfl⟩,
    fun _ _ _ _ _ _ => ⟨rfl, rfl⟩⟩

theorem fragileRule_failsOn (checker : Checker fragileRule) :
    checker.FailsOn (.ofText "a.ts" "// @ts-ignore") "comments" := by
  refine Or.inr ⟨rfl, ?_⟩
  change (if (SourceFile.ofText "a.ts" "// @ts-ignore").comments.isEmpty then none
    else some (LooseText.plain "comments")) = some (.plain "comments")
  decide +kernel

/-- How many checkers a runner without options has, with the message ids of a run on a file. -/
def summaryOf (registry : Registry) (file : SourceFile) : Option (Nat × List String) :=
  (build registry .null .null).result.toOption.map fun runner =>
    (runner.checkers.length, (runner.run file).results.diagnostics.map (·.messageId))

/-- A failure loses what was found on one file and nothing of the next one. -/
theorem run_after_fragileRule :
    ∃ runner front checker, ∃ failure : Diagnostic,
      (build (Registry.standard.register fragileRule) .null .null).result = .ok runner ∧
      (runner.after [.ofText "a.ts" "// @ts-ignore"]).checkers =
        front ++ [⟨fragileRule, checker⟩] ∧
      checker.FailsOn (.ofText "a.ts" "// @ts-ignore") "comments" ∧
      failure.message = .plain "Checker 'fragile' failed: comments" ∧
      ((runner.after [.ofText "a.ts" "// @ts-ignore"]).run
          (.ofText "a.ts" "// @ts-ignore")).results.diagnostics =
        ((⟨front⟩ : Runner).run (.ofText "a.ts" "// @ts-ignore")).results.diagnostics ++ [failure] ∧
      ((runner.after [.ofText "a.ts" "// @ts-ignore"]).run (.ofText "b.ts" "x;")).results =
        (runner.run (.ofText "b.ts" "x;")).results ∧
      (runner.run (.ofText "b.ts" "x;")).results.diagnostics.map (·.messageId) = ["lost"] := by
  have computed : summaryOf (Registry.standard.register fragileRule) (.ofText "b.ts" "x;") =
      some (2, ["lost"]) := by
    decide +kernel
  cases built : (build (Registry.standard.register fragileRule) .null .null).result with
  | error failure =>
      rw [summaryOf, built] at computed
      cases computed
  | ok runner =>
      rw [summaryOf, built] at computed
      have both := Prod.mk.inj (Option.some.inj computed)
      have rules : runner.checkers.map (·.1) = [directiveRule, fragileRule] :=
        (rules_of_build built).eq_of_length ((List.length_map _).trans both.1)
      have replaces : ∀ checker ∈ runner.checkers,
          checker.1 = directiveRule ∨ checker.1.ReplacesEvidence := by
        intro checker member
        have known : checker.1 ∈ [directiveRule, fragileRule] := rules ▸ List.mem_map_of_mem member
        rcases List.mem_cons.mp known with directive | other
        · exact Or.inl directive
        · rw [List.mem_singleton.mp other]
          exact Or.inr fragileRule_replacesEvidence
      rcases List.map_eq_cons_iff.mp ((rules_after runner [.ofText "a.ts" "// @ts-ignore"]).trans
        rules) with ⟨first, others, whole, _, shape⟩
      rcases List.map_eq_cons_iff.mp shape with ⟨⟨rule, checker⟩, others, rfl, rfl, none⟩
      rw [List.map_eq_nil_iff.mp none] at whole
      rcases (run_after built built replaces [.ofText "a.ts" "// @ts-ignore"]
        (.ofText "a.ts" "// @ts-ignore")).2 [first] fragileRule checker [] "comments" whole
        (fragileRule_failsOn checker) with ⟨failure, _, _, message, diagnostics, _⟩
      exact ⟨runner, [first], checker, failure, rfl, whole, fragileRule_failsOn checker, message,
        diagnostics, (run_after built built replaces _ _).1, both.2⟩

end Runner
end DirectiveLint
