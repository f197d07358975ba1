import DirectiveLint.Checker.DirectiveRule
import DirectiveLint.Proofs.Policy.Evaluation

/-!
# Reports and their edits

A report brings an edit only for an `ignore` directive that is always flagged:
the edit that turns it into `expect-error`.  If they are, the reports on gathered
comments bring the edits for the `ignore` directives among them, in order.

Gathered comments are evaluated up to the first that fails.  So each report is
made on one of them, and a failure stems from one of them.
-/

namespace DirectiveLint

/-- The advice to use `expect-error` is for `ignore` directives that are always flagged. -/
theorem PolicyConfiguration.Decides.eq_advice_iff {configuration : PolicyConfiguration}
    {found : DirectiveMatch} {verdict : Verdict} (decides : configuration.Decides found verdict) :
    verdict = .reported .ignoreInsteadOfExpectError ↔
      found.directive = .ignore ∧ configuration.policyFor found.directive = .alwaysFlag := by
  cases decides with
  | ignore policy directive => exact iff_of_true rfl ⟨directive, policy⟩
  | disabled policy => simp [policy]
  | unasked policy _ => simp [policy]
  | flagged _ directive => simp [directive]
  | short asks _ _ => simp [asks.ne_alwaysFlag]
  | unwritable asks _ _ => simp [asks.ne_alwaysFlag]
  | long asks _ _ => simp [asks.ne_alwaysFlag]
  | matching asks _ _ _ => simp [asks.ne_alwaysFlag]
  | unlike asks _ _ _ => simp [asks.ne_alwaysFlag]
  | disordered asks _ _ _ => simp [asks.ne_alwaysFlag]

namespace Evaluator

/-- Whether an evaluator always flags `ignore` directives. -/
def FlagsIgnore (evaluator : Evaluator) : Prop :=
  evaluator.configuration.policyFor .ignore = .alwaysFlag

instance (evaluator : Evaluator) : Decidable evaluator.FlagsIgnore :=
  inferInstanceAs (Decidable (_ = _))

theorem suggestionsFor_of_ne (comment : Comment) {id : MessageId}
    (other : id ≠ .ignoreInsteadOfExpectError) : suggestionsFor comment id = [] := by
  cases id with
  | ignoreInsteadOfExpectError => exact absurd rfl other
  | _ => rfl

/-- The report on a directive brings an edit exactly if it is an `ignore` directive and those are
always flagged. -/
theorem edits_of_evaluateMatch {evaluator : Evaluator} {comment : Comment} {found : DirectiveMatch}
    {report : Option Diagnostic} (reported : evaluator.evaluateMatch comment found = .ok report) :
    report.toList.filterMap Diagnostic.edit? =
      if found.directive = .ignore ∧ evaluator.FlagsIgnore then [expectErrorEdit comment]
      else [] := by
  rcases (evaluateMatch_eq_iff (by simp)).mp reported with ⟨verdict, decides, yields⟩
  have advised : verdict = .reported .ignoreInsteadOfExpectError ↔
      found.directive = .ignore ∧ evaluator.FlagsIgnore := by
    rw [decides.eq_advice_iff]
    refine and_congr_right fun ignore => ?_
    rw [FlagsIgnore, ignore]
  cases yields with
  | passed => exact (if_neg (mt advised.mpr (by simp))).symm
  | @reported id diagnostic reports =>
      have edit : diagnostic.edit? = (suggestionsFor comment id).head?.map (·.edit) := by
        rw [Diagnostic.edit?, reports.fix, reports.suggestions, Option.none_or]
      by_cases same : id = .ignoreInsteadOfExpectError
      · rw [if_pos (advised.mp (congrArg Verdict.reported same))]
        rw [same] at edit
        simp [edit, suggestionsFor]
      · rw [if_neg (mt advised.mpr fun other => same (Verdict.reported.inj other))]
        rw [suggestionsFor_of_ne comment same] at edit
        simp [edit]

end Evaluator

namespace DirectiveEvidence

open Evaluator

variable {evaluator : Evaluator}

/-- The `ignore` directives among gathered comments. -/
def ignored (gathered : List (Comment × DirectiveMatch)) : List Comment :=
  (gathered.filter fun entry => entry.2.directive = .ignore).map (·.1)

/-- Without a failure the reports bring the edits for the `ignore` directives, in order. -/
theorem edits_of_evaluate {gathered : List (Comment × DirectiveMatch)} {reports : List Diagnostic}
    (evaluated : evaluate evaluator gathered = (reports, none)) :
    reports.filterMap Diagnostic.edit? =
      if evaluator.FlagsIgnore then (ignored gathered).map expectErrorEdit else [] := by
  induction gathered generalizing reports with
  | nil =>
      cases evaluated
      simp [ignored]
  | cons entry rest inductionHypothesis =>
      rcases entry with ⟨comment, found⟩
      simp only [evaluate] at evaluated
      split at evaluated
      · cases evaluated
      · next report here =>
          have later : evaluate evaluator rest = ((evaluate evaluator rest).1, none) := by
            rw [← (Prod.mk.inj evaluated).2]
          rw [← (Prod.mk.inj evaluated).1, List.filterMap_append,
            edits_of_evaluateMatch here, inductionHypothesis later]
          by_cases flags : evaluator.FlagsIgnore
          · by_cases same : found.directive = .ignore <;> simp [ignored, same, flags]
          · simp [flags]

/-- Every report is made on one of the gathered comments. -/
theorem exists_of_mem_evaluate {gathered : List (Comment × DirectiveMatch)} :
    ∀ diagnostic ∈ (evaluate evaluator gathered).1,
      ∃ entry ∈ gathered, evaluator.evaluateMatch entry.1 entry.2 = .ok (some diagnostic) := by
  induction gathered with
  | nil => simp [evaluate]
  | cons entry rest inductionHypothesis =>
      rcases entry with ⟨comment, found⟩
      intro diagnostic member
      simp only [evaluate] at member
      split at member
      · cases member
      · next report here =>
          rcases List.mem_append.mp member with first | later
          · rw [Option.mem_toList.mp first] at here
            exact ⟨_, List.mem_cons_self, here⟩
          · rcases inductionHypothesis diagnostic later with ⟨other, within, made⟩
            exact ⟨other, List.mem_cons_of_mem _ within, made⟩

/-- A failure stems from one of the gathered comments. -/
theorem exists_of_evaluate_failure {gathered : List (Comment × DirectiveMatch)} {failure : Failure}
    (failed : (evaluate evaluator gathered).2 = some failure) :
    ∃ entry ∈ gathered, evaluator.evaluateMatch entry.1 entry.2 = .error failure := by
  induction gathered with
  | nil => cases failed
  | cons entry rest inductionHypothesis =>
      rcases entry with ⟨comment, found⟩
      simp only [evaluate] at failed
      split at failed
      · next other here =>
          cases failed
          exact ⟨_, List.mem_cons_self, here⟩
      · rcases inductionHypothesis failed with ⟨other, within, here⟩
        exact ⟨other, List.mem_cons_of_mem _ within, here⟩

end DirectiveEvidence
end DirectiveLint
