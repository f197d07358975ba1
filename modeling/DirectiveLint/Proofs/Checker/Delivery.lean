import DirectiveLint.Proofs.Checker.Running
import Mathlib.Data.List.Forall2

/-!
# Driving a checker by hand

A checker of directives may be called in any order.  Gathering replaces the
evidence, diagnosing uses it up, and reporting or resetting clears what was
found.  So the reports hand out the evaluations of each evidence once: those of
the first call that diagnoses it, unless a reset comes before the next report.

A call that diagnoses may fail in the middle, where the search for a format
breaks down or the least length is too long to be shown.  It then keeps the
evidence and what it found before, and the next call finds that again.  Only in
this case is a directive reported twice.
-/

namespace DirectiveLint
namespace Driving

open DirectiveEvidence (evaluate)

/-- A call on a checker of directives. -/
inductive Call
  | configure (options : Value)
  | collect (file : SourceFile)
  | diagnose (file : SourceFile)
  | report
  | reset

/-- Takes options, which need not be fit for it. -/
def configureWith (options : Value) (checker : Checker directiveRule) :
    Checker directiveRule × Option Failure :=
  match Mapping.ofOptional options with
  | .error fault => (checker, some (.conversion fault))
  | .ok options => checker.configure options

/-- The checker after a call, with what the call hands out. -/
def Call.act (call : Call) (checker : Checker directiveRule) :
    Checker directiveRule × List Diagnostic :=
  match call with
  | .configure options => ((configureWith options checker).1, [])
  | .collect file => ((checker.collect file).checker, [])
  | .diagnose file => ((checker.diagnose file).1, [])
  | .report => checker.report
  | .reset => (checker.reset, [])

/-- What the reports among some calls hand out. -/
def handedOut (checker : Checker directiveRule) : List Call → List Diagnostic
  | [] => []
  | call :: rest => (call.act checker).2 ++ handedOut (call.act checker).1 rest

/-! ## What has been called

The calls so far are listed from the latest one back. -/

/-- A fresh checker after some calls. -/
def checkerAfter : List Call → Checker directiveRule
  | [] => .create directiveRule
  | call :: past => (call.act (checkerAfter past)).1

/-- How the last options that were accepted evaluate. -/
def configured : List Call → Evaluator
  | [] => DirectiveEvidence.initial.evaluator
  | .configure options :: past =>
    match PolicyConfiguration.ofValue options with
    | .ok configuration => ⟨configuration, .error, DirectiveEvidence.ruleName⟩
    | .error _ => configured past
  | _ :: past => configured past

/-- The directives that were gathered last. -/
def gathered : List Call → List (Comment × DirectiveMatch)
  | [] => []
  | .collect file :: _ => directiveComments file.comments
  | _ :: past => gathered past

/-- Whether diagnosing fails after some calls. -/
def fails (past : List Call) (file : SourceFile) : Bool :=
  ((checkerAfter past).diagnose file).2.isSome

/-- Whether what was gathered last is still there, where some calls that diagnose keep it. -/
def isUnused (keeps : List Call → SourceFile → Bool) : List Call → Bool
  | [] => true
  | .collect _ :: _ => true
  | .diagnose file :: past => keeps past file && isUnused keeps past
  | _ :: past => isUnused keeps past

/-- Whether a report comes before any reset. -/
def isReported : List Call → Bool
  | [] => false
  | .report :: _ => true
  | .reset :: _ => false
  | _ :: rest => isReported rest

/-- The evaluations that the calls deliver: those of each call that diagnoses unused evidence, if
they are reported. -/
def deliveries (keeps : List Call → SourceFile → Bool) (past : List Call) :
    List Call → List Diagnostic
  | [] => []
  | .diagnose file :: rest =>
    (if isUnused keeps past && isReported rest then
      (evaluate (configured past) (gathered past)).1 else []) ++
      deliveries keeps (.diagnose file :: past) rest
  | call :: rest => deliveries keeps (call :: past) rest

/-- Whether none of the calls that diagnose fails. -/
def allSucceed (past : List Call) : List Call → Bool
  | [] => true
  | .diagnose file :: rest => !fails past file && allSucceed (.diagnose file :: past) rest
  | call :: rest => allSucceed (call :: past) rest

/-! ## The state of a checker -/

/-- What is left to diagnose. -/
def left (past : List Call) : List (Comment × DirectiveMatch) :=
  if isUnused fails past then gathered past else []

theorem configureWith_eq (options : Value) (checker : Checker directiveRule) :
    configureWith options checker =
      match PolicyConfiguration.ofValue options with
      | .error failure => (checker, some failure)
      | .ok configuration =>
        ({ checker with
          state := { (checker.state : DirectiveEvidence) with
            evaluator := ⟨configuration, checker.severity.getD .error,
              DirectiveEvidence.ruleName⟩ } }, none) := by
  unfold configureWith PolicyConfiguration.ofValue
  cases Mapping.ofOptional options with
  | error fault => rfl
  | ok options =>
      simp only [Checker.configure, directiveRule, DirectiveEvidence.configure]
      cases PolicyConfiguration.ofOptions options <;> rfl

/-- Options that are refused leave the checker as it was. -/
theorem configureWith_of_refused {options : Value} {checker : Checker directiveRule}
    {failure : Failure} (refused : (configureWith options checker).2 = some failure) :
    (configureWith options checker).1 = checker := by
  rw [configureWith_eq] at refused ⊢
  cases accepted : PolicyConfiguration.ofValue options with
  | error _ => rfl
  | ok configuration =>
      rw [accepted] at refused
      cases refused

theorem diagnose_of_state {checker : Checker directiveRule} {evaluator : Evaluator}
    {entries : List (Comment × DirectiveMatch)}
    (state : (checker.state : DirectiveEvidence) = ⟨evaluator, entries⟩) (file : SourceFile) :
    (checker.diagnose file).2.isSome = (evaluate evaluator entries).2.isSome ∧
      (checker.diagnose file).1.severity = checker.severity ∧
      (checker.diagnose file).1.pending = checker.pending ++ (evaluate evaluator entries).1 ∧
      ((checker.diagnose file).1.state : DirectiveEvidence) =
        ⟨evaluator, if (evaluate evaluator entries).2.isSome then entries else []⟩ := by
  rcases checker with ⟨severity, evidence, pending⟩
  cases state
  simp only [Checker.diagnose, directiveRule, DirectiveEvidence.diagnose]
  rcases evaluate evaluator entries with ⟨found, failure⟩
  cases failure <;> simp

theorem left_diagnose (past : List Call) (file : SourceFile) :
    left (.diagnose file :: past) = if fails past file then left past else [] := by
  unfold left
  by_cases failing : fails past file = true <;> simp [isUnused, gathered, failing]

theorem evaluate_left (past : List Call) :
    (evaluate (configured past) (left past)).1 =
      if isUnused fails past then (evaluate (configured past) (gathered past)).1 else [] := by
  unfold left
  split <;> rfl

/-- A checker evaluates by the options that were accepted last, and it has the directives that were
gathered last unless they were diagnosed. -/
theorem state_checkerAfter (past : List Call) :
    (checkerAfter past).severity = some .error ∧
      ((checkerAfter past).state : DirectiveEvidence) = ⟨configured past, left past⟩ := by
  induction past with
  | nil => exact ⟨rfl, rfl⟩
  | cons call past inductionHypothesis =>
      rcases inductionHypothesis with ⟨severity, state⟩
      cases call with
      | configure options =>
          simp only [checkerAfter, Call.act, configureWith_eq, configured]
          cases PolicyConfiguration.ofValue options with
          | error failure => exact ⟨severity, state⟩
          | ok configuration =>
              simp only [severity, state]
              exact ⟨trivial, rfl⟩
      | collect file =>
          simp only [checkerAfter, Call.act, Checker.collect, state]
          exact ⟨severity, rfl⟩
      | diagnose file =>
          rcases diagnose_of_state state file with ⟨failure, sameSeverity, _, after⟩
          refine ⟨sameSeverity.trans severity, after.trans ?_⟩
          rw [← failure, left_diagnose]
          rfl
      | report => exact ⟨severity, state⟩
      | reset => exact ⟨severity, state⟩

theorem fails_eq (past : List Call) (file : SourceFile) :
    fails past file = (evaluate (configured past) (left past)).2.isSome :=
  (diagnose_of_state (state_checkerAfter past).2 file).1

/-- What the reports hand out from some point on is what is pending there and reported, and what is
delivered later. -/
theorem handedOut_checkerAfter (past calls : List Call) :
    handedOut (checkerAfter past) calls =
      (if isReported calls then (checkerAfter past).pending else []) ++
        deliveries fails past calls := by
  -- What is pending counts as reported only if no reset comes first, which later calls decide.
  induction calls generalizing past with
  | nil => rfl
  | cons call rest inductionHypothesis =>
      have later := inductionHypothesis (call :: past)
      cases call with
      | configure options =>
          have pending : (checkerAfter (.configure options :: past)).pending =
              (checkerAfter past).pending := by
            simp only [checkerAfter, Call.act, configureWith_eq]
            cases PolicyConfiguration.ofValue options <;> rfl
          rw [pending] at later
          exact later
      | collect file =>
          have pending : (checkerAfter (.collect file :: past)).pending =
              (checkerAfter past).pending := List.append_nil _
          rw [pending] at later
          exact later
      | diagnose file =>
          have pending : (checkerAfter (.diagnose file :: past)).pending =
              (checkerAfter past).pending ++ (evaluate (configured past) (left past)).1 :=
            (diagnose_of_state (state_checkerAfter past).2 file).2.2.1
          rw [pending] at later
          refine later.trans ?_
          have same : isReported (.diagnose file :: rest) = isReported rest := rfl
          rw [same, deliveries, evaluate_left]
          by_cases reported : isReported rest = true <;> simp [reported]
      | report =>
          have pending : (checkerAfter (.report :: past)).pending = [] := rfl
          rw [pending, ite_self, List.nil_append] at later
          exact congrArg ((checkerAfter past).pending ++ ·) later
      | reset =>
          have pending : (checkerAfter (.reset :: past)).pending = [] := rfl
          rw [pending, ite_self, List.nil_append] at later
          exact later

/-! ## At most once -/

/-- Whether a diagnostic is a report on a directive. -/
def ReportsOn (entry : Comment × DirectiveMatch) (diagnostic : Diagnostic) : Prop :=
  ∃ evaluator : Evaluator, evaluator.evaluateMatch entry.1 entry.2 = .ok (some diagnostic)

/-- The directives that a call gathers. -/
def Call.gathers : Call → List (Comment × DirectiveMatch)
  | .collect file => directiveComments file.comments
  | _ => []

/-- Evaluating directives reports each of them at most once. -/
theorem exists_reportsOn_evaluate (evaluator : Evaluator)
    (entries : List (Comment × DirectiveMatch)) :
    ∃ picked, picked.Sublist entries ∧
      List.Forall₂ ReportsOn picked (evaluate evaluator entries).1 := by
  induction entries with
  | nil => exact ⟨[], .slnil, .nil⟩
  | cons entry rest inductionHypothesis =>
      rcases inductionHypothesis with ⟨picked, within, reports⟩
      rcases entry with ⟨comment, found⟩
      simp only [evaluate]
      cases evaluated : evaluator.evaluateMatch comment found with
      | error failure => exact ⟨[], List.nil_sublist _, .nil⟩
      | ok report =>
          cases report with
          | none => exact ⟨picked, within.cons _, reports⟩
          | some diagnostic =>
              exact ⟨(comment, found) :: picked, within.cons_cons _,
                .cons ⟨evaluator, evaluated⟩ reports⟩

/-- If diagnosing uses up what was gathered, nothing of it is delivered twice. -/
theorem exists_reportsOn_deliveries (past calls : List Call) :
    ∃ picked, picked.Sublist
        ((if isUnused (fun _ _ => false) past then gathered past else []) ++
          calls.flatMap Call.gathers) ∧
      List.Forall₂ ReportsOn picked (deliveries (fun _ _ => false) past calls) := by
  induction calls generalizing past with
  | nil => exact ⟨[], List.nil_sublist _, .nil⟩
  | cons call rest inductionHypothesis =>
      rcases inductionHypothesis (call :: past) with ⟨picked, within, reports⟩
      cases call with
      | configure options => exact ⟨picked, within, reports⟩
      | collect file =>
          -- What was left is lost, and the new evidence comes before what is gathered later.
          exact ⟨picked, within.trans (List.sublist_append_right _ _), reports⟩
      | diagnose file =>
          rcases exists_reportsOn_evaluate (configured past) (gathered past) with
            ⟨first, firstWithin, firstReports⟩
          simp only [isUnused, Bool.false_and, Bool.false_eq_true, if_false, List.nil_append]
            at within
          simp only [deliveries, List.flatMap_cons, Call.gathers, List.nil_append]
          cases isUnused (fun _ _ => false) past with
          | false => exact ⟨picked, within, reports⟩
          | true =>
              cases isReported rest with
              | false =>
                  exact ⟨picked, within.trans (List.sublist_append_right _ _), reports⟩
              | true =>
                  exact ⟨first ++ picked, firstWithin.append within,
                    List.rel_append firstReports reports⟩
      | report => exact ⟨picked, within, reports⟩
      | reset => exact ⟨picked, within, reports⟩

/-! ## Failures -/

theorem checkMinimum_configured (past : List Call) :
    PolicyConfiguration.checkMinimum (configured past).configuration.minimum = .ok () := by
  induction past with
  | nil => rfl
  | cons call past inductionHypothesis =>
      cases call with
      | configure options =>
          unfold configured
          split
          · next configuration accepted =>
              unfold PolicyConfiguration.ofValue at accepted
              split at accepted
              · cases accepted
              · exact PolicyConfiguration.checkMinimum_of_ofOptions accepted
          · exact inductionHypothesis
      | _ => exact inductionHypothesis

/-- Diagnosing fails where there is evidence left and the table decides a failure on some of it. -/
theorem fails_iff (past : List Call) (file : SourceFile) :
    fails past file = true ↔ isUnused fails past = true ∧
      ∃ entry ∈ gathered past, ∃ failure,
        (failure = .disorderedGroup ∨ failure = .tooManyDigits) ∧
          (configured past).configuration.Decides entry.2 (.failed failure) := by
  rw [fails_eq, DirectiveEvidence.evaluate_isSome_iff (checkMinimum_configured past), left]
  split
  · next unused => simp [unused]
  · next used => simp [used]

/-- Without failures the first call that diagnoses uses up the evidence. -/
theorem deliveries_of_allSucceed {past calls : List Call} (succeed : allSucceed past calls = true)
    (same : isUnused fails past = isUnused (fun _ _ => false) past) :
    deliveries fails past calls = deliveries (fun _ _ => false) past calls := by
  induction calls generalizing past with
  | nil => rfl
  | cons call rest inductionHypothesis =>
      cases call with
      | diagnose file =>
          rcases Bool.and_eq_true_iff.mp succeed with ⟨works, later⟩
          have works : fails past file = false := by simpa using works
          have used : isUnused fails (.diagnose file :: past) = false := by
            rw [isUnused, works, Bool.false_and]
          rw [deliveries, deliveries, same, inductionHypothesis later used]
      | collect file => exact inductionHypothesis succeed rfl
      | _ => exact inductionHypothesis succeed same

/-- The reports hand out the evaluations of the directives gathered last, up to the first that
fails, for each call that diagnoses them while all such calls before it failed, unless a reset comes
before the next report.  If no call that diagnoses fails, this is the first one each time, and no
directive is reported twice.  One fails exactly if there is evidence left on which the table decides
a failure.  Options that are refused change nothing. -/
theorem handedOut_eq_deliveries (calls : List Call) :
    handedOut (.create directiveRule) calls = deliveries fails [] calls ∧
      (allSucceed [] calls = true →
        handedOut (.create directiveRule) calls = deliveries (fun _ _ => false) [] calls ∧
          ∃ picked, picked.Sublist (calls.flatMap Call.gathers) ∧
            List.Forall₂ ReportsOn picked (handedOut (.create directiveRule) calls)) ∧
      (∀ past file, fails past file = true ↔ isUnused fails past = true ∧
        ∃ entry ∈ gathered past, ∃ failure,
          (failure = .disorderedGroup ∨ failure = .tooManyDigits) ∧
            (configured past).configuration.Decides entry.2 (.failed failure)) ∧
      ∀ past options failure,
        (configureWith options (checkerAfter past)).2 = some failure →
        checkerAfter (.configure options :: past) = checkerAfter past := by
  have whole : handedOut (.create directiveRule) calls = deliveries fails [] calls := by
    have reported := handedOut_checkerAfter [] calls
    have nothing : (checkerAfter []).pending = [] := rfl
    rw [nothing, ite_self, List.nil_append] at reported
    exact reported
  refine ⟨whole, ?_, fails_iff, fun _ _ _ => configureWith_of_refused⟩
  intro succeed
  have same := whole.trans (deliveries_of_allSucceed succeed rfl)
  rcases exists_reportsOn_deliveries [] calls with ⟨picked, within, reports⟩
  exact ⟨same, picked, within, same ▸ reports⟩

/-- A checker whose first diagnosis is reported, and then one that is reset. -/
def orderlyCalls : List Call :=
  [.collect (.ofText "a.ts" "// @ts-ignore"), .diagnose (.ofText "a.ts" ""),
    .configure (.object [("ts-ignore", .integer 1)]), .diagnose (.ofText "a.ts" ""), .report,
    .collect (.ofText "b.ts" "// @ts-nocheck"), .diagnose (.ofText "b.ts" ""), .reset, .report]

theorem handedOut_eq_deliveries_orderlyCalls :
    allSucceed [] orderlyCalls = true ∧
      handedOut (.create directiveRule) orderlyCalls =
        deliveries (fun _ _ => false) [] orderlyCalls ∧
      (handedOut (.create directiveRule) orderlyCalls).map (·.messageId) =
        ["tsIgnoreInsteadOfExpectError"] ∧
      checkerAfter [.configure (.object [("ts-ignore", .integer 1)])] = checkerAfter [] := by
  have succeed : allSucceed [] orderlyCalls = true := by decide +kernel
  have refused : (configureWith (.object [("ts-ignore", .integer 1)])
      (checkerAfter [])).2.isSome = true := by
    decide +kernel
  rcases Option.isSome_iff_exists.mp refused with ⟨failure, refused⟩
  exact ⟨succeed, ((handedOut_eq_deliveries orderlyCalls).2.1 succeed).1, by decide +kernel,
    (handedOut_eq_deliveries []).2.2.2 [] _ failure refused⟩

/-- Calls that diagnose one evidence twice and fail both times. -/
def disorderedCalls : List Call :=
  [.configure (.object [("ts-ignore", .boolean true),
      ("ts-expect-error", .object [("descriptionFormat", .text "(?:(bc)|[ab])*+")])]),
    .collect (.ofText "a.ts" "// @ts-ignore\n// @ts-expect-errorbcbbb"),
    .diagnose (.ofText "a.ts" ""), .diagnose (.ofText "a.ts" ""), .report]

/-- A diagnosis that fails may report a directive that is then reported again. -/
theorem handedOut_disorderedCalls :
    handedOut (.create directiveRule) disorderedCalls ≠
        deliveries (fun _ _ => false) [] disorderedCalls ∧
      (handedOut (.create directiveRule) disorderedCalls).map (·.messageId) =
        ["tsIgnoreInsteadOfExpectError", "tsIgnoreInsteadOfExpectError"] ∧
      (deliveries (fun _ _ => false) [] disorderedCalls).map (·.messageId) =
        ["tsIgnoreInsteadOfExpectError"] := by
  have handed : (handedOut (.create directiveRule) disorderedCalls).map (·.messageId) =
      ["tsIgnoreInsteadOfExpectError", "tsIgnoreInsteadOfExpectError"] := by
    decide +kernel
  have delivered : (deliveries (fun _ _ => false) [] disorderedCalls).map (·.messageId) =
      ["tsIgnoreInsteadOfExpectError"] := by
    decide +kernel
  refine ⟨fun same => ?_, handed, delivered⟩
  rw [same, delivered] at handed
  exact absurd handed (by decide)

end Driving
end DirectiveLint
