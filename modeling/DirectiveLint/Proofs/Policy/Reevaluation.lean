import DirectiveLint.Proofs.Policy.ExpectError
import DirectiveLint.Proofs.Policy.Reports

/-!
# Evaluating a suggestion

A report that advises `expect-error` is one on an `ignore` directive, and brings
one suggestion.  It replaces the whole comment, and the new value differs from
the old one at the first at sign only, where the directive stands.  So the new
comment has the other directive with the same description, and what is decided
on that one is up to its own policy.
-/

namespace DirectiveLint

theorem MessageId.name_injective : Function.Injective MessageId.name := by
  intro first second same
  cases first <;> cases second <;> first | rfl | exact absurd same (by decide)

namespace Evaluator

/-- A comment value with an `ignore` directive, before and after the keyword is changed. -/
theorem exists_withExpectError {comment : Comment} {description : String}
    (found : matchDirective comment = some ⟨.ignore, description⟩) :
    ∃ before after : String, '@' ∉ before.toList ∧
      comment.value = before ++ "@ts-ignore" ++ after ∧
      withExpectError comment.value = before ++ "@ts-expect-error" ++ after ∧
      matchDirectiveText comment.kind (before ++ "@ts-expect-error" ++ after) =
        some ⟨.expectError, description⟩ := by
  rcases ofCharacters?_ignore found with ⟨lead, rest, noAt, old, new, again⟩
  have joined : ∀ keyword : String,
      (String.ofList lead ++ keyword ++ String.ofList rest).toList =
        lead ++ (keyword.toList ++ rest) := by
    intro keyword
    simp only [String.toList_append, String.toList_ofList, List.append_assoc]
  refine ⟨String.ofList lead, String.ofList rest, by rwa [String.toList_ofList], ?_, ?_, ?_⟩
  · exact String.toList_inj.mp (old.trans (joined ignoreText).symm)
  · apply String.toList_inj.mp
    rw [withExpectError, String.toList_ofList, new]
    exact (joined expectErrorText).symm
  · rw [matchDirectiveText, joined]
    exact again

/-- A comment with a directive is reported exactly if the table reports the directive. -/
theorem exists_evaluate_eq_some_iff {evaluator : Evaluator} {comment : Comment}
    {found : DirectiveMatch} (here : matchDirective comment = some found) :
    (∃ report, evaluator.evaluate comment = .ok (some report)) ↔
      ∃ id, evaluator.configuration.Decides found (.reported id) := by
  simp only [evaluate_eq_some_iff, here, Option.some.injEq, exists_and_left, exists_eq_left']
  constructor
  · rintro ⟨report, id, decides, _⟩
    exact ⟨id, decides⟩
  · rintro ⟨id, decides⟩
    have yields : evaluator.Yields comment found (.reported id)
        (evaluator.evaluateMatch comment found) := yields_evaluateMatch decides
    generalize evaluator.evaluateMatch comment found = outcome at yields
    cases yields with
    | reported reports => exact ⟨_, id, decides, reports⟩

end Evaluator

/-- For every evaluator, and every comment that it reports with the advice to use `expect-error`:
the first at sign of the comment value begins `@ts-ignore`. The one suggestion replaces the comment
by the same with `@ts-expect-error` there. The new value has an `expect-error` directive with the
same description. On a comment with that value the evaluator does what it does on this directive,
and reports it exactly if the table reports the directive. -/
theorem evaluate_suggestion {evaluator : Evaluator} {comment : Comment} {diagnostic : Diagnostic}
    (reported : evaluator.evaluate comment = .ok (some diagnostic))
    (advises : diagnostic.messageId = MessageId.ignoreInsteadOfExpectError.name) :
    ∃ before after description : String,
      '@' ∉ before.toList ∧
      comment.value = before ++ "@ts-ignore" ++ after ∧
      matchDirective comment = some ⟨.ignore, description⟩ ∧
      diagnostic.suggestions =
        [{ messageId := "replaceTsIgnoreWithTsExpectError"
           message := "Replace \"@ts-ignore\" with \"@ts-expect-error\"."
           edit :=
            { start := comment.span.start
              stop := comment.span.stop
              text := comment.kind.wrap (before ++ "@ts-expect-error" ++ after) } }] ∧
      matchDirectiveText comment.kind (before ++ "@ts-expect-error" ++ after) =
        some ⟨.expectError, description⟩ ∧
      ∀ other : Comment, other.kind = comment.kind →
        other.value = before ++ "@ts-expect-error" ++ after →
        evaluator.evaluate other = evaluator.evaluateMatch other ⟨.expectError, description⟩ ∧
        ((∃ report, evaluator.evaluate other = .ok (some report)) ↔
          ∃ id, evaluator.configuration.Decides ⟨.expectError, description⟩ (.reported id)) := by
  rcases Evaluator.evaluate_eq_some_iff.mp reported with ⟨found, id, here, decides, reports⟩
  have same : id = .ignoreInsteadOfExpectError :=
    MessageId.name_injective (reports.messageId.symm.trans advises)
  subst same
  rcases found with ⟨directive, description⟩
  have ignore : directive = .ignore := (decides.eq_advice_iff.mp rfl).1
  subst ignore
  rcases Evaluator.exists_withExpectError here with ⟨before, after, noAt, old, new, again⟩
  refine ⟨before, after, description, noAt, old, here, ?_, again, ?_⟩
  · rw [reports.suggestions, Evaluator.suggestionsFor, Evaluator.expectErrorEdit, new]
  · intro other kind value
    have matched : matchDirective other = some ⟨.expectError, description⟩ := by
      rw [matchDirective, kind, value]
      exact again
    refine ⟨?_, Evaluator.exists_evaluate_eq_some_iff matched⟩
    rw [Evaluator.evaluate, matched]

/-- A comment that names its directive again in the description and on a later line. -/
def repeatedComment : Comment :=
  ⟨.block, "\n * @ts-ignore see @ts-ignore\n@ts-ignore",
    ⟨0, 44, ⟨"a.ts", 1, 1⟩, ⟨"a.ts", 3, 13⟩⟩⟩

/-- Only the first mention is replaced. -/
theorem evaluate_suggestion_repeated :
    ∃ configuration diagnostic,
      PolicyConfiguration.ofValue (.object []) = .ok configuration ∧
      (⟨configuration, .error, "ban-ts-comment"⟩ : Evaluator).evaluate repeatedComment =
        .ok (some diagnostic) ∧
      diagnostic.messageId = MessageId.ignoreInsteadOfExpectError.name ∧
      ∃ before after description,
        repeatedComment.value = before ++ "@ts-ignore" ++ after ∧
        matchDirectiveText .block (before ++ "@ts-expect-error" ++ after) =
          some ⟨.expectError, description⟩ ∧
        diagnostic.suggestions.map (·.edit.text) =
          ["/*\n * @ts-expect-error see @ts-ignore\n@ts-ignore*/"] := by
  have computed : (outcomeUnder (.object []) repeatedComment).toOption.map
      (Option.map fun diagnostic =>
        (diagnostic.messageId, diagnostic.suggestions.map (·.edit.text))) =
        some (some (MessageId.ignoreInsteadOfExpectError.name,
          ["/*\n * @ts-expect-error see @ts-ignore\n@ts-ignore*/"])) := by
    decide +kernel
  cases outcome : outcomeUnder (.object []) repeatedComment with
  | error failure =>
      rw [outcome] at computed
      cases computed
  | ok report? =>
      rcases Except.bind_eq_ok_iff.mp outcome with ⟨configuration, accepted, evaluated⟩
      rw [outcome] at computed
      rcases Option.map_eq_some_iff.mp (Option.some.inj computed) with ⟨diagnostic, rfl, parts⟩
      have advises := congrArg Prod.fst parts
      rcases evaluate_suggestion evaluated advises with
        ⟨before, after, description, _, old, _, _, again, _⟩
      exact ⟨configuration, diagnostic, accepted, evaluated, advises, before, after, description,
        old, again, congrArg Prod.snd parts⟩

end DirectiveLint
