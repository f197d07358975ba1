import DirectiveLint.Policy.Evaluator
import DirectiveLint.Proofs.Directive.Lead
import DirectiveLint.Proofs.Source.Respelling

/-!
# From `ignore` to `expect-error`

A comment value with an `ignore` directive holds `@ts-ignore` right behind its
lead.  No other at sign stands before it, so replacing the first occurrence
changes the keyword and nothing else: the new value has an `expect-error`
directive with the same description.  The keywords hold no end of a comment, so
the comment can have the new value.
-/

namespace DirectiveLint

open DirectiveMatch Source

namespace Evaluator

theorem at_not_mem_lead {lead : List Char}
    (isLead : ∀ character ∈ lead, isLead character = true) : '@' ∉ lead := by
  intro member
  have leads := isLead '@' member
  revert leads
  decide

/-- The first occurrence of a text that begins with a mark is behind everything without the
mark. -/
theorem replaceFirst_append {mark : Char} {lead : List Char} (absent : mark ∉ lead)
    (old new rest : List Char) :
    Text.replaceFirst (mark :: old) new (lead ++ (mark :: old ++ rest)) =
      lead ++ (new ++ rest) := by
  induction lead with
  | nil =>
      have found : Text.dropStart? (mark :: old) (mark :: old ++ rest) = some rest :=
        Text.dropStart?_eq_some_iff.mpr rfl
      rw [List.nil_append, List.nil_append, Text.replaceFirst.eq_def, found]
  | cons character more inductionHypothesis =>
      rw [List.mem_cons, not_or] at absent
      have missed : Text.dropStart? (mark :: old) (character :: more ++ (mark :: old ++ rest)) =
          none := by
        rw [List.cons_append, Text.dropStart?, if_neg absent.1]
      rw [Text.replaceFirst.eq_def, missed]
      exact congrArg _ (inductionHypothesis absent.2)

theorem toList_ignoreText :
    ignoreText.toList = "@ts-".toList ++ Directive.ignore.keyword.toList := by
  decide

theorem toList_expectErrorText :
    expectErrorText.toList = "@ts-".toList ++ Directive.expectError.keyword.toList := by
  decide

/-- An `ignore` directive stands behind a lead without an at sign, and so does the `expect-error`
directive that replaces it. -/
theorem ofCharacters?_ignore {kind : CommentKind} {value : List Char} {description : String}
    (found : ofCharacters? kind value = some ⟨.ignore, description⟩) :
    ∃ lead rest, '@' ∉ lead ∧ value = lead ++ (ignoreText.toList ++ rest) ∧
      Text.replaceFirst ignoreText.toList expectErrorText.toList value =
        lead ++ (expectErrorText.toList ++ rest) ∧
      ofCharacters? kind (lead ++ (expectErrorText.toList ++ rest)) =
        some ⟨.expectError, description⟩ := by
  rcases ofCharacters?_eq_some_iff.mp found with ⟨rest, after, described⟩
  rcases dropsLead_afterLead kind value with ⟨lead, split, isLead, again⟩
  have shape : value = lead ++ (ignoreText.toList ++ rest) := by
    rw [split, after, toList_ignoreText, List.append_assoc]
  refine ⟨lead, rest, at_not_mem_lead isLead, shape, ?_, ?_⟩
  · rw [shape]
    exact replaceFirst_append (at_not_mem_lead isLead) _ _ _
  · rw [ofCharacters?_eq_some_iff]
    refine ⟨rest, ?_, described⟩
    rw [again (expectErrorText.toList ++ rest), toList_expectErrorText, List.append_assoc]
    rw [after]
    rfl

/-! ## Ends of comments -/

/-- Text without asterisks and slashes in front takes no part in the end of a block comment. -/
theorem close_infix_append_iff {front back : List Char}
    (clear : ∀ character ∈ front, character ≠ '*' ∧ character ≠ '/') :
    ['*', '/'] <:+: front ++ back ↔ ['*', '/'] <:+: back := by
  induction front with
  | nil => rfl
  | cons character more inductionHypothesis =>
      have here := clear character List.mem_cons_self
      rw [List.cons_append, close_infix_cons_iff,
        inductionHypothesis fun other member => clear other (List.mem_cons_of_mem _ member)]
      simp [here.1]

/-- The end of a block comment does not reach over a mark. -/
theorem close_infix_append_cons_iff {front back : List Char} {mark : Char} (noAsterisk : mark ≠ '*')
    (noSlash : mark ≠ '/') :
    ['*', '/'] <:+: front ++ mark :: back ↔
      ['*', '/'] <:+: front ∨ ['*', '/'] <:+: back := by
  induction front with
  | nil => simp [close_infix_cons_iff, noAsterisk]
  | cons character more inductionHypothesis =>
      rw [List.cons_append, close_infix_cons_iff, inductionHypothesis, close_infix_cons_iff,
        or_assoc]
      cases more with
      | nil => simp [noSlash]
      | cons next others => rfl

/-- The end of a block comment stands on one side of a text without asterisks and slashes. -/
theorem close_infix_append_append_iff {front middle back : List Char} (nonempty : middle ≠ [])
    (clear : ∀ character ∈ middle, character ≠ '*' ∧ character ≠ '/') :
    ['*', '/'] <:+: front ++ (middle ++ back) ↔
      ['*', '/'] <:+: front ∨ ['*', '/'] <:+: back := by
  cases middle with
  | nil => exact absurd rfl nonempty
  | cons mark more =>
      have here := clear mark List.mem_cons_self
      rw [List.cons_append, close_infix_append_cons_iff here.1 here.2,
        close_infix_append_iff fun other member => clear other (List.mem_cons_of_mem _ member)]

/-- A comment with an `ignore` directive can have the value with the other directive. -/
theorem admits_replaceFirst {lexeme : Lexeme} {description : String}
    (found : ofCharacters? lexeme.kind lexeme.value = some ⟨.ignore, description⟩) :
    lexeme.Admits
      (Text.replaceFirst ignoreText.toList expectErrorText.toList lexeme.value) := by
  rcases ofCharacters?_ignore found with ⟨lead, rest, _, old, new, _⟩
  rw [new]
  rcases lexeme with ⟨kind, value, start, stop⟩
  change value = lead ++ (ignoreText.toList ++ rest) at old
  subst old
  cases kind with
  | line =>
      constructor
      · intro feed
        have noFeed : '\n' ∉ expectErrorText.toList := by decide
        rcases List.mem_append.mp feed with inLead | behind
        · exact List.mem_append_left _ inLead
        · have inRest := (List.mem_append.mp behind).resolve_left noFeed
          exact List.mem_append_right _ (List.mem_append_right _ inRest)
      · intro last
        change (lead ++ (ignoreText.toList ++ rest)).getLast? = some '\r'
        rw [List.getLast?_append, List.getLast?_append] at last ⊢
        cases atEnd : rest.getLast? with
        | none =>
            rw [atEnd] at last
            exact absurd last (by simp [expectErrorText])
        | some character =>
            rw [atEnd] at last
            exact last
  | block =>
      intro close
      change ['*', '/'] <:+: lead ++ (ignoreText.toList ++ rest)
      rw [close_infix_append_append_iff (by simp [expectErrorText])
        (by simp [expectErrorText])] at close
      rw [close_infix_append_append_iff (by simp [ignoreText]) (by simp [ignoreText])]
      exact close

end Evaluator
end DirectiveLint
