import DirectiveLint.Directive.Match
import DirectiveLint.Proofs.Source.Literal

/-!
# What stands around the keyword of a directive

A comment value with a directive is a lead, the mark `@ts-`, the keyword and the
rest, of which the description is the first line.  The lead holds slashes,
asterisks and blanks only, so the mark is the first of its kind in the value.

What makes the lead of a value depends on the value behind it only through the
first character.  A value with another keyword therefore has the same lead.
-/

namespace DirectiveLint

open Source

namespace DirectiveMatch

/-- The characters that may stand before a directive. -/
def isLead (character : Char) : Bool :=
  character = '/' || character = '*' || Character.isBlank character

/-- What is dropped at the front is dropped in front of any text that begins alike. -/
theorem dropWhile_takeWhile_append {accepts : Char → Bool} {value other : List Char}
    (first : other.head? = (value.dropWhile accepts).head?) :
    (value.takeWhile accepts ++ other).dropWhile accepts = other := by
  rw [List.dropWhile_append_of_pos fun _ member => List.mem_takeWhile_imp member]
  cases other with
  | nil => rfl
  | cons character rest =>
      have stopped := List.head?_dropWhile_not accepts value
      rw [← first, List.head?_cons] at stopped
      exact List.dropWhile_cons_of_neg (by simpa using stopped)

/-- Whether a way to drop characters at the front drops a lead, the same one in front of all texts
that begin alike. -/
def DropsLead (dropped : List Char → List Char) (value : List Char) : Prop :=
  ∃ lead, value = lead ++ dropped value ∧ (∀ character ∈ lead, isLead character = true) ∧
    ∀ other : List Char, other.head? = (dropped value).head? → dropped (lead ++ other) = other

theorem dropsLead_dropWhile {accepts : Char → Bool} (value : List Char)
    (lead : ∀ character, accepts character = true → isLead character = true) :
    DropsLead (List.dropWhile accepts) value := by
  refine ⟨value.takeWhile accepts, List.takeWhile_append_dropWhile.symm, ?_, ?_⟩
  · intro character member
    exact lead character (List.mem_takeWhile_imp member)
  · intro other first
    exact dropWhile_takeWhile_append first

theorem DropsLead.comp {first second : List Char → List Char} {value : List Char}
    (drops : DropsLead first value) (dropsMore : DropsLead second (first value)) :
    DropsLead (second ∘ first) value := by
  rcases drops with ⟨lead, split, isLead, again⟩
  rcases dropsMore with ⟨more, splitMore, isLeadMore, againMore⟩
  refine ⟨lead ++ more, ?_, ?_, ?_⟩
  · rw [List.append_assoc, Function.comp_apply, ← splitMore]
    exact split
  · intro character member
    rcases List.mem_append.mp member with here | there
    · exact isLead character here
    · exact isLeadMore character there
  · intro other begins
    have beginsToo : (more ++ other).head? = (first value).head? := by
      rw [splitMore, List.head?_append, List.head?_append, begins]
      rfl
    rw [List.append_assoc, Function.comp_apply, again (more ++ other) beginsToo]
    exact againMore other begins

/-- A value is a lead with the text after it. -/
theorem dropsLead_afterLead (kind : CommentKind) (value : List Char) :
    DropsLead (afterLead kind) value := by
  have slash : ∀ character : Char, decide (character = '/') = true → isLead character = true := by
    intro character same
    simp [isLead, of_decide_eq_true same]
  have mark : ∀ character : Char, (character = '/' || character = '*') = true →
      isLead character = true := by
    intro character same
    simp only [isLead, same, Bool.true_or]
  have blank : ∀ character : Char, Character.isBlank character = true →
      isLead character = true := by
    intro character same
    simp only [isLead, same, Bool.or_true]
  cases kind with
  | line => exact (dropsLead_dropWhile value slash).comp (dropsLead_dropWhile _ blank)
  | block =>
      exact ((dropsLead_dropWhile value blank).comp (dropsLead_dropWhile _ mark)).comp
        (dropsLead_dropWhile _ blank)

/-! ## Keywords -/

/-- The first line of what follows a keyword. -/
def lineOf (rest : List Char) : List Char :=
  rest.takeWhile fun character => !endsLine character

theorem readKeyword?_append (directive : Directive) (rest : List Char) :
    readKeyword? (directive.keyword.toList ++ rest) = some (directive, rest) := by
  cases directive <;> simp [readKeyword?, Directive.all, Directive.keyword, Text.dropStart?]

theorem readKeyword?_eq_some_iff {text rest : List Char} {directive : Directive} :
    readKeyword? text = some (directive, rest) ↔ text = directive.keyword.toList ++ rest := by
  constructor
  · intro found
    rcases List.exists_of_findSome?_eq_some found with ⟨other, _, here⟩
    rcases Option.map_eq_some_iff.mp here with ⟨after, dropped, same⟩
    cases same
    exact Text.dropStart?_eq_some_iff.mp dropped
  · intro shape
    rw [shape, readKeyword?_append]

/-- A value has a directive if the mark and the keyword follow the lead. -/
theorem ofCharacters?_eq_some_iff {kind : CommentKind} {value : List Char}
    {found : DirectiveMatch} :
    ofCharacters? kind value = some found ↔
      ∃ rest, afterLead kind value =
          "@ts-".toList ++ (found.directive.keyword.toList ++ rest) ∧
        found.description = String.ofList (lineOf rest) := by
  unfold ofCharacters?
  cases dropped : Text.dropStart? "@ts-".toList (afterLead kind value) with
  | none =>
      constructor
      · intro none
        cases none
      · rintro ⟨rest, shape, _⟩
        rw [Text.dropStart?_eq_some_iff.mpr shape] at dropped
        cases dropped
  | some after =>
      have shape := Text.dropStart?_eq_some_iff.mp dropped
      rw [shape]
      constructor
      · intro matched
        rcases Option.map_eq_some_iff.mp matched with ⟨⟨directive, rest⟩, read, rfl⟩
        exact ⟨rest, congrArg _ (readKeyword?_eq_some_iff.mp read), rfl⟩
      · rintro ⟨rest, same, described⟩
        change Option.map _ (readKeyword? after) = some found
        rw [List.append_cancel_left same, readKeyword?_append]
        cases found
        exact congrArg some (congrArg (DirectiveMatch.mk _) described.symm)

end DirectiveMatch
end DirectiveLint
