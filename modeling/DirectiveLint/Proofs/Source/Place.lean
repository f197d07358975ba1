import DirectiveLint.Proofs.Source.Step

/-!
# Where comments stand in a text

The scanner is followed from state to state.  Its position and the rest of the
text stay in step, except that an escape at the end of the text may lead beyond
it, where nothing is left to find.  So every comment that is found stands in the
text at the offsets that it names, and no comment reaches into the next one.
-/

namespace DirectiveLint
namespace Source

/-- Whether a comment stands in a text that begins at an offset. -/
def Lexeme.StandsIn (offset : Nat) (text : List Char) (lexeme : Lexeme) : Prop :=
  ∃ before suffix tail, text = before ++ suffix ∧
    Begins (offset + before.length) lexeme suffix tail

namespace Lexeme.StandsIn

variable {offset : Nat} {text : List Char} {lexeme : Lexeme}

theorem append (front : List Char) (stands : lexeme.StandsIn (offset + front.length) text) :
    lexeme.StandsIn offset (front ++ text) := by
  rcases stands with ⟨before, suffix, tail, rfl, begins⟩
  refine ⟨front ++ before, suffix, tail, by rw [List.append_assoc], ?_⟩
  rw [List.length_append, ← Nat.add_assoc]
  exact begins

theorem ne_nil (stands : lexeme.StandsIn offset text) : text ≠ [] := by
  rcases stands with ⟨before, suffix, tail, rfl, begins⟩
  rcases begins.exists_source with ⟨source, rfl, _, _, long⟩
  intro empty
  have length := congrArg List.length empty
  simp only [List.length_append, List.length_nil] at length
  omega

theorem offset_le_start (stands : lexeme.StandsIn offset text) : offset ≤ lexeme.start := by
  rcases stands with ⟨before, suffix, tail, _, begins⟩
  rcases begins.exists_source with ⟨source, _, start, _, _⟩
  omega

theorem start_lt_stop (stands : lexeme.StandsIn offset text) : lexeme.start < lexeme.stop := by
  rcases stands with ⟨before, suffix, tail, _, begins⟩
  rcases begins.exists_source with ⟨source, _, start, stop, _⟩
  omega

theorem stop_le (stands : lexeme.StandsIn offset text) : lexeme.stop ≤ offset + text.length := by
  rcases stands with ⟨before, suffix, tail, rfl, begins⟩
  rcases begins.exists_source with ⟨source, rfl, start, stop, _⟩
  simp only [List.length_append]
  omega

end Lexeme.StandsIn

namespace Scan

/-- The state after a passed stretch. -/
def afterPass (scan : Scan) (rest : List Char) (count : Nat) (braces : List Nat)
    (preceding : Preceding) : Scan :=
  ⟨scan.position + (count + 1), rest.drop count, braces, preceding⟩

theorem lexemes_of_rest_eq_nil {scan : Scan} (empty : scan.rest = []) : scan.lexemes = [] := by
  rw [lexemes]
  split
  · rfl
  · next character rest shape =>
      rw [empty] at shape
      cases shape

theorem lexemes_of_rest_eq_cons {scan : Scan} {character : Char} {rest : List Char}
    (shape : scan.rest = character :: rest) :
    scan.lexemes =
      (scan.step character rest).1.toList ++ (scan.step character rest).2.lexemes := by
  rw [lexemes]
  split
  · next empty =>
      rw [empty] at shape
      cases shape
  · next first others shape' =>
      cases shape.symm.trans shape'
      rfl

theorem lexemes_of_begins {scan : Scan} {lexeme : Lexeme} {tail : List Char}
    (begins : Begins scan.position lexeme scan.rest tail) :
    scan.lexemes = lexeme :: (scan.afterComment lexeme tail).lexemes := by
  rcases begins.exists_cons with ⟨rest, shape⟩
  rw [lexemes_of_rest_eq_cons shape, step_of_begins shape begins]
  rfl

theorem lexemes_of_passes {scan : Scan} {character : Char} {rest : List Char} {count : Nat}
    {braces : List Nat} {preceding : Preceding} (shape : scan.rest = character :: rest)
    (passes : scan.Passes character rest count braces preceding) :
    scan.lexemes = (scan.afterPass rest count braces preceding).lexemes := by
  rw [lexemes_of_rest_eq_cons shape, step_of_passes shape passes]
  rfl

/-- A blank leaves no trace in the state. -/
theorem step_of_blank (character : Char) (blank : Character.isBlank character = true)
    (noWord : isWordCharacter character = false) (position : Nat) (rest : List Char)
    (braces : List Nat) (preceding : Preceding) :
    (⟨position, character :: rest, braces, preceding⟩ : Scan).step character rest =
      (none, ⟨position + 1, rest, braces, preceding⟩) := by
  have differs : ∀ mark, Character.isBlank mark = false → character ≠ mark :=
    fun mark => Character.ne_of_isBlank blank
  have opens : (⟨position, character :: rest, braces, preceding⟩ : Scan).opening character rest =
      .code := by
    simp only [opening, differs '/' (by decide), differs '\'' (by decide),
      differs '"' (by decide), differs '\x60' (by decide), differs '{' (by decide),
      differs '}' (by decide), false_and, or_false, if_false]
  simp only [step, opens, passCode, noWord, blank, Bool.false_eq_true, if_false, if_true, advance,
    List.drop_succ_cons, List.drop_zero]

theorem lexemes_of_blank (character : Char) (blank : Character.isBlank character = true)
    (noWord : isWordCharacter character = false) (position : Nat) (rest : List Char)
    (braces : List Nat) (preceding : Preceding) :
    (⟨position, character :: rest, braces, preceding⟩ : Scan).lexemes =
      (⟨position + 1, rest, braces, preceding⟩ : Scan).lexemes := by
  rw [lexemes_of_rest_eq_cons rfl, step_of_blank character blank noWord]
  rfl

/-- Induction along a run of the scanner: a step that reports a comment, a step that passes a
stretch, and the end of the text. -/
theorem run_induction {motive : Scan → Prop}
    (finished : ∀ scan : Scan, scan.rest = [] → motive scan)
    (comment : ∀ (scan : Scan) (lexeme : Lexeme) (tail : List Char),
      Begins scan.position lexeme scan.rest tail → motive (scan.afterComment lexeme tail) →
        motive scan)
    (pass : ∀ (scan : Scan) (character : Char) (rest : List Char) (count : Nat)
      (braces : List Nat) (preceding : Preceding), scan.rest = character :: rest →
        scan.Passes character rest count braces preceding →
          motive (scan.afterPass rest count braces preceding) → motive scan)
    (scan : Scan) : motive scan := by
  induction scan using lexemes.induct with
  | case1 scan empty => exact finished scan empty
  | case2 scan character rest shape result inductionHypothesis =>
      rcases step_cases scan shape with ⟨lexeme, tail, begins⟩ | ⟨count, braces, preceding, passes⟩
      · have next : result.2 = scan.afterComment lexeme tail := by
          rw [show result = _ from step_of_begins shape begins]
        rw [next] at inductionHypothesis
        exact comment scan lexeme tail begins inductionHypothesis
      · have next : result.2 = scan.afterPass rest count braces preceding := by
          rw [show result = _ from step_of_passes shape passes]
          rfl
        rw [next] at inductionHypothesis
        exact pass scan character rest count braces preceding shape passes inductionHypothesis

/-- What stands in the text behind a passed stretch stands in the text. -/
theorem standsIn_of_afterPass {scan : Scan} {character : Char} {rest : List Char} {count : Nat}
    {lexeme : Lexeme} (shape : scan.rest = character :: rest)
    (stands : lexeme.StandsIn (scan.position + (count + 1)) (rest.drop count)) :
    lexeme.StandsIn scan.position scan.rest := by
  have within : count < rest.length :=
    Nat.lt_of_not_le fun beyond => stands.ne_nil (List.drop_eq_nil_of_le beyond)
  have length : (character :: rest.take count).length = count + 1 := by
    rw [List.length_cons, List.length_take_of_le (Nat.le_of_lt within)]
  have whole : scan.rest = (character :: rest.take count) ++ rest.drop count := by
    rw [shape, List.cons_append, List.take_append_drop]
  rw [whole]
  apply Lexeme.StandsIn.append
  rw [length]
  exact stands

/-- Every comment stands in the text where it says. -/
theorem standsIn_of_mem_lexemes (scan : Scan) :
    ∀ lexeme ∈ scan.lexemes, lexeme.StandsIn scan.position scan.rest := by
  induction scan using run_induction with
  | finished scan empty =>
      rw [lexemes_of_rest_eq_nil empty]
      simp
  | comment scan found tail begins inductionHypothesis =>
      intro lexeme member
      rw [lexemes_of_begins begins] at member
      rcases List.mem_cons.mp member with rfl | later
      · exact ⟨[], scan.rest, tail, rfl, begins⟩
      · rcases begins.exists_source with ⟨source, text, _, stop, _⟩
        rw [text]
        apply Lexeme.StandsIn.append
        rw [← stop]
        exact inductionHypothesis lexeme later
  | pass scan character rest count braces preceding shape passes inductionHypothesis =>
      intro lexeme member
      rw [lexemes_of_passes shape passes] at member
      exact standsIn_of_afterPass shape (inductionHypothesis lexeme member)

/-- No comment starts before the one in front of it has ended. -/
theorem pairwise_lexemes (scan : Scan) :
    scan.lexemes.Pairwise fun first second => first.stop ≤ second.start := by
  induction scan using run_induction with
  | finished scan empty =>
      rw [lexemes_of_rest_eq_nil empty]
      exact List.Pairwise.nil
  | comment scan found tail begins inductionHypothesis =>
      rw [lexemes_of_begins begins, List.pairwise_cons]
      refine ⟨?_, inductionHypothesis⟩
      intro later member
      exact (standsIn_of_mem_lexemes _ later member).offset_le_start
  | pass scan character rest count braces preceding shape passes inductionHypothesis =>
      rw [lexemes_of_passes shape passes]
      exact inductionHypothesis

end Scan
end Source
end DirectiveLint
