import DirectiveLint.Proofs.Checker.Merging
import DirectiveLint.Proofs.Checker.Suggestions
import DirectiveLint.Proofs.Diagnostic.Passes

/-!
# Suggestions make a text longer

An edit for an `ignore` directive covers a comment and brings it back with six
more characters, and with the delimiter that the end of the text may have cut
off.  So every edit is longer than its range.  Besides the letters of the new
directive it only brings characters that the text holds already.
-/

namespace DirectiveLint

open Source DirectiveEvidence

namespace Source

variable {position : Nat} {lexeme : Lexeme} {text tail : List Char}

/-- A comment is no longer than its value between delimiters. -/
theorem Begins.stop_le (begins : Begins position lexeme text tail) :
    lexeme.stop ≤ lexeme.start + (delimited lexeme.kind lexeme.value).length := by
  cases begins with
  | line oneLine ends => simp [delimited, Nat.add_assoc]
  | block tail noClose => simp [delimited, Nat.add_assoc]
  | cutOff noClose => simp [delimited, Nat.add_assoc]

theorem Begins.mem_of_mem_value (begins : Begins position lexeme text tail) {character : Char}
    (member : character ∈ lexeme.value) : character ∈ text := by
  cases begins with
  | line oneLine ends => simp [member]
  | block tail noClose => simp [member]
  | cutOff noClose => simp [member]

theorem length_delimited (kind : CommentKind) (value : List Char) :
    (delimited kind value).length = (delimited kind []).length + value.length := by
  cases kind <;> simp [delimited] <;> omega

theorem mem_of_mem_delimited {kind : CommentKind} {value : List Char} {character : Char}
    (member : character ∈ delimited kind value) :
    character = '/' ∨ character = '*' ∨ character ∈ value := by
  cases kind with
  | line =>
      simp only [delimited, List.mem_cons] at member
      rcases member with slash | slash | within
      · exact Or.inl slash
      · exact Or.inl slash
      · exact Or.inr (Or.inr within)
  | block =>
      simp only [delimited, List.mem_cons, List.mem_append, List.not_mem_nil, or_false] at member
      rcases member with slash | asterisk | within | asterisk | slash
      · exact Or.inl slash
      · exact Or.inr (Or.inl asterisk)
      · exact Or.inr (Or.inr within)
      · exact Or.inr (Or.inl asterisk)
      · exact Or.inl slash

/-- The new value is the old one with six more characters in it, which are those of the new
directive. -/
theorem Lexeme.exists_of_expectError? {value : List Char}
    (changed : lexeme.expectError? = some value) :
    ∃ lead rest, lexeme.value = lead ++ (Evaluator.ignoreText.toList ++ rest) ∧
      value = lead ++ (Evaluator.expectErrorText.toList ++ rest) := by
  unfold Lexeme.expectError? at changed
  split at changed
  · next description found =>
      rcases Evaluator.ofCharacters?_ignore found with ⟨lead, rest, _, old, new, _⟩
      exact ⟨lead, rest, old, (Option.some.inj changed).symm.trans new⟩
  · cases changed

end Source

variable {text path : String} {edit : TextEdit}

theorem exists_of_mem_expectErrorEdits (member : edit ∈ expectErrorEdits text path) :
    ∃ (lexeme : Lexeme) (value : List Char), lexeme.expectError? = some value ∧
      edit = lexeme.respelling value ∧
      lexeme.StandsIn 0 text.toList := by
  rw [expectErrorEdits_eq_respellings] at member
  rcases List.mem_filterMap.mp member with ⟨lexeme, found, changed⟩
  rcases Option.map_eq_some_iff.mp changed with ⟨value, new, rfl⟩
  exact ⟨lexeme, value, new, rfl,
    Scan.standsIn_of_mem_lexemes (Scan.start text.toList) lexeme found⟩

/-- Every edit is longer than the comment that it covers. -/
theorem enlarges_of_mem_expectErrorEdits (member : edit ∈ expectErrorEdits text path) :
    edit.Enlarges := by
  rcases exists_of_mem_expectErrorEdits member with
    ⟨lexeme, value, changed, rfl, before, suffix, tail, whole, begins⟩
  rcases lexeme.exists_of_expectError? changed with ⟨lead, rest, old, new⟩
  have covered := begins.stop_le
  have longer : lexeme.value.length + 6 = value.length := by
    rw [old, new]
    simp [Evaluator.ignoreText, Evaluator.expectErrorText]
    omega
  rw [length_delimited] at covered
  simp only [TextEdit.Enlarges, Lexeme.respelling, String.toList_ofList]
  rw [length_delimited]
  omega

/-- No edit brings a carriage return into a text without one. -/
theorem not_mem_of_mem_expectErrorEdits (noReturn : '\r' ∉ text.toList)
    (member : edit ∈ expectErrorEdits text path) : '\r' ∉ edit.text.toList := by
  rcases exists_of_mem_expectErrorEdits member with
    ⟨lexeme, value, changed, rfl, before, suffix, tail, whole, begins⟩
  rcases lexeme.exists_of_expectError? changed with ⟨lead, rest, old, new⟩
  intro inEdit
  rw [Lexeme.respelling, String.toList_ofList] at inEdit
  rcases mem_of_mem_delimited inEdit with slash | asterisk | inValue
  · cases slash
  · cases asterisk
  · have inOld : '\r' ∈ lexeme.value := by
      have notNew : '\r' ∉ Evaluator.expectErrorText.toList := by
        decide
      rw [new, List.mem_append, List.mem_append] at inValue
      rw [old, List.mem_append, List.mem_append]
      rcases inValue with inLead | inNew | inRest
      · exact Or.inl inLead
      · exact absurd inNew notNew
      · exact Or.inr (Or.inr inRest)
    rw [whole] at noReturn
    exact noReturn (List.mem_append_right before (begins.mem_of_mem_value inOld))

/-! ## The edits of a run -/

/-- An evaluation brings no edits, or those for all `ignore` directives. -/
theorem editsOn_cases (evaluator : Evaluator) (text path : String) :
    editsOn evaluator (.ofText path text) = [] ∨
      editsOn evaluator (.ofText path text) = expectErrorEdits text path := by
  by_cases breaksDown : BreaksDownOn evaluator (.ofText path text)
  · exact Or.inl (editsOn_of_breaksDownOn breaksDown)
  · by_cases flags : evaluator.FlagsIgnore
    · exact Or.inr (editsOn_eq_expectErrorEdits flags breaksDown)
    · rw [editsOn_of_not_breaksDownOn breaksDown, if_neg flags]
      exact Or.inl rfl

variable {runner : Runner} {evaluator : Evaluator} {count : Nat}

/-- The edits of a run on a text make it longer with every pass. -/
theorem Runner.enlarging_editsFor_run (evaluates : runner.Evaluates evaluator count)
    (text path : String) :
    Enlarging text ((runner.run (.ofText path text)).results.editsFor path) := by
  rw [editsFor_run evaluates]
  rcases editsOn_cases evaluator text path with none | all
  · rw [none]
    exact ⟨count, [], rfl, trivial, by simp⟩
  · rw [all]
    exact ⟨count, expectErrorEdits text path, rfl, inOrder_expectErrorEdits text path,
      fun _ => enlarges_of_mem_expectErrorEdits⟩

/-- No edit of a run on a text without carriage returns brings one. -/
theorem Runner.not_mem_editsFor_run (evaluates : runner.Evaluates evaluator count)
    (noReturn : '\r' ∉ text.toList) :
    ∀ edit ∈ (runner.run (.ofText path text)).results.editsFor path, '\r' ∉ edit.text.toList := by
  rw [editsFor_run evaluates]
  intro edit member
  rcases List.mem_flatten.mp member with ⟨edits, copy, within⟩
  rw [List.eq_of_mem_replicate copy] at within
  rcases editsOn_cases evaluator text path with none | all
  · rw [none] at within
    cases within
  · rw [all] at within
    exact not_mem_of_mem_expectErrorEdits noReturn within

end DirectiveLint
