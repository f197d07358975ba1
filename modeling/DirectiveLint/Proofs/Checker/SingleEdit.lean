import DirectiveLint.Proofs.Checker.MergeLaws
import DirectiveLint.Proofs.Policy.Reevaluation
import DirectiveLint.Proofs.Source.CommentSpan

/-!
# What one edit leaves as it was

A suggestion rewrites its comment from kind and value.  If the comment is closed,
this gives back its delimiters, so the edit changes the keyword of the directive
and nothing else in the text.  A block comment that the end of the text cuts off
has no closing delimiter to give back, and the edit adds one.
-/

namespace DirectiveLint

/-- An edit of a stretch of a text leaves what stands around it. -/
theorem TextEdit.applyTo_append (before source after : List Char) {edit : TextEdit}
    (start : edit.start = before.length) (stop : edit.stop = before.length + source.length) :
    edit.applyTo (before ++ (source ++ after)) = before ++ (edit.text.toList ++ after) := by
  have length : (before ++ (source ++ after)).length =
      before.length + source.length + after.length := by
    rw [List.length_append, List.length_append, Nat.add_assoc]
  have startPlace : placeOf (before ++ (source ++ after)).length edit.start = before.length := by
    rw [placeOf_of_le (by omega) (by omega), start, Int.toNat_natCast]
  have stopPlace : placeOf (before ++ (source ++ after)).length edit.stop =
      (before ++ source).length := by
    rw [placeOf_of_le (by omega) (by omega), stop, List.length_append]
    omega
  rw [applyTo, startPlace, stopPlace, List.take_left, ← List.append_assoc before, List.drop_left,
    List.append_assoc]

/-- Whether a text comes from another one by putting `@ts-expect-error` in the place of one
`@ts-ignore` within a span. -/
def ExchangesWithin (span : Span) (text other : List Char) : Prop :=
  ∃ before after : List Char,
    text = before ++ ("@ts-ignore".toList ++ after) ∧
    span.start ≤ before.length ∧ (before ++ "@ts-ignore".toList).length ≤ span.stop ∧
    other = before ++ ("@ts-expect-error".toList ++ after)

theorem ExchangesWithin.length_eq {span : Span} {text other : List Char}
    (exchanges : ExchangesWithin span text other) :
    other.length = text.length + ("@ts-expect-error".length - "@ts-ignore".length) := by
  rcases exchanges with ⟨before, after, rfl, _, _, rfl⟩
  simp only [List.length_append]
  have ignore : "@ts-ignore".toList.length = 10 := rfl
  have expectError : "@ts-expect-error".toList.length = 16 := rfl
  have difference : "@ts-expect-error".length - "@ts-ignore".length = 6 := rfl
  omega

namespace Comment

variable {text file : String} {comment : Comment}

/-- A scanned comment stands in the text at its span, in one of three shapes. -/
theorem exists_around (member : comment ∈ scanComments text file) :
    ∃ before after : List Char,
      text.toList = before ++ (comment.sourceIn text ++ after) ∧
      comment.span.start = before.length ∧
      comment.span.stop = before.length + (comment.sourceIn text).length ∧
      ((comment.kind = .line ∧ comment.IsLineIn text) ∨
        (comment.kind = .block ∧ (comment.IsBlockIn text ∨ comment.IsCutOffIn text))) := by
  rcases List.mem_map.mp member with ⟨lexeme, found, rfl⟩
  rcases Source.Scan.standsIn_of_mem_lexemes (Source.Scan.start text.toList) lexeme found with
    ⟨before, suffix, tail, whole, begins⟩
  have position : (Source.Scan.start text.toList).position + before.length = before.length :=
    Nat.zero_add _
  rw [position] at begins
  change text.toList = before ++ suffix at whole
  rcases begins.exists_source with ⟨source, rfl, start, stop, _⟩
  have covered : (lexeme.toComment (LineIndex.ofText file text.toList)).sourceIn text = source :=
    sourceIn_toComment whole start stop
  refine ⟨before, tail, ?_, ?_, ?_, shape_of_begins whole begins⟩
  · rw [covered]
    exact whole
  · exact congrArg Int.ofNat start
  · rw [covered]
    exact (congrArg Int.ofNat stop).trans (Int.natCast_add _ _)

/-- A cut off comment has no closing delimiter in the text, so it is neither of the others. -/
theorem IsCutOffIn.not_isLineIn (cutOff : comment.IsCutOffIn text) : ¬ comment.IsLineIn text := by
  intro line
  have same := cutOff.source.symm.trans line.source
  rw [String.toList_append, String.toList_append] at same
  cases same

theorem IsCutOffIn.not_isBlockIn (cutOff : comment.IsCutOffIn text) :
    ¬ comment.IsBlockIn text := by
  intro block
  have same := congrArg List.length (cutOff.source.symm.trans block.source)
  simp at same

/-- What stands around the value of a comment in the text, and what is missing there to close it. -/
theorem exists_delimiters
    (shape : (comment.kind = .line ∧ comment.IsLineIn text) ∨
      (comment.kind = .block ∧ (comment.IsBlockIn text ∨ comment.IsCutOffIn text))) :
    ∃ opening closing missing : String,
      comment.sourceIn text = (opening ++ comment.value ++ closing).toList ∧
      (∀ value, comment.kind.wrap value = opening ++ value ++ closing ++ missing) ∧
      ((¬ comment.IsCutOffIn text ∧ missing = "") ∨
        (comment.IsCutOffIn text ∧ missing = "*/")) := by
  rcases shape with ⟨kind, line⟩ | ⟨kind, block | cutOff⟩
  · refine ⟨"//", "", "", ?_, ?_, Or.inl ⟨fun cutOff => cutOff.not_isLineIn line, rfl⟩⟩
    · rw [line.source, String.append_empty]
    · intro value
      rw [kind, CommentKind.wrap, String.append_empty, String.append_empty]
  · refine ⟨"/*", "*/", "", block.source, ?_,
      Or.inl ⟨fun cutOff => cutOff.not_isBlockIn block, rfl⟩⟩
    intro value
    rw [kind, CommentKind.wrap, String.append_empty]
  · refine ⟨"/*", "", "*/", ?_, ?_, Or.inr ⟨cutOff, rfl⟩⟩
    · rw [cutOff.source, String.append_empty]
    · intro value
      rw [kind, CommentKind.wrap, String.append_empty]

/-- The edit for a scanned comment with an `ignore` directive exchanges the keyword, and closes the
comment if it is cut off. -/
theorem exists_exchangesWithin {description : String} (member : comment ∈ scanComments text file)
    (found : matchDirective comment = some ⟨.ignore, description⟩) :
    ∃ exchanged missing, ExchangesWithin comment.span text.toList exchanged ∧
      (Evaluator.expectErrorEdit comment).applyTo text.toList = exchanged ++ missing ∧
      ((¬ comment.IsCutOffIn text ∧ missing = []) ∨
        (comment.IsCutOffIn text ∧ missing = "*/".toList)) := by
  rcases exists_around member with ⟨before, after, whole, start, stop, shape⟩
  rcases exists_delimiters shape with ⟨opening, closing, missing, source, wrapped, closes⟩
  rcases Evaluator.exists_withExpectError found with ⟨front, behind, _, old, new, _⟩
  have applied : (Evaluator.expectErrorEdit comment).applyTo text.toList =
      before ++ ((opening ++ (front ++ "@ts-expect-error" ++ behind) ++ closing ++
        missing).toList ++ after) := by
    rw [whole, TextEdit.applyTo_append before (comment.sourceIn text) after start stop,
      Evaluator.expectErrorEdit, new, wrapped]
  -- What is missing is put at the end of the comment.  If it is anything, the text ends there.
  have atEnd : missing.toList ++ after = after ++ missing.toList := by
    rcases closes with ⟨_, rfl⟩ | ⟨cutOff, _⟩
    · simp
    · have length := congrArg List.length whole
      have stops := cutOff.atEnd
      rw [List.length_append, List.length_append, String.length_toList] at length
      have none : after = [] := List.length_eq_zero_iff.mp (by omega)
      simp [none]
  rw [source, old] at whole stop
  refine ⟨_, missing.toList, ⟨before ++ (opening.toList ++ front.toList),
    behind.toList ++ (closing.toList ++ after), ?_, ?_, ?_, rfl⟩, ?_, ?_⟩
  · rw [whole]
    simp only [String.toList_append, List.append_assoc]
  · rw [start, List.length_append]
    omega
  · rw [stop]
    simp only [String.toList_append, List.length_append]
    omega
  · rw [applied]
    simp only [String.toList_append, List.append_assoc, atEnd]
  · exact closes.imp (And.imp_right (congrArg String.toList))
      (And.imp_right (congrArg String.toList))

end Comment

/-- A suggestion comes with a report on an `ignore` directive, and its edit is the one for the
comment. -/
theorem Evaluator.exists_of_mem_suggestions {evaluator : Evaluator} {comment : Comment}
    {diagnostic : Diagnostic} (reported : evaluator.evaluate comment = .ok (some diagnostic))
    {suggestion : Suggestion} (offered : suggestion ∈ diagnostic.suggestions) :
    diagnostic.span = some comment.span ∧ suggestion.edit = expectErrorEdit comment ∧
      ∃ description, matchDirective comment = some ⟨.ignore, description⟩ := by
  rcases evaluate_eq_some_iff.mp reported with
    ⟨⟨directive, description⟩, id, found, decides, reports⟩
  rw [reports.suggestions] at offered
  cases id with
  | ignoreInsteadOfExpectError =>
      have same : directive = .ignore := (decides.eq_advice_iff.mp rfl).1
      rw [List.mem_singleton.mp offered]
      exact ⟨reports.span, rfl, description, same ▸ found⟩
  | _ => cases offered

/-- For every runner that is built from options and has seen any files, and every suggestion that it
offers on a text: the edit of the suggestion exchanges one `@ts-ignore` within the span of a comment
for `@ts-expect-error` and changes nothing else, unless the end of the text cuts the comment off.
Then it also adds a closing delimiter at the end of the text. -/
theorem Runner.applyTo_suggestion {options selection : Value} {runner : Runner}
    (built : (build .standard options selection).result = .ok runner) (files : List SourceFile)
    (text path : String) {diagnostic : Diagnostic}
    (reported : diagnostic ∈ ((runner.after files).run (.ofText path text)).results.diagnostics)
    {suggestion : Suggestion} (offered : suggestion ∈ diagnostic.suggestions) :
    ∃ comment ∈ scanComments text path, diagnostic.span = some comment.span ∧
      (ExchangesWithin comment.span text.toList (suggestion.edit.applyTo text.toList) ↔
        ¬ comment.IsCutOffIn text) ∧
      (comment.IsCutOffIn text →
        ∃ exchanged, ExchangesWithin comment.span text.toList exchanged ∧
          suggestion.edit.applyTo text.toList = exchanged ++ "*/".toList) := by
  rcases exists_evaluates_of_build built with ⟨evaluator, count, evaluates⟩
  have within := mem_reportsOn_of_mem_run (evaluates_after evaluates files) reported
  rcases DirectiveEvidence.exists_of_mem_reportsOn within with ⟨comment, scanned, made⟩ | ⟨_, rfl⟩
  · change comment ∈ scanComments text path at scanned
    rcases Evaluator.exists_of_mem_suggestions made offered with ⟨span, edit, description, found⟩
    rcases Comment.exists_exchangesWithin scanned found with
      ⟨exchanged, missing, exchanges, applied, closed⟩
    refine ⟨comment, scanned, span, ?_, ?_⟩
    · rw [edit, applied]
      rcases closed with ⟨whole, rfl⟩ | ⟨cutOff, rfl⟩
      · rw [List.append_nil]
        exact iff_of_true exchanges whole
      · refine iff_of_false ?_ (not_not_intro cutOff)
        intro again
        have length := again.length_eq
        rw [List.length_append, exchanges.length_eq] at length
        exact absurd length (by simp)
    · intro cutOff
      rcases closed with ⟨whole, _⟩ | ⟨_, rfl⟩
      · exact absurd cutOff whole
      · exact ⟨exchanged, exchanges, by rw [edit, applied]⟩
  · cases offered

/-- The edits that a new runner without options offers on a text, for each diagnostic. -/
def offersOn (text path : String) : Option (List (List TextEdit)) :=
  (Runner.build .standard .null .null).result.toOption.map fun runner =>
    (runner.run (.ofText path text)).results.diagnostics.map fun diagnostic =>
      diagnostic.suggestions.map (·.edit)

/-- A comment that is never closed gets a closing delimiter. -/
theorem Runner.applyTo_suggestion_cutOff :
    ∃ runner diagnostic suggestion,
      (build .standard .null .null).result = .ok runner ∧
      diagnostic ∈ ((runner.after []).run (.ofText "a.ts" "/*@ts-ignore")).results.diagnostics ∧
      suggestion ∈ diagnostic.suggestions ∧
      suggestion.edit.applyTo "/*@ts-ignore".toList = "/*@ts-expect-error*/".toList ∧
      ∃ comment ∈ scanComments "/*@ts-ignore" "a.ts", diagnostic.span = some comment.span ∧
        comment.IsCutOffIn "/*@ts-ignore" ∧
        ¬ ExchangesWithin comment.span "/*@ts-ignore".toList "/*@ts-expect-error*/".toList := by
  have offered : offersOn "/*@ts-ignore" "a.ts" = some [[⟨0, 12, "/*@ts-expect-error*/"⟩]] := by
    decide +kernel
  have cutOff : ∀ comment ∈ scanComments "/*@ts-ignore" "a.ts",
      comment.IsCutOffIn "/*@ts-ignore" := by
    have only : scanComments "/*@ts-ignore" "a.ts" =
        [⟨.block, "@ts-ignore", ⟨0, 12, ⟨"a.ts", 1, 1⟩, ⟨"a.ts", 1, 13⟩⟩⟩] := by
      decide +kernel
    intro comment member
    rw [only, List.mem_singleton] at member
    rw [member]
    exact ⟨by decide +kernel, by decide +kernel, by decide +kernel⟩
  unfold offersOn at offered
  rcases Option.map_eq_some_iff.mp offered with ⟨runner, made, edits⟩
  have built := Except.eq_ok_of_toOption_eq_some made
  rcases List.map_eq_singleton_iff.mp edits with ⟨diagnostic, diagnostics, here⟩
  rcases List.map_eq_singleton_iff.mp here with ⟨suggestion, suggestions, edit⟩
  have reported : diagnostic ∈
      ((runner.after []).run (.ofText "a.ts" "/*@ts-ignore")).results.diagnostics := by
    change diagnostic ∈ (runner.run _).results.diagnostics
    rw [diagnostics]
    exact List.mem_singleton_self _
  have within : suggestion ∈ diagnostic.suggestions := by
    rw [suggestions]
    exact List.mem_singleton_self _
  have applied : suggestion.edit.applyTo "/*@ts-ignore".toList =
      "/*@ts-expect-error*/".toList := by
    rw [edit]
    decide
  rcases applyTo_suggestion built [] "/*@ts-ignore" "a.ts" reported within with
    ⟨comment, scanned, span, exchanges, _⟩
  rw [applied] at exchanges
  have never := cutOff comment scanned
  exact ⟨runner, diagnostic, suggestion, built, reported, within, applied, comment, scanned, span,
    never, fun exchanged => exchanges.mp exchanged never⟩

end DirectiveLint
