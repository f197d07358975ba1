import DirectiveLint.CommandLine.Lint
import DirectiveLint.Proofs.Checker.DirectEvaluation
import DirectiveLint.Proofs.Diagnostic.JsonLine
import DirectiveLint.Proofs.FileTree.Writing

/-!
# Writing the results of linting

The command ends with the exit code for its results exactly if it can write them;
otherwise it is interrupted.  A file for the output has to be opened, which leaves
it empty.  The lines are then made and written one after the other.  A line cannot
be made if a number in it is too long to be written.  A line of text cannot be
written if the message in it holds half of a surrogate pair, whereas a line of JSON
text is plain whatever the message.
-/

namespace DirectiveLint
namespace CommandLine

/-- Whether the file for the output can be opened, if there is one. -/
def OpensOutput (tree : FileTree) (standpoint : Standpoint) (file : Option String) : Prop :=
  ∀ name, file = some name → name ≠ "-" →
    ∃ path opened, standpoint.locate name = .ok path ∧ tree.createText path "" = .ok opened

/-- Whether a diagnostic can be written in a format. -/
def OutputFormat.Fits (format : OutputFormat) (diagnostic : Diagnostic) : Prop :=
  match format with
  | .json => diagnostic.HasWritableNumbers
  | _ => diagnostic.location.isWritable = true ∧ diagnostic.message.isPlain = true

section

variable {tree : FileTree} {standpoint : Standpoint} {file : Option String}
  {texts : List LooseText}

theorem encodingFault?_eq_none_iff :
    encodingFault? texts = none ↔ ∀ text ∈ texts, text.isPlain = true := by
  unfold encodingFault?
  split <;> simp_all

/-- Texts are delivered without a fault if they can be opened a file for and all have bytes. -/
theorem fault_deliver_eq_none_iff :
    (deliver tree standpoint file texts).fault = none ↔
      OpensOutput tree standpoint file ∧ ∀ text ∈ texts, text.isPlain = true := by
  rw [← encodingFault?_eq_none_iff]
  unfold deliver OpensOutput
  cases file with
  | none => simp
  | some name =>
      by_cases output : name = "-"
      · simp [output]
      · simp only [beq_iff_eq, output, if_false, Option.some.injEq, forall_eq', ne_eq,
          not_false_eq_true, forall_true_left]
        cases located : standpoint.locate name with
        | error fault => simp
        | ok path =>
            simp only [Except.ok.injEq, exists_and_left, exists_eq_left']
            -- The file is opened for whatever is written, so it may as well be left empty.
            cases created : tree.createText path (encodable texts) with
            | ok after =>
                simp [FileTree.exists_create_of_create created (Text.encodeUtf8 ""),
                  FileTree.createText]
            | error failure =>
                simp only [reduceCtorEq, false_iff, not_and]
                rintro ⟨opened, empty⟩
                rcases FileTree.exists_create_of_create empty
                  (Text.encodeUtf8 (encodable texts)) with ⟨after, again⟩
                rw [FileTree.createText, again] at created
                cases created

end

namespace Lint

/-- All lines are made and have bytes. -/
theorem madeLines_iff {lines : List (Except Failure LooseText)} :
    ((∀ text ∈ (madeLines lines).1, text.isPlain = true) ∧ (madeLines lines).2 = none) ↔
      ∀ line ∈ lines, ∃ text : String, line = .ok (.plain text) := by
  induction lines with
  | nil => simp [madeLines]
  | cons line rest inductionHypothesis =>
      rw [List.forall_mem_cons, ← inductionHypothesis]
      cases line with
      | error failure => simp [madeLines]
      | ok text =>
          simp only [madeLines, List.forall_mem_cons, LooseText.isPlain_append,
            LooseText.isPlain_plain, Bool.and_true, Except.ok.injEq, ← LooseText.isPlain_iff,
            and_assoc]

/-- Results that can be written give the exit code, and others interrupt the command. -/
theorem outcome_conclude (tree : FileTree) (standpoint : Standpoint) (arguments : LintArguments)
    (log : List LogEntry) (results : Results) :
    let written := OpensOutput tree standpoint arguments.outputFile ∧
      ∀ line ∈ render results arguments.output, ∃ text : String, line = .ok (.plain text)
    let outcome := (conclude tree standpoint arguments log results).outcome
    (written → outcome = .exit (exitCode results)) ∧
      (¬written → ∃ cause, outcome = .interrupted cause) := by
  intro written outcome
  have delivered : written ↔
      (deliver tree standpoint arguments.outputFile
        (madeLines (render results arguments.output)).1).fault = none ∧
        (madeLines (render results arguments.output)).2 = none := by
    rw [fault_deliver_eq_none_iff, and_assoc, madeLines_iff]
  rw [delivered]
  simp only [outcome, conclude]
  cases (deliver tree standpoint arguments.outputFile
    (madeLines (render results arguments.output)).1).fault with
  | some fault => simp
  | none => cases (madeLines (render results arguments.output)).2 <;> simp

theorem exists_elapsedText_zero : ∃ text, Results.elapsedText (.integer 0) = .ok text :=
  ⟨_, rfl⟩

/-- The results of one checker have a summary. -/
theorem exists_summary_ofDirectives (files : List String) (diagnostics : List Diagnostic)
    (count : Nat) : ∃ text, (Results.ofDirectives files diagnostics count).summary = .ok text := by
  rcases exists_elapsedText_zero with ⟨elapsed, shown⟩
  have different : (DirectiveEvidence.directivesKey ==
      Results.elapsedKey DirectiveEvidence.ruleName) = false := by decide
  have line : ∃ lines, (Results.ofDirectives files diagnostics count).checkerLines
      (Results.ofDirectives files diagnostics count).checkers = .ok lines := by
    simp [Results.checkerLines, Results.ofDirectives, Results.directiveStats, Value.fieldOf?,
      different, shown]
  rcases line with ⟨lines, line⟩
  simp only [Results.summary, line]
  exact ⟨_, rfl⟩

theorem exists_textLine_iff {diagnostic : Diagnostic} :
    (∃ text : String, orTooLong diagnostic.textLine? = .ok (.plain text)) ↔
      diagnostic.location.isWritable = true ∧ diagnostic.message.isPlain = true := by
  unfold Diagnostic.textLine? Location.text?
  cases diagnostic.location.isWritable with
  | false => simp [orTooLong]
  | true =>
      simp only [if_true, Option.map_some, orTooLong, Except.ok.injEq]
      rw [← LooseText.isPlain_iff]
      simp

theorem exists_jsonLine_iff {diagnostic : Diagnostic} :
    (∃ text : String, orTooLong (diagnostic.jsonLine?.map LooseText.plain) = .ok (.plain text)) ↔
      diagnostic.HasWritableNumbers := by
  rw [Diagnostic.jsonLine?, Json.print?, ← Diagnostic.isWritable_toValue_iff]
  split <;> simp [orTooLong, *]

/-- The results of one checker can be written in a format if each diagnostic can. -/
theorem forall_mem_render_iff {files : List String} {diagnostics : List Diagnostic} {count : Nat}
    {format : OutputFormat} :
    (∀ line ∈ render (.ofDirectives files diagnostics count) format,
        ∃ text : String, line = .ok (.plain text)) ↔
      ∀ diagnostic ∈ diagnostics, format.Fits diagnostic := by
  rcases exists_summary_ofDirectives files diagnostics count with ⟨summary, summed⟩
  cases format with
  | json => simp [render, Results.ofDirectives, OutputFormat.Fits, exists_jsonLine_iff]
  | lines => simp [render, Results.ofDirectives, OutputFormat.Fits, exists_textLine_iff]
  | summary =>
      simp only [render, summed, List.forall_mem_append, List.forall_mem_singleton]
      simp [Results.ofDirectives, OutputFormat.Fits, exists_textLine_iff, Except.map]

end Lint
end CommandLine
end DirectiveLint
