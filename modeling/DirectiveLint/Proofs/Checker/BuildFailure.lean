import DirectiveLint.Proofs.Checker.Building
import DirectiveLint.Proofs.Policy.OptionFailure

/-!
# What is not reported when a runner is built

A runner of the standard registry is built from an object of rule entries.  If it
is not built, a fault of the configuration says why, with three exceptions.  The
options in a list with the level may not make a mapping.  A list of another shape
may hold too long an integer to be shown.  And what is not reported of options is
not reported here either.
-/

namespace DirectiveLint

open Failure (IsReported)

namespace Value

/-- Whether a value has two parts, the first of which may be a key. -/
def IsPair (value : Value) : Prop :=
  ∃ key entry, value.elements = .ok [key, entry] ∧ key.isKey = true

/-- Whether a value is an object, or yields pairs one by one. -/
def MakesMapping (value : Value) : Prop :=
  (∃ fields, value = .object fields) ∨
    ∃ elements, value.elements = .ok elements ∧ ∀ element ∈ elements, element.IsPair

end Value

namespace Mapping

theorem exists_pairOf_iff {element : Value} :
    (∃ pair, pairOf element = .ok pair) ↔ element.IsPair := by
  unfold pairOf Value.IsPair
  cases element.elements with
  | error fault => simp
  | ok parts =>
      rcases parts with _ | ⟨key, _ | ⟨value, _ | ⟨third, rest⟩⟩⟩
      · simp
      · simp
      · cases isKey : key.isKey <;> simp [isKey]
      · simp

theorem exists_addPairs_iff {mapping : Mapping} {elements : List Value} :
    (∃ result, addPairs mapping elements = .ok result) ↔
      ∀ element ∈ elements, element.IsPair := by
  induction elements generalizing mapping with
  | nil => simp [addPairs]
  | cons element rest inductionHypothesis =>
      rw [List.forall_mem_cons, ← exists_pairOf_iff]
      simp only [addPairs]
      cases pairOf element with
      | error fault => simp
      | ok pair => simp [inductionHypothesis]

theorem exists_ofValue_iff {value : Value} :
    (∃ mapping, ofValue value = .ok mapping) ↔ value.MakesMapping := by
  unfold ofValue Value.MakesMapping
  split
  · next fields => simp
  · next noObject =>
      have left : ¬∃ fields, value = .object fields := by
        rintro ⟨fields, same⟩
        exact noObject fields same
      simp only [left, false_or]
      cases value.elements with
      | error fault => simp
      | ok elements => simp [exists_addPairs_iff]

end Mapping

namespace RuleEntry

theorem not_escapes_ofLevel {level : Value} {options : Mapping} :
    ¬Except.Escapes IsReported (ofLevel level options) := by
  unfold ofLevel
  split <;> simp

/-- Whether an entry is a list of a level and what makes no mapping, or of neither one nor two items
that cannot all be written. -/
def IsUnfit : Value → Prop
  | .list [] => False
  | .list [_] => False
  | .list [_, options] => ¬options.MakesMapping
  | .list items => Value.areWritable items = false
  | _ => False

theorem escapes_ofValue_iff {entry : Value} :
    Except.Escapes IsReported (ofValue entry) ↔ IsUnfit entry := by
  unfold ofValue
  split
  · simp [IsUnfit]
  · simp [IsUnfit, not_escapes_ofLevel]
  · simp [IsUnfit, not_escapes_ofLevel]
  · next level options =>
      rw [IsUnfit, ← Mapping.exists_ofValue_iff]
      cases made : Mapping.ofValue options with
      | error fault => simp
      | ok mapping => simp [not_escapes_ofLevel]
  · next items notOne notTwo =>
      rw [Except.escapes_error_iff, Failure.isReported_ofFault_iff]
      rcases items with _ | ⟨level, _ | ⟨options, _ | ⟨third, rest⟩⟩⟩
      · simp [IsUnfit, ConfigurationFault.shownValues, Value.isWritable, Value.areWritable]
      · exact absurd rfl (notOne level)
      · exact absurd rfl (notTwo level options)
      · simp [IsUnfit, ConfigurationFault.shownValues, Value.isWritable]
  · next noList =>
      rw [iff_false_left not_escapes_ofLevel]
      cases entry with
      | list items => exact absurd rfl (noList items)
      | _ => exact not_false

end RuleEntry

namespace Runner

/-- The entry that the fields of an object have for the rule. -/
def entryOf (fields : List (LooseText × Value)) : Value :=
  (Value.fieldOf? DirectiveEvidence.ruleName fields).getD .null

/-- Whether a failure escapes at the entry of the rule: it is a list that is of no use and cannot be
reported, or it is on and a failure escapes at its options. -/
def EntryBreaks (entry : Value) : Prop :=
  RuleEntry.IsUnfit entry ∨
    ∃ severity options, RuleEntry.ofValue entry = .ok ⟨some severity, options⟩ ∧
      PolicyConfiguration.OptionsBreak options

/-- Whether a failure escapes when a runner is built from the fields of an object: they are entries
of the rule, and a failure escapes at the entry that it gets. -/
def Breaks (fields : List (LooseText × Value)) : Prop :=
  (∀ field ∈ fields, field.1 = .plain DirectiveEvidence.ruleName) ∧ EntryBreaks (entryOf fields)

/-- The names of an object are texts, so the unknown ones among them can be listed. -/
theorem checkNames_ofFields (fields : List (LooseText × Value)) :
    ¬Except.Escapes IsReported (checkNames .standard (Mapping.ofFields fields)) ∧
      (checkNames .standard (Mapping.ofFields fields) = .ok () ↔
        ∀ field ∈ fields, field.1 = .plain DirectiveEvidence.ruleName) := by
  have registered : Registry.standard.names = [DirectiveEvidence.ruleName] :=
    List.mergeSort_singleton _
  have unknown : (Mapping.ofFields fields).keys.filter (fun key =>
      !Registry.standard.names.any fun name => key.same (.text name)) =
        ((fields.map Prod.fst).filter (· != .plain DirectiveEvidence.ruleName)).map Value.text := by
    rw [registered]
    simp only [Mapping.keys, Mapping.ofFields, List.map_map, List.filter_map, Function.comp_def,
      List.any_cons, List.any_nil, Bool.or_false, Value.text_same_text, bne]
  have read := Mapping.textKeys_eq_ok_iff.mpr unknown
  have none : (fields.map Prod.fst).filter (· != .plain DirectiveEvidence.ruleName) = [] ↔
      ∀ field ∈ fields, field.1 = .plain DirectiveEvidence.ruleName := by
    simp [List.filter_eq_nil_iff]
  rw [← none]
  simp only [checkNames, read]
  cases (fields.map Prod.fst).filter (· != .plain DirectiveEvidence.ruleName) with
  | nil => simp
  | cons first rest => simp

theorem escapes_applyEntry_iff {entry : RuleEntry} :
    Except.Escapes IsReported (applyEntry (Checker.create directiveRule) entry).result ↔
      ∃ severity, entry.severity = some severity ∧
        PolicyConfiguration.OptionsBreak entry.options := by
  rcases entry with ⟨severity, options⟩
  cases severity with
  | none => simp [applyEntry, Logged.noting]
  | some severity =>
      rw [applyEntry_directiveRule]
      simp only [← PolicyConfiguration.escapes_ofOptions_iff]
      cases PolicyConfiguration.ofOptions options with
      | error failure => simp [Logged.quiet]
      | ok configuration => simp [Logged.noting]

theorem escapes_buildChecker_iff {fields : List (LooseText × Value)} :
    Except.Escapes IsReported (buildChecker (Mapping.ofFields fields) directiveRule).result ↔
      EntryBreaks (entryOf fields) := by
  have found : entryFor (Mapping.ofFields fields) directiveRule.name =
      RuleEntry.ofValue (entryOf fields) := by
    rw [entryFor, Mapping.find?_ofFields]
    rfl
  rw [result_buildChecker, found, Except.escapes_bind_iff, RuleEntry.escapes_ofValue_iff,
    EntryBreaks]
  -- An entry that switches the rule off has options, but they are not taken in.
  apply or_congr Iff.rfl
  simp only [escapes_applyEntry_iff]
  constructor
  · rintro ⟨⟨_, options⟩, read, severity, rfl, breaks⟩
    exact ⟨severity, options, read, breaks⟩
  · rintro ⟨severity, options, read, breaks⟩
    exact ⟨⟨some severity, options⟩, read, severity, rfl, breaks⟩

/-- A runner that is not built has a fault of the configuration, unless a failure escapes for one of
the known reasons. -/
theorem escapes_build_iff (fields : List (LooseText × Value)) :
    Except.Escapes IsReported (build .standard (.object fields) .null).result ↔ Breaks fields := by
  have taken : Mapping.ofOptional (.object fields) = .ok (Mapping.ofFields fields) := by
    cases fields <;> rfl
  have steps : (build .standard (.object fields) .null).result =
      (checkNames .standard (Mapping.ofFields fields)).bind fun _ =>
        (buildCheckers (Mapping.ofFields fields) [directiveRule]).result.bind fun checkers =>
          .ok ⟨checkers⟩ := by
    unfold build
    rw [taken]
    dsimp only
    unfold ofMapping
    cases checkNames .standard (Mapping.ofFields fields) with
    | error failure => rfl
    | ok _ =>
        dsimp only
        rw [Logged.andThen_result]
        change (Logged.andThen _ _).result = _
        rw [Logged.andThen_result]
        rfl
  have single : (buildCheckers (Mapping.ofFields fields) [directiveRule]).result =
      (buildChecker (Mapping.ofFields fields) directiveRule).result.bind fun checker =>
        .ok (checker.toList.map (⟨directiveRule, ·⟩) ++ []) := by
    rw [buildCheckers, Logged.andThen_result]
    rfl
  rcases checkNames_ofFields fields with ⟨reported, named⟩
  rw [steps, Except.escapes_bind_iff, Breaks, ← named]
  simp only [reported, false_or, Except.escapes_bind_ok_iff, single, escapes_buildChecker_iff]
  constructor
  · rintro ⟨_, known, breaks⟩
    exact ⟨known, breaks⟩
  · rintro ⟨known, breaks⟩
    exact ⟨(), known, breaks⟩

end Runner
end DirectiveLint
