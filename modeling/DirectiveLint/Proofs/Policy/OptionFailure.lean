import DirectiveLint.Proofs.Escape
import DirectiveLint.Proofs.Policy.Options
import Mathlib.Data.List.Forall2

/-!
# What is not reported of options

Options that are not accepted are reported as a fault of the configuration, with
three exceptions.  A key that is not a text is not reported.  Neither is a value
that is of no use and holds too long an integer to be shown.  And neither is a
pattern that goes beyond a limit of the pattern reader.  The policies are read
one directive after the other, and so are the patterns after them; the first that
is not read ends it.
-/

namespace DirectiveLint

/-- Whether a fault of a pattern is a limit that the pattern goes beyond. -/
def Pattern.Fault.IsLimit : Pattern.Fault → Prop
  | .malformed _ _ => False
  | .unusable _ => False
  | _ => True

/-- Whether a failure is reported as a fault of the configuration. -/
def Failure.IsReported (failure : Failure) : Prop :=
  ∃ fault, failure = .configuration fault

@[simp] theorem Failure.isReported_configuration (fault : ConfigurationFault) :
    IsReported (.configuration fault) :=
  ⟨fault, rfl⟩

@[simp] theorem Failure.not_isReported_tooManyDigits : ¬IsReported .tooManyDigits := by
  rintro ⟨other, impossible⟩
  cases impossible

@[simp] theorem Failure.isReported_ofFault_iff {fault : ConfigurationFault} :
    IsReported (.ofFault fault) ↔ ∀ value ∈ fault.shownValues, value.isWritable = true := by
  unfold ofFault
  split <;> simp_all

@[simp] theorem Failure.not_isReported_conversion (fault : ConversionFault) :
    ¬IsReported (.conversion fault) := by
  rintro ⟨other, impossible⟩
  cases impossible

@[simp] theorem Failure.not_isReported_patternLimit (fault : Pattern.Fault) :
    ¬IsReported (.patternLimit fault) := by
  rintro ⟨other, impossible⟩
  cases impossible

namespace Value

/-- Whether a value is a text. -/
def IsText (value : Value) : Prop :=
  ∃ text, value = .text text

/-- Whether a value is an integer or a floating-point number. -/
def IsNumber (value : Value) : Prop :=
  (∃ whole, value = .integer whole) ∨ ∃ number, value = .real number

/-- Whether a value is an object. -/
def IsObject (value : Value) : Prop :=
  ∃ fields, value = .object fields

theorem same_text_iff {value : Value} {text : LooseText} :
    value.same (.text text) = true ↔ value = .text text := by
  cases value with
  | text other => simp [same, isNotANumber, alike, alikeScalar]
  | real number =>
      cases number <;>
        simp [same, isNotANumber, alike, alikeScalar, toInteger?]
  | _ => simp [same, isNotANumber, alike, alikeScalar, toInteger?]

theorem text_same_text (name key : LooseText) :
    (Value.text name).same (.text key) = (name == key) := by
  apply Bool.eq_iff_iff.mpr
  rw [same_text_iff, Value.text.injEq, beq_iff_eq]

end Value

namespace DescriptionFormat

/-- Whether a pattern is read. -/
def Compiles (source : LooseText) : Prop :=
  ∃ parsed, Pattern.compile (Pattern.convertNames source.letters) = .ok parsed

/-- Whether a pattern goes beyond a limit. -/
def HitsLimit (source : LooseText) : Prop :=
  ∃ fault, Pattern.compile (Pattern.convertNames source.letters) = .error fault ∧ fault.IsLimit

theorem exists_compile_iff {key : String} {source : LooseText} :
    (∃ format, compile key source = .ok format) ↔ Compiles source := by
  simp only [compile, Compiles]
  cases Pattern.compile (Pattern.convertNames source.letters) with
  | ok parsed => simp
  | error fault => simp

theorem escapes_compile_iff {key : String} {source : LooseText} :
    Except.Escapes Failure.IsReported (compile key source) ↔ HitsLimit source := by
  simp only [compile, HitsLimit]
  cases Pattern.compile (Pattern.convertNames source.letters) with
  | ok parsed => simp
  | error fault =>
      cases fault <;> simp [failureOf, Pattern.Fault.IsLimit]

end DescriptionFormat

theorem Mapping.find?_ofFields (fields : List (LooseText × Value)) (key : LooseText) :
    (ofFields fields).find? key = Value.fieldOf? key fields := by
  unfold find? ofFields Value.fieldOf?
  rw [List.find?_map, Option.map_map]
  simp only [Function.comp_def, Value.text_same_text]

theorem Mapping.textKeys_eq_ok_iff {keys : List Value} {names : List LooseText} :
    textKeys keys = .ok names ↔ keys = names.map Value.text := by
  induction keys generalizing names with
  | nil => cases names <;> simp [textKeys]
  | cons key rest inductionHypothesis =>
      cases names with
      | nil =>
          simp only [List.map_nil, reduceCtorEq, iff_false]
          intro read
          cases key with
          | text name =>
              simp only [textKeys] at read
              split at read <;> cases read
          | _ => cases read
      | cons name names =>
          simp only [List.map_cons, List.cons.injEq, ← inductionHypothesis]
          cases key with
          | text other =>
              simp only [textKeys]
              cases textKeys rest <;> simp
          | _ => simp [textKeys]

theorem Mapping.exists_textKeys_iff {keys : List Value} :
    (∃ names, textKeys keys = .ok names) ↔ ∀ key ∈ keys, key.IsText := by
  simp only [textKeys_eq_ok_iff]
  constructor
  · rintro ⟨names, rfl⟩ key member
    rcases List.mem_map.mp member with ⟨name, _, rfl⟩
    exact ⟨name, rfl⟩
  · intro texts
    induction keys with
    | nil => exact ⟨[], rfl⟩
    | cons key rest inductionHypothesis =>
        rw [List.forall_mem_cons] at texts
        rcases texts.1 with ⟨name, rfl⟩
        rcases inductionHypothesis texts.2 with ⟨names, rfl⟩
        exact ⟨name :: names, rfl⟩

namespace PolicyConfiguration

open Failure (IsReported)

variable {options : Mapping}

/-! ## Keys -/

/-- Whether a key is one that options may have. -/
def IsKnown (key : Value) : Prop :=
  ∃ known ∈ optionKeys, key = .text known

theorem mem_unknownKeys_iff {key : Value} :
    key ∈ unknownKeys options ↔ key ∈ options.keys ∧ ¬IsKnown key := by
  simp only [unknownKeys, List.mem_filter, Bool.not_eq_true', ← Bool.not_eq_true,
    List.any_eq_true, Value.same_text_iff, IsKnown]

theorem escapes_checkKeys_iff :
    Except.Escapes IsReported (checkKeys options) ↔ ∃ key ∈ options.keys, ¬key.IsText := by
  have unread : (∃ key ∈ options.keys, ¬key.IsText) ↔
      ¬∃ names, Mapping.textKeys (unknownKeys options) = .ok names := by
    rw [Mapping.exists_textKeys_iff]
    push Not
    apply exists_congr
    intro key
    rw [mem_unknownKeys_iff]
    constructor
    · rintro ⟨member, noText⟩
      refine ⟨⟨member, ?_⟩, noText⟩
      rintro ⟨known, _, same⟩
      exact noText ⟨known, same⟩
    · rintro ⟨⟨member, _⟩, noText⟩
      exact ⟨member, noText⟩
  rw [unread]
  unfold checkKeys
  cases Mapping.textKeys (unknownKeys options) with
  | error fault => simp
  | ok names =>
      dsimp only
      split <;> simp

theorem checkKeys_eq_ok_iff :
    checkKeys options = .ok () ↔ ∀ key ∈ options.keys, IsKnown key := by
  have known : (∀ key ∈ options.keys, IsKnown key) ↔ unknownKeys options = [] := by
    rw [List.eq_nil_iff_forall_not_mem]
    simp only [mem_unknownKeys_iff, not_and, not_not]
  rw [known]
  unfold checkKeys
  cases read : Mapping.textKeys (unknownKeys options) with
  | error fault =>
      simp only [reduceCtorEq, false_iff]
      intro none
      rw [none] at read
      cases read
  | ok names =>
      rw [Mapping.textKeys_eq_ok_iff.mp read, List.map_eq_nil_iff]
      dsimp only
      have sorted : (names.mergeSort LooseText.areInOrder).length = names.length :=
        List.length_mergeSort names
      split
      · next empty =>
          rw [empty] at sorted
          simp [List.eq_nil_of_length_eq_zero sorted.symm]
      · next first others filled =>
          rw [filled] at sorted
          simp only [reduceCtorEq, false_iff]
          rintro rfl
          cases sorted

/-! ## Policies -/

theorem escapes_checkMinimum_iff {minimum : Value} :
    Except.Escapes IsReported (checkMinimum minimum) ↔
      ¬minimum.IsNumber ∧ minimum.isWritable = false := by
  cases minimum with
  | integer value =>
      simp only [checkMinimum]
      split <;> simp [Value.IsNumber]
  | real value =>
      simp only [checkMinimum]
      split
      · simp [Value.IsNumber]
      · split <;> simp [Value.IsNumber]
  | _ => simp [checkMinimum, Value.IsNumber, ConfigurationFault.shownValues]

/-- An option without a policy is reported unless it has to be shown and cannot be written. -/
theorem isReported_ofOption_iff {key : String} {value : Value} {fault : ConfigurationFault}
    (refused : DirectivePolicy.ofOption key value = .error fault) :
    IsReported (.ofFault fault) ↔ value.IsObject ∨ value.isWritable = true := by
  rw [Failure.isReported_ofFault_iff]
  cases value with
  | boolean flag => cases flag <;> cases refused
  | text content =>
      simp only [DirectivePolicy.ofOption] at refused
      split at refused <;> cases refused
      simp [ConfigurationFault.shownValues, Value.isWritable]
  | object fields =>
      simp only [DirectivePolicy.ofOption, DirectivePolicy.ofFields] at refused
      split at refused
      · cases refused
        simp [ConfigurationFault.shownValues, Value.IsObject]
      · split at refused <;> cases refused
        simp [ConfigurationFault.shownValues, Value.IsObject]
  | _ =>
      cases refused
      simp [ConfigurationFault.shownValues, Value.IsObject]

/-- Whether a policy is the one that options give a directive. -/
def Describes (options : Mapping) (directive : Directive) (policy : DirectivePolicy) : Prop :=
  DirectivePolicy.ofOption directive.key (optionFor options directive) = .ok policy

/-- Whether the option of a directive gives no policy, and has to be shown but cannot be written. -/
def PolicyUnwritable (options : Mapping) (directive : Directive) : Prop :=
  ¬(optionFor options directive).IsObject ∧ (optionFor options directive).isWritable = false

/-- An option with a policy is an object or can be written. -/
theorem not_policyUnwritable {directive : Directive} {policy : DirectivePolicy}
    (described : Describes options directive policy) : ¬PolicyUnwritable options directive := by
  rintro ⟨noObject, tooLong⟩
  unfold Describes at described
  cases value : optionFor options directive with
  | object fields => exact noObject ⟨fields, value⟩
  | boolean flag =>
      rw [value] at tooLong
      cases tooLong
  | text content =>
      rw [value] at tooLong
      cases tooLong
  | _ =>
      rw [value] at described
      cases described

theorem policiesOf_cons (directive : Directive) (rest : List Directive) :
    policiesOf options (directive :: rest) =
      match DirectivePolicy.ofOption directive.key (optionFor options directive) with
      | .error fault => .error (.ofFault fault)
      | .ok policy =>
        match policiesOf options rest with
        | .error failure => .error failure
        | .ok policies => .ok ((directive, policy) :: policies) :=
  rfl

theorem escapes_policiesOf_iff {directives : List Directive} :
    Except.Escapes IsReported (policiesOf options directives) ↔
      List.StopsAt (fun directive => ∃ policy, Describes options directive policy)
        (PolicyUnwritable options) directives := by
  induction directives with
  | nil => simp [policiesOf]
  | cons directive rest inductionHypothesis =>
      rw [List.stopsAt_cons_iff, ← inductionHypothesis, policiesOf_cons]
      simp only [Describes]
      cases described : DirectivePolicy.ofOption directive.key (optionFor options directive) with
      | error fault =>
          simp [isReported_ofOption_iff described, PolicyUnwritable]
      | ok policy =>
          have unneeded : ¬PolicyUnwritable options directive := not_policyUnwritable described
          cases policiesOf options rest with
          | error failure => simp [unneeded]
          | ok policies => simp [unneeded]

theorem policiesOf_eq_ok_iff {directives : List Directive}
    {policies : List (Directive × DirectivePolicy)} :
    policiesOf options directives = .ok policies ↔
      List.Forall₂ (fun directive entry => entry.1 = directive ∧
        Describes options directive entry.2) directives policies := by
  induction directives generalizing policies with
  | nil => simp [policiesOf, eq_comm]
  | cons directive rest inductionHypothesis =>
      simp only [policiesOf]
      constructor
      · intro described
        split at described
        · cases described
        · next policy here =>
            split at described
            · cases described
            · next others later =>
                cases described
                exact .cons ⟨rfl, here⟩ (inductionHypothesis.mp later)
      · rintro (_ | ⟨⟨rfl, here⟩, later⟩)
        have described := here
        rw [Describes, optionFor] at described
        simp only [described, inductionHypothesis.mpr later]

theorem exists_policiesOf_iff {directives : List Directive} :
    (∃ policies, policiesOf options directives = .ok policies) ↔
      ∀ directive ∈ directives, ∃ policy, Describes options directive policy := by
  simp only [policiesOf_eq_ok_iff]
  induction directives with
  | nil => simp
  | cons directive rest inductionHypothesis =>
      rw [List.forall_mem_cons, ← inductionHypothesis]
      constructor
      · rintro ⟨policies, _ | ⟨here, later⟩⟩
        exact ⟨⟨_, here.2⟩, _, later⟩
      · rintro ⟨⟨policy, here⟩, policies, later⟩
        exact ⟨(directive, policy) :: policies, .cons ⟨rfl, here⟩ later⟩

/-- There are no policies to add where every directive has one. -/
theorem withDefaults_policiesOf {policies : List (Directive × DirectivePolicy)}
    (described : policiesOf options Directive.all = .ok policies) :
    withDefaults policies = policies := by
  have none : (Directive.all.filter fun directive => (policies.lookup directive).isNone) = [] := by
    rw [List.filter_eq_nil_iff]
    intro directive member
    rcases lookup_policiesOf described directive member with ⟨policy, found, _⟩
    simp [found]
  simp [withDefaults, none]

/-! ## Patterns -/

/-- Whether options ask for a pattern in the descriptions of a directive. -/
def Requires (options : Mapping) (directive : Directive) (source : LooseText) : Prop :=
  ∃ policy, Describes options directive policy ∧ policy.requiredPattern? = some source

/-- Whether the pattern for a directive is read, if there is one. -/
def PatternCompiles (options : Mapping) (directive : Directive) : Prop :=
  ∀ source, Requires options directive source → DescriptionFormat.Compiles source

/-- Whether the pattern for a directive goes beyond a limit. -/
def PatternHitsLimit (options : Mapping) (directive : Directive) : Prop :=
  ∃ source, Requires options directive source ∧ DescriptionFormat.HitsLimit source

theorem requires_iff {directive : Directive} {policy : DirectivePolicy}
    (described : Describes options directive policy) {source : LooseText} :
    Requires options directive source ↔ policy.requiredPattern? = some source := by
  constructor
  · rintro ⟨other, again, required⟩
    have same : policy = other := Except.ok.inj (described.symm.trans again)
    rw [same]
    exact required
  · intro required
    exact ⟨policy, described, required⟩

theorem compileFormats_cons {directive : Directive} {policy : DirectivePolicy} {source : LooseText}
    (required : policy.requiredPattern? = some source)
    (rest : List (Directive × DirectivePolicy)) :
    compileFormats ((directive, policy) :: rest) =
      (DescriptionFormat.compile directive.key source).bind fun format =>
        (compileFormats rest).bind fun formats => .ok ((directive, format) :: formats) := by
  simp only [compileFormats, required]
  cases DescriptionFormat.compile directive.key source with
  | error failure => rfl
  | ok format => cases compileFormats rest <;> rfl

theorem escapes_compileFormats_iff {directives : List Directive}
    {policies : List (Directive × DirectivePolicy)}
    (described : policiesOf options directives = .ok policies) :
    Except.Escapes IsReported (compileFormats policies) ↔
      List.StopsAt (PatternCompiles options) (PatternHitsLimit options) directives := by
  have related := policiesOf_eq_ok_iff.mp described
  clear described
  induction related with
  | nil => simp [compileFormats]
  | @cons directive entry directives policies here _ inductionHypothesis =>
      rcases entry with ⟨_, policy⟩
      rcases here with ⟨rfl, here⟩
      -- The policy of the directive is at hand, so its pattern is that of the policy.
      have later : List.StopsAt (PatternCompiles options) (PatternHitsLimit options) directives ↔
          Except.Escapes IsReported (compileFormats policies) := inductionHypothesis.symm
      rw [List.stopsAt_cons_iff, later]
      simp only [PatternCompiles, PatternHitsLimit, requires_iff here]
      cases required : policy.requiredPattern? with
      | none => simp [compileFormats, required]
      | some source =>
          rw [compileFormats_cons required, Except.escapes_bind_iff,
            DescriptionFormat.escapes_compile_iff]
          simp only [Except.escapes_bind_ok_iff, exists_and_right,
            DescriptionFormat.exists_compile_iff, Option.some.injEq, exists_eq_left', forall_eq']

/-! ## Options -/

/-- Whether a failure escapes when options are taken in: a key is not a text; or the keys are known,
but the least length is not a number and cannot be written; or it is in order, and so are the
policies up to one that has to be shown and cannot be written; or everything is in order up to the
pattern for a directive, which goes beyond a limit. -/
def OptionsBreak (options : Mapping) : Prop :=
  (∃ key ∈ options.keys, ¬key.IsText) ∨
    (∀ key ∈ options.keys, IsKnown key) ∧
      (¬(minimumOf options).IsNumber ∧ (minimumOf options).isWritable = false ∨
        checkMinimum (minimumOf options) = .ok () ∧
          (List.StopsAt (fun directive => ∃ policy, Describes options directive policy)
              (PolicyUnwritable options) Directive.all ∨
            (∀ directive, ∃ policy, Describes options directive policy) ∧
              List.StopsAt (PatternCompiles options) (PatternHitsLimit options) Directive.all))

/-- What is done with options: their keys, the least length, the policies and the patterns. -/
theorem ofOptions_eq_bind (options : Mapping) :
    ofOptions options = (checkKeys options).bind fun _ =>
      (checkMinimum (minimumOf options)).bind fun _ =>
        (policiesOf options Directive.all).bind fun policies =>
          make policies (minimumOf options) := by
  simp only [ofOptions, minimumOf]
  cases checkKeys options with
  | error failure => rfl
  | ok _ =>
      simp only [Except.bind]
      cases checkMinimum ((options.find? ConfigurationFault.minimumKey).getD defaultMinimum) with
      | error failure => rfl
      | ok _ =>
          dsimp only
          cases policiesOf options Directive.all <;> rfl

theorem escapes_ofOptions_iff :
    Except.Escapes IsReported (ofOptions options) ↔ OptionsBreak options := by
  have makes : ∀ {policies}, policiesOf options Directive.all = .ok policies →
      (Except.Escapes IsReported (make policies (minimumOf options)) ↔
        List.StopsAt (PatternCompiles options) (PatternHitsLimit options) Directive.all) := by
    intro policies described
    rw [← escapes_compileFormats_iff described, make, withDefaults_policiesOf described]
    cases compileFormats policies with
    | error failure => simp
    | ok formats => simp
  have described : (∀ directive, ∃ policy, Describes options directive policy) ↔
      ∃ policies, policiesOf options Directive.all = .ok policies := by
    rw [exists_policiesOf_iff]
    simp [mem_all]
  rw [ofOptions_eq_bind, OptionsBreak, described, Except.escapes_bind_iff, escapes_checkKeys_iff]
  simp only [Except.escapes_bind_iff, escapes_checkMinimum_iff,
    escapes_policiesOf_iff]
  -- Each stage is reached if those before it have a result.
  apply or_congr Iff.rfl
  constructor
  · rintro ⟨_, keys, unbounded | ⟨_, bounded, undescribed | ⟨policies, found, escapes⟩⟩⟩
    · exact ⟨checkKeys_eq_ok_iff.mp keys, Or.inl unbounded⟩
    · exact ⟨checkKeys_eq_ok_iff.mp keys, Or.inr ⟨bounded, Or.inl undescribed⟩⟩
    · exact ⟨checkKeys_eq_ok_iff.mp keys,
        Or.inr ⟨bounded, Or.inr ⟨⟨policies, found⟩, (makes found).mp escapes⟩⟩⟩
  · rintro ⟨keys, unbounded | ⟨bounded, undescribed | ⟨⟨policies, found⟩, stops⟩⟩⟩
    · exact ⟨(), checkKeys_eq_ok_iff.mpr keys, Or.inl unbounded⟩
    · exact ⟨(), checkKeys_eq_ok_iff.mpr keys, Or.inr ⟨(), bounded, Or.inl undescribed⟩⟩
    · exact ⟨(), checkKeys_eq_ok_iff.mpr keys,
        Or.inr ⟨(), bounded, Or.inr ⟨policies, found, (makes found).mpr stops⟩⟩⟩

end PolicyConfiguration
end DirectiveLint
