import DirectiveLint.Proofs.Policy.OptionFailure
import DirectiveLint.Proofs.Table
import Mathlib.Data.List.Basic

/-!
# Reading options back

An accepted configuration is read back as options: the given ones, and the
defaults for those that were left out.  Only an option object without a pattern
loses a field, if it says so by a field that holds nothing.  The options that
are read back are accepted again and give the same configuration.

A configuration may also be made from the policies that were given, without the
options.  The defaults are then filled in at another place, behind the given
policies, so the formats are compiled in another order.  What has been compiled
for a directive depends on its own policy alone, so it is the same
configuration.
-/

namespace DirectiveLint

/-- An option as it is read back: an object without a pattern is empty. -/
def Value.readBack : Value → Value
  | object fields =>
    match (fieldOf? ConfigurationFault.formatKey fields).getD null with
    | null => object []
    | _ => object fields
  | value => value

namespace DirectivePolicy

/-- A policy is read back from the option that describes it. -/
theorem ofOption_toOption (key : String) (policy : DirectivePolicy) :
    ofOption key policy.toOption = .ok policy := by
  cases policy with
  | descriptionFormat pattern =>
      cases pattern with
      | none => rfl
      | some source => simp [toOption, ofOption, ofFields, Value.fieldOf?]
  | _ => rfl

/-- An option object that is accepted is empty or holds the field of the pattern alone. -/
theorem fields_of_ofFields {key : String} {fields : List (LooseText × Value)}
    {policy : DirectivePolicy} (keyed : Table.Keyed fields)
    (described : ofFields key fields = .ok policy) :
    fields = [] ∨ ∃ value, fields = [(.plain ConfigurationFault.formatKey, value)] := by
  have noExtra : ∀ field ∈ fields, field.1 = .plain ConfigurationFault.formatKey := by
    unfold ofFields at described
    dsimp only at described
    split at described
    · cases described
    · next none => simpa using none
  cases fields with
  | nil => exact Or.inl rfl
  | cons first rest =>
      rcases first with ⟨name, value⟩
      have named : name = .plain ConfigurationFault.formatKey := noExtra _ List.mem_cons_self
      subst named
      -- A second field would have the same key.
      cases rest with
      | nil => exact Or.inr ⟨value, rfl⟩
      | cons second others =>
          have again := noExtra second (List.mem_cons_of_mem _ List.mem_cons_self)
          have different := (List.nodup_cons.mp keyed).1
          rw [List.map_cons, again] at different
          exact absurd List.mem_cons_self different

/-- An option that is accepted is read back from its policy. -/
theorem toOption_of_ofOption {key : String} {value : Value} {policy : DirectivePolicy}
    (keyed : ∀ fields, value = .object fields → Table.Keyed fields)
    (described : ofOption key value = .ok policy) : policy.toOption = value.readBack := by
  cases value with
  | boolean flag =>
      cases flag <;> cases described <;> rfl
  | text content =>
      simp only [ofOption] at described
      split at described
      · next same =>
          cases described
          rw [beq_iff_eq.mp same]
          rfl
      · cases described
  | object fields =>
      simp only [ofOption] at described
      rcases fields_of_ofFields (keyed fields rfl) described with rfl | ⟨value, rfl⟩
      · cases described
        rfl
      · simp only [ofFields, List.map_cons, List.map_nil, bne_self_eq_false, List.filter_cons,
          Bool.false_eq_true, if_false, List.filter_nil, List.isEmpty_nil, Bool.not_true,
          Value.fieldOf?, List.find?_cons, beq_self_eq_true, Option.map_some,
          Option.getD_some] at described
        cases value <;> cases described <;> simp [toOption, Value.readBack, Value.fieldOf?]
  | _ => cases described

/-- The compiled pattern of a policy for a directive, if it asks for one. -/
def format (directive : Directive) (policy : DirectivePolicy) :
    Except Failure (Option DescriptionFormat) :=
  match policy.requiredPattern? with
  | none => .ok none
  | some source => (DescriptionFormat.compile directive.key source).map some

end DirectivePolicy

namespace PolicyConfiguration

/-! ## What a configuration is made of -/

section

variable {entries policies : List (Directive × DirectivePolicy)}
  {formats : List (Directive × DescriptionFormat)} {configuration : PolicyConfiguration}

theorem compileFormats_cons_format (directive : Directive) (policy : DirectivePolicy)
    (rest : List (Directive × DirectivePolicy)) :
    compileFormats ((directive, policy) :: rest) =
      (policy.format directive).bind fun format =>
        (compileFormats rest).map fun formats =>
          (format.map fun format => (directive, format)).toList ++ formats := by
  cases required : policy.requiredPattern? with
  | none =>
      simp only [compileFormats, DirectivePolicy.format, required, Except.bind]
      cases compileFormats rest <;> rfl
  | some source =>
      rw [compileFormats_cons required]
      simp only [DirectivePolicy.format, required]
      cases DescriptionFormat.compile directive.key source with
      | error failure => rfl
      | ok format => cases compileFormats rest <;> rfl

/-- Formats are compiled for all policies if each one can be. -/
theorem exists_compileFormats_iff :
    (∃ formats, compileFormats entries = .ok formats) ↔
      ∀ entry ∈ entries, ∃ format, entry.2.format entry.1 = .ok format := by
  induction entries with
  | nil => simp [compileFormats]
  | cons entry rest inductionHypothesis =>
      rw [List.forall_mem_cons, ← inductionHypothesis, compileFormats_cons_format]
      cases entry.2.format entry.1 with
      | error failure => simp [Except.bind]
      | ok format => cases compileFormats rest <;> simp [Except.bind, Except.map]

/-- The format of a directive is that of its policy, whatever other policies there are. -/
theorem lookup_compileFormats (keyed : (entries.map Prod.fst).Nodup)
    (compiled : compileFormats entries = .ok formats) (directive : Directive) :
    (entries.lookup directive).elim (.ok none) (DirectivePolicy.format directive) =
      .ok (formats.lookup directive) := by
  induction entries generalizing formats with
  | nil =>
      cases compiled
      rfl
  | cons entry rest inductionHypothesis =>
      rcases entry with ⟨first, policy⟩
      rw [List.map_cons, List.nodup_cons] at keyed
      rw [compileFormats_cons_format] at compiled
      cases here : policy.format first with
      | error failure =>
          rw [here] at compiled
          cases compiled
      | ok format =>
          cases later : compileFormats rest with
          | error failure =>
              rw [here, later] at compiled
              cases compiled
          | ok others =>
              rw [here, later] at compiled
              cases compiled
              have below := inductionHypothesis keyed.2 later
              by_cases same : directive = first
              · subst same
                rw [Table.lookup_eq_none_of_not_mem keyed.1] at below
                cases format with
                | none => simp [here, ← Except.ok.inj below]
                | some format => simp [here]
              · have different := beq_eq_false_iff_ne.mpr same
                rw [List.lookup_cons, different, below]
                cases format with
                | none => rfl
                | some format => simp [List.lookup_cons, different]

theorem lookup_withDefaults (directive : Directive) :
    (withDefaults policies).lookup directive =
      some ((policies.lookup directive).getD (defaultPolicy directive)) := by
  rw [withDefaults, List.lookup_append]
  cases given : policies.lookup directive with
  | some policy => rfl
  | none =>
      have left : directive ∈ Directive.all.filter fun other => (policies.lookup other).isNone := by
        rw [List.mem_filter]
        exact ⟨mem_all directive, by rw [given]; rfl⟩
      rw [List.lookup_graph defaultPolicy left]
      rfl

theorem nodup_withDefaults (keyed : (policies.map Prod.fst).Nodup) :
    ((withDefaults policies).map Prod.fst).Nodup := by
  have once : Directive.all.Nodup := by decide
  rw [withDefaults, List.map_append, List.map_map, List.nodup_append']
  refine ⟨keyed, ?_, ?_⟩
  · simpa [Function.comp_def] using once.filter _
  · intro directive given left
    rcases List.mem_map.mp given with ⟨entry, member, rfl⟩
    rcases List.mem_map.mp left with ⟨other, member', same⟩
    have none := (List.mem_filter.mp member').2
    rw [show other = entry.1 from same, Table.lookup_of_mem keyed member] at none
    cases none

/-- A configuration is made of the given policies and the default ones, with the format of each. -/
theorem make_eq_ok_iff (keyed : (policies.map Prod.fst).Nodup) {minimum : Value} :
    make policies minimum = .ok configuration ↔
      configuration.minimum = minimum ∧
      (∀ directive, configuration.policyFor directive =
        (policies.lookup directive).getD (defaultPolicy directive)) ∧
      ∀ directive, (configuration.policyFor directive).format directive =
        .ok (configuration.formatFor directive) := by
  have nodup := nodup_withDefaults keyed
  unfold make
  constructor
  · intro made
    split at made
    · cases made
    · next formats compiled =>
        cases made
        refine ⟨rfl, fun _ => rfl, fun directive => ?_⟩
        have found := lookup_compileFormats nodup compiled directive
        rw [lookup_withDefaults] at found
        exact found
  · rintro ⟨rfl, policyFor, formatFor⟩
    have each : ∀ entry ∈ withDefaults policies,
        ∃ format, entry.2.format entry.1 = .ok format := by
      rintro ⟨directive, policy⟩ member
      have found := Table.lookup_of_mem nodup member
      rw [lookup_withDefaults, ← policyFor directive] at found
      refine ⟨configuration.formatFor directive, ?_⟩
      rw [← Option.some.inj found]
      exact formatFor directive
    rcases exists_compileFormats_iff.mpr each with ⟨formats, compiled⟩
    have same : ∀ directive, formats.lookup directive = configuration.formatFor directive := by
      intro directive
      have found := lookup_compileFormats nodup compiled directive
      rw [lookup_withDefaults, ← policyFor directive] at found
      exact Except.ok.inj (found.symm.trans (formatFor directive))
    rw [compiled]
    simp only [same, ← policyFor]

end

/-! ## Options -/

section

variable {options : Mapping} {configuration : PolicyConfiguration}

theorem map_fst_policiesOf {directives : List Directive}
    {policies : List (Directive × DirectivePolicy)}
    (described : policiesOf options directives = .ok policies) :
    policies.map Prod.fst = directives := by
  have related := policiesOf_eq_ok_iff.mp described
  clear described
  induction related with
  | nil => rfl
  | cons here _ inductionHypothesis => rw [List.map_cons, here.1, inductionHypothesis]

/-- What it takes for options to be accepted, and all that the configuration is made of. -/
theorem ofOptions_eq_ok_iff :
    ofOptions options = .ok configuration ↔
      (∀ key ∈ options.keys, IsKnown key) ∧
      checkMinimum (minimumOf options) = .ok () ∧
      configuration.minimum = minimumOf options ∧
      (∀ directive, Describes options directive (configuration.policyFor directive)) ∧
      ∀ directive, (configuration.policyFor directive).format directive =
        .ok (configuration.formatFor directive) := by
  have keyed : ∀ {policies}, policiesOf options Directive.all = .ok policies →
      (policies.map Prod.fst).Nodup := by
    intro policies described
    rw [map_fst_policiesOf described]
    decide
  constructor
  · intro made
    have describes := policyFor_of_ofOptions made
    rw [ofOptions_eq_bind] at made
    rcases Except.bind_eq_ok_iff.mp made with ⟨_, known, made⟩
    rcases Except.bind_eq_ok_iff.mp made with ⟨_, bounded, made⟩
    rcases Except.bind_eq_ok_iff.mp made with ⟨policies, described, made⟩
    rcases (make_eq_ok_iff (keyed described)).mp made with ⟨minimum, _, formats⟩
    exact ⟨checkKeys_eq_ok_iff.mp known, bounded, minimum, describes, formats⟩
  · rintro ⟨known, bounded, minimum, describes, formats⟩
    rcases exists_policiesOf_iff.mpr fun directive (_ : directive ∈ Directive.all) =>
      ⟨_, describes directive⟩ with ⟨policies, described⟩
    rw [ofOptions_eq_bind, checkKeys_eq_ok_iff.mpr known, bounded, described]
    refine (make_eq_ok_iff (keyed described)).mpr ⟨minimum, fun directive => ?_, formats⟩
    rcases lookup_policiesOf described directive (mem_all directive) with ⟨policy, found, here⟩
    rw [found]
    exact Except.ok.inj ((describes directive).symm.trans here)

theorem fieldOf?_toOptions (directive : Directive) :
    Value.fieldOf? directive.key configuration.toOptions =
      some (configuration.policyFor directive).toOption := by
  cases directive <;> rfl

theorem fieldOf?_toOptions_minimum :
    Value.fieldOf? ConfigurationFault.minimumKey configuration.toOptions =
      some configuration.minimum :=
  rfl

theorem keys_toOptions : (Mapping.ofFields configuration.toOptions).keys =
    optionKeys.map Value.text := by
  rfl

/-- The options of a configuration are accepted, and the configuration is made again. -/
theorem ofOptions_toOptions (made : ofOptions options = .ok configuration) :
    ofOptions (Mapping.ofFields configuration.toOptions) = .ok configuration := by
  have minimum : minimumOf (Mapping.ofFields configuration.toOptions) = configuration.minimum := by
    rw [minimumOf, Mapping.find?_ofFields, fieldOf?_toOptions_minimum]
    rfl
  refine ofOptions_eq_ok_iff.mpr ⟨?_, ?_, minimum.symm, ?_, (ofOptions_eq_ok_iff.mp made).2.2.2.2⟩
  · intro key member
    rw [keys_toOptions] at member
    rcases List.mem_map.mp member with ⟨known, inOptions, rfl⟩
    exact ⟨known, inOptions, rfl⟩
  · rw [minimum]
    exact checkMinimum_of_ofOptions made
  · intro directive
    rw [Describes, optionFor, Mapping.find?_ofFields, fieldOf?_toOptions]
    exact DirectivePolicy.ofOption_toOption _ _

end

/-! ## Given options -/

/-- The options that are given for directives. -/
def directiveFields (fields : List (LooseText × Value)) : List (LooseText × Value) :=
  fields.filter fun field => (Directive.ofKey? field.1).isSome

section

variable {fields : List (LooseText × Value)} {configuration : PolicyConfiguration}

theorem ofKey?_eq_some_iff {key : LooseText} {directive : Directive} :
    Directive.ofKey? key = some directive ↔ key = .plain directive.key := by
  constructor
  · intro found
    have named := List.find?_some (p := fun directive : Directive => .plain directive.key == key)
      found
    exact (beq_iff_eq.mp named).symm
  · rintro rfl
    cases directive <;> rfl

theorem fieldOf?_of_mem (keyed : Table.Keyed fields) {key : LooseText} {value : Value}
    (member : (key, value) ∈ fields) : Value.fieldOf? key fields = some value := by
  rw [Value.fieldOf?_eq_lookup]
  exact Table.lookup_of_mem keyed member

theorem mem_of_fieldOf? {key : LooseText} {value : Value}
    (found : Value.fieldOf? key fields = some value) : (key, value) ∈ fields := by
  rw [Value.fieldOf?_eq_lookup] at found
  exact Table.mem_of_lookup found

/-- The policies of a configuration for the directives among given options. -/
def givenPolicies (configuration : PolicyConfiguration) (fields : List (LooseText × Value)) :
    List (Directive × DirectivePolicy) :=
  fields.filterMap fun field =>
    (Directive.ofKey? field.1).map fun directive => (directive, configuration.policyFor directive)

theorem mem_givenPolicies {entry : Directive × DirectivePolicy} :
    entry ∈ configuration.givenPolicies fields ↔
      entry.2 = configuration.policyFor entry.1 ∧ .plain entry.1.key ∈ fields.map Prod.fst := by
  simp only [givenPolicies, List.mem_filterMap, Option.map_eq_some_iff, ofKey?_eq_some_iff,
    List.mem_map]
  constructor
  · rintro ⟨field, member, directive, named, rfl⟩
    exact ⟨rfl, field, member, named⟩
  · rintro ⟨policy, field, member, named⟩
    exact ⟨field, member, entry.1, named, by rw [← policy]⟩

/-- Each of the given options is taken for the directive with its key. -/
theorem policiesOfFields_directiveFields
    (describes : ∀ field ∈ fields, ∀ directive : Directive, field.1 = directive.key →
      DirectivePolicy.ofOption directive.key field.2 =
        .ok (configuration.policyFor directive)) :
    policiesOfFields (directiveFields fields) = .ok (configuration.givenPolicies fields) := by
  induction fields with
  | nil => rfl
  | cons field rest inductionHypothesis =>
      rw [List.forall_mem_cons] at describes
      have later := inductionHypothesis describes.2
      unfold directiveFields givenPolicies at later ⊢
      rw [List.filter_cons, List.filterMap_cons]
      cases known : Directive.ofKey? field.1 with
      | none => exact later
      | some directive =>
          have here := describes.1 directive (ofKey?_eq_some_iff.mp known)
          simp only [Option.isSome_some, if_true, Option.map_some, policiesOfFields, known, here,
            later]

theorem nodup_givenPolicies (keyed : Table.Keyed fields) :
    ((configuration.givenPolicies fields).map Prod.fst).Nodup := by
  have keys : (configuration.givenPolicies fields).map Prod.fst =
      (fields.map Prod.fst).filterMap Directive.ofKey? := by
    rw [givenPolicies, List.map_filterMap, List.filterMap_map]
    simp only [Option.map_map, Function.comp_def, Option.map_id']
  rw [keys]
  refine List.Nodup.filterMap ?_ keyed
  intro key other directive found foundToo
  rw [Option.mem_def, ofKey?_eq_some_iff] at found foundToo
  exact found.trans foundToo.symm

/-- The policies that options give for directives, without the defaults, make the configuration as
well. -/
theorem ofPolicies_directiveFields (keyed : Table.Keyed fields)
    (made : ofOptions (Mapping.ofFields fields) = .ok configuration) :
    ofPolicies (directiveFields fields)
        ((Value.fieldOf? ConfigurationFault.minimumKey fields).getD defaultMinimum) =
      .ok configuration := by
  rcases ofOptions_eq_ok_iff.mp made with ⟨_, _, minimum, describes, formats⟩
  simp only [minimumOf, Describes, optionFor, Mapping.find?_ofFields] at minimum describes
  have given : policiesOfFields (directiveFields fields) =
      .ok (configuration.givenPolicies fields) := by
    refine policiesOfFields_directiveFields fun field member directive named => ?_
    have here := describes directive
    rw [← named, fieldOf?_of_mem keyed member] at here
    exact here
  rw [ofPolicies, given]
  refine (make_eq_ok_iff (nodup_givenPolicies keyed)).mpr ⟨minimum, fun directive => ?_, formats⟩
  by_cases isGiven : .plain directive.key ∈ fields.map Prod.fst
  · have member : (directive, configuration.policyFor directive) ∈
        configuration.givenPolicies fields := mem_givenPolicies.mpr ⟨rfl, isGiven⟩
    rw [Table.lookup_of_mem (nodup_givenPolicies keyed) member]
    rfl
  · have absent : directive ∉ (configuration.givenPolicies fields).map Prod.fst := by
      intro member
      rcases List.mem_map.mp member with ⟨entry, inGiven, rfl⟩
      exact isGiven (mem_givenPolicies.mp inGiven).2
    have here := describes directive
    rw [Value.fieldOf?_eq_lookup, Table.lookup_eq_none_of_not_mem isGiven, Option.getD_none,
      DirectivePolicy.ofOption_toOption] at here
    rw [Table.lookup_eq_none_of_not_mem absent]
    exact (Except.ok.inj here).symm

/-- The options that are read back: those given, and the defaults for the others. -/
theorem toOptions_eq_map
    (within : ∀ key inner, (key, Value.object inner) ∈ fields → Table.Keyed inner)
    (made : ofOptions (Mapping.ofFields fields) = .ok configuration) :
    configuration.toOptions = defaultOptions.map fun option =>
      (option.1, ((Value.fieldOf? option.1 fields).getD option.2).readBack) := by
  rcases ofOptions_eq_ok_iff.mp made with ⟨_, bounded, minimum, describes, _⟩
  simp only [minimumOf, Describes, optionFor, Mapping.find?_ofFields] at bounded minimum describes
  have policies : ∀ directive, (configuration.policyFor directive).toOption =
      ((Value.fieldOf? directive.key fields).getD (defaultPolicy directive).toOption).readBack := by
    intro directive
    refine DirectivePolicy.toOption_of_ofOption ?_ (describes directive)
    intro inner option
    cases found : Value.fieldOf? directive.key fields with
    | some value =>
        rw [found, Option.getD_some] at option
        rw [option] at found
        exact within _ inner (mem_of_fieldOf? found)
    | none =>
        rw [found, Option.getD_none] at option
        cases directive <;> cases option
  have least : configuration.minimum.readBack = configuration.minimum := by
    rw [← minimum] at bounded
    cases whole : configuration.minimum with
    | object inner =>
        rw [whole] at bounded
        cases bounded
    | _ => rfl
  rw [toOptions, defaultOptions, List.map_append, List.map_map, List.map_singleton, ← minimum,
    least]
  simp only [Function.comp_def, policies]

end

/-- What is read back from an accepted configuration are the given options, without fields that hold
nothing, and the defaults for the others.  They are accepted again and make the same configuration,
and so do the given policies with the given least length, or the default one. -/
theorem ofValue_readBack (fields : List (LooseText × Value)) (configuration : PolicyConfiguration)
    (keyed : Table.Keyed fields)
    (within : ∀ key inner, (key, Value.object inner) ∈ fields → Table.Keyed inner)
    (made : ofValue (.object fields) = .ok configuration) :
    configuration.toOptions = (defaultOptions.map fun option =>
      (option.1, ((Value.fieldOf? option.1 fields).getD option.2).readBack)) ∧
    ofValue (.object configuration.toOptions) = .ok configuration ∧
    ofPolicies (directiveFields fields)
        ((Value.fieldOf? ConfigurationFault.minimumKey fields).getD defaultMinimum) =
      .ok configuration := by
  rw [ofValue_object] at made ⊢
  exact ⟨toOptions_eq_map within made, ofOptions_toOptions made,
    ofPolicies_directiveFields keyed made⟩

/-- Options with a pattern, an object whose pattern is nothing, and a least length that is not a
number. -/
def mixedOptions : List (LooseText × Value) :=
  [("ts-check", .object [("descriptionFormat", .null)]),
    ("minimumDescriptionLength", .real (.notANumber 0)),
    ("ts-ignore", .object [("descriptionFormat", .text "^(?<code>TS\\d+)")])]

theorem ofValue_readBack_mixedOptions :
    ∃ configuration, ofValue (.object mixedOptions) = .ok configuration ∧
      configuration.toOptions =
        ([("ts-expect-error", .text "allow-with-description"),
          ("ts-ignore", .object [("descriptionFormat", .text "^(?<code>TS\\d+)")]),
          ("ts-nocheck", .boolean true),
          ("ts-check", .object []),
          ("minimumDescriptionLength", .real (.notANumber 0))] : List (LooseText × Value)) ∧
      ofValue (.object configuration.toOptions) = .ok configuration ∧
      ofPolicies
          [("ts-check", .object [("descriptionFormat", .null)]),
            ("ts-ignore", .object [("descriptionFormat", .text "^(?<code>TS\\d+)")])]
          (.real (.notANumber 0)) = .ok configuration := by
  have accepted : (ofValue (.object mixedOptions)).toOption.isSome = true := by decide +kernel
  rcases Option.isSome_iff_exists.mp accepted with ⟨configuration, found⟩
  have made := Except.eq_ok_of_toOption_eq_some found
  have keyed : Table.Keyed mixedOptions := by
    unfold Table.Keyed
    decide +kernel
  have within : ∀ key inner, (key, Value.object inner) ∈ mixedOptions → Table.Keyed inner := by
    intro key inner member
    have one : inner.length = 1 := by
      simp only [mixedOptions, List.mem_cons, Prod.mk.injEq, Value.object.injEq, reduceCtorEq,
        List.not_mem_nil, or_false, and_false, false_or] at member
      rcases member with ⟨_, rfl⟩ | ⟨_, rfl⟩ <;> rfl
    rcases List.length_eq_one_iff.mp one with ⟨field, rfl⟩
    exact List.nodup_singleton field.1
  rcases ofValue_readBack mixedOptions configuration keyed within made with ⟨options, again, direct⟩
  exact ⟨configuration, made, options, again, direct⟩

end PolicyConfiguration
end DirectiveLint
