import DirectiveLint.Proofs.Policy.ReadBack
import Mathlib.Logic.Function.Iterate

/-!
# Options are checked one by one

Whether an option is in order does not depend on the other ones: options are
accepted if each of them would be accepted alone.  The stages of the check differ
in which of several faults is found first, and an option that was left out is
never at fault.

A fault of the configuration names the key of an option that would be refused
alone, with the same key.  So options can be mended by deleting the one that is
blamed, again and again, until no fault is left.  A failure that is not reported
blames nothing and ends this.
-/

namespace DirectiveLint

/-- The key that a failure blames, if it is reported as a fault of the configuration. -/
def Failure.blamed? : Failure → Option Value
  | .configuration fault => some fault.key
  | _ => none

theorem Failure.blamed?_eq_some_iff {failure : Failure} {blame : Value} :
    failure.blamed? = some blame ↔ ∃ fault, failure = .configuration fault ∧ fault.key = blame := by
  cases failure with
  | configuration fault => simp [blamed?]
  | _ => simp [blamed?]

/-- A fault that cannot be shown blames nothing, and any other one its key. -/
theorem Failure.key_of_blamed?_ofFault {fault : ConfigurationFault} {blame : Value}
    (blames : (ofFault fault).blamed? = some blame) : fault.key = blame := by
  unfold ofFault at blames
  split at blames
  · exact Option.some.inj blames
  · cases blames

namespace PolicyConfiguration

/-! ## One option -/

/-- The check of one option. -/
def checkOption (key : LooseText) (value : Value) : Except Failure Unit :=
  if key = .plain ConfigurationFault.minimumKey then checkMinimum value
  else
    match Directive.ofKey? key with
    | none => .error (.configuration (.unknownOptions key []))
    | some directive =>
      match DirectivePolicy.ofOption directive.key value with
      | .error fault => .error (.ofFault fault)
      | .ok policy => (policy.format directive).map fun _ => ()

section

variable {key : LooseText} {value : Value} {failure : Failure} {blame : Value}

theorem checkOption_minimum (value : Value) :
    checkOption ConfigurationFault.minimumKey value = checkMinimum value :=
  if_pos rfl

theorem checkOption_directive (directive : Directive) (value : Value) :
    checkOption directive.key value =
      match DirectivePolicy.ofOption directive.key value with
      | .error fault => .error (.ofFault fault)
      | .ok policy => (policy.format directive).map fun _ => () := by
  have different : LooseText.plain directive.key ≠ .plain ConfigurationFault.minimumKey := by
    cases directive <;> decide
  rw [checkOption, if_neg different, ofKey?_eq_some_iff.mpr rfl]

theorem isKnown_text_iff : IsKnown (.text key) ↔
    key = .plain ConfigurationFault.minimumKey ∨
      ∃ directive : Directive, key = .plain directive.key := by
  simp only [IsKnown, optionKeys, List.mem_map, List.mem_append, List.mem_singleton,
    Value.text.injEq]
  constructor
  · rintro ⟨_, ⟨name, ⟨directive, _, rfl⟩ | rfl, rfl⟩, rfl⟩
    · exact Or.inr ⟨directive, rfl⟩
    · exact Or.inl rfl
  · rintro (rfl | ⟨directive, rfl⟩)
    · exact ⟨_, ⟨_, Or.inr rfl, rfl⟩, rfl⟩
    · exact ⟨_, ⟨_, Or.inl ⟨directive, mem_all directive, rfl⟩, rfl⟩, rfl⟩

theorem checkOption_unknown (unknown : ¬IsKnown (.text key)) (value : Value) :
    checkOption key value = .error (.configuration (.unknownOptions key [])) := by
  rw [isKnown_text_iff, not_or] at unknown
  have none : Directive.ofKey? key = none := by
    cases found : Directive.ofKey? key with
    | none => rfl
    | some directive => exact absurd ⟨directive, ofKey?_eq_some_iff.mp found⟩ unknown.2
  rw [checkOption, if_neg unknown.1, none]

theorem key_of_checkMinimum_eq_error (refused : checkMinimum value = .error failure)
    (blames : failure.blamed? = some blame) : blame = .text ConfigurationFault.minimumKey := by
  unfold checkMinimum at refused
  split at refused
  · split at refused <;> cases refused
    exact (Option.some.inj blames).symm
  · split at refused
    · cases refused
      exact (Option.some.inj blames).symm
    · split at refused <;> cases refused
      exact (Option.some.inj blames).symm
  · cases refused
    exact (Failure.key_of_blamed?_ofFault blames).symm

theorem key_of_ofOption_eq_error {name : String} {fault : ConfigurationFault}
    (refused : DirectivePolicy.ofOption name value = .error fault) : fault.key = .text name := by
  cases value with
  | boolean flag => cases flag <;> cases refused
  | text content =>
      simp only [DirectivePolicy.ofOption] at refused
      split at refused <;> cases refused
      rfl
  | object fields =>
      simp only [DirectivePolicy.ofOption, DirectivePolicy.ofFields] at refused
      split at refused
      · cases refused
        rfl
      · split at refused <;> cases refused
        rfl
  | _ =>
      cases refused
      rfl

theorem key_of_format_eq_error {directive : Directive} {policy : DirectivePolicy}
    (refused : policy.format directive = .error failure) (blames : failure.blamed? = some blame) :
    blame = .text directive.key := by
  unfold DirectivePolicy.format at refused
  split at refused
  · cases refused
  · next source _ =>
      unfold DescriptionFormat.compile at refused
      dsimp only at refused
      split at refused
      · cases refused
      · next fault _ =>
          cases refused
          cases fault <;> cases blames <;> rfl

/-- The check of an option blames no other key. -/
theorem key_of_checkOption_eq_error (refused : checkOption key value = .error failure)
    (blames : failure.blamed? = some blame) : blame = .text key := by
  by_cases known : IsKnown (.text key)
  · rcases isKnown_text_iff.mp known with rfl | ⟨directive, rfl⟩
    · rw [checkOption_minimum] at refused
      exact key_of_checkMinimum_eq_error refused blames
    · rw [checkOption_directive] at refused
      split at refused
      · next fault here =>
          cases refused
          rw [← key_of_ofOption_eq_error here]
          exact (Failure.key_of_blamed?_ofFault blames).symm
      · next policy _ =>
          cases made : policy.format directive with
          | ok format =>
              rw [made] at refused
              cases refused
          | error other =>
              rw [made] at refused
              cases refused
              exact key_of_format_eq_error made blames
  · rw [checkOption_unknown known] at refused
    cases refused
    exact (Option.some.inj blames).symm

/-- The default options are in order. -/
theorem checkOption_defaultPolicy (directive : Directive) :
    checkOption directive.key (defaultPolicy directive).toOption = .ok () := by
  rw [checkOption_directive, DirectivePolicy.ofOption_toOption]
  cases directive <;> rfl

end

/-! ## All options -/

section

variable {options : Mapping}

/-- Options are accepted if the keys are known and the option for every key is in order, be it given
or the default one. -/
theorem exists_ofOptions_iff :
    (∃ configuration, ofOptions options = .ok configuration) ↔
      (∀ key ∈ options.keys, IsKnown key) ∧ checkMinimum (minimumOf options) = .ok () ∧
        ∀ directive, checkOption directive.key (optionFor options directive) = .ok () := by
  simp only [checkOption_directive, ofOptions_eq_ok_iff, Describes]
  constructor
  · rintro ⟨configuration, known, bounded, _, describes, formats⟩
    refine ⟨known, bounded, fun directive => ?_⟩
    rw [describes directive]
    dsimp only
    rw [formats directive]
    rfl
  · rintro ⟨known, bounded, each⟩
    have described : ∀ directive, ∃ policy,
        DirectivePolicy.ofOption directive.key (optionFor options directive) = .ok policy ∧
          ∃ format, policy.format directive = .ok format := by
      intro directive
      have here := each directive
      split at here
      · cases here
      · next policy described =>
          refine ⟨policy, described, ?_⟩
          cases made : policy.format directive with
          | ok format => exact ⟨format, rfl⟩
          | error failure =>
              rw [made] at here
              cases here
    choose policyFor describes formatFor formats using described
    exact ⟨⟨policyFor, formatFor, minimumOf options⟩, known, bounded, rfl, describes, formats⟩

theorem exists_of_policiesOf_eq_error {directives : List Directive} {failure : Failure}
    (refused : policiesOf options directives = .error failure) :
    ∃ directive ∈ directives, ∃ fault, failure = .ofFault fault ∧
      DirectivePolicy.ofOption directive.key (optionFor options directive) = .error fault := by
  induction directives with
  | nil => cases refused
  | cons directive rest inductionHypothesis =>
      simp only [policiesOf] at refused
      split at refused
      · next fault here =>
          cases refused
          exact ⟨directive, List.mem_cons_self, fault, rfl, here⟩
      · split at refused
        · next other later =>
            cases refused
            rcases inductionHypothesis later with ⟨other, listed, found⟩
            exact ⟨other, List.mem_cons_of_mem _ listed, found⟩
        · cases refused

theorem exists_of_compileFormats_eq_error {entries : List (Directive × DirectivePolicy)}
    {failure : Failure} (refused : compileFormats entries = .error failure) :
    ∃ entry ∈ entries, entry.2.format entry.1 = .error failure := by
  induction entries with
  | nil => cases refused
  | cons entry rest inductionHypothesis =>
      rw [compileFormats_cons_format, Except.bind_eq_error_iff] at refused
      rcases refused with here | ⟨format, _, later⟩
      · exact ⟨entry, List.mem_cons_self, here⟩
      · cases compiled : compileFormats rest with
        | ok formats =>
            rw [compiled] at later
            cases later
        | error other =>
            rw [compiled] at later
            cases later
            rcases inductionHypothesis compiled with ⟨other, listed, found⟩
            exact ⟨other, List.mem_cons_of_mem _ listed, found⟩

end

section

variable {fields : List (LooseText × Value)} {key : LooseText} {value : Value} {failure : Failure}

theorem text_mem_keys_iff : .text key ∈ (Mapping.ofFields fields).keys ↔
    ∃ value, Value.fieldOf? key fields = some value := by
  simp only [Mapping.keys, Mapping.ofFields, List.map_map, List.mem_map, Function.comp_apply,
    Value.text.injEq]
  constructor
  · rintro ⟨field, member, rfl⟩
    cases found : Value.fieldOf? field.1 fields with
    | some value => exact ⟨value, rfl⟩
    | none =>
        simp only [Value.fieldOf?, Option.map_eq_none_iff, List.find?_eq_none] at found
        exact absurd (beq_self_eq_true field.1) (found field member)
  · rintro ⟨value, found⟩
    exact ⟨_, mem_of_fieldOf? found, rfl⟩

theorem forall_mem_keys_iff {test : Value → Prop} :
    (∀ key ∈ (Mapping.ofFields fields).keys, test key) ↔
      ∀ key value, Value.fieldOf? key fields = some value → test (.text key) := by
  constructor
  · intro each key value found
    exact each _ (text_mem_keys_iff.mpr ⟨value, found⟩)
  · intro each key member
    rcases List.mem_map.mp member with ⟨entry, listed, rfl⟩
    rcases List.mem_map.mp listed with ⟨field, _, rfl⟩
    rcases text_mem_keys_iff.mp member with ⟨value, found⟩
    exact each _ value found

/-- An option that takes the place of one that is in order is at fault only if it is given. -/
theorem exists_fieldOf?_of_checkOption {other : Value} (inOrder : checkOption key other = .ok ())
    (refused : checkOption key ((Value.fieldOf? key fields).getD other) = .error failure) :
    ∃ value, Value.fieldOf? key fields = some value ∧ checkOption key value = .error failure := by
  cases found : Value.fieldOf? key fields with
  | some value =>
      rw [found] at refused
      exact ⟨value, rfl, refused⟩
  | none =>
      rw [found] at refused
      cases inOrder.symm.trans refused

/-- Options are accepted exactly if each one is in order. -/
theorem exists_ofValue_iff_forall :
    (∃ configuration, ofValue (.object fields) = .ok configuration) ↔
      ∀ key value, Value.fieldOf? key fields = some value → checkOption key value = .ok () := by
  rw [ofValue_object, exists_ofOptions_iff, forall_mem_keys_iff, ← checkOption_minimum]
  simp only [minimumOf, optionFor, Mapping.find?_ofFields]
  constructor
  · rintro ⟨known, minimum, each⟩ key value found
    rcases isKnown_text_iff.mp (known key value found) with rfl | ⟨directive, rfl⟩
    · rw [found] at minimum
      exact minimum
    · have here := each directive
      rw [found] at here
      exact here
  · intro each
    have orDefault : ∀ key other, checkOption key other = .ok () →
        checkOption key ((Value.fieldOf? key fields).getD other) = .ok () := by
      intro key other inOrder
      cases found : Value.fieldOf? key fields with
      | some value => exact each key value found
      | none => exact inOrder
    refine ⟨fun key value found => ?_, orDefault _ _ rfl, fun directive =>
      orDefault _ _ (checkOption_defaultPolicy directive)⟩
    by_contra unknown
    have here := each key value found
    rw [checkOption_unknown unknown] at here
    cases here

/-- A key that is blamed for not being known is that of an option. -/
theorem exists_of_checkKeys_eq_error
    (refused : checkKeys (Mapping.ofFields fields) = .error failure) :
    ∃ first others value, failure = .configuration (.unknownOptions first others) ∧
      Value.fieldOf? first fields = some value ∧ ¬IsKnown (.text first) := by
  unfold checkKeys at refused
  have unknown : ∀ {key}, key ∈ unknownKeys (Mapping.ofFields fields) →
      key ∈ (Mapping.ofFields fields).keys ∧ ¬IsKnown key :=
    fun member => mem_unknownKeys_iff.mp member
  split at refused
  · next fault unread =>
      -- All keys of fields are texts.
      have texts : ∃ names, Mapping.textKeys (unknownKeys (Mapping.ofFields fields)) =
          .ok names := by
        refine Mapping.exists_textKeys_iff.mpr fun key member => ?_
        rcases List.mem_map.mp (unknown member).1 with ⟨entry, listed, rfl⟩
        rcases List.mem_map.mp listed with ⟨field, _, rfl⟩
        exact ⟨field.1, rfl⟩
      rcases texts with ⟨names, read⟩
      cases unread.symm.trans read
  · next names read =>
      split at refused
      · cases refused
      · next first others sorted =>
          cases refused
          have listed : first ∈ names := by
            rw [← List.mem_mergeSort, sorted]
            exact List.mem_cons_self
          have member : .text first ∈ unknownKeys (Mapping.ofFields fields) := by
            rw [Mapping.textKeys_eq_ok_iff.mp read]
            exact List.mem_map_of_mem listed
          rcases text_mem_keys_iff.mp (unknown member).1 with ⟨value, found⟩
          exact ⟨first, others, value, rfl, found, (unknown member).2⟩

/-- A pattern that is not compiled is that of the policy of a directive. -/
theorem exists_of_make_eq_error {options : Mapping} {policies : List (Directive × DirectivePolicy)}
    {minimum : Value} (described : policiesOf options Directive.all = .ok policies)
    (refused : make policies minimum = .error failure) :
    ∃ directive policy, Describes options directive policy ∧
      policy.format directive = .error failure := by
  have uncompiled : compileFormats policies = .error failure := by
    rw [make, withDefaults_policiesOf described] at refused
    split at refused
    · next other here =>
        cases refused
        exact here
    · cases refused
  rcases exists_of_compileFormats_eq_error uncompiled with ⟨⟨directive, policy⟩, member, here⟩
  have keyed : (policies.map Prod.fst).Nodup := by
    rw [map_fst_policiesOf described]
    decide
  rcases lookup_policiesOf described directive (mem_all directive) with ⟨other, found, describes⟩
  rw [Table.lookup_of_mem keyed member] at found
  cases found
  exact ⟨directive, policy, describes, here⟩

/-- A failure is that of the check of an option that was given, apart from the keys that are listed
besides the one that it blames. -/
theorem exists_of_ofValue_eq_error (refused : ofValue (.object fields) = .error failure) :
    ∃ key value single, Value.fieldOf? key fields = some value ∧
      checkOption key value = .error single ∧ single.blamed? = failure.blamed? := by
  have single : ∀ {key other failure}, checkOption key other = .ok () →
      checkOption key ((Value.fieldOf? key fields).getD other) = .error failure →
      ∃ key value single, Value.fieldOf? key fields = some value ∧
        checkOption key value = .error single ∧ single.blamed? = failure.blamed? := by
    intro key other failure inOrder refused
    rcases exists_fieldOf?_of_checkOption inOrder refused with ⟨value, found, here⟩
    exact ⟨key, value, failure, found, here, rfl⟩
  rw [ofValue_object, ofOptions_eq_bind] at refused
  rcases Except.bind_eq_error_iff.mp refused with unknown | ⟨_, _, refused⟩
  · rcases exists_of_checkKeys_eq_error unknown with ⟨first, others, value, rfl, found, unknown⟩
    exact ⟨first, value, _, found, checkOption_unknown unknown value, rfl⟩
  rcases Except.bind_eq_error_iff.mp refused with unbounded | ⟨_, _, refused⟩
  · rw [← checkOption_minimum, minimumOf, Mapping.find?_ofFields] at unbounded
    exact single rfl unbounded
  rcases Except.bind_eq_error_iff.mp refused with undescribed | ⟨policies, described, refused⟩
  · rcases exists_of_policiesOf_eq_error undescribed with ⟨directive, _, fault, rfl, here⟩
    refine single (checkOption_defaultPolicy directive) ?_
    rw [← Mapping.find?_ofFields, checkOption_directive]
    rw [optionFor] at here
    rw [here]
  · rcases exists_of_make_eq_error described refused with ⟨directive, policy, describes, here⟩
    refine single (checkOption_defaultPolicy directive) ?_
    rw [Describes, optionFor] at describes
    rw [← Mapping.find?_ofFields, checkOption_directive, describes]
    dsimp only
    rw [here]
    rfl

end

/-! ## One option after the other -/

section

variable {fields : List (LooseText × Value)} {key : LooseText} {value : Value}

theorem fieldOf?_singleton_iff {other : LooseText} {found : Value} :
    Value.fieldOf? other [(key, value)] = some found ↔ other = key ∧ found = value := by
  rw [Value.fieldOf?_eq_lookup, Table.lookup_cons, List.lookup_nil]
  dsimp only
  split
  · next same => simp [same.symm, eq_comm]
  · next different => simp [Ne.symm different]

theorem exists_ofValue_singleton_iff :
    (∃ configuration, ofValue (.object [(key, value)]) = .ok configuration) ↔
      checkOption key value = .ok () := by
  simp only [exists_ofValue_iff_forall, fieldOf?_singleton_iff]
  constructor
  · intro each
    exact each key value ⟨rfl, rfl⟩
  · rintro inOrder _ _ ⟨rfl, rfl⟩
    exact inOrder

/-- A fault names an option that would be refused alone, under the same key. -/
theorem exists_of_ofValue_eq_fault {fault : ConfigurationFault}
    (refused : ofValue (.object fields) = .error (.configuration fault)) :
    ∃ key value again, fault.key = .text key ∧ Value.fieldOf? key fields = some value ∧
      ofValue (.object [(key, value)]) = .error (.configuration again) ∧ again.key = .text key := by
  rcases exists_of_ofValue_eq_error refused with ⟨key, value, single, found, here, blames⟩
  have named : fault.key = .text key := key_of_checkOption_eq_error here blames
  cases alone : ofValue (.object [(key, value)]) with
  | ok configuration =>
      cases here.symm.trans (exists_ofValue_singleton_iff.mp ⟨configuration, alone⟩)
  | error failure =>
      -- The only option there is has to be the one at fault.
      rcases exists_of_ofValue_eq_error alone with ⟨_, _, other, foundAlone, alike, blamesAlone⟩
      rcases fieldOf?_singleton_iff.mp foundAlone with ⟨rfl, rfl⟩
      cases here.symm.trans alike
      rw [blames] at blamesAlone
      rcases Failure.blamed?_eq_some_iff.mp blamesAlone.symm with ⟨again, rfl, same⟩
      exact ⟨_, _, again, named, found, alone, same.trans named⟩

/-- The key that is blamed for options that are not accepted. -/
def blamed? (fields : List (LooseText × Value)) : Option Value :=
  match ofValue (.object fields) with
  | .ok _ => none
  | .error failure => failure.blamed?

/-- Options without the one that is blamed. Options that are accepted or fail in another way stay as
they are. -/
def withoutBlamed (fields : List (LooseText × Value)) : List (LooseText × Value) :=
  match blamed? fields with
  | none => fields
  | some blame => fields.filter fun field => !blame.same (.text field.1)

theorem length_withoutBlamed_lt {fault : ConfigurationFault}
    (refused : ofValue (.object fields) = .error (.configuration fault)) :
    (withoutBlamed fields).length < fields.length := by
  rcases exists_of_ofValue_eq_fault refused with ⟨key, value, _, named, found, _⟩
  have blames : blamed? fields = some fault.key := by
    rw [blamed?, refused]
    rfl
  rw [withoutBlamed, blames]
  refine List.length_filter_lt_length_iff_exists.mpr ⟨_, mem_of_fieldOf? found, ?_⟩
  simp [named, Value.text_same_text]

/-- Deleting what is blamed ends before the options are used up. -/
theorem exists_iterate_withoutBlamed (fields : List (LooseText × Value)) :
    ∃ count ≤ fields.length,
      (∀ earlier < count, ∃ fault,
        ofValue (.object (withoutBlamed^[earlier] fields)) = .error (.configuration fault)) ∧
      ((∃ configuration, ofValue (.object (withoutBlamed^[count] fields)) = .ok configuration) ∨
        ∃ failure, ofValue (.object (withoutBlamed^[count] fields)) = .error failure ∧
          ¬failure.IsReported) := by
  induction length : fields.length using Nat.strongRecOn generalizing fields with
  | ind size inductionHypothesis =>
      subst length
      cases taken : ofValue (.object fields) with
      | ok configuration => exact ⟨0, Nat.zero_le _, by simp, Or.inl ⟨configuration, taken⟩⟩
      | error failure =>
          by_cases reported : failure.IsReported
          · rcases reported with ⟨fault, rfl⟩
            have shorter := length_withoutBlamed_lt taken
            rcases inductionHypothesis _ shorter (withoutBlamed fields) rfl with
              ⟨count, bounded, refused, ends⟩
            refine ⟨count + 1, Nat.succ_le_of_lt (Nat.lt_of_le_of_lt bounded shorter), ?_, ends⟩
            intro earlier before
            cases earlier with
            | zero => exact ⟨fault, taken⟩
            | succ earlier => exact refused earlier (Nat.lt_of_succ_lt_succ before)
          · exact ⟨0, Nat.zero_le _, by simp, Or.inr ⟨failure, taken, reported⟩⟩

end

/-- For all options: they are accepted exactly if each one would be accepted alone.  A fault of the
configuration names the key of one of them, and this one would be refused alone with a fault of the
same key.  Deleting the option that is blamed, again and again, ends after at most as many steps as
there are options: the rest is accepted, or fails in a way that is not reported. -/
theorem ofValue_blames (fields : List (LooseText × Value)) :
    ((∃ configuration, ofValue (.object fields) = .ok configuration) ↔
      ∀ key value, Value.fieldOf? key fields = some value →
        ∃ configuration, ofValue (.object [(key, value)]) = .ok configuration) ∧
    (∀ fault, ofValue (.object fields) = .error (.configuration fault) →
      ∃ key value again, fault.key = .text key ∧ Value.fieldOf? key fields = some value ∧
        ofValue (.object [(key, value)]) = .error (.configuration again) ∧
        again.key = .text key) ∧
    ∃ count ≤ fields.length,
      (∀ earlier < count, ∃ fault,
        ofValue (.object (withoutBlamed^[earlier] fields)) = .error (.configuration fault)) ∧
      ((∃ configuration, ofValue (.object (withoutBlamed^[count] fields)) = .ok configuration) ∨
        ∃ failure, ofValue (.object (withoutBlamed^[count] fields)) = .error failure ∧
          ¬failure.IsReported) := by
  refine ⟨?_, fun fault refused => exists_of_ofValue_eq_fault refused,
    exists_iterate_withoutBlamed fields⟩
  simp only [exists_ofValue_singleton_iff]
  exact exists_ofValue_iff_forall

/-- Three options that are at fault, each in another stage of the check, and one in order. -/
def threeFaults : List (LooseText × Value) :=
  [("ts-check", .boolean true), ("ts-ignore", .object [("descriptionFormat", .text "(")]),
    ("minimumDescriptionLength", .integer (-1)), ("colour", .text "red")]

example : (List.range 4).map (fun count => (withoutBlamed^[count] threeFaults).map Prod.fst) =
    ([["ts-check", "ts-ignore", "minimumDescriptionLength", "colour"],
      ["ts-check", "ts-ignore", "minimumDescriptionLength"], ["ts-check", "ts-ignore"],
      ["ts-check"]] : List (List LooseText)) := by
  decide +kernel

/-- The key that is not known is blamed first, and it would be alone. -/
theorem ofValue_blames_threeFaults :
    ∃ fault again,
      ofValue (.object threeFaults) = .error (.configuration fault) ∧ fault.key = .text "colour" ∧
      ofValue (.object [("colour", .text "red")]) = .error (.configuration again) ∧
      again.key = .text "colour" := by
  have blames : (blamed? threeFaults).map (fun blame => blame.same (.text "colour")) =
      some true := by
    decide +kernel
  rcases Option.map_eq_some_iff.mp blames with ⟨blame, blamed, isColour⟩
  cases refused : ofValue (.object threeFaults) with
  | ok configuration =>
      rw [blamed?, refused] at blamed
      cases blamed
  | error failure =>
      rw [blamed?, refused] at blamed
      rcases Failure.blamed?_eq_some_iff.mp blamed with ⟨fault, rfl, rfl⟩
      have named : fault.key = .text "colour" := Value.same_text_iff.mp isColour
      rcases (ofValue_blames threeFaults).2.1 fault refused with
        ⟨key, value, again, same, found, alone, againNamed⟩
      cases named.symm.trans same
      cases (show Value.fieldOf? "colour" threeFaults =
          some (.text "red") from rfl).symm.trans found
      exact ⟨fault, again, rfl, named, alone, againNamed⟩

end PolicyConfiguration
end DirectiveLint
