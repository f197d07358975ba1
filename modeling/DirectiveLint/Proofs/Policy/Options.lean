import DirectiveLint.Policy.Evaluator

/-!
# What options fix in a configuration

Options that are accepted fix the policy of every directive: it is the policy
that the option under the key of the directive describes, or the default one.
They also fix a least length, which is a number.
-/

namespace DirectiveLint
namespace PolicyConfiguration

variable {options : Mapping} {configuration : PolicyConfiguration}

/-- The option of a directive, or the default one in its place. -/
def optionFor (options : Mapping) (directive : Directive) : Value :=
  (options.find? directive.key).getD (defaultPolicy directive).toOption

/-- The least length that options ask for. -/
def minimumOf (options : Mapping) : Value :=
  (options.find? ConfigurationFault.minimumKey).getD defaultMinimum

theorem mem_all (directive : Directive) : directive ∈ Directive.all := by
  cases directive <;> decide

/-- The policies under options are those of the options, one for each directive. -/
theorem lookup_policiesOf {directives : List Directive}
    {policies : List (Directive × DirectivePolicy)}
    (described : policiesOf options directives = .ok policies) :
    ∀ directive ∈ directives, ∃ policy, policies.lookup directive = some policy ∧
      DirectivePolicy.ofOption directive.key (optionFor options directive) = .ok policy := by
  induction directives generalizing policies with
  | nil => simp
  | cons first rest inductionHypothesis =>
      simp only [policiesOf] at described
      split at described
      · cases described
      · next policy here =>
          split at described
          · cases described
          · next others later =>
              cases described
              intro directive member
              by_cases same : directive = first
              · rw [same]
                exact ⟨policy, List.lookup_cons_self, here⟩
              · have inRest := (List.mem_cons.mp member).resolve_left same
                rcases inductionHypothesis later directive inRest with ⟨other, found, described⟩
                refine ⟨other, ?_, described⟩
                rw [List.lookup_cons, beq_eq_false_iff_ne.mpr same]
                exact found

/-- What it takes for options to be accepted. -/
theorem ofOptions_eq_ok (made : ofOptions options = .ok configuration) :
    checkMinimum (minimumOf options) = .ok () ∧ configuration.minimum = minimumOf options ∧
      ∃ policies, policiesOf options Directive.all = .ok policies ∧
        make policies (minimumOf options) = .ok configuration := by
  simp only [ofOptions] at made
  split at made
  · cases made
  · split at made
    · cases made
    · next bounded =>
        split at made
        · cases made
        · next policies described =>
            refine ⟨bounded, ?_, policies, described, made⟩
            unfold make at made
            split at made
            · cases made
            · cases made
              rfl

/-- Fields are taken as options, also when there are none. -/
theorem ofValue_object (fields : List (LooseText × Value)) :
    ofValue (.object fields) = ofOptions (Mapping.ofFields fields) := by
  cases fields <;> rfl

theorem checkMinimum_of_ofOptions (made : ofOptions options = .ok configuration) :
    checkMinimum configuration.minimum = .ok () := by
  rcases ofOptions_eq_ok made with ⟨bounded, same, _⟩
  rw [same]
  exact bounded

/-- The policy of a directive is the one that its option describes. -/
theorem policyFor_of_ofOptions (made : ofOptions options = .ok configuration)
    (directive : Directive) :
    DirectivePolicy.ofOption directive.key (optionFor options directive) =
      .ok (configuration.policyFor directive) := by
  rcases ofOptions_eq_ok made with ⟨_, _, policies, described, made⟩
  rcases lookup_policiesOf described directive (mem_all directive) with ⟨policy, found, here⟩
  unfold make at made
  split at made
  · cases made
  · cases made
    rw [here]
    simp only [found, Option.getD_some]

end PolicyConfiguration
end DirectiveLint
