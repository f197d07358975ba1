import DirectiveLint.Proofs.Checker.Building

/-!
# Rules that options turn off

The level of a rule stands in its entry alone, in front of the options or among
them.  A rule is off if its level is the word for off or the number zero, and then
no checker is built for it.  Every other level that is understood chooses a
severity.
-/

namespace DirectiveLint

namespace RuleEntry

/-- The level that an entry names, be it alone, in front of options or as a field of them. -/
def levelOf : Value → Value
  | .null => .text Severity.error.name
  | .object fields =>
    ((Mapping.ofFields fields).find? severityKey).getD (.text Severity.error.name)
  | .list (level :: _) => level
  | level => level

/-- Whether the level of an entry is the word for off or the number zero. -/
def isOff (entry : Value) : Bool :=
  (Value.text "off").same (levelOf entry) || (Value.integer 0).same (levelOf entry)

/-- Of the levels that are understood, the first two choose no severity. -/
theorem isNone_of_ofLevel {level : Value} {severity : Option Severity}
    (understood : Severity.ofLevel level = .ok severity) :
    severity.isNone = ((Value.text "off").same level || (Value.integer 0).same level) := by
  unfold Severity.ofLevel at understood
  split at understood
  · cases understood
  · cases understood
  · cases understood
  · have others : ∀ entry ∈ Severity.levels.drop 2, entry.2.isNone = false := by decide
    rw [show Severity.levels =
      (.text "off", none) :: (.integer 0, none) :: Severity.levels.drop 2 from rfl,
      List.find?_cons, List.find?_cons] at understood
    cases off : (Value.text "off").same level with
    | true =>
        simp only [off] at understood
        cases understood
        rfl
    | false =>
        cases zero : (Value.integer 0).same level with
        | true =>
            simp only [off, zero] at understood
            cases understood
            rfl
        | false =>
            simp only [off, zero] at understood
            split at understood
            · next found =>
                cases understood
                exact others _ (List.mem_of_find?_eq_some found)
            · cases understood

theorem isNone_of_ofValue {entry : Value} {result : RuleEntry} (read : ofValue entry = .ok result) :
    result.severity.isNone = isOff entry := by
  have byLevel : ∀ {level options}, ofLevel level options = .ok result →
      result.severity.isNone =
        ((Value.text "off").same level || (Value.integer 0).same level) := by
    intro level options taken
    unfold ofLevel at taken
    split at taken
    · next severity understood =>
        cases taken
        exact isNone_of_ofLevel understood
    · cases taken
  unfold ofValue at read
  split at read
  · cases read
    decide
  · exact byLevel read
  · exact byLevel read
  · split at read
    · exact byLevel read
    · cases read
  · cases read
  · next noEntry noFields noLevel noOptions noList =>
      have alone : levelOf entry = entry := by
        unfold levelOf
        split
        · contradiction
        · contradiction
        · contradiction
        · rfl
      rw [isOff, alone]
      exact byLevel read

end RuleEntry

namespace Runner

/-- Whether options turn a rule off. -/
def turnsOff (options : Mapping) (rule : Rule) : Bool :=
  RuleEntry.isOff ((options.find? rule.name).getD .null)

theorem isNone_of_buildChecker {options : Mapping} {rule : Rule} {built : Option (Checker rule)}
    (result : (buildChecker options rule).result = .ok built) :
    built.isNone = turnsOff options rule := by
  simp only [buildChecker] at result
  rcases Logged.andThen_result_eq_ok_iff.mp result with ⟨entry, first, applied⟩
  rcases Logged.andThen_result_eq_ok_iff.mp first with ⟨_, _, read⟩
  rw [turnsOff, ← RuleEntry.isNone_of_ofValue read]
  unfold applyEntry at applied
  split at applied
  · next off =>
      cases applied
      rw [off]
      rfl
  · next severity on =>
      rw [on]
      split at applied
      · cases applied
      · cases applied
        rfl

/-- The checkers of rules are those of the rules that the options do not turn off. -/
theorem rules_of_buildCheckers {options : Mapping} {rules : List Rule}
    {checkers : List (Sigma Checker)}
    (built : (buildCheckers options rules).result = .ok checkers) :
    checkers.map (·.1) = rules.filter fun rule => !turnsOff options rule := by
  induction rules generalizing checkers with
  | nil =>
      cases built
      rfl
  | cons rule rest inductionHypothesis =>
      rcases Logged.andThen_result_eq_ok_iff.mp built with ⟨made, here, later⟩
      rcases Logged.andThen_result_eq_ok_iff.mp later with ⟨others, rest, same⟩
      cases same
      have turned := isNone_of_buildChecker here
      rw [List.filter_cons, ← turned, ← inductionHypothesis rest]
      cases made with
      | none => rfl
      | some checker => rfl

end Runner
end DirectiveLint
