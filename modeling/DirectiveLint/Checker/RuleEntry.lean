import DirectiveLint.Failure

/-!
# Rule entries

A configuration gives each rule an entry: a level, a list of a level and
options, or an options object whose `severity` is the level.  Without an entry a
rule reports errors and has no options.  The options of a list are taken in
before its level is looked at.
-/

namespace DirectiveLint

/-- The severity and the options that an entry gives a rule; no severity means that the rule is
off. -/
structure RuleEntry where
  severity : Option Severity
  options : Mapping
  deriving Repr

namespace RuleEntry

/-- The key of the level in an options object. -/
def severityKey : String := "severity"

/-- The entry of a level and options. -/
def ofLevel (level : Value) (options : Mapping) : Except Failure RuleEntry :=
  match Severity.ofLevel level with
  | .ok severity => .ok ⟨severity, options⟩
  | .error fault => .error (.configuration (.level fault))

/-- The entry that a value describes. -/
def ofValue (entry : Value) : Except Failure RuleEntry :=
  match entry with
  | .null => .ok ⟨some .error, .empty⟩
  | .object fields =>
    let mapping := Mapping.ofFields fields
    ofLevel ((mapping.find? severityKey).getD (.text Severity.error.name))
      (mapping.erase severityKey)
  | .list [level] => ofLevel level .empty
  | .list [level, options] =>
    match Mapping.ofValue options with
    | .ok options => ofLevel level options
    | .error fault => .error (.conversion fault)
  | .list _ => .error (.ofFault (.entryShape entry))
  | level => ofLevel level .empty

end RuleEntry
end DirectiveLint
