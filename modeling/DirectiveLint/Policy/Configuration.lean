import DirectiveLint.Policy.Basic
import DirectiveLint.Policy.DescriptionFormat

/-!
# Policy configurations

A configuration has a policy for every directive and a least length of
descriptions.  Its formats are compiled when it is made, so that a bad pattern
is found before any file is read.  Options are taken over defaults; they are
checked in this order: unknown keys, the least length, the policies, the
patterns.
-/

namespace DirectiveLint

/-- The policies of all directives with the formats they ask for. -/
structure PolicyConfiguration where
  policyFor : Directive → DirectivePolicy
  formatFor : Directive → Option DescriptionFormat
  minimum : Value

namespace PolicyConfiguration

/-- The policy of a directive that no option mentions. -/
def defaultPolicy : Directive → DirectivePolicy
  | .expectError => .allowWithDescription
  | .ignore => .alwaysFlag
  | .nocheck => .alwaysFlag
  | .check => .disabled

/-- The least length of descriptions unless an option says otherwise. -/
def defaultMinimum : Value := .integer 3

/-- The options that stand for the defaults. -/
def defaultOptions : List (LooseText × Value) :=
  Directive.all.map (fun directive =>
    ((directive.key : LooseText), (defaultPolicy directive).toOption)) ++
    [((ConfigurationFault.minimumKey : LooseText), defaultMinimum)]

/-- The keys that options may have. -/
def optionKeys : List LooseText :=
  (Directive.all.map Directive.key ++ [ConfigurationFault.minimumKey]).map LooseText.plain

/-- The named configurations: a level with options. -/
def presets : List (String × (String × List (LooseText × Value))) :=
  [("recommended", ("error", defaultOptions)), ("strict", ("error", defaultOptions))]

/-- The formats that policies ask for, compiled in the given order. -/
def compileFormats :
    List (Directive × DirectivePolicy) → Except Failure (List (Directive × DescriptionFormat))
  | [] => .ok []
  | (directive, policy) :: rest =>
    match policy.requiredPattern? with
    | none => compileFormats rest
    | some source =>
      match DescriptionFormat.compile directive.key source with
      | .error failure => .error failure
      | .ok format =>
        match compileFormats rest with
        | .error failure => .error failure
        | .ok formats => .ok ((directive, format) :: formats)

/-- The given policies followed by the default ones of the directives that are not among them. -/
def withDefaults (policies : List (Directive × DirectivePolicy)) :
    List (Directive × DirectivePolicy) :=
  policies ++ (Directive.all.filter fun directive => (policies.lookup directive).isNone).map
    fun directive => (directive, defaultPolicy directive)

/-- The configuration of some policies and a least length. -/
def make (policies : List (Directive × DirectivePolicy)) (minimum : Value) :
    Except Failure PolicyConfiguration :=
  match compileFormats (withDefaults policies) with
  | .error failure => .error failure
  | .ok formats =>
    .ok
      { policyFor := fun directive => (policies.lookup directive).getD (defaultPolicy directive)
        formatFor := fun directive => formats.lookup directive
        minimum }

/-- The policies that options describe, each under the key of its directive. -/
def policiesOfFields :
    List (LooseText × Value) → Except Failure (List (Directive × DirectivePolicy))
  | [] => .ok []
  | (key, option) :: rest =>
    match Directive.ofKey? key with
    | none => .error (.unknownDirective key)
    | some directive =>
      match DirectivePolicy.ofOption directive.key option with
      | .error fault => .error (.ofFault fault)
      | .ok policy =>
        match policiesOfFields rest with
        | .error failure => .error failure
        | .ok policies => .ok ((directive, policy) :: policies)

/-- The configuration of policies that options describe; the least length is taken as it is. -/
def ofPolicies (policies : List (LooseText × Value)) (minimum : Value) :
    Except Failure PolicyConfiguration :=
  match policiesOfFields policies with
  | .error failure => .error failure
  | .ok policies => make policies minimum

/-- The keys of options that are not known. -/
def unknownKeys (options : Mapping) : List Value :=
  options.keys.filter fun key => !optionKeys.any fun known => key.same (.text known)

/-- Refuses unknown keys. -/
def checkKeys (options : Mapping) : Except Failure Unit :=
  match Mapping.textKeys (unknownKeys options) with
  | .error fault => .error (.conversion fault)
  | .ok names =>
    match names.mergeSort LooseText.areInOrder with
    | [] => .ok ()
    | first :: others => .error (.configuration (.unknownOptions first others))

/-- Refuses a least length that is not a number or negative. -/
def checkMinimum (minimum : Value) : Except Failure Unit :=
  match minimum with
  | .integer value =>
    if value < 0 then .error (.configuration .minimumNegative) else .ok ()
  | .real value =>
    match value with
    | .infinite true => .error (.configuration .minimumNegative)
    | _ =>
      if value.isNegative && !value.isZero then .error (.configuration .minimumNegative)
      else .ok ()
  | other => .error (.ofFault (.minimumNotNumber other))

/-- The policies of some directives under options. -/
def policiesOf (options : Mapping) :
    List Directive → Except Failure (List (Directive × DirectivePolicy))
  | [] => .ok []
  | directive :: rest =>
    let value := (options.find? directive.key).getD (defaultPolicy directive).toOption
    match DirectivePolicy.ofOption directive.key value with
    | .error fault => .error (.ofFault fault)
    | .ok policy =>
      match policiesOf options rest with
      | .error failure => .error failure
      | .ok policies => .ok ((directive, policy) :: policies)

/-- The configuration that options describe. -/
def ofOptions (options : Mapping) : Except Failure PolicyConfiguration :=
  let minimum := (options.find? ConfigurationFault.minimumKey).getD defaultMinimum
  match checkKeys options with
  | .error failure => .error failure
  | .ok () =>
    match checkMinimum minimum with
    | .error failure => .error failure
    | .ok () =>
      match policiesOf options Directive.all with
      | .error failure => .error failure
      | .ok policies => make policies minimum

/-- The configuration that a value describes; a value that does not count as given stands for no
options. -/
def ofValue (value : Value) : Except Failure PolicyConfiguration :=
  match Mapping.ofOptional value with
  | .error fault => .error (.conversion fault)
  | .ok options => ofOptions options

/-- The options that describe a configuration. -/
def toOptions (configuration : PolicyConfiguration) : List (LooseText × Value) :=
  Directive.all.map (fun directive =>
    ((directive.key : LooseText), (configuration.policyFor directive).toOption)) ++
    [((ConfigurationFault.minimumKey : LooseText), configuration.minimum)]

/-- The configuration without options. -/
def default : PolicyConfiguration :=
  { policyFor := defaultPolicy
    formatFor := fun _ => none
    minimum := defaultMinimum }

end PolicyConfiguration
end DirectiveLint
