import DirectiveLint.Failure

/-!
# Policies for directives

A directive is allowed, always reported, allowed with a description, or allowed
with a description that a pattern describes.  An option object without a pattern
asks for nothing, and neither does an empty pattern.
-/

namespace DirectiveLint

/-- What a configuration asks of one directive. -/
inductive DirectivePolicy
  | disabled
  | alwaysFlag
  | allowWithDescription
  | descriptionFormat (pattern : Option LooseText)
  deriving DecidableEq, Repr

namespace DirectivePolicy

/-- The pattern that a description has to match, if the policy gives one that is not empty. -/
def requiredPattern? : DirectivePolicy → Option LooseText
  | descriptionFormat (some pattern) => if pattern.isEmpty then none else some pattern
  | _ => none

/-- Whether a directive needs a description. -/
def requiresDescription : DirectivePolicy → Bool
  | allowWithDescription => true
  | policy => policy.requiredPattern?.isSome

/-- The policy that an option object describes. -/
def ofFields (key : String) (fields : List (LooseText × Value)) :
    Except ConfigurationFault DirectivePolicy :=
  let extra := (fields.map (·.1)).filter (· != .plain ConfigurationFault.formatKey)
  if !extra.isEmpty then
    .error (.unexpectedProperties key (extra.mergeSort LooseText.areInOrder))
  else
    match (Value.fieldOf? ConfigurationFault.formatKey fields).getD .null with
    | .null => .ok (.descriptionFormat none)
    | .text pattern => .ok (.descriptionFormat (some pattern))
    | _ => .error (.formatNotText key)

/-- The policy that the option with a key describes. -/
def ofOption (key : String) (value : Value) : Except ConfigurationFault DirectivePolicy :=
  match value with
  | .boolean true => .ok alwaysFlag
  | .boolean false => .ok disabled
  | .text content =>
    if content == .plain ConfigurationFault.allowWithDescription then .ok allowWithDescription
    else .error (.unknownPolicy key value)
  | .object fields => ofFields key fields
  | other => .error (.unknownPolicy key other)

/-- The option that describes a policy. -/
def toOption : DirectivePolicy → Value
  | alwaysFlag => .boolean true
  | disabled => .boolean false
  | allowWithDescription => .text ConfigurationFault.allowWithDescription
  | descriptionFormat none => .object []
  | descriptionFormat (some pattern) =>
    .object [(ConfigurationFault.formatKey, .text pattern)]

end DirectivePolicy
end DirectiveLint
