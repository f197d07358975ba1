import DirectiveLint.Checker.DirectiveRule

/-!
# The registry of rules

Rules are registered by their names.  Registering a name again replaces the rule
and keeps its place.  Rules are switched on and off by name, whether or not a
rule of that name is registered yet.
-/

namespace DirectiveLint

structure Registry where
  rules : List (String × Rule)
  disabled : List String

namespace Registry

def empty : Registry := ⟨[], []⟩

/-- Puts a rule under a name: a name that is there keeps its place. -/
def putRule (name : String) (rule : Rule) : List (String × Rule) → List (String × Rule)
  | [] => [(name, rule)]
  | entry :: rest =>
    if entry.1 == name then (name, rule) :: rest else entry :: putRule name rule rest

def register (registry : Registry) (rule : Rule) : Registry :=
  { registry with rules := putRule rule.name rule registry.rules }

def disable (registry : Registry) (name : String) : Registry :=
  { registry with disabled := name :: registry.disabled.filter (· != name) }

def enable (registry : Registry) (name : String) : Registry :=
  { registry with disabled := registry.disabled.filter (· != name) }

/-- The rules that are switched on, in the order of registration. -/
def enabled (registry : Registry) : List Rule :=
  (registry.rules.filter fun entry => !registry.disabled.contains entry.1).map (·.2)

def byName? (registry : Registry) (name : String) : Option Rule :=
  (registry.rules.find? (·.1 == name)).map (·.2)

/-- The rules that report a message, switched on or not. -/
def byErrorId (registry : Registry) (id : String) : List Rule :=
  (registry.rules.map (·.2)).filter fun rule => rule.errorIds.contains id

/-- The registered names in alphabetical order. -/
def names (registry : Registry) : List String :=
  (registry.rules.map (·.1)).mergeSort fun first second => first ≤ second

/-- The registry that holds the rule for directive comments. -/
def standard : Registry :=
  empty.register directiveRule

end Registry
end DirectiveLint
