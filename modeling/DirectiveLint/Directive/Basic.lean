import DirectiveLint.Text.Loose

/-!
# The four directives

A directive tells the compiler to treat the next line or the whole file
differently.  It is written as its keyword after `@ts-`, and options name it by
its key.
-/

namespace DirectiveLint

inductive Directive
  | expectError
  | ignore
  | nocheck
  | check
  deriving DecidableEq, Repr

namespace Directive

/-- All directives, in the order in which they are listed. -/
def all : List Directive := [expectError, ignore, nocheck, check]

/-- What follows `@ts-` in a comment. -/
def keyword : Directive → String
  | expectError => "expect-error"
  | ignore => "ignore"
  | nocheck => "nocheck"
  | check => "check"

/-- The name of a directive among options. -/
def key (directive : Directive) : String :=
  "ts-" ++ directive.keyword

/-- The directive with a key. -/
def ofKey? (key : LooseText) : Option Directive :=
  all.find? fun directive => .plain directive.key == key

end Directive
end DirectiveLint
