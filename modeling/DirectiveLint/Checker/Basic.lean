import DirectiveLint.Diagnostic.Basic
import DirectiveLint.Failure
import DirectiveLint.Source.File

/-!
# Rules and checkers

A rule is the description of a kind of checker: how it is called, which messages
it reports, and how its state changes when it is configured, when it collects
evidence from a file and when it diagnoses the evidence.  A checker is one
instance of a rule at work; the diagnostics that it has found and not yet
reported are kept beside the state of its rule.

Each of the three steps can fail.  A failure to collect or to diagnose stands for
an ordinary exception whose text can be shown, and carries that text.  The state
that a step reached comes along with its failure, and what a rule had found when
it failed stays pending until the checker is reset.
-/

namespace DirectiveLint

/-- What configuring gives: a new state, perhaps with a failure after which it is left. -/
structure Configured (State : Type) where
  state : State
  failure : Option Failure := none

/-- What collecting evidence gives: a new state, counts for the statistics, findings that need no
diagnosis, perhaps a failure after them. -/
structure Collected (State : Type) where
  state : State
  stats : List (LooseText × Value) := []
  found : List Diagnostic := []
  failure : Option LooseText := none

/-- What diagnosing gives: a new state, findings, perhaps a failure after them. -/
structure Diagnosed (State : Type) where
  state : State
  found : List Diagnostic := []
  failure : Option LooseText := none

/-- A kind of checker. -/
structure Rule where
  label : String
  name : String
  description : String
  errorIds : List String
  State : Type
  initial : State
  configure : Option Severity → Mapping → State → Configured State :=
    fun _ _ state => { state }
  collect : SourceFile → State → Collected State
  diagnose : Option Severity → SourceFile → State → Diagnosed State
  /-- What is noted in the log about a state that was just set up. -/
  notes : State → List LooseText := fun _ => []

namespace Rule

/-- How a checker of a rule is shown: by the label and the name of the rule. -/
def shown (rule : Rule) : String :=
  "<" ++ rule.label ++ " '" ++ rule.name ++ "'>"

end Rule

/-- A checker of a rule at work. -/
structure Checker (rule : Rule) where
  severity : Option Severity
  state : rule.State
  pending : List Diagnostic

namespace Checker

variable {rule : Rule}

/-- A fresh checker of a rule; it reports errors. -/
def create (rule : Rule) : Checker rule :=
  ⟨some .error, rule.initial, []⟩

/-- Whether the checker is on. -/
def enabled (checker : Checker rule) : Bool :=
  checker.severity.isSome

def withSeverity (checker : Checker rule) (severity : Option Severity) : Checker rule :=
  { checker with severity }

/-- Takes options. -/
def configure (checker : Checker rule) (options : Mapping) : Checker rule × Option Failure :=
  let configured := rule.configure checker.severity options checker.state
  ({ checker with state := configured.state }, configured.failure)

/-- Forgets the pending diagnostics. -/
def reset (checker : Checker rule) : Checker rule :=
  { checker with pending := [] }

/-- What gathering evidence gives: the checker, counts for the statistics, perhaps a failure. -/
structure Gathered (rule : Rule) where
  checker : Checker rule
  stats : List (LooseText × Value) := []
  failure : Option LooseText := none

/-- Gathers evidence from a file.  What is found on the way is added to the pending diagnostics. -/
def collect (checker : Checker rule) (file : SourceFile) : Gathered rule :=
  let collected := rule.collect file checker.state
  { checker :=
      { checker with
        state := collected.state
        pending := checker.pending ++ collected.found }
    stats := collected.stats
    failure := collected.failure }

/-- Adds what the evidence shows to the pending diagnostics. -/
def diagnose (checker : Checker rule) (file : SourceFile) : Checker rule × Option LooseText :=
  let diagnosed := rule.diagnose checker.severity file checker.state
  ({ checker with state := diagnosed.state, pending := checker.pending ++ diagnosed.found },
    diagnosed.failure)

/-- Hands out the pending diagnostics and forgets them. -/
def report (checker : Checker rule) : Checker rule × List Diagnostic :=
  (checker.reset, checker.pending)

/-- What working through one file gives. -/
structure Outcome (rule : Rule) where
  checker : Checker rule
  stats : List (LooseText × Value)
  result : Except LooseText (List Diagnostic)

/-- Works through one file from a reset on. -/
def workThrough (checker : Checker rule) (file : SourceFile) : Outcome rule :=
  let gathered := checker.reset.collect file
  match gathered.failure with
  | some text => ⟨gathered.checker, gathered.stats, .error text⟩
  | none =>
    let (diagnosed, failure) := gathered.checker.diagnose file
    match failure with
    | some text => ⟨diagnosed, gathered.stats, .error text⟩
    | none =>
      let (reported, diagnostics) := diagnosed.report
      ⟨reported, gathered.stats, .ok diagnostics⟩

end Checker
end DirectiveLint
