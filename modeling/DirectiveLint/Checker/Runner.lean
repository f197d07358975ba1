import DirectiveLint.Checker.Log
import DirectiveLint.Checker.Registry
import DirectiveLint.Checker.Results
import DirectiveLint.Checker.RuleEntry

/-!
# Running checkers

A runner holds the checkers that a configuration switches on.  It is built once,
and building it fails on every fault of the configuration, so that none shows
while files are checked.  Running it on a file never fails: a checker that fails
on a file leaves one diagnostic that says so.
-/

namespace DirectiveLint

/-- Checkers of any rules, in the order in which they run. -/
structure Runner where
  checkers : List (Sigma Checker)

namespace Runner

/-- The message id of a checker that failed on a file. -/
def internalErrorId : String := "checkerInternalError"

/-- Refuses options for rules that are not registered. -/
def checkNames (registry : Registry) (options : Mapping) : Except Failure Unit :=
  let known := registry.names
  let unknown := options.keys.filter fun key => !known.any fun name => key.same (.text name)
  match Mapping.textKeys unknown with
  | .error fault => .error (.conversion fault)
  | .ok [] => .ok ()
  | .ok names =>
    .error (.configuration
      (.optionsForUnknownCheckers (names.mergeSort LooseText.areInOrder)))

/-- The rules with the given names, in their order and as often as they are named. -/
def rulesNamed (registry : Registry) : List Value → Except Failure (List Rule)
  | [] => .ok []
  | name :: rest =>
    let rule? := match name with
      | .text (.plain text) => registry.byName? text
      | _ => none
    if !name.isKey then .error (.conversion (.unhashable name))
    else
      match rule? with
      | none => .error (.ofFault (.unknownChecker name))
      | some rule =>
        match rulesNamed registry rest with
        | .error failure => .error failure
        | .ok rules => .ok (rule :: rules)

/-- The rules that were asked for, or else those that are switched on. -/
def selectRules (registry : Registry) (selection : Value) : Except Failure (List Rule) :=
  match selection with
  | .null => .ok registry.enabled
  | _ =>
    match selection.elements with
    | .error fault => .error (.conversion fault)
    | .ok names => rulesNamed registry names

/-- The debug entries on a checker that was just set up. -/
def setUpEntries {rule : Rule} (checker : Checker rule) : List LogEntry :=
  (rule.notes checker.state).map LogEntry.debug

/-- A fresh checker with an entry taken in; nothing if the entry switches it off. -/
def applyEntry {rule : Rule} (fresh : Checker rule) (entry : RuleEntry) :
    Logged Failure (Option (Checker rule)) :=
  match entry.severity with
  | none => .noting [.debug ("Checker " ++ rule.name ++ " is off")] none
  | some severity =>
    match (fresh.withSeverity (some severity)).configure entry.options with
    | (_, some failure) => .quiet (.error failure)
    | (checker, none) => .noting (setUpEntries checker) (some checker)

/-- The checker of a rule under options; nothing if its rule is off. -/
def buildChecker (options : Mapping) (rule : Rule) : Logged Failure (Option (Checker rule)) :=
  let fresh := Checker.create rule
  ((Logged.noting (setUpEntries fresh) ()).andThen fun _ =>
    .quiet (RuleEntry.ofValue ((options.find? rule.name).getD .null))).andThen
      fun entry => applyEntry fresh entry

/-- The checkers of rules under options, up to the first that cannot be built. -/
def buildCheckers (options : Mapping) : List Rule → Logged Failure (List (Sigma Checker))
  | [] => .noting [] []
  | rule :: rest =>
    (buildChecker options rule).andThen fun checker =>
      (buildCheckers options rest).andThen fun checkers =>
        .noting [] (checker.toList.map (⟨rule, ·⟩) ++ checkers)

/-- The runner of a registry for a mapping of rule names to entries. -/
def ofMapping (registry : Registry) (options : Mapping) (selection : Value) :
    Logged Failure Runner :=
  match checkNames registry options with
  | .error failure => .quiet (.error failure)
  | .ok () =>
    (Logged.quiet (selectRules registry selection)).andThen fun rules =>
      (buildCheckers options rules).andThen fun checkers => .noting [] ⟨checkers⟩

/-- The runner of a registry for options and a selection of rules, either of which may be missing.
-/
def build (registry : Registry) (options selection : Value) : Logged Failure Runner :=
  match Mapping.ofOptional options with
  | .error fault => .quiet (.error (.conversion fault))
  | .ok options => ofMapping registry options selection

/-- The diagnostic of a checker that failed on a file. -/
def internalError (checker path : String) (text : LooseText) : Diagnostic :=
  { messageId := internalErrorId
    message := "Checker '" ++ checker ++ "' failed: " ++ text
    severity := .information
    location := .ofFile path
    checker }

/-- Results with what one checker found on a file added to them. -/
def addOutcome (results : Results) (checker : String) (stats : List (LooseText × Value))
    (diagnostics : List Diagnostic) : Results :=
  { diagnostics := results.diagnostics ++ diagnostics
    byChecker := Results.addToGroup checker diagnostics results.byChecker
    stats := Value.putField (Results.elapsedKey checker) (.integer 0)
      (stats.foldl (fun stats stat => Value.putField stat.1 stat.2 stats) results.stats)
    checkers := results.checkers ++ [checker]
    files := results.files }

/-- What running gives: the results, the runner afterwards and entries for the log. -/
structure Ran where
  results : Results
  runner : Runner
  log : List LogEntry

/-- Runs checkers one after the other on a file. -/
def runCheckers (file : SourceFile) (results : Results) :
    List (Sigma Checker) → Results × List (Sigma Checker) × List LogEntry
  | [] => (results, [], [])
  | ⟨rule, checker⟩ :: rest =>
    let name := rule.name
    let outcome := checker.workThrough file
    let (diagnostics, entries) :=
      match outcome.result with
      | .ok diagnostics => (diagnostics, [])
      | .error text =>
        ([internalError name file.path text],
          [LogEntry.debug ("Checker " ++ name ++ " failed on " ++ file.path)])
    let (results, others, log) :=
      runCheckers file (addOutcome results name outcome.stats diagnostics) rest
    (results, ⟨rule, outcome.checker⟩ :: others, entries ++ log)

/-- Runs all checkers on a file. -/
def run (runner : Runner) (file : SourceFile) : Ran :=
  let (results, checkers, log) :=
    runCheckers file { Results.empty with files := [file.path] } runner.checkers
  { results
    runner := ⟨checkers⟩
    log := log ++ [.debug (file.path ++ ": " ++ toString results.total ++ " diagnostics")] }

/-- Runs on files one after the other and merges the results into those before. -/
def runAll (runner : Runner) (results : Results) : List SourceFile → Ran
  | [] => ⟨results, runner, []⟩
  | file :: rest =>
    let ran := runner.run file
    let others := runAll ran.runner (results.merge ran.results).1 rest
    { others with log := ran.log ++ others.log }

end Runner
end DirectiveLint
