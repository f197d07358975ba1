import DirectiveLint.Checker.Runner
import DirectiveLint.CommandLine.Invocation
import DirectiveLint.CommandLine.Report
import DirectiveLint.FileTree.Sources

/-!
# The command that lints

Options and paths are checked before any file is read.  The files are then read
and checked one after the other; the first that is no text ends the command.
Edits are applied when all files have been checked, and the diagnostics are
written last.
-/

namespace DirectiveLint
namespace CommandLine
namespace Lint

/-- A name filled up with blanks. -/
def padded (name : String) : String :=
  let width := 25
  name ++ String.ofList (List.replicate (width - name.length) ' ')

/-- The lines that describe a rule. -/
def describe (rule : Rule) : String :=
  let ids := rule.errorIds.mergeSort fun first second => first ≤ second
  "  " ++ padded rule.name ++ " " ++ rule.description ++ "\n" ++
    "  " ++ padded "" ++ " IDs: " ++ Value.commaSeparated ids ++ "\n"

/-- The lines that describe the rules of a registry, by name. -/
def listing (registry : Registry) : String :=
  String.join ((registry.names.filterMap registry.byName?).map describe)

/-- Why there are no rule options, as the reason to stop. -/
def stopOfOptions (fault : RuleOptionsFault) : Stop :=
  match fault with
  | .configuration fault => .reported ("Invalid configuration: " ++ fault.message)
  | .missing path => .reported (notFound "config" path)
  | .unreadable fault => .interrupted (.text fault)
  | .beyond limit => .interrupted (.beyond limit)

/-- Why there is no runner, as the reason to stop. -/
def stopOfFailure (failure : Failure) : Stop :=
  match failure with
  | .configuration fault => .reported ("Invalid configuration: " ++ fault.message)
  | other => .interrupted (.failure other)

/-- A result under another kind of failure. -/
def withStop (built : Logged Failure Runner) : Logged Stop Runner :=
  ⟨built.log, match built.result with
    | .ok runner => .ok runner
    | .error failure => .error (stopOfFailure failure)⟩

/-- The runner that the arguments ask for. -/
def prepare (tree : FileTree) (standpoint : Standpoint) (arguments : LintArguments) :
    Logged Stop Runner :=
  match RuleOptions.load tree standpoint arguments.config arguments.preset with
  | .error fault => .quiet (.error (stopOfOptions fault))
  | .ok options =>
    withStop (Runner.build .standard (.object options)
      (match arguments.checkers with
      | some names => .list (names.map fun (name : String) => .text name)
      | none => .null))

/-- The files that the arguments name. -/
def collect (tree : FileTree) (standpoint : Standpoint) (arguments : LintArguments) :
    Logged Stop (List (FilePath × List UInt8)) :=
  match tree.sources standpoint arguments.paths with
  | .error (.missing path) => .quiet (.error (.reported (notFound "path" path)))
  | .error (.file fault) => .quiet (.error (.interrupted (.text (.file fault))))
  | .ok files =>
    .noting [.info ("Linting " ++ toString files.length ++ " file(s)")] files

/-- The source files of bytes, up to the first that is no text. -/
def decodeSources :
    List (FilePath × List UInt8) → List SourceFile × Option Text.Utf8Fault
  | [] => ([], none)
  | (path, bytes) :: rest =>
    match FileTree.textOf bytes with
    | .error fault => ([], some fault)
    | .ok text =>
      let others := decodeSources rest
      (.ofText path.text text :: others.1, others.2)

/-- The results of a runner on files. -/
def check (runner : Runner) (files : List (FilePath × List UInt8)) : Logged Stop Results :=
  let decoded := decodeSources files
  let ran := runner.runAll .empty decoded.1
  ⟨ran.log, match decoded.2 with
    | none => .ok ran.results
    | some fault => .error (.reported ("Failed to read source: " ++ fault.message))⟩

/-- The results on the files that the arguments name. -/
def results (tree : FileTree) (standpoint : Standpoint) (arguments : LintArguments) :
    Logged Stop Results :=
  (prepare tree standpoint arguments).andThen fun runner =>
    (collect tree standpoint arguments).andThen fun files => check runner files

/-- Applies the edits for one file, if there are any. -/
def applyTo (results : Results) (tree : FileTree) (file : String) : Logged Stop FileTree :=
  let edits := results.editsFor file
  if edits.isEmpty then .noting [] tree
  else
    let path := FilePath.resolve [] file
    match tree.readText path with
    | .error fault => .quiet (.error (.interrupted (.text fault)))
    | .ok text =>
      let (text, applied) := applyEdits text edits
      match tree.writeText path text with
      | .error fault => .quiet (.error (.interrupted (.text (.file fault))))
      | .ok tree =>
        .noting [.info (file ++ ": applied " ++ toString applied ++ " edit(s)")] tree

/-- Applies the edits for files, each as often as it was checked. -/
def applyToAll (results : Results) (tree : FileTree) : List String → Logged Stop FileTree
  | [] => .noting [] tree
  | file :: rest => (applyTo results tree file).andThen fun tree => applyToAll results tree rest

/-- A line that may be missing because a number in it is too long to be written. -/
def orTooLong (line : Option LooseText) : Except Failure LooseText :=
  match line with
  | some text => .ok text
  | none => .error .tooManyDigits

/-- Results in the format that was asked for, line by line; lines are made as they are written. -/
def render (results : Results) (format : OutputFormat) : List (Except Failure LooseText) :=
  let textLines := results.diagnostics.map fun diagnostic => orTooLong diagnostic.textLine?
  match format with
  | .json =>
    results.diagnostics.map fun diagnostic => orTooLong (diagnostic.jsonLine?.map LooseText.plain)
  | .lines => textLines
  | .summary => textLines ++ [results.summary.map LooseText.plain]

/-- Lines up to the first that cannot be made, each with a line feed after it, and why that one
cannot be made. -/
def madeLines : List (Except Failure LooseText) → List LooseText × Option Failure
  | [] => ([], none)
  | .error failure :: _ => ([], some failure)
  | .ok line :: rest =>
    let (lines, failure) := madeLines rest
    ((line ++ LooseText.plain "\n") :: lines, failure)

/-- The exit code for results. -/
def exitCode (results : Results) : Nat :=
  if results.count .error > 0 then exitFindings else exitSuccess

/-- Writes results and ends with the exit code for them.  The first line that cannot be made or
written interrupts the command behind those before it. -/
def conclude (tree : FileTree) (standpoint : Standpoint) (arguments : LintArguments)
    (log : List LogEntry) (results : Results) : Report :=
  let (lines, failure) := madeLines (render results arguments.output)
  let delivery := deliver tree standpoint arguments.outputFile lines
  let outcome :=
    match delivery.fault, failure with
    | some fault, _ => Outcome.interrupted (.text (.file fault))
    | none, some failure => .interrupted (.failure failure)
    | none, none => .exit (exitCode results)
  ⟨outcome, delivery.output, log, delivery.tree⟩

/-- The tree with the edits of results, if they are to be applied. -/
def applied (tree : FileTree) (arguments : LintArguments) (results : Results) :
    Logged Stop FileTree :=
  if arguments.applySuggestions then applyToAll results tree results.files else .noting [] tree

end Lint

/-- Lints. -/
def lint (tree : FileTree) (standpoint : Standpoint) (arguments : LintArguments) : Report :=
  if arguments.listCheckers then ⟨.exit exitSuccess, Lint.listing .standard, [], tree⟩
  else if arguments.paths.isEmpty then .ofStop tree [] (.reported "No input paths given.")
  else
    let checked := Lint.results tree standpoint arguments
    match checked.result with
    | .error stop => .ofStop tree checked.log stop
    | .ok results =>
      let applied := Lint.applied tree arguments results
      match applied.result with
      | .error stop => .ofStop tree (checked.log ++ applied.log) stop
      | .ok tree => Lint.conclude tree standpoint arguments (checked.log ++ applied.log) results

end CommandLine
end DirectiveLint
