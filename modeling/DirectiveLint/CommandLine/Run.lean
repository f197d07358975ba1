import DirectiveLint.CommandLine.Classify
import DirectiveLint.CommandLine.Lint

/-!
# Running the program

The arguments choose a command and how much of the log is shown.  Without a
command there is nothing to do, and that is a failure.
-/

namespace DirectiveLint
namespace CommandLine

/-- What the program says of its version. -/
def versionLine : String := "tsanalysis-shims 0.1.0\n"

/-- The weight that log entries must have to be shown. -/
def leastWeight (verbosity : Nat) : Nat :=
  match verbosity with
  | 0 => 30
  | 1 => LogLevel.info.weight
  | _ => LogLevel.debug.weight

/-- The report of an ending without a command. -/
def reportEnding (tree : FileTree) (ending : Ending) : Report :=
  match ending with
  | .badUsage => ⟨.usage exitFailure, "", [], tree⟩
  | .version => ⟨.usage exitSuccess, versionLine, [], tree⟩
  | .help => ⟨.usage exitSuccess, "", [], tree⟩

/-- The report of a command. -/
def runCommand (tree : FileTree) (standpoint : Standpoint) (command : Option Command) : Report :=
  match command with
  | none => ⟨.exit exitFailure, "", [], tree⟩
  | some (.lint arguments) => lint tree standpoint arguments
  | some (.classify arguments) => classify tree standpoint arguments

/-- Runs the program on a tree of files. -/
def run (tree : FileTree) (standpoint : Standpoint) (arguments : List String) : Report :=
  match Invocation.ofArguments arguments with
  | .error ending => reportEnding tree ending
  | .ok invocation =>
    let report := runCommand tree standpoint invocation.command
    { report with
      log := report.log.filter fun entry =>
        decide (leastWeight invocation.verbosity ≤ entry.level.weight) }

end CommandLine
end DirectiveLint
