import DirectiveLint.CommandLine.Reading
import DirectiveLint.Number.IntegerText
import DirectiveLint.Policy.Configuration

/-!
# What a command line asks for

The program has two commands, one that lints source files and one that
classifies the types of a dump.  Options that are given several times take their
last value.
-/

namespace DirectiveLint
namespace CommandLine

inductive OutputFormat
  | json
  | lines
  | summary
  deriving DecidableEq, Repr

namespace OutputFormat

def ofName? (name : String) : Option OutputFormat :=
  match name with
  | "json" => some json
  | "gcc" => some lines
  | "summary" => some summary
  | _ => none

end OutputFormat

/-- What the command that lints was asked. -/
structure LintArguments where
  paths : List String
  config : Option String
  preset : Option String
  checkers : Option (List String)
  output : OutputFormat
  applySuggestions : Bool
  listCheckers : Bool
  outputFile : Option String
  deriving Repr

namespace LintArguments

def default : LintArguments :=
  { paths := []
    config := none
    preset := none
    checkers := none
    output := .lines
    applySuggestions := false
    listCheckers := false
    outputFile := none }

end LintArguments

/-- What the command that classifies was asked. -/
structure ClassifyArguments where
  dump : String
  baseType : Option Int
  outputFile : Option String
  deriving Repr

inductive Command
  | lint (arguments : LintArguments)
  | classify (arguments : ClassifyArguments)
  deriving Repr

namespace Command

/-- The files and directories that a command reads. -/
def inputs : Command → List String
  | .lint arguments => arguments.config.toList ++ arguments.paths
  | .classify arguments => [arguments.dump]

/-- The file that a command writes its output to, if it does. -/
def outputFile : Command → Option String
  | .lint arguments => arguments.outputFile
  | .classify arguments => arguments.outputFile

end Command

/-- A command, if one was named, and how much is to be logged. -/
structure Invocation where
  verbosity : Nat
  command : Option Command
  deriving Repr

/-- Why no command is to be run. -/
inductive Ending
  | badUsage
  | version
  | help
  deriving DecidableEq, Repr

/-- What comes before the command. -/
inductive MainKey
  | help
  | version
  | verbose
  | command
  deriving DecidableEq, Repr

inductive LintKey
  | help
  | paths
  | config
  | preset
  | checkers
  | output
  | applySuggestions
  | listCheckers
  | outputFile
  deriving DecidableEq, Repr

inductive ClassifyKey
  | help
  | dump
  | baseType
  | outputFile
  deriving DecidableEq, Repr

def helpNames : List String := ["-h", "--help"]

def outputFileNames : List String := ["-o", "--output-file"]

def mainGrammar : Grammar MainKey :=
  { options :=
      [⟨.help, helpNames, .none⟩, ⟨.version, ["--version"], .none⟩,
        ⟨.verbose, ["-v", "--verbose"], .none⟩]
    plainKey := .command
    plainArity := .subcommand }

def lintGrammar : Grammar LintKey :=
  { options :=
      [⟨.help, helpNames, .none⟩, ⟨.config, ["--config"], .one⟩,
        ⟨.preset, ["--preset"], .one⟩, ⟨.checkers, ["--checkers"], .many⟩,
        ⟨.output, ["--output"], .one⟩, ⟨.applySuggestions, ["--apply-suggestions"], .none⟩,
        ⟨.listCheckers, ["--list-checkers"], .none⟩, ⟨.outputFile, outputFileNames, .one⟩]
    plainKey := .paths
    plainArity := .many }

def classifyGrammar : Grammar ClassifyKey :=
  { options :=
      [⟨.help, helpNames, .none⟩, ⟨.baseType, ["--base-type"], .one⟩,
        ⟨.outputFile, outputFileNames, .one⟩]
    plainKey := .dump
    plainArity := .one }

/-- The value of an option that takes one. -/
def oneValue (values : List String) : Except Ending String :=
  match values with
  | [value] => .ok value
  | _ => .error .badUsage

/-- The names of the presets. -/
def presetNames : List String :=
  PolicyConfiguration.presets.map (·.1)

namespace LintArguments

/-- The arguments after one more use. -/
def take (arguments : LintArguments) (use : Use LintKey) : Except Ending LintArguments :=
  match use.key with
  | .help => .error .help
  | .paths => .ok { arguments with paths := use.values }
  | .config => (oneValue use.values).map fun value => { arguments with config := some value }
  | .preset =>
    match oneValue use.values with
    | .error ending => .error ending
    | .ok value =>
      if presetNames.contains value then .ok { arguments with preset := some value }
      else .error .badUsage
  | .checkers => .ok { arguments with checkers := some use.values }
  | .output =>
    match use.values with
    | [value] =>
      match OutputFormat.ofName? value with
      | some output => .ok { arguments with output }
      | none => .error .badUsage
    | _ => .error .badUsage
  | .applySuggestions => .ok { arguments with applySuggestions := true }
  | .listCheckers => .ok { arguments with listCheckers := true }
  | .outputFile =>
    (oneValue use.values).map fun value => { arguments with outputFile := some value }

end LintArguments

namespace ClassifyArguments

/-- The arguments after one more use. -/
def take (arguments : ClassifyArguments) (use : Use ClassifyKey) :
    Except Ending ClassifyArguments :=
  match use.key with
  | .help => .error .help
  | .dump => (oneValue use.values).map fun value => { arguments with dump := value }
  | .baseType =>
    match oneValue use.values with
    | .error ending => .error ending
    | .ok value =>
      match Number.integer? value.toList with
      | some id => .ok { arguments with baseType := some id }
      | none => .error .badUsage
  | .outputFile =>
    (oneValue use.values).map fun value => { arguments with outputFile := some value }

end ClassifyArguments

/-- Takes uses one by one. -/
def takeAll {Key Arguments : Type} (take : Arguments → Use Key → Except Ending Arguments)
    (arguments : Arguments) : List (Use Key) → Except Ending Arguments
  | [] => .ok arguments
  | use :: rest =>
    match take arguments use with
    | .ok arguments => takeAll take arguments rest
    | .error ending => .error ending

/-- The arguments of a reading; left-over arguments are refused. -/
def conclude {Key Arguments : Type} (take : Arguments → Use Key → Except Ending Arguments)
    (arguments : Arguments) (reading : Reading Key) : Except Ending Arguments :=
  match takeAll take arguments reading.uses with
  | .error ending => .error ending
  | .ok arguments =>
    match reading.leftOver with
    | some [] => .ok arguments
    | _ => .error .badUsage

/-- The command that a name and its arguments stand for. -/
def commandOf (name : String) (arguments : List String) : Except Ending Command :=
  match name with
  | "lint" =>
    (conclude LintArguments.take .default (lintGrammar.read arguments)).map Command.lint
  | "classify" =>
    (conclude ClassifyArguments.take ⟨"", none, none⟩ (classifyGrammar.read arguments)).map
      Command.classify
  | _ => .error .badUsage

namespace Invocation

/-- The invocation after one more use. -/
def take (invocation : Invocation) (use : Use MainKey) : Except Ending Invocation :=
  match use.key with
  | .help => .error .help
  | .version => .error .version
  | .verbose => .ok { invocation with verbosity := invocation.verbosity + 1 }
  | .command =>
    match use.values with
    | name :: arguments =>
      (commandOf name arguments).map fun command => { invocation with command := some command }
    | [] => .error .badUsage

/-- What arguments ask for. -/
def ofArguments (arguments : List String) : Except Ending Invocation :=
  conclude take ⟨0, none⟩ (mainGrammar.read arguments)

end Invocation
end CommandLine
end DirectiveLint
