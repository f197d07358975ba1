import DirectiveLint.Checker.Log
import DirectiveLint.CommandLine.RuleOptions
import DirectiveLint.TypeGraph.Accessor
import DirectiveLint.TypeGraph.DumpFault

/-!
# What a command does

A command ends with an exit code, unless its arguments were refused or a failure
interrupts it that nobody foresaw.  Whatever the end, there is what it wrote,
what it noted, and the tree of files as it left it.
-/

namespace DirectiveLint
namespace CommandLine

/-- A failure that no command answers for. -/
inductive Interruption
  | text (fault : TextFault)
  | beyond (limit : Json.Limit)
  | failure (failure : Failure)
  | dump (failure : DumpFailure)
  | handle (fault : HandleFault)
  deriving Repr

/-- Why a command stops early: with a message to the user, or interrupted. -/
inductive Stop
  | reported (message : LooseText)
  | interrupted (cause : Interruption)
  deriving Repr

inductive Outcome
  | exit (code : Nat)
  | usage (code : Nat)
  | interrupted (cause : Interruption)
  deriving Repr

/-- The exit code of a command that found no error. -/
def exitSuccess : Nat := 0

/-- The exit code of a command that found errors. -/
def exitFindings : Nat := 1

/-- The exit code of a command that could not do its work. -/
def exitFailure : Nat := 2

/-- What a command did. -/
structure Report where
  outcome : Outcome
  output : String
  log : List LogEntry
  tree : FileTree

namespace Report

/-- The report of a command that stopped. -/
def ofStop (tree : FileTree) (log : List LogEntry) (stop : Stop) : Report :=
  match stop with
  | .reported message => ⟨.exit exitFailure, "", log ++ [.error message], tree⟩
  | .interrupted cause => ⟨.interrupted cause, "", log, tree⟩

end Report

/-- The message on a path with nothing there. -/
def notFound (label : String) (path : FilePath) : String :=
  label ++ " not found: " ++ path.text

/-- What has bytes among texts that are written one after the other: all that comes before the
first text with a half in it. -/
def encodable : List LooseText → String
  | .plain text :: rest => text ++ encodable rest
  | _ => ""

/-- Why texts cannot all be written, if one of them has a half in it. -/
def encodingFault? (texts : List LooseText) : Option FileFault :=
  if texts.all LooseText.isPlain then none else some .notEncodable

/-- What writing texts comes to: what went to the standard output, the tree, perhaps a fault. -/
structure Delivery where
  output : String
  tree : FileTree
  fault : Option FileFault

/-- Writes texts to the file that was asked for, or else to the standard output.  A text without
bytes ends what is written before it. -/
def deliver (tree : FileTree) (standpoint : Standpoint) (file : Option String)
    (texts : List LooseText) : Delivery :=
  let toOutput : Delivery := ⟨encodable texts, tree, encodingFault? texts⟩
  match file with
  | none => toOutput
  | some name =>
    if name == "-" then toOutput
    else
      match standpoint.locate name with
      | .error fault => ⟨"", tree, some fault⟩
      | .ok path =>
        match tree.createText path (encodable texts) with
        | .ok tree => ⟨"", tree, encodingFault? texts⟩
        | .error (fault, tree) => ⟨"", tree, some fault⟩

end CommandLine
end DirectiveLint
