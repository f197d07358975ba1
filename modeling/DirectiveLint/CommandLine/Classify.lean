import DirectiveLint.CommandLine.Invocation
import DirectiveLint.CommandLine.Report
import DirectiveLint.Json.Printer
import DirectiveLint.TypeGraph.DumpReader
import DirectiveLint.TypeGraph.Verdicts

/-!
# The command that classifies

Every type of a dump gets one line of JSON text with the verdicts on it, in the
order of the dump.  A type that cannot be judged, or whose id cannot be written,
interrupts the command after the lines of those before it.
-/

namespace DirectiveLint
namespace CommandLine
namespace Classify

/-- Why a dump was not read, as the reason to stop. -/
def stopOfDump (failure : DumpFailure) : Stop :=
  match failure with
  | .malformed fault => .reported ("Failed to load type dump: " ++ fault.message)
  | other => .interrupted (.dump other)

/-- The dump at a path. -/
def load (tree : FileTree) (path : FilePath) : Logged Stop TypeDump :=
  match tree.seek path with
  | .error fault => .quiet (.error (.interrupted (.text (.file fault))))
  | .ok none => .quiet (.error (.reported (notFound "type dump" path)))
  | .ok (some _) =>
    match tree.readText path with
    | .error fault => .quiet (.error (.interrupted (.text fault)))
    | .ok text =>
      match TypeDump.ofText path.text text with
      | .error failure => .quiet (.error (stopOfDump failure))
      | .ok dump =>
        .noting
          [.debug ("Loaded type dump with " ++ toString dump.nodes.length ++ " types")] dump

/-- Refuses a base type that the dump does not have. -/
def checkBase (path : FilePath) (base : Option Int) (dump : TypeDump) :
    Logged Stop TypeDump :=
  match base with
  | none => .noting [] dump
  | some id =>
    match dump.find? id with
    | some _ => .noting [] dump
    | none =>
      .quiet (.error (.reported ("No type with id " ++ toString id ++ " in " ++ path.text)))

/-- The line with the verdicts on a type, unless its id is too long to be written. -/
def line? (id : Int) (verdicts : Verdicts) : Option String :=
  (Json.print? (.object (("id", .integer id) :: verdicts.toFields))).map (· ++ "\n")

/-- The lines on types up to the first that has none, why that one has none, and what was observed.
-/
def lines (dump : TypeDump) (base : Option Int) :
    List TypeNode → List LooseText × Option Interruption × List LogEntry
  | [] => ([], none, [])
  | node :: rest =>
    let accessor := Accessor.bySymbols dump.host Accessor.arrayNames
    let observed := (dump.host.observations accessor node.id).map fun (text : String) =>
      LogEntry.debug text
    match dump.host.verdicts accessor base node.id with
    | .error fault => ([], some (.handle fault), observed)
    | .ok verdicts =>
      match line? node.id verdicts with
      | none => ([], some (.failure .tooManyDigits), observed)
      | some line =>
        let (others, cause, log) := lines dump base rest
        (.plain line :: others, cause, observed ++ log)

/-- The dump that the arguments name. -/
def prepare (tree : FileTree) (standpoint : Standpoint) (arguments : ClassifyArguments) :
    Logged Stop TypeDump :=
  match standpoint.locate arguments.dump with
  | .error fault => .quiet (.error (.interrupted (.text (.file fault))))
  | .ok path => (load tree path).andThen fun dump => checkBase path arguments.baseType dump

end Classify

/-- Classifies. -/
def classify (tree : FileTree) (standpoint : Standpoint) (arguments : ClassifyArguments) :
    Report :=
  let loaded := Classify.prepare tree standpoint arguments
  match loaded.result with
  | .error stop => .ofStop tree loaded.log stop
  | .ok dump =>
    let (lines, cause, observed) := Classify.lines dump arguments.baseType dump.nodes
    let delivery := deliver tree standpoint arguments.outputFile lines
    match delivery.fault, cause with
    | some fault, _ =>
      ⟨.interrupted (.text (.file fault)), delivery.output, loaded.log, delivery.tree⟩
    | none, some cause =>
      ⟨.interrupted cause, delivery.output, loaded.log ++ observed, delivery.tree⟩
    | none, none => ⟨.exit exitSuccess, delivery.output, loaded.log ++ observed, delivery.tree⟩

end CommandLine
end DirectiveLint
