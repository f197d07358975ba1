import DirectiveLint.Diagnostic.Basic
import DirectiveLint.Failure
import DirectiveLint.Value.Addition

/-!
# Results of runs

The results of one or more runs: all diagnostics, the same diagnostics by
checker, statistics, the checkers that ran and the files they ran on.  Merging
adds one result to another; when two statistics have no sum, merging stops there
and what was merged before stays merged.
-/

namespace DirectiveLint

structure Results where
  diagnostics : List Diagnostic
  byChecker : List (String × List Diagnostic)
  stats : List (LooseText × Value)
  checkers : List String
  files : List String
  deriving Repr

namespace Results

def empty : Results := ⟨[], [], [], [], []⟩

/-- Adds diagnostics to the group of a checker, which is opened if it is not there. -/
def addToGroup (checker : String) (diagnostics : List Diagnostic) :
    List (String × List Diagnostic) → List (String × List Diagnostic)
  | [] => [(checker, diagnostics)]
  | group :: rest =>
    if group.1 == checker then (checker, group.2 ++ diagnostics) :: rest
    else group :: addToGroup checker diagnostics rest

/-- The diagnostics of a checker. -/
def ofChecker (results : Results) (checker : String) : List Diagnostic :=
  (results.byChecker.lookup checker).getD []

/-- How many diagnostics have a severity. -/
def count (results : Results) (severity : Severity) : Nat :=
  results.diagnostics.countP fun diagnostic => diagnostic.severity = severity

def total (results : Results) : Nat :=
  results.diagnostics.length

/-- The diagnostics of a file. -/
def inFile (results : Results) (file : String) : List Diagnostic :=
  results.diagnostics.filter fun diagnostic => diagnostic.location.file == file

/-- The edits of the diagnostics of a file, at most one for each. -/
def editsFor (results : Results) (file : String) : List TextEdit :=
  (results.inFile file).filterMap Diagnostic.edit?

/-- Sets a statistic. -/
def setStat (results : Results) (key : LooseText) (value : Value) : Results :=
  { results with stats := Value.putField key value results.stats }

/-- Removes a statistic. -/
def dropStat (results : Results) (key : LooseText) : Results :=
  { results with stats := results.stats.filter (·.1 != key) }

/-- Adds statistics one by one, up to the first that has no sum. -/
def addStats (stats : List (LooseText × Value)) :
    List (LooseText × Value) → List (LooseText × Value) × Option AdditionFault
  | [] => (stats, none)
  | (key, value) :: rest =>
    match Value.fieldOf? key stats with
    | none => addStats (stats ++ [(key, value)]) rest
    | some present =>
      match present.add value with
      | .ok sum => addStats (Value.putField key sum stats) rest
      | .error fault => (stats, some fault)

/-- Names followed by those of another list that are not there yet. -/
def addNames (names : List String) (others : List String) : List String :=
  others.foldl (fun names name => if names.contains name then names else names ++ [name]) names

/-- Adds groups of diagnostics. -/
def addGroups (groups others : List (String × List Diagnostic)) :
    List (String × List Diagnostic) :=
  others.foldl (fun groups group => addToGroup group.1 group.2 groups) groups

/-- Adds other results, and says what could not be added. -/
def merge (results others : Results) : Results × Option AdditionFault :=
  let diagnostics := results.diagnostics ++ others.diagnostics
  let byChecker := addGroups results.byChecker others.byChecker
  match addStats results.stats others.stats with
  | (stats, some fault) => ({ results with diagnostics, byChecker, stats }, some fault)
  | (stats, none) =>
    ({ diagnostics, byChecker, stats
       checkers := addNames results.checkers others.checkers
       files := results.files ++ others.files }, none)

/-- One line of JSON text for each diagnostic, if all of them can be written. -/
def jsonLines? (results : Results) : Option String :=
  (results.diagnostics.mapM Diagnostic.jsonLine?).map fun lines => "\n".intercalate lines

/-- One line of text for each diagnostic, if all of them can be written. -/
def textLines? (results : Results) : Option LooseText :=
  (results.diagnostics.mapM Diagnostic.textLine?).map (LooseText.intercalate "\n")

/-- The statistic that holds the time a checker took. -/
def elapsedKey (checker : String) : String :=
  checker ++ "_elapsed_ms"

/-- A time in milliseconds with one place after the point. -/
def elapsedText (value : Value) : Except Failure String :=
  match value with
  | .real number => .ok number.textOnePlace
  | .text _ => .error (.unknownFormatCode value)
  | other =>
    match other.toInteger? with
    | none => .error (.notFormattable value)
    | some whole =>
      match Number.Binary64.ofInt? whole with
      | some number => .ok number.textOnePlace
      | none => .error (.tooLargeToFormat value)

/-- The lines of a summary on some checkers. -/
def checkerLines (results : Results) : List String → Except Failure (List String)
  | [] => .ok []
  | checker :: rest =>
    match elapsedText ((Value.fieldOf? (elapsedKey checker) results.stats).getD (.integer 0)) with
    | .error failure => .error failure
    | .ok elapsed =>
      match checkerLines results rest with
      | .error failure => .error failure
      | .ok lines =>
        .ok (("  " ++ checker ++ ": " ++ toString (results.ofChecker checker).length ++
          " findings (" ++ elapsed ++ "ms)") :: lines)

/-- The first line of a summary. -/
def headLine (results : Results) : String :=
  "Checked " ++ toString results.files.length ++ " file(s): " ++ toString results.total ++
    " diagnostics (" ++ toString (results.count .error) ++ " errors, " ++
    toString (results.count .warning) ++ " warnings)"

/-- A summary for the reader: the totals, and a line for each checker. -/
def summary (results : Results) : Except Failure String :=
  match results.checkerLines results.checkers with
  | .error failure => .error failure
  | .ok lines => .ok ("\n".intercalate (results.headLine :: lines))

end Results
end DirectiveLint
