import DirectiveLint.CommandLine.Lint
import DirectiveLint.Proofs.Checker.BuildFailure

/-!
# Linting with options that are refused

The command that lints reports a fault of its rule options and ends with the exit
code for work that could not be done.  It does the same with all options from
which no runner is built, except for those from which a failure escapes: these
interrupt the command.  Either way, no file has been looked at.
-/

namespace DirectiveLint
namespace CommandLine

open Failure (IsReported)

namespace Lint

variable {tree : FileTree} {standpoint : Standpoint} {arguments : LintArguments}
  {fields : List (LooseText × Value)}

/-- Whether the command is to lint some paths with all rules, under rule options that it reads as an
object with some fields. -/
structure IsAsked (tree : FileTree) (standpoint : Standpoint) (arguments : LintArguments)
    (fields : List (LooseText × Value)) : Prop where
  listCheckers : arguments.listCheckers = false
  paths : arguments.paths ≠ []
  checkers : arguments.checkers = none
  options : RuleOptions.load tree standpoint arguments.config arguments.preset = .ok fields

/-- A runner that is not built ends the command, with an exit code only if the failure is reported.
-/
theorem outcome_of_error (asked : IsAsked tree standpoint arguments fields) {failure : Failure}
    (failed : (Runner.build .standard (.object fields) .null).result = .error failure) :
    (IsReported failure ∧ (lint tree standpoint arguments).outcome = .exit exitFailure) ∨
      (¬IsReported failure ∧
        (lint tree standpoint arguments).outcome = .interrupted (.failure failure)) := by
  have stopped : (results tree standpoint arguments).result = .error (stopOfFailure failure) := by
    unfold results
    rw [Logged.andThen_result]
    simp only [prepare, asked.options, asked.checkers, withStop, failed]
    rfl
  have given : arguments.paths.isEmpty = false := by
    rw [List.isEmpty_eq_false_iff]
    exact asked.paths
  unfold lint
  simp only [asked.listCheckers, given, stopped]
  cases failure with
  | configuration fault => exact Or.inl ⟨⟨fault, rfl⟩, rfl⟩
  | _ => exact Or.inr ⟨by simp [IsReported], rfl⟩

end Lint

/-- An object of rule options gives a runner or a fault of the configuration, except for those from
which a failure escapes.  So options that give no runner end the command with the exit code for it,
unless this failure interrupts the command. -/
theorem lint_reports (fields : List (LooseText × Value)) :
    (((∃ runner, (Runner.build .standard (.object fields) .null).result = .ok runner) ∨
        ∃ fault, (Runner.build .standard (.object fields) .null).result =
          .error (.configuration fault)) ↔ ¬Runner.Breaks fields) ∧
      ∀ tree standpoint arguments, Lint.IsAsked tree standpoint arguments fields →
        (∀ runner, (Runner.build .standard (.object fields) .null).result ≠ .ok runner) →
          ((∃ failure, (lint tree standpoint arguments).outcome =
              .interrupted (.failure failure)) ↔ Runner.Breaks fields) ∧
            ((lint tree standpoint arguments).outcome = .exit exitFailure ↔
              ¬Runner.Breaks fields) := by
  have escapes := Runner.escapes_build_iff fields
  constructor
  · rw [← escapes]
    exact Except.not_escapes_iff.symm
  · intro tree standpoint arguments asked noRunner
    cases built : (Runner.build .standard (.object fields) .null).result with
    | ok runner => exact absurd built (noRunner runner)
    | error failure =>
        rw [← escapes, built, Except.escapes_error_iff]
        rcases Lint.outcome_of_error asked built with ⟨reported, exits⟩ | ⟨escaped, stops⟩
        · simp [exits, reported]
        · simp [stops, escaped]

/-- A configuration with a count that the pattern reader does not take. -/
def hugeCount : String :=
  "\x7b\"ban-ts-comment\": [\"error\", \x7b\"ts-expect-error\": " ++
    "\x7b\"descriptionFormat\": \"a\x7b4294967295\x7d\"\x7d\x7d]\x7d"

/-- A tree with one file, which holds this configuration. -/
def hugeCountTree : FileTree :=
  .directory [("options.json", .file (Text.encodeUtf8 hugeCount))]

def hugeCountArguments : LintArguments :=
  { LintArguments.default with paths := ["."], config := some "options.json" }

/-- Nobody answers for the count. -/
theorem lint_reports_hugeCount :
    ∃ fields, RuleOptions.load hugeCountTree ⟨[], []⟩ hugeCountArguments.config none = .ok fields ∧
      (Runner.build .standard (.object fields) .null).result =
        .error (.patternLimit .countTooLarge) ∧
      Runner.Breaks fields ∧
      ∃ failure, (lint hugeCountTree ⟨[], []⟩ hugeCountArguments).outcome =
        .interrupted (.failure failure) := by
  have tooLarge :
      (RuleOptions.load hugeCountTree ⟨[], []⟩ hugeCountArguments.config none).toOption.map
      (fun fields => match (Runner.build .standard (.object fields) .null).result with
        | .error (.patternLimit .countTooLarge) => true
        | _ => false) = some true := by
    decide +kernel
  rcases Option.map_eq_some_iff.mp tooLarge with ⟨fields, found, matched⟩
  have loaded := Except.eq_ok_of_toOption_eq_some found
  have failed : (Runner.build .standard (.object fields) .null).result =
      .error (.patternLimit .countTooLarge) := by
    split at matched
    · assumption
    · cases matched
  have asked : Lint.IsAsked hugeCountTree ⟨[], []⟩ hugeCountArguments fields :=
    ⟨rfl, List.cons_ne_nil _ _, rfl, loaded⟩
  have noRunner :
      ∀ runner, (Runner.build .standard (.object fields) .null).result ≠ .ok runner := by
    intro runner impossible
    rw [failed] at impossible
    cases impossible
  have breaks : Runner.Breaks fields := by
    rw [← Runner.escapes_build_iff, failed]
    simp
  have outcome := (lint_reports fields).2 hugeCountTree ⟨[], []⟩ hugeCountArguments asked noRunner
  exact ⟨fields, loaded, failed, breaks, outcome.1.mpr breaks⟩

end CommandLine
end DirectiveLint
