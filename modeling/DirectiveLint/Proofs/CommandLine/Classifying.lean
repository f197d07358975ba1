import DirectiveLint.CommandLine.Classify
import DirectiveLint.Proofs.TypeGraph.LoadFailure

/-!
# Classifying what is no dump

The command that classifies reports a fault of a dump and ends with the exit
code for work that could not be done.  It does the same with every JSON value
that is no dump, except for those from which a failure escapes: these interrupt
the command.
-/

namespace DirectiveLint
namespace CommandLine

open DumpFailure (IsReported)

namespace Classify

variable {tree : FileTree} {standpoint : Standpoint} {arguments : ClassifyArguments}
  {value : Value}

/-- Whether the file that arguments name holds a JSON value. -/
def Holds (tree : FileTree) (standpoint : Standpoint) (arguments : ClassifyArguments)
    (value : Value) : Prop :=
  ∃ path entry text, standpoint.locate arguments.dump = .ok path ∧
    tree.seek path = .ok (some entry) ∧ tree.readText path = .ok text ∧ Json.read text = .ok value

/-- What the command has once the file is read: the reason to stop, or a dump whose types still have
to include the base type. -/
theorem exists_result_prepare (holds : Holds tree standpoint arguments value) :
    ∃ path, (prepare tree standpoint arguments).result =
      match TypeDump.ofValue value with
      | .error failure => .error (stopOfDump failure)
      | .ok dump => (checkBase path arguments.baseType dump).result := by
  rcases holds with ⟨path, entry, text, located, there, readable, json⟩
  have read : TypeDump.ofText path.text text = TypeDump.ofValue value := by
    unfold TypeDump.ofText
    rw [json]
  refine ⟨path, ?_⟩
  unfold prepare
  rw [located]
  dsimp only
  rw [Logged.andThen_result]
  unfold load
  simp only [there, readable, read]
  cases TypeDump.ofValue value <;> rfl

theorem exists_message_of_checkBase {path : FilePath} {base : Option Int} {dump : TypeDump}
    {stop : Stop} (refused : (checkBase path base dump).result = .error stop) :
    ∃ message, stop = .reported message := by
  unfold checkBase at refused
  split at refused
  · cases refused
  · split at refused
    · cases refused
    · cases refused
      exact ⟨_, rfl⟩

/-- A failure to read the dump ends the command, with an exit code only if it is reported. -/
theorem outcome_of_error (holds : Holds tree standpoint arguments value)
    {failure : DumpFailure} (failed : TypeDump.ofValue value = .error failure) :
    (IsReported failure ∧
        (classify tree standpoint arguments).outcome = .exit exitFailure) ∨
      (¬IsReported failure ∧
        (classify tree standpoint arguments).outcome = .interrupted (.dump failure)) := by
  rcases exists_result_prepare holds with ⟨path, stopped⟩
  rw [failed] at stopped
  unfold classify
  simp only [stopped]
  cases failure with
  | malformed fault => exact Or.inl ⟨⟨fault, rfl⟩, rfl⟩
  | infiniteId => exact Or.inr ⟨by simp, rfl⟩
  | conversion fault => exact Or.inr ⟨by simp, rfl⟩
  | beyond limit => exact Or.inr ⟨by simp [IsReported], rfl⟩
  | tooManyDigits => exact Or.inr ⟨by simp, rfl⟩

/-- What keeps a type from having a line has nothing to do with reading the dump. -/
theorem ne_dump_of_lines {dump : TypeDump} {base : Option Int} {nodes : List TypeNode}
    {cause : Interruption} (stopped : (lines dump base nodes).2.1 = some cause)
    (failure : DumpFailure) : cause ≠ .dump failure := by
  induction nodes with
  | nil => cases stopped
  | cons node rest inductionHypothesis =>
      simp only [lines] at stopped
      split at stopped
      · cases stopped
        nofun
      · split at stopped
        · cases stopped
          nofun
        · exact inductionHypothesis stopped

/-- A dump that was read does not interrupt the command. -/
theorem outcome_of_ok (holds : Holds tree standpoint arguments value) {dump : TypeDump}
    (loaded : TypeDump.ofValue value = .ok dump) (failure : DumpFailure) :
    (classify tree standpoint arguments).outcome ≠ .interrupted (.dump failure) := by
  rcases exists_result_prepare holds with ⟨path, prepared⟩
  rw [loaded] at prepared
  dsimp only at prepared
  unfold classify
  simp only [prepared]
  cases checked : (checkBase path arguments.baseType dump).result with
  | error stop =>
      rcases exists_message_of_checkBase checked with ⟨message, rfl⟩
      simp [Report.ofStop]
  | ok dump =>
      dsimp only
      rcases made : lines dump arguments.baseType dump.nodes with ⟨texts, cause, observed⟩
      dsimp only
      cases (deliver tree standpoint arguments.outputFile texts).fault with
      | some fault => simp
      | none =>
          cases cause with
          | none => simp
          | some cause =>
              have stopped : (lines dump arguments.baseType dump.nodes).2.1 = some cause := by
                rw [made]
              simpa using ne_dump_of_lines stopped failure

end Classify

/-- A JSON value gives a dump or a fault of it, except for those from which a failure escapes.  So a
file with a value that is no dump ends the command with the exit code for it, unless this failure
interrupts the command. -/
theorem classify_reports (value : Value) :
    (((∃ dump, TypeDump.ofValue value = .ok dump) ∨
        ∃ fault, TypeDump.ofValue value = .error (.malformed fault)) ↔ ¬TypeDump.Breaks value) ∧
      ∀ tree standpoint arguments, Classify.Holds tree standpoint arguments value →
        ((∃ failure, (classify tree standpoint arguments).outcome = .interrupted (.dump failure)) ↔
          TypeDump.Breaks value) ∧
        ((∀ dump, TypeDump.ofValue value ≠ .ok dump) →
          ((classify tree standpoint arguments).outcome = .exit exitFailure ↔
            ¬TypeDump.Breaks value)) := by
  have escapes := TypeDump.escapes_ofValue_iff value
  constructor
  · rw [← escapes]
    exact Except.not_escapes_iff.symm
  · intro tree standpoint arguments holds
    cases read : TypeDump.ofValue value with
    | ok dump =>
        have noBreak : ¬TypeDump.Breaks value := by
          rw [← escapes, read]
          exact Except.not_escapes_ok dump
        constructor
        · constructor
          · rintro ⟨failure, interrupted⟩
            exact absurd interrupted (Classify.outcome_of_ok holds read failure)
          · intro breaks
            exact absurd breaks noBreak
        · intro noDump
          exact absurd rfl (noDump dump)
    | error failure =>
        rw [← escapes, read, Except.escapes_error_iff]
        rcases Classify.outcome_of_error holds read with ⟨reported, exits⟩ | ⟨escaped, stops⟩
        · simp [exits, reported]
        · simp [stops, escaped]

/-- A dump with one type, whose id is infinite. -/
def infiniteId : String :=
  "\x7b\"types\": [\x7b\"id\": Infinity, \"flags\": 1\x7d]\x7d"

/-- A tree with one file, which holds the text of this dump. -/
def infiniteIdTree : FileTree :=
  .directory [("types.json", .file (Text.encodeUtf8 infiniteId))]

def infiniteIdArguments : ClassifyArguments :=
  { dump := "types.json"
    baseType := none
    outputFile := none }

theorem exists_holds_infiniteId :
    ∃ value, Classify.Holds infiniteIdTree ⟨[], []⟩ infiniteIdArguments value ∧
      TypeDump.ofValue value = .error .infiniteId := by
  have located : Standpoint.locate ⟨[], []⟩ infiniteIdArguments.dump = .ok ["types.json"] := by
    decide +kernel
  have isThere : (infiniteIdTree.seek ["types.json"]).toOption.join.isSome = true := by
    decide +kernel
  have readable : (infiniteIdTree.readText ["types.json"]).toOption = some infiniteId := by
    decide +kernel
  have isInfinite : (Json.read infiniteId).toOption.map (fun value =>
      match TypeDump.ofValue value with
      | .error .infiniteId => true
      | .error (.malformed _) | .error (.conversion _) | .error (.beyond _)
      | .error .tooManyDigits | .ok _ => false) = some true := by
    decide +kernel
  rcases Option.isSome_iff_exists.mp isThere with ⟨entry, joined⟩
  have sought := Except.eq_ok_of_toOption_eq_some (Option.join_eq_some_iff.mp joined)
  have read := Except.eq_ok_of_toOption_eq_some readable
  rcases Option.map_eq_some_iff.mp isInfinite with ⟨value, found, matched⟩
  have json := Except.eq_ok_of_toOption_eq_some found
  refine ⟨value, ⟨_, entry, _, located, sought, read, json⟩, ?_⟩
  split at matched
  · assumption
  all_goals cases matched

/-- Nobody answers for the infinite id. -/
theorem classify_reports_infiniteId :
    ∃ value, Classify.Holds infiniteIdTree ⟨[], []⟩ infiniteIdArguments value ∧
      TypeDump.ofValue value = .error .infiniteId ∧ TypeDump.Breaks value ∧
      ∃ failure, (classify infiniteIdTree ⟨[], []⟩ infiniteIdArguments).outcome =
        .interrupted (.dump failure) := by
  rcases exists_holds_infiniteId with ⟨value, holds, failed⟩
  have breaks : TypeDump.Breaks value := by
    rw [← TypeDump.escapes_ofValue_iff, failed]
    simp
  have outcome := (classify_reports value).2 infiniteIdTree ⟨[], []⟩ infiniteIdArguments holds
  exact ⟨value, holds, failed, breaks, outcome.1.mpr breaks⟩

end CommandLine
end DirectiveLint
