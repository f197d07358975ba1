import DirectiveLint.CommandLine.Lint
import DirectiveLint.Proofs.Checker.Building
import DirectiveLint.Proofs.Diagnostic.Passes
import DirectiveLint.Proofs.FileTree.Writing

/-!
# Applying edits to files

One step reads a file, applies the edits for it, and writes it back; no other
file changes.  The loop takes such a step for every listed file, and a file that
is listed several times is taken several times, with the same edits each time.
So a file ends up with the text that as many passes over its first text leave as
it is listed.
-/

namespace DirectiveLint
namespace CommandLine
namespace Lint

open FileTree

/-- What a pass with the edits for a file makes of a text. -/
def rewritten (results : Results) (path : FilePath) (text : String) : String :=
  (applyEdits text (results.editsFor path.text)).1

variable {results : Results}

/-- One step rewrites its file. -/
theorem exists_applyTo {tree : FileTree} {path : FilePath} {text : String}
    (named : ∀ name ∈ path, FilePath.IsName name) (readable : tree.readText path = .ok text)
    (noReturn : ∀ edit ∈ results.editsFor path.text, '\r' ∉ edit.text.toList) :
    ∃ after, (applyTo results tree path.text).result = .ok after ∧
      after.readText path = .ok (rewritten results path text) ∧
      AgreesElsewhere tree path after := by
  unfold applyTo rewritten
  by_cases none : results.editsFor path.text = []
  · refine ⟨tree, ?_, ?_, fun _ _ => rfl⟩
    · simp [none, Logged.noting]
    · rw [none, applyEdits_nil]
      exact readable
  · have kept : '\r' ∉ (applyEdits text (results.editsFor path.text)).1.toList := by
      intro member
      rcases readText_eq_ok_iff.mp readable with ⟨bytes, _, decoded⟩
      rcases mem_applyEdits member with old | ⟨edit, given, new⟩
      · exact not_mem_of_textOf decoded old
      · exact noReturn edit given new
    rcases exists_writeText readable kept with ⟨after, written, replaced⟩
    refine ⟨after, ?_, replaced⟩
    rw [if_neg (by simpa using none), FilePath.resolve_text [] named]
    simp only [readable, written]
    rfl

/-- The loop rewrites each file as often as it is listed, and no other file. -/
theorem exists_applyToAll {paths : List FilePath} {tree : FileTree}
    (named : ∀ path ∈ paths, ∀ name ∈ path, FilePath.IsName name)
    (readable : ∀ path ∈ paths, ∃ text, tree.readText path = .ok text)
    (noReturn : ∀ path ∈ paths, ∀ edit ∈ results.editsFor path.text, '\r' ∉ edit.text.toList) :
    ∃ after, (applyToAll results tree (paths.map FilePath.text)).result = .ok after ∧
      (∀ path text, tree.readText path = .ok text →
        after.readText path = .ok ((rewritten results path)^[paths.count path] text)) ∧
      ∀ other, other ∉ paths → after.read other = tree.read other := by
  induction paths generalizing tree with
  | nil => exact ⟨tree, rfl, fun _ _ read => read, fun _ _ => rfl⟩
  | cons path rest inductionHypothesis =>
      rw [List.forall_mem_cons] at named noReturn
      rcases readable path List.mem_cons_self with ⟨text, read⟩
      rcases exists_applyTo named.1 read noReturn.1 with ⟨middle, applied, here, elsewhere⟩
      -- The first path may be listed again further on, and is then read with its new text.
      have stillReadable : ∀ other ∈ rest, ∃ text, middle.readText other = .ok text := by
        intro other member
        by_cases same : other = path
        · exact ⟨_, same ▸ here⟩
        · rw [elsewhere.readText same]
          exact readable other (List.mem_cons_of_mem _ member)
      rcases inductionHypothesis named.2 stillReadable noReturn.2 with
        ⟨after, loop, listed, unlisted⟩
      refine ⟨after, ?_, ?_, ?_⟩
      · exact Logged.andThen_result_eq_ok_iff.mpr ⟨middle, applied, loop⟩
      · intro other old otherRead
        by_cases same : other = path
        · subst same
          rw [read] at otherRead
          cases otherRead
          rw [List.count_cons_self, Function.iterate_succ_apply]
          exact listed other _ here
        · rw [List.count_cons_of_ne (Ne.symm same)]
          exact listed other old ((elsewhere.readText same).trans otherRead)
      · intro other absent
        rw [List.mem_cons, not_or] at absent
        rw [unlisted other absent.2, elsewhere other absent.1]

end Lint
end CommandLine
end DirectiveLint
