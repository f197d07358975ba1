import DirectiveLint.Proofs.FileTree.Proper
import DirectiveLint.Proofs.Text.RoundTrip

/-!
# Files that are written again

A file that can be read can be written.  It then holds what was written, and at
every other path there is to read what there was before.  A text without
carriage returns is read as it was written.  Whether a file can be written or
created does not depend on what is written.
-/

namespace DirectiveLint
namespace FileTree

/-- Whether at every other path there is to read what there was before. -/
def AgreesElsewhere (before : FileTree) (path : FilePath) (after : FileTree) : Prop :=
  ∀ other, other ≠ path → after.read other = before.read other

theorem AgreesElsewhere.readText {before after : FileTree} {path other : FilePath}
    (agrees : AgreesElsewhere before path after) (different : other ≠ path) :
    after.readText other = before.readText other := by
  rw [FileTree.readText, FileTree.readText, agrees other different]

/-- A file that can be read can be written. -/
theorem exists_write {tree : FileTree} {path : FilePath} {bytes : List UInt8}
    (readable : tree.read path = .ok bytes) (content : List UInt8) :
    ∃ after, tree.write content path = .ok after ∧ after.read path = .ok content ∧
      AgreesElsewhere tree path after := by
  induction path generalizing tree with
  | nil =>
      cases tree with
      | directory entries => cases readable
      | file old =>
          refine ⟨.file content, rfl, rfl, ?_⟩
          intro other different
          cases other with
          | nil => exact absurd rfl different
          | cons name rest => rfl
  | cons name rest inductionHypothesis =>
      cases tree with
      | file old => cases readable
      | directory entries =>
          rw [read_cons] at readable
          cases entry : entries.lookup name with
          | none =>
              rw [entry] at readable
              cases readable
          | some child =>
              rw [entry] at readable
              rcases inductionHypothesis readable with ⟨after, written, here, elsewhere⟩
              refine ⟨.directory (putEntry name after entries), ?_, ?_, ?_⟩
              · rw [write.eq_def]
                simp only [entry, written]
              · rw [read_cons, lookup_putEntry_self]
                exact here
              · intro other different
                cases other with
                | nil => rfl
                | cons otherName otherRest =>
                    rw [read_cons, read_cons]
                    by_cases same : otherName = name
                    · subst same
                      rw [lookup_putEntry_self, entry]
                      exact elsewhere otherRest fun equal =>
                        different (by rw [equal])
                    · rw [lookup_putEntry_of_ne same]

/-- Where something can be written, anything else can. -/
theorem exists_write_of_write {tree after : FileTree} {path : FilePath} {content : List UInt8}
    (written : tree.write content path = .ok after) (other : List UInt8) :
    ∃ after, tree.write other path = .ok after := by
  induction path generalizing tree after with
  | nil =>
      cases tree with
      | file old => exact ⟨_, rfl⟩
      | directory entries => cases written
  | cons name rest inductionHypothesis =>
      cases tree with
      | file old => cases written
      | directory entries =>
          rw [write.eq_def] at written ⊢
          dsimp only at written ⊢
          cases entry : entries.lookup name with
          | none =>
              rw [entry] at written
              cases rest with
              | nil => exact ⟨_, rfl⟩
              | cons next further => cases written
          | some child =>
              rw [entry] at written
              dsimp only at written ⊢
              split at written
              · next changed here =>
                  rcases inductionHypothesis here with ⟨again, there⟩
                  rw [there]
                  exact ⟨_, rfl⟩
              · cases written

/-- Where a file can be created with some content, it can be created with any other. -/
theorem exists_create_of_create {tree after : FileTree} {path : FilePath} {content : List UInt8}
    (created : tree.create content path = .ok after) (other : List UInt8) :
    ∃ after, tree.create other path = .ok after := by
  unfold create at created ⊢
  split at created
  · cases created
  · next short =>
      rw [if_neg short]
      cases made : tree.makeDirectory path.parent with
      | error fault =>
          rw [made] at created
          cases created
      | ok directory =>
          rw [made] at created
          dsimp only at created ⊢
          split at created
          · cases created
          · next named =>
              rw [if_neg named]
              split at created
              · next written =>
                  rcases exists_write_of_write written other with ⟨again, there⟩
                  rw [there]
                  exact ⟨_, rfl⟩
              · cases created

theorem readText_eq_ok_iff {tree : FileTree} {path : FilePath} {text : String} :
    tree.readText path = .ok text ↔
      ∃ bytes, tree.read path = .ok bytes ∧ textOf bytes = .ok text := by
  unfold readText
  cases tree.read path with
  | error fault => simp
  | ok bytes =>
      cases decoded : textOf bytes with
      | error fault => simp [decoded]
      | ok found => simp [decoded]

/-- A text without carriage returns can be written in the place of another one. -/
theorem exists_writeText {tree : FileTree} {path : FilePath} {old new : String}
    (readable : tree.readText path = .ok old) (noReturn : '\r' ∉ new.toList) :
    ∃ after, tree.writeText path new = .ok after ∧ after.readText path = .ok new ∧
      AgreesElsewhere tree path after := by
  rcases readText_eq_ok_iff.mp readable with ⟨bytes, read, _⟩
  rcases exists_write read (Text.encodeUtf8 new) with ⟨after, written, here, elsewhere⟩
  exact ⟨after, written, readText_eq_ok_iff.mpr ⟨_, here, textOf_encodeUtf8 noReturn⟩, elsewhere⟩

end FileTree
end DirectiveLint
