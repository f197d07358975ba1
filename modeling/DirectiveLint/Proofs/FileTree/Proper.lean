import DirectiveLint.FileTree.Sources
import DirectiveLint.Proofs.FileTree.Path
import DirectiveLint.Proofs.Table

/-!
# Proper trees

The entries of a directory are looked up by their names, so a tree in which a
directory holds two entries under one name has files that no path leads to.  In
a proper tree the names in every directory are different, and each source file
that is found can be read at its path.

The empty tree is proper, and making directories and writing files at paths of
names keeps a tree proper.
-/

namespace DirectiveLint
namespace FileTree

/-- A tree in which each directory holds entries under different names. -/
inductive Proper : FileTree → Prop
  | file (content : List UInt8) : Proper (.file content)
  | directory {entries : List (String × FileTree)} (distinct : (entries.map Prod.fst).Nodup)
      (named : ∀ entry ∈ entries, FilePath.IsName entry.1)
      (below : ∀ entry ∈ entries, Proper entry.2) : Proper (.directory entries)

/-! ## Entries -/

theorem lookup_putEntry_self (name : String) (child : FileTree)
    (entries : List (String × FileTree)) :
    (putEntry name child entries).lookup name = some child := by
  induction entries with
  | nil => simp [putEntry]
  | cons entry rest inductionHypothesis =>
      unfold putEntry
      by_cases same : entry.1 = name
      · simp [same]
      · have past : (name == entry.1) = false := beq_eq_false_iff_ne.mpr (Ne.symm same)
        rw [if_neg (by simpa using same), List.lookup_cons, past]
        exact inductionHypothesis

theorem lookup_putEntry_of_ne {name other : String} (different : other ≠ name)
    (child : FileTree) (entries : List (String × FileTree)) :
    (putEntry name child entries).lookup other = entries.lookup other := by
  induction entries with
  | nil => simp [putEntry, different]
  | cons entry rest inductionHypothesis =>
      unfold putEntry
      by_cases same : entry.1 = name
      · have past : (other == name) = false := beq_eq_false_iff_ne.mpr different
        rw [if_pos (by simpa using same), List.lookup_cons, List.lookup_cons, same, past]
      · rw [if_neg (by simpa using same), List.lookup_cons, List.lookup_cons, inductionHypothesis]

/-! ## Reading -/

theorem read_eq_ok_iff {path : FilePath} {tree : FileTree} {bytes : List UInt8} :
    tree.read path = .ok bytes ↔ tree.find? path = some (.file bytes) := by
  unfold read
  cases tree.find? path with
  | none => simp
  | some found =>
      cases found with
      | file content => simp
      | directory entries => simp

theorem read_cons (name : String) (rest : FilePath) (entries : List (String × FileTree)) :
    (directory entries).read (name :: rest) =
      (entries.lookup name).elim (.error .missing) fun child => child.read rest := by
  unfold read
  rw [find?]
  cases entries.lookup name with
  | none => rfl
  | some child => rfl

theorem find?_append (path rest : FilePath) (tree : FileTree) :
    tree.find? (path ++ rest) = (tree.find? path).bind fun found => found.find? rest := by
  induction path generalizing tree with
  | nil => rfl
  | cons name below inductionHypothesis =>
      cases tree with
      | file content => rfl
      | directory entries =>
          rw [List.cons_append, find?, find?]
          cases entries.lookup name with
          | none => rfl
          | some child => exact inductionHypothesis child

theorem find?_of_lookUp {path : FilePath} {tree : FileTree} {found : Option FileTree}
    (looked : tree.lookUp path = .ok found) : tree.find? path = found := by
  induction path generalizing tree with
  | nil =>
      cases looked
      rfl
  | cons name rest inductionHypothesis =>
      cases tree with
      | file content =>
          cases looked
          rfl
      | directory entries =>
          rw [lookUp] at looked
          rw [find?]
          split at looked
          · cases looked
          · cases entry : entries.lookup name with
            | none =>
                rw [entry] at looked
                cases looked
                rfl
            | some child =>
                rw [entry] at looked
                exact inductionHypothesis looked

theorem find?_of_seek {root : FileTree} {path : FilePath} {found : Option FileTree}
    (sought : root.seek path = .ok found) : root.find? path = found := by
  unfold seek at sought
  split at sought
  · cases sought
  · exact find?_of_lookUp sought

/-- What is in a proper tree is proper, and it is there under names that a directory can hold. -/
theorem Proper.at_path {tree found : FileTree} (proper : tree.Proper) {path : FilePath}
    (isFound : tree.find? path = some found) :
    found.Proper ∧ ∀ name ∈ path, FilePath.IsName name := by
  induction path generalizing tree with
  | nil =>
      cases isFound
      exact ⟨proper, by simp⟩
  | cons name rest inductionHypothesis =>
      cases proper with
      | file content => cases isFound
      | directory distinct named below =>
          rename_i entries
          rw [find?] at isFound
          cases entry : entries.lookup name with
          | none =>
              rw [entry] at isFound
              cases isFound
          | some child =>
              rw [entry] at isFound
              have member := Table.mem_of_lookup entry
              have further := inductionHypothesis (below _ member) isFound
              exact ⟨further.1, List.forall_mem_cons.mpr ⟨named _ member, further.2⟩⟩

theorem mem_filesOfEntries {found : FilePath × List UInt8} {entries : List (String × FileTree)}
    (member : found ∈ filesOfEntries entries) :
    ∃ entry ∈ entries, found ∈ filesOfEntry entry := by
  induction entries with
  | nil => cases member
  | cons entry rest inductionHypothesis =>
      rw [filesOfEntries, List.mem_append] at member
      rcases member with here | further
      · exact ⟨entry, List.mem_cons_self, here⟩
      · rcases inductionHypothesis further with ⟨other, isOther, there⟩
        exact ⟨other, List.mem_cons_of_mem _ isOther, there⟩

/-- Each file of a proper tree is at its path. -/
theorem Proper.find?_of_mem_files {tree : FileTree} (proper : tree.Proper) {path : FilePath}
    {bytes : List UInt8} (member : (path, bytes) ∈ tree.files) :
    tree.find? path = some (.file bytes) := by
  induction proper generalizing path with
  | file content =>
      rw [files, List.mem_singleton] at member
      cases member
      rfl
  | directory distinct named below inductionHypothesis =>
      rename_i entries
      rw [files] at member
      rcases mem_filesOfEntries member with ⟨⟨name, child⟩, isEntry, inEntry⟩
      rw [filesOfEntry, List.mem_map] at inEntry
      rcases inEntry with ⟨⟨rest, content⟩, inChild, same⟩
      cases same
      rw [find?, Table.lookup_of_mem distinct isEntry]
      exact inductionHypothesis _ isEntry inChild

/-- The source files at a path of a proper tree can be read at their own paths. -/
theorem Proper.read_of_mem_sourcesAt {root : FileTree} (proper : root.Proper) {path : FilePath}
    {found : List (FilePath × List UInt8)} (sources : root.sourcesAt path = .ok found)
    {source : FilePath × List UInt8} (member : source ∈ found) :
    root.read source.1 = .ok source.2 := by
  rw [read_eq_ok_iff]
  unfold sourcesAt at sources
  cases sought : root.seek path with
  | error fault =>
      rw [sought] at sources
      cases sources
  | ok there =>
      have isThere := find?_of_seek sought
      rw [sought] at sources
      cases there with
      | none => cases sources
      | some tree =>
          cases tree with
          | file content =>
              cases sources
              rw [List.mem_singleton] at member
              rw [member, isThere]
          | directory entries =>
              cases sources
              have within := (proper.at_path isThere).1
              rw [sourcesBelow, List.mem_mergeSort, List.mem_filter, List.mem_map] at member
              rcases member.1 with ⟨⟨rest, bytes⟩, inTree, same⟩
              rw [← same, find?_append, isThere]
              exact within.find?_of_mem_files inTree

/-- The source files that written paths stand for can be read at their own paths. -/
theorem Proper.read_of_mem_sources {root : FileTree} (proper : root.Proper)
    {standpoint : Standpoint} {texts : List String} {found : List (FilePath × List UInt8)}
    (sources : root.sources standpoint texts = .ok found)
    {source : FilePath × List UInt8} (member : source ∈ found) :
    root.read source.1 = .ok source.2 := by
  induction texts generalizing found with
  | nil =>
      cases sources
      cases member
  | cons text rest inductionHypothesis =>
      rw [FileTree.sources] at sources
      cases located : standpoint.locate text with
      | error fault =>
          rw [located] at sources
          cases sources
      | ok path =>
          rw [located] at sources
          cases here : root.sourcesAt path with
          | error fault => simp [here] at sources
          | ok first =>
              cases further : root.sources standpoint rest with
              | error fault => simp [here, further] at sources
              | ok others =>
                  simp only [here, further, Except.ok.injEq] at sources
                  rw [← sources, List.mem_append] at member
                  rcases member with inFirst | inOthers
                  · exact proper.read_of_mem_sourcesAt here inFirst
                  · exact inductionHypothesis further inOthers

/-! ## Changes -/

theorem proper_empty : Proper empty :=
  .directory List.nodup_nil (by simp) (by simp)

theorem mem_putEntry {name : String} {child : FileTree} {entries : List (String × FileTree)}
    {entry : String × FileTree} (member : entry ∈ putEntry name child entries) :
    entry = (name, child) ∨ entry ∈ entries := by
  induction entries with
  | nil => exact Or.inl (List.mem_singleton.mp member)
  | cons first rest inductionHypothesis =>
      unfold putEntry at member
      split at member
      · rcases List.mem_cons.mp member with new | old
        · exact Or.inl new
        · exact Or.inr (List.mem_cons_of_mem _ old)
      · rcases List.mem_cons.mp member with here | later
        · exact Or.inr (here ▸ List.mem_cons_self)
        · rcases inductionHypothesis later with new | old
          · exact Or.inl new
          · exact Or.inr (List.mem_cons_of_mem _ old)

theorem nodup_putEntry (name : String) (child : FileTree) {entries : List (String × FileTree)}
    (distinct : (entries.map Prod.fst).Nodup) :
    ((putEntry name child entries).map Prod.fst).Nodup := by
  induction entries with
  | nil => simp [putEntry]
  | cons first rest inductionHypothesis =>
      unfold putEntry
      split
      · next same =>
          rwa [List.map_cons, ← beq_iff_eq.mp same]
      · next different =>
          rw [List.map_cons, List.nodup_cons] at distinct ⊢
          refine ⟨fun listed => ?_, inductionHypothesis distinct.2⟩
          rcases List.mem_map.mp listed with ⟨entry, member, same⟩
          rcases mem_putEntry member with rfl | old
          · exact different (beq_iff_eq.mpr same.symm)
          · exact distinct.1 (List.mem_map.mpr ⟨entry, old, same⟩)

/-- A proper tree under a name can be put into a proper directory. -/
theorem Proper.putEntry {entries : List (String × FileTree)}
    (proper : (FileTree.directory entries).Proper) {name : String} (isName : FilePath.IsName name)
    {child : FileTree} (below : child.Proper) :
    (FileTree.directory (FileTree.putEntry name child entries)).Proper := by
  cases proper with
  | directory distinct named proper =>
      refine .directory (nodup_putEntry name child distinct) ?_ ?_
      · intro entry member
        rcases mem_putEntry member with rfl | old
        · exact isName
        · exact named entry old
      · intro entry member
        rcases mem_putEntry member with rfl | old
        · exact below
        · exact proper entry old

theorem Proper.entry {entries : List (String × FileTree)}
    (proper : (FileTree.directory entries).Proper) {name : String} {child : FileTree}
    (found : entries.lookup name = some child) :
    child.Proper := by
  cases proper with
  | directory distinct named below => exact below _ (Table.mem_of_lookup found)

/-- Making a directory keeps a tree proper. -/
theorem Proper.makeDirectory {path : FilePath} (named : ∀ name ∈ path, FilePath.IsName name)
    {tree after : FileTree} (proper : tree.Proper) (made : tree.makeDirectory path = .ok after) :
    after.Proper := by
  induction path generalizing tree after with
  | nil =>
      cases tree with
      | file content => cases made
      | directory entries =>
          cases made
          exact proper
  | cons name rest inductionHypothesis =>
      cases tree with
      | file content => cases made
      | directory entries =>
          rw [List.forall_mem_cons] at named
          rw [FileTree.makeDirectory] at made
          split at made
          · cases made
          · split at made
            · next child below =>
                cases made
                refine proper.putEntry named.1 (inductionHypothesis named.2 ?_ below)
                cases entry : entries.lookup name with
                | none => exact proper_empty
                | some old => exact proper.entry entry
            · cases made

/-- Writing a file keeps a tree proper. -/
theorem Proper.write {content : List UInt8} {path : FilePath}
    (named : ∀ name ∈ path, FilePath.IsName name) {tree after : FileTree} (proper : tree.Proper)
    (written : tree.write content path = .ok after) : after.Proper := by
  induction path generalizing tree after with
  | nil =>
      cases tree with
      | file old =>
          cases written
          exact .file content
      | directory entries => cases written
  | cons name rest inductionHypothesis =>
      cases tree with
      | file old => cases written
      | directory entries =>
          rw [List.forall_mem_cons] at named
          rw [write.eq_def] at written
          dsimp only at written
          split at written
          · cases written
            exact proper.putEntry named.1 (.file content)
          · cases written
          · next child rest' entry =>
              split at written
              · next below =>
                  cases written
                  exact proper.putEntry named.1
                    (inductionHypothesis named.2 (proper.entry entry) below)
              · cases written

/-- Writing a file after making its directory keeps a tree proper. -/
theorem Proper.create {content : List UInt8} {path : FilePath}
    (named : ∀ name ∈ path, FilePath.IsName name) {tree after : FileTree} (proper : tree.Proper)
    (created : tree.create content path = .ok after) : after.Proper := by
  have above : ∀ name ∈ path.parent, FilePath.IsName name := fun name member =>
    named name (List.dropLast_subset path member)
  unfold FileTree.create at created
  split at created
  · cases created
  · split at created
    · cases created
    · next middle made =>
        split at created
        · cases created
        · split at created
          · next written =>
              cases created
              exact (proper.makeDirectory above made).write named written
          · cases created

end FileTree
end DirectiveLint
